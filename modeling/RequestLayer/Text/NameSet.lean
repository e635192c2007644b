set_option autoImplicit false

namespace RequestLayer

abbrev NameSet := List String

namespace NameSet

def insert (name : String) : NameSet → NameSet
  | [] => [name]
  | other :: rest =>
      if name = other then other :: rest
      else if name < other then name :: other :: rest
      else other :: insert name rest

def erase (names : NameSet) (name : String) : NameSet :=
  names.filter (· ≠ name)

def ofList (names : List String) : NameSet :=
  names.foldl (fun set name => insert name set) []

theorem mem_insert (name other : String) (names : NameSet) :
    other ∈ insert name names ↔ other = name ∨ other ∈ names := by
  induction names with
  | nil => simp [insert]
  | cons first rest ih => grind [insert]

theorem mem_ofList (names : List String) (other : String) :
    other ∈ ofList names ↔ other ∈ names := by
  suffices grown : ∀ set : NameSet, other ∈ names.foldl (fun set name => insert name set) set ↔
      other ∈ set ∨ other ∈ names by simpa [ofList] using grown []
  induction names with
  | nil => simp
  | cons name rest ih =>
      intro set
      simp only [List.foldl_cons, ih, mem_insert, List.mem_cons]
      grind

end NameSet

end RequestLayer
