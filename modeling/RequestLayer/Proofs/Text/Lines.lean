import Mathlib.Data.List.Basic
import Mathlib.Data.List.TakeWhile
import RequestLayer.Text.Blank

set_option autoImplicit false

namespace RequestLayer.Text

def Blanks (text : List Char) : Prop := ∀ c ∈ text, isBlank c = true

structure Trimmed (line core : List Char) : Prop where
  around : ∃ before after, line = before ++ core ++ after ∧ Blanks before ∧ Blanks after
  first : ∀ c, core.head? = some c → isBlank c = false
  last : ∀ c, core.getLast? = some c → isBlank c = false

theorem dropped_first (text : List Char) (c : Char)
    (first : (text.dropWhile isBlank).head? = some c) : isBlank c = false := by
  have stop := List.head?_dropWhile_not isBlank text
  rw [first] at stop
  exact stop

theorem nothing_dropped (text : List Char) (first : ∀ c, text.head? = some c → isBlank c = false) :
    text.dropWhile isBlank = text := by
  cases text with
  | nil => rfl
  | cons c rest => exact List.dropWhile_cons_of_neg (by simp [first c rfl])

theorem trim_surrounded (before core after : List Char) (left : Blanks before)
    (right : Blanks after) (first : ∀ c, core.head? = some c → isBlank c = false)
    (last : ∀ c, core.getLast? = some c → isBlank c = false) :
    trim (before ++ core ++ after) = core := by
  unfold trim
  rw [List.append_assoc, List.dropWhile_append_of_pos left]
  cases core with
  | nil =>
      have gone : after.dropWhile isBlank = [] := List.dropWhile_eq_nil_iff.mpr right
      rw [List.nil_append, gone]
      rfl
  | cons c rest =>
      have backward : ∀ c ∈ after.reverse, isBlank c = true :=
        fun c member => right c (List.mem_reverse.mp member)
      have start : (c :: rest ++ after).dropWhile isBlank = c :: rest ++ after :=
        nothing_dropped _ fun other same => first other same
      have ending : (c :: rest).reverse.dropWhile isBlank = (c :: rest).reverse :=
        nothing_dropped _ fun other same => last other (List.head?_reverse ▸ same)
      rw [start, List.reverse_append, List.dropWhile_append_of_pos backward, ending,
        List.reverse_reverse]

theorem trimmed_trim (line : List Char) : Trimmed line (trim line) := by
  let body := line.dropWhile isBlank
  let after := (body.reverse.takeWhile isBlank).reverse
  have cut : body = trim line ++ after := by
    have whole : body.reverse.takeWhile isBlank ++ body.reverse.dropWhile isBlank = body.reverse :=
      List.takeWhile_append_dropWhile
    have reversed := congrArg List.reverse whole
    rw [List.reverse_append, List.reverse_reverse] at reversed
    exact reversed.symm
  constructor
  case around =>
    refine ⟨line.takeWhile isBlank, after, ?_, fun c member => ?_, fun c member => ?_⟩
    · rw [List.append_assoc, ← cut]
      exact List.takeWhile_append_dropWhile.symm
    · exact List.mem_takeWhile_imp member
    · exact List.mem_takeWhile_imp (List.mem_reverse.mp member)
  case first =>
    intro c first
    apply dropped_first line c
    change body.head? = some c
    rw [cut, List.head?_append, first]
    rfl
  case last =>
    intro c last
    apply dropped_first body.reverse c
    rw [← List.getLast?_reverse]
    exact last

theorem trim_iff (line core : List Char) : trim line = core ↔ Trimmed line core := by
  constructor
  · rintro rfl
    exact trimmed_trim line
  · intro trimmed
    obtain ⟨before, after, rfl, left, right⟩ := trimmed.around
    exact trim_surrounded before core after left right trimmed.first trimmed.last

theorem trim_blanks (line : List Char) (blanks : Blanks line) : trim line = [] := by
  have around := trim_surrounded line [] [] blanks nofun nofun nofun
  rwa [List.append_nil, List.append_nil] at around

theorem trim_after (before line : List Char) (left : Blanks before) :
    trim (before ++ line) = trim line := by
  unfold trim
  rw [List.dropWhile_append_of_pos left]

theorem trim_before (line after : List Char) (right : Blanks after) :
    trim (line ++ after) = trim line := by
  obtain ⟨before, more, around, left, others⟩ := (trimmed_trim line).around
  refine (trim_iff _ _).mpr ⟨⟨before, more ++ after, ?_, left, ?_⟩, (trimmed_trim line).first,
    (trimmed_trim line).last⟩
  · rw [← List.append_assoc, ← around]
  · exact List.forall_mem_append.mpr ⟨others, right⟩

theorem trim_first (c : Char) (rest : List Char) (solid : isBlank c = false) :
    (trim (c :: rest)).head? = some c := by
  obtain ⟨before, after, around, left, right⟩ := (trimmed_trim (c :: rest)).around
  have inside (blanks : List Char) (all : Blanks blanks) (others : List Char) :
      c :: rest = blanks ++ others → blanks = [] := by
    intro same
    cases blanks with
    | nil => rfl
    | cons first more =>
        have blank := all first List.mem_cons_self
        rw [← (List.cons.inj same).1, solid] at blank
        cases blank
  have none := inside before left _ (by rw [around, List.append_assoc])
  rw [none, List.nil_append] at around
  cases core : trim (c :: rest) with
  | nil =>
      rw [core, List.nil_append] at around
      have gone := inside after right [] (by rw [← around, List.append_nil])
      rw [gone] at around
      cases around
  | cons first more =>
      rw [core] at around
      rw [List.head?_cons, ← (List.cons.inj around).1]

def withoutReturn (line : List Char) : List Char :=
  if line.getLast? = some '\r' then line.dropLast else line

-- What stands between line feeds. Nothing after the last one is no piece.
def pieces (text : List Char) : List (List Char) :=
  let parts := text.splitOn '\n'
  if parts.getLast? = some [] then parts.dropLast else parts

def rows (text : List Char) : List (List Char) := (pieces text).map withoutReturn

theorem lines_induction {motive : List Char → Prop} (none : motive [])
    (last : ∀ line, line ≠ [] → '\n' ∉ line → motive line)
    (more : ∀ line rest, '\n' ∉ line → motive rest → motive (line ++ '\n' :: rest))
    (text : List Char) : motive text := by
  induction length : text.length using Nat.strongRecOn generalizing text with
  | ind size ih =>
      by_cases broken : '\n' ∈ text
      · obtain ⟨line, rest, rfl, unbroken⟩ := List.eq_append_cons_of_mem broken
        apply more line rest unbroken
        apply ih rest.length _ rest rfl
        simp at length
        omega
      · by_cases empty : text = []
        · rw [empty]
          exact none
        · exact last text empty broken

theorem feed_unequal (line : List Char) (unbroken : '\n' ∉ line) :
    ∀ c ∈ line, decide (c ≠ '\n') = true :=
  fun _ member => decide_eq_true fun same => unbroken (same ▸ member)

theorem lines_last (line : List Char) (some : line ≠ []) (unbroken : '\n' ∉ line) :
    lines line = [line] := by
  have whole : line.takeWhile (· ≠ '\n') = line :=
    List.takeWhile_eq_self_iff.mpr (feed_unequal line unbroken)
  rw [lines, if_neg some]
  simp only [whole]
  rw [List.drop_eq_nil_of_le (Nat.le_succ _), lines, if_pos rfl]

theorem lines_more (line rest : List Char) (unbroken : '\n' ∉ line) :
    lines (line ++ '\n' :: rest) = line :: lines rest := by
  have whole : (line ++ '\n' :: rest).takeWhile (· ≠ '\n') = line := by
    rw [List.takeWhile_append_of_pos (feed_unequal line unbroken)]
    simp
  rw [lines, if_neg (by simp)]
  simp only [whole]
  rw [List.drop_length_add_append]
  rfl

theorem pieces_lines (text : List Char) : pieces text = lines text := by
  have plain (line : List Char) (unbroken : '\n' ∉ line) : ∀ c ∈ line, (c == '\n') = false :=
    fun c member => beq_eq_false_iff_ne.mpr fun same => unbroken (same ▸ member)
  induction text using lines_induction with
  | none =>
      rw [lines, if_pos rfl]
      rfl
  | last line some unbroken =>
      rw [lines_last line some unbroken, pieces, List.splitOn_eq_splitOnP,
        List.splitOnP_eq_singleton (plain line unbroken)]
      simp [some]
  | more line rest unbroken ih =>
      rw [lines_more line rest unbroken, ← ih, pieces, List.splitOn_eq_splitOnP,
        List.splitOnP_append_cons_of_forall_mem (plain line unbroken) '\n' rfl,
        ← List.splitOn_eq_splitOnP, pieces]
      obtain ⟨first, others, parts⟩ := List.exists_cons_of_ne_nil (List.splitOn_ne_nil '\n' rest)
      simp only [parts, List.getLast?_cons_cons, List.dropLast_cons_cons]
      split <;> rfl

theorem return_blank : Blanks ['\r'] := List.forall_mem_singleton.mpr rfl

theorem trim_without_return (line : List Char) : trim (withoutReturn line) = trim line := by
  unfold withoutReturn
  split
  case isTrue returned =>
    have whole := List.dropLast_append_getLast? '\r' returned
    rw [← trim_before line.dropLast ['\r'] return_blank, whole]
  case isFalse => rfl

end RequestLayer.Text
