import RequestLayer.Proofs.Json.Numerals
import RequestLayer.Proofs.Json.Readers

set_option autoImplicit false

namespace RequestLayer.Json

-- A value that its texts write exactly, with at most so many levels of arrays and objects.
inductive Legible : Nat → Json → Prop
  | null (depth : Nat) : Legible depth .null
  | bool (depth : Nat) (value : Bool) : Legible depth (.bool value)
  | string (depth : Nat) (value : String) : Legible depth (.string value)
  | integer (depth : Nat) (value : Int) (least : -Nat.pow 2 63 ≤ value)
      (below : value < Nat.pow 2 64) : Legible depth (.number (.integer value))
  | fraction (depth : Nat) (value : Binary64)
      (read : Reader.number (Number.fraction value).text = .ok (.fraction value, [])) :
      Legible depth (.number (.fraction value))
  | array (depth : Nat) (items : List Json) (each : ∀ item ∈ items, Legible depth item) :
      Legible (depth + 1) (.array items)
  | object (depth : Nat) (fields : Fields)
      (ordered : fields.Pairwise fun one other => one.1 < other.1)
      (each : ∀ field ∈ fields, Legible depth field.2) : Legible (depth + 1) (.object fields)

namespace Reader

theorem insert_last (key : String) (value : Json) (fields : Fields)
    (greatest : ∀ field ∈ fields, field.1 < key) :
    Fields.insert key value fields = fields ++ [(key, value)] := by
  induction fields with
  | nil => rfl
  | cons field rest ih =>
      have less := greatest field List.mem_cons_self
      have other : key ≠ field.1 := by
        rintro rfl
        exact String.lt_irrefl _ less
      rw [Fields.insert, if_neg other, if_neg (String.lt_asymm less),
        ih fun field member => greatest field (List.mem_cons_of_mem _ member)]
      rfl

theorem insert_ordered (fields done : Fields)
    (ordered : (done ++ fields).Pairwise fun one other => one.1 < other.1) :
    fields.foldl (fun done field => Fields.insert field.1 field.2 done) done = done ++ fields := by
  induction fields generalizing done with
  | nil => exact (List.append_nil done).symm
  | cons field rest ih =>
      have less : ∀ earlier ∈ done, earlier.1 < field.1 := fun earlier member =>
        (List.pairwise_append.mp ordered).2.2 earlier member field List.mem_cons_self
      rw [List.append_cons] at ordered ⊢
      rw [List.foldl_cons, insert_last _ _ _ less]
      exact ih _ ordered

variable {more : List (List Char)} {text place : List Char}

def Finds (reader : Reader Json) (value : Json) : Prop :=
  ∀ more text, Follows more → Spaced (value.parts ++ more) text →
    Gives (reader text) (some value) more

theorem finds_placed (reader : Reader Json) (value : Json)
    (each : ∀ more text place, skipBlanks text = place → Settled place → Follows more →
      Spaced (value.parts ++ more) place → Gives (reader text) (some value) more) :
    Finds reader value := by
  intro more text follows spaced
  obtain ⟨c, rest, skipped, settled, spaced⟩ := skip_value value spaced
  exact each more text _ skipped settled follows spaced

def itemBefore (reader : Reader Json) (done : List Json) : Reader (List Json) := fun text =>
  (reader text).bind fun read => .ok (read.1 :: done, read.2)

def fieldAmong (reader : Reader Json) (done : Fields) : Reader Fields := fun text =>
  (key text).bind fun named => (colon named.2).bind fun marked =>
    (reader marked.2).bind fun read => .ok (Fields.insert named.1 read.1 done, read.2)

theorem field_gives (reader : Reader Json) (field : String × Json) (finds : Finds reader field.2)
    (done : Fields) (settled : Settled place) (follows : Follows more)
    (spaced : Spaced (fieldParts field ++ more) place) :
    Gives (fieldAmong reader done place) (some (Fields.insert field.1 field.2 done)) more := by
  obtain ⟨name, value⟩ := field
  obtain ⟨left, rfl, written⟩ := settled_token '"' _ rfl settled spaced
  have named : key (stringText name ++ left) = .ok (name, left) := string_reads name left
  obtain ⟨between, marked, written⟩ := colon_reads written
  change Gives ((key (stringText name ++ left)).bind _) _ more
  rw [named]
  change Gives ((colon left).bind _) _ more
  rw [marked]
  exact gives_map _ (fun value => Fields.insert name value done) _
    (finds more between follows written)

theorem number_reached (depth : Nat) (written : Number) (rest : List Char)
    (skipped : skipBlanks text = written.text ++ rest) :
    value depth text = (number (written.text ++ rest)).bind fun read =>
      .ok (.number read.1, read.2) := by
  obtain ⟨c, others, opened, leading⟩ := written.text_leading
  have opens := (opening_number c).mp leading.symm
  unfold value
  rw [skipped, opened, List.cons_append]
  dsimp only
  split
  case h_7 => exact if_pos leading.symm
  all_goals cases opens

-- By induction on how the value is built, with the depth that is left inside its brackets.
theorem value_finds (depth : Nat) (given : Json) (legible : Legible depth given) :
    Finds (value depth) given := by
  induction legible with
  | null depth =>
      refine finds_placed _ _ fun more text place skipped settled _ spaced => ?_
      obtain ⟨rest, rfl, after⟩ := scalar_place .null rfl settled spaced
      unfold value
      rw [skipped]
      exact gives_map (word ['u', 'l', 'l'] _) (fun _ => Json.null) (some ())
        ⟨rest, word_reads _ rest, after⟩
  | bool depth given =>
      refine finds_placed _ _ fun more text place skipped settled _ spaced => ?_
      have scalar : (Json.bool given).parts = [(Json.bool given).text] := by
        cases given <;> rfl
      obtain ⟨rest, rfl, after⟩ := scalar_place (.bool given) scalar settled spaced
      unfold value
      rw [skipped]
      cases given with
      | false =>
          exact gives_map (word ['a', 'l', 's', 'e'] _) (fun _ => Json.bool false) (some ())
            ⟨rest, word_reads _ rest, after⟩
      | true =>
          exact gives_map (word ['r', 'u', 'e'] _) (fun _ => Json.bool true) (some ())
            ⟨rest, word_reads _ rest, after⟩
  | string depth given =>
      refine finds_placed _ _ fun more text place skipped settled _ spaced => ?_
      obtain ⟨rest, rfl, after⟩ := scalar_place (.string given) rfl settled spaced
      unfold value
      rw [skipped]
      exact gives_map (key (stringText given ++ rest)) Json.string (some given)
        ⟨rest, string_reads given rest, after⟩
  | integer depth given least below =>
      refine finds_placed _ _ fun more text place skipped settled follows spaced => ?_
      obtain ⟨rest, rfl, after⟩ := scalar_place (.number (.integer given)) rfl settled spaced
      rw [number_reached depth _ rest skipped]
      exact gives_map _ Json.number (some (.integer given))
        ⟨rest, integer_reads given least below (spaced_stops follows after), after⟩
  | fraction depth given read =>
      refine finds_placed _ _ fun more text place skipped settled follows spaced => ?_
      obtain ⟨rest, rfl, after⟩ := scalar_place (.number (.fraction given)) rfl settled spaced
      rw [number_reached depth _ rest skipped]
      exact gives_map _ Json.number (some (.fraction given))
        ⟨rest, number_extend _ _ read (spaced_stops follows after), after⟩
  | array depth items each ih =>
      refine finds_placed _ _ fun more text place skipped settled _ spaced => ?_
      obtain ⟨rest, rfl, listed⟩ := array_place items settled spaced
      have given := sequence_folds values_listable (itemBefore (value depth))
        (fun done item => item :: done) items
        (fun item member done more place _ follows spaced =>
          gives_map _ (· :: done) _ (ih item member more place follows spaced)) [] listed
      rw [List.foldl_flip_cons_eq_append', List.append_nil] at given
      have whole := gives_map _ (fun items => Json.array items.reverse) _ given
      rw [Option.map_some, List.reverse_reverse] at whole
      unfold value
      rw [skipped]
      exact whole
  | object depth fields ordered each ih =>
      refine finds_placed _ _ fun more text place skipped settled _ spaced => ?_
      obtain ⟨rest, rfl, listed⟩ := object_place fields settled spaced
      have given := sequence_folds fields_listable (fieldAmong (value depth))
        (fun done field => Fields.insert field.1 field.2 done) fields
        (fun field member done more place settled follows spaced =>
          field_gives _ field (ih field member) done settled follows spaced) [] listed
      rw [insert_ordered fields [] ordered] at given
      unfold value
      rw [skipped]
      exact gives_map _ Json.object _ given

end Reader

theorem legible_reads (value : Json) (legible : Legible Reader.depthLimit value) (text : String)
    (spaced : Spaced value.parts text.toList) : read text = .ok value := by
  have follows : Follows [] := fun _ _ => nofun
  exact Reader.whole_found _ text value
    (Reader.value_finds _ value legible [] _ follows (by rwa [List.append_nil]))

end RequestLayer.Json
