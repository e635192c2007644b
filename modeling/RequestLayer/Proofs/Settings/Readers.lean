import RequestLayer.Proofs.Json.Numerals
import RequestLayer.Proofs.Json.Readers
import RequestLayer.Settings.Reader

set_option autoImplicit false

namespace RequestLayer.Json

def bool? : Json → Option Bool
  | .bool value => some value
  | _ => none

def below? (limit : Nat) : Json → Option Nat
  | .number (.integer value) => if 0 ≤ value ∧ value < limit then some value.toNat else none
  | _ => none

variable {α ρ : Type}

def nullable? (decode : Json → Option α) : Json → Option (Option α)
  | .null => some none
  | value => (decode value).map some

def texts? : Json → Option (List String)
  | .array items => items.mapM string?
  | _ => none

def named? (known : List (String × α)) : Json → Option α
  | .string name => known.lookup name
  | .object ((name, value) :: others) =>
      (known.lookup name).bind fun found =>
        if value.isNull then if others.isEmpty then some found else none else none
  | _ => none

def withField? (names : List String) (set : ρ → String → Json → Option ρ)
    (state : ρ × List String) (field : String × Json) : Option (ρ × List String) :=
  if field.1 ∈ names ∧ field.1 ∉ state.2 then
    (set state.1 field.1 field.2).map fun record => (record, field.1 :: state.2)
  else none

def items? (set : ρ → String → Json → Option ρ) : List String → List Json → ρ → Option ρ
  | _, [], record => some record
  | [], _ :: _, _ => none
  | name :: names, item :: items, record => (set record name item).bind (items? set names items)

def record? (names : List String) (set : ρ → String → Json → Option ρ) (start : ρ) :
    Json → Option ρ
  | .object fields => (fields.foldlM (withField? names set) (start, [])).map Prod.fst
  | .array items => items? set names items start
  | _ => none

namespace Reader

variable {more : List (List Char)} {text place : List Char}

theorem mismatched_fails (expected : String) (text : List Char) :
    ∃ fault, (mismatched expected : Reader α) text = .error fault := by
  unfold mismatched
  split
  · exact ⟨_, rfl⟩
  · exact ⟨_, rfl⟩
  · cases value 0 text with
    | error fault => exact ⟨fault, rfl⟩
    | ok found => exact ⟨_, rfl⟩

theorem at_value_reads (reader : Reader α) (decode : Json → Option α)
    (each : ∀ value more place, Settled place → Follows more →
      Spaced (value.parts ++ more) place → Gives (reader place) (decode value) more) :
    Reads (atValue reader) decode := by
  intro value more text follows spaced
  obtain ⟨c, rest, skipped, settled, spaced⟩ := skip_value value spaced
  unfold atValue
  rw [skipped]
  exact each value more _ settled follows spaced

theorem boolean_reads : Reads boolean bool? := by
  refine at_value_reads _ _ fun value more place settled follows spaced => ?_
  cases value with
  | bool value =>
      obtain ⟨rest, rfl, after⟩ := scalar_place (.bool value) rfl settled spaced
      cases value with
      | false => exact gives_map _ (fun _ => false) (some ()) ⟨rest, word_reads _ rest, after⟩
      | true => exact gives_map _ (fun _ => true) (some ()) ⟨rest, word_reads _ rest, after⟩
  | _ =>
      obtain ⟨c, rest, rfl, opens⟩ := value_place _ settled spaced
      dsimp only
      split
      · rename_i same
        exact absurd same (opens_other opens nofun)
      · rename_i same
        exact absurd same (opens_other opens nofun)
      · exact mismatched_fails _ _

theorem text_reads : Reads Reader.text string? := by
  refine at_value_reads _ _ fun value more place settled follows spaced => ?_
  cases value with
  | string value =>
      obtain ⟨rest, rfl, after⟩ := scalar_place (.string value) rfl settled spaced
      exact ⟨rest, string_reads value rest, after⟩
  | _ =>
      obtain ⟨c, rest, rfl, opens⟩ := value_place _ settled spaced
      split
      · rename_i same
        exact absurd same (opens_other opens nofun)
      · exact mismatched_fails _ _

theorem below_iff (limit amount : Nat) (written : Number) :
    below? limit (.number written) = some amount ↔
      written = .integer amount ∧ amount < limit := by
  cases written with
  | fraction value => exact ⟨nofun, fun ⟨same, _⟩ => nomatch same⟩
  | integer value =>
      rw [Number.integer.injEq]
      change (if 0 ≤ value ∧ value < limit then some value.toNat else none) = some amount ↔ _
      split
      · rw [Option.some.injEq]
        omega
      · refine ⟨nofun, ?_⟩
        omega

theorem natural_reads (limit : Nat) (expected : String) (bounded : limit ≤ Nat.pow 2 64) :
    Reads (natural limit expected) (below? limit) := by
  refine at_value_reads _ _ fun value more place settled follows spaced => ?_
  cases value with
  | number written =>
      obtain ⟨c, tail, same, opens⟩ := value_place _ settled spaced
      obtain ⟨rest, text, after⟩ := scalar_place (.number written) rfl settled spaced
      have stops := spaced_stops follows after
      subst same
      dsimp only
      rw [if_pos ((opening_number c).mpr opens), text]
      cases found : below? limit (.number written) with
      | some amount =>
          obtain ⟨rfl, small⟩ := (below_iff limit amount written).mp found
          refine ⟨rest, ?_, after⟩
          refine (bind_ok _ _ _).mpr ⟨_, number_reads amount (by omega) stops, ?_⟩
          exact if_pos ⟨by omega, by omega⟩
      | none =>
          cases read : number ((Json.number written).text ++ rest) with
          | error fault => exact ⟨fault, rfl⟩
          | ok found =>
              obtain ⟨number, left⟩ := found
              cases number with
              | fraction value => exact ⟨_, rfl⟩
              | integer value =>
                  obtain ⟨rfl, rfl⟩ := number_exact written left value stops read
                  have beyond : ¬ (0 ≤ value ∧ value < limit) := fun fits =>
                    nomatch (if_pos fits).symm.trans found
                  exact ⟨_, if_neg beyond⟩
  | _ =>
      obtain ⟨c, rest, rfl, opens⟩ := value_place _ settled spaced
      have other : ¬ (c = '-' ∨ c.isDigit = true) := by
        intro number
        rw [opening_number, opens] at number
        cases number
      dsimp only
      rw [if_neg other]
      exact mismatched_fails _ _

theorem optional_reads (reader : Reader α) (decode : Json → Option α)
    (reads : Reads reader decode) : Reads (optional reader) (nullable? decode) := by
  refine at_value_reads _ _ fun value more place settled follows spaced => ?_
  cases value with
  | null =>
      obtain ⟨rest, rfl, after⟩ := scalar_place .null rfl settled spaced
      exact gives_map _ (fun _ => none) (some ()) ⟨rest, word_reads _ rest, after⟩
  | _ =>
      have given := reads _ more place follows spaced
      obtain ⟨c, rest, rfl, opens⟩ := value_place _ settled spaced
      split
      · rename_i same
        exact absurd same (opens_other opens nofun)
      · exact gives_map _ some _ given

theorem unit_reads : Reads unit fun value => if value.isNull then some () else none := by
  refine at_value_reads _ _ fun value more place settled follows spaced => ?_
  cases value with
  | null =>
      obtain ⟨rest, rfl, after⟩ := scalar_place .null rfl settled spaced
      exact ⟨rest, word_reads _ rest, after⟩
  | _ =>
      obtain ⟨c, rest, rfl, opens⟩ := value_place _ settled spaced
      split
      · rename_i same
        exact absurd same (opens_other opens nofun)
      · exact mismatched_fails _ _

theorem texts_gathered (items : List Json) (done : List String) :
    (items.foldlM (fun done item => (string? item).map (· :: done)) done).map List.reverse =
      (items.mapM string?).map (done.reverse ++ ·) := by
  induction items generalizing done with
  | nil => simp
  | cons item rest ih =>
      rw [List.foldlM_cons, List.mapM_cons]
      cases string? item with
      | none => rfl
      | some found =>
          have gathered := ih (found :: done)
          cases others : rest.mapM string? with
          | none =>
              rw [others] at gathered
              exact gathered
          | some others =>
              rw [others] at gathered
              simpa using gathered

theorem texts_reads : Reads texts texts? := by
  refine at_value_reads _ _ fun value more place settled follows spaced => ?_
  cases value with
  | array items =>
      obtain ⟨rest, rfl, listed⟩ := array_place items settled spaced
      have steps : Steps (fun (done : List String) place =>
          (Reader.text place).bind fun read => .ok (read.1 :: done, read.2)) Json.parts
          fun done item => (string? item).map (· :: done) := by
        intro done item more place _ follows spaced
        exact gives_map _ (· :: done) _ (text_reads item more place follows spaced)
      have gathered := texts_gathered items []
      have given := gives_map _ List.reverse _
        (sequence_gives values_listable _ _ steps items [] listed)
      simp only [gathered, List.reverse_nil, List.nil_append, Option.map_id'] at given
      exact given
  | _ =>
      obtain ⟨c, rest, rfl, opens⟩ := value_place _ settled spaced
      split
      · rename_i same
        exact absurd same (opens_other opens nofun)
      · exact mismatched_fails _ _

theorem variant_gives (known : List (String × α)) (name : String) (rest : List Char)
    (spaced : Spaced more rest) :
    Gives ((variant known name).bind fun found => .ok (found, rest)) (known.lookup name) more := by
  unfold variant
  cases known.lookup name with
  | none => exact ⟨_, rfl⟩
  | some value => exact ⟨rest, rfl, spaced⟩

def choiceKey : Reader String := atValue fun place =>
  match place with
  | '"' :: rest => string rest
  | _ => .error .malformed

theorem choice_key_reads (name : String) (spaced : Spaced (stringText name :: more) text) :
    ∃ rest, choiceKey text = .ok (name, rest) ∧ Spaced more rest := by
  obtain ⟨rest, skipped, after⟩ := skip_spaced '"' _ rfl spaced
  unfold choiceKey atValue
  rw [skipped]
  exact ⟨rest, string_reads name rest, after⟩

theorem choice_key_missing (spaced : Spaced (['\x7d'] :: more) text) :
    choiceKey text = .error .malformed := by
  obtain ⟨rest, skipped, _⟩ := skip_spaced '\x7d' [] rfl spaced
  unfold choiceKey atValue
  rw [skipped]
  rfl

def closed (found : α) : Reader α := fun text =>
  match skipBlanks text with
  | [] => .error .truncated
  | '\x7d' :: rest => .ok (found, rest)
  | _ => .error .malformed

theorem closed_gives (found : α) (others : Fields)
    (spaced : Spaced (listParts fieldParts false others ++ ['\x7d'] :: more) text) :
    Gives (closed found text) (if others.isEmpty then some found else none) more := by
  unfold closed
  cases others with
  | nil =>
      obtain ⟨rest, skipped, after⟩ := skip_spaced '\x7d' [] rfl spaced
      rw [skipped]
      exact ⟨rest, rfl, after⟩
  | cons field others =>
      obtain ⟨rest, skipped, _⟩ := skip_spaced ',' [] rfl spaced
      rw [skipped]
      exact ⟨_, rfl⟩

theorem choice_reads (known : List (String × α)) : Reads (choice known) (named? known) := by
  refine at_value_reads _ _ fun value more place settled follows spaced => ?_
  cases value with
  | string name =>
      obtain ⟨rest, rfl, after⟩ := scalar_place (.string name) rfl settled spaced
      exact gives_bind _ _ (some name) (known.lookup ·) ⟨rest, string_reads name rest, after⟩
        fun name rest _ after => variant_gives known name rest after
  | object fields =>
      obtain ⟨rest, rfl, listed⟩ := object_place fields settled spaced
      cases fields with
      | nil =>
          change Gives ((choiceKey rest).bind _) none more
          rw [choice_key_missing listed]
          exact ⟨_, rfl⟩
      | cons field others =>
          obtain ⟨name, value⟩ := field
          obtain ⟨left, named, written⟩ := choice_key_reads name listed
          change Gives ((choiceKey rest).bind _) _ more
          rw [named]
          change Gives ((variant known name).bind fun found => (colon left).bind fun read =>
            (unit read.2).bind fun read => closed found read.2) ((known.lookup name).bind _) more
          obtain ⟨between, marked, written⟩ := colon_reads written
          rw [marked]
          unfold variant
          cases known.lookup name with
          | none => exact ⟨_, rfl⟩
          | some found =>
              have written : Spaced (value.parts ++
                  (listParts fieldParts false others ++ ['\x7d'] :: more)) between := by
                rw [← List.append_assoc]
                exact written
              have given := unit_reads value _ between (list_follows fields_listable others more)
                written
              have both : (if value.isNull then if others.isEmpty then some found else none
                  else none) = (if value.isNull then some () else none).bind fun _ =>
                    if others.isEmpty then some found else none := by
                split
                · rfl
                · rfl
              change Gives ((unit between).bind fun read => closed found read.2)
                (if _ then _ else _) more
              rw [both]
              exact gives_bind _ _ _ _ given fun _ rest _ after => closed_gives found others after
  | _ =>
      obtain ⟨c, rest, rfl, opens⟩ := value_place _ settled spaced
      split
      · rename_i same
        exact absurd same (opens_other opens nofun)
      · rename_i same
        exact absurd same (opens_other opens nofun)
      · exact ⟨_, rfl⟩

theorem field_reads (name : String) (reader : Reader α) (decode : Json → Option α)
    (change : ρ → α → ρ) (reads : Reads reader decode) (record : ρ) :
    Reads ((Field.of name reader change).read record)
      fun value => (decode value).map (change record) :=
  fun value more text follows spaced =>
    gives_map _ (change record) _ (reads value more text follows spaced)

section

variable (fields : List (Field ρ)) (set : ρ → String → Json → Option ρ)

theorem member_steps (reads : ∀ field ∈ fields, ∀ record,
    Reads (field.read record) (set record field.name)) :
    Steps (member fields) fieldParts (withField? (fields.map Field.name) set) := by
  rintro ⟨record, seen⟩ ⟨name, value⟩ more place settled follows spaced
  obtain ⟨left, rfl, written⟩ := settled_token '"' _ rfl settled spaced
  have named : key (stringText name ++ left) = .ok (name, left) := string_reads name left
  obtain ⟨between, marked, written⟩ := colon_reads written
  change Gives ((key (stringText name ++ left)).bind _) _ more
  rw [named]
  dsimp only [Except.bind]
  cases declared : fields.find? (·.name == name) with
  | none =>
      have absent : name ∉ fields.map Field.name := by
        intro member
        obtain ⟨field, member, same⟩ := List.mem_map.mp member
        exact List.find?_eq_none.mp declared field member (beq_iff_eq.mpr same)
      rw [withField?, if_neg fun fits => absent fits.1]
      exact ⟨_, rfl⟩
  | some field =>
      have member := List.mem_of_find?_eq_some declared
      have same := List.find?_some declared
      obtain rfl := beq_iff_eq.mp same
      dsimp only
      by_cases repeated : field.name ∈ seen
      · rw [if_pos repeated, withField?, if_neg fun fits => fits.2 repeated]
        exact ⟨_, rfl⟩
      · rw [if_neg repeated, withField?, if_pos ⟨List.mem_map_of_mem member, repeated⟩, marked]
        exact gives_map _ (fun record => (record, field.name :: seen)) _
          (reads field member record value more between follows written)

theorem item_waits (first : Bool) (item : Json) (items : List Json)
    (spaced : Spaced (listParts Json.parts first (item :: items) ++ more) text) :
    ∃ c rest, skipBlanks text = c :: rest ∧ c ≠ ']' := by
  cases first with
  | true =>
      obtain ⟨c, chars, others, tokens, solid, other⟩ := values_listable.opens item
      rw [listParts, tokens] at spaced
      obtain ⟨rest, skipped, _⟩ := skip_spaced c chars solid spaced
      exact ⟨c, _, skipped, other⟩
  | false =>
      obtain ⟨rest, skipped, _⟩ := skip_spaced ',' [] rfl spaced
      exact ⟨',', _, skipped, by decide⟩

theorem positional_gives (reads : ∀ field ∈ fields, ∀ record,
    Reads (field.read record) (set record field.name)) (first : Bool) (items : List Json)
    (record : ρ) (text : List Char)
    (spaced : Spaced (listParts Json.parts first items ++ [']'] :: more) text) :
    Gives (positional fields first record text) (items? set (fields.map Field.name) items record)
      more := by
  induction fields generalizing first items record text with
  | nil =>
      unfold positional
      cases items with
      | nil =>
          obtain ⟨after, skipped, spaced⟩ := skip_spaced ']' [] rfl spaced
          rw [skipped]
          exact ⟨after, rfl, spaced⟩
      | cons item items =>
          obtain ⟨c, tail, skipped, other⟩ := item_waits first item items spaced
          rw [skipped]
          split
          · exact ⟨_, rfl⟩
          · rename_i same
            exact absurd (List.cons.inj same).1 other
          · exact ⟨_, rfl⟩
  | cons field others ih =>
      have rest : ∀ field ∈ others, ∀ record, Reads (field.read record) (set record field.name) :=
        fun field member => reads field (List.mem_cons_of_mem _ member)
      cases items with
      | nil =>
          obtain ⟨after, next, spaced⟩ := next_close values_listable first spaced
          refine ⟨after, ?_, spaced⟩
          rw [positional, next]
          rfl
      | cons item items =>
          obtain ⟨place, next, _, spaced⟩ := next_item values_listable first item items spaced
          have follows := list_follows values_listable items more
          rw [positional, next]
          exact gives_bind _ _ (set record field.name item) _
            (reads field List.mem_cons_self record item _ place follows spaced)
            fun record after _ spaced => ih rest false items record after spaced

theorem structured_reads (name : String) (start : ρ) (reads : ∀ field ∈ fields, ∀ record,
    Reads (field.read record) (set record field.name)) :
    Reads (structured name fields start) (record? (fields.map Field.name) set start) := by
  refine at_value_reads _ _ fun value more place settled follows spaced => ?_
  cases value with
  | object written =>
      obtain ⟨rest, rfl, listed⟩ := object_place written settled spaced
      exact gives_map _ Prod.fst _
        (sequence_gives fields_listable _ _ (member_steps fields set reads) written _ listed)
  | array items =>
      obtain ⟨rest, rfl, listed⟩ := array_place items settled spaced
      exact positional_gives fields set reads true items start rest listed
  | _ =>
      obtain ⟨c, rest, rfl, opens⟩ := value_place _ settled spaced
      split
      · rename_i same
        exact absurd same (opens_other opens nofun)
      · rename_i same
        exact absurd same (opens_other opens nofun)
      · exact mismatched_fails _ _

end

end Reader

end RequestLayer.Json
