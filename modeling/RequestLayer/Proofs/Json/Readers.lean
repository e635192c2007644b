import RequestLayer.Proofs.Json.Layout
import RequestLayer.Proofs.Outcomes

set_option autoImplicit false

namespace RequestLayer.Json.Reader

variable {α β ι σ : Type}

-- The value is read and the text goes on with these tokens, or nothing is found and reading fails.
def Gives (result : Except Fault (α × List Char)) (found : Option α)
    (more : List (List Char)) : Prop :=
  match found with
  | some value => ∃ rest, result = .ok (value, rest) ∧ Spaced more rest
  | none => ∃ fault, result = .error fault

-- On every text of a value the reader does what `decode` does on the value.
def Reads (reader : Reader α) (decode : Json → Option α) : Prop :=
  ∀ value more text, Follows more → Spaced (value.parts ++ more) text →
    Gives (reader text) (decode value) more

def Settled (text : List Char) : Prop := skipBlanks text = text

variable {more between : List (List Char)} {text place : List Char}

theorem gives_bind (first : Except Fault (α × List Char))
    (next : α × List Char → Except Fault (β × List Char)) (found : Option α)
    (after : α → Option β) (given : Gives first found between)
    (goes : ∀ value rest, found = some value → Spaced between rest →
      Gives (next (value, rest)) (after value) more) :
    Gives (first.bind next) (found.bind after) more := by
  cases found with
  | none =>
      obtain ⟨fault, rfl⟩ := given
      exact ⟨fault, rfl⟩
  | some value =>
      obtain ⟨rest, rfl, spaced⟩ := given
      exact goes value rest rfl spaced

theorem gives_map (first : Except Fault (α × List Char)) (change : α → β) (found : Option α)
    (given : Gives first found more) :
    Gives (first.bind fun read => .ok (change read.1, read.2)) (found.map change) more := by
  rw [Option.map_eq_bind]
  exact gives_bind first _ found _ given fun value rest _ spaced => ⟨rest, rfl, spaced⟩

theorem settled_solid (c : Char) (rest : List Char) (solid : isBlank c = false) :
    Settled (c :: rest) :=
  skip_solid c rest solid

theorem settled_token (c : Char) (chars : List Char) (solid : isBlank c = false)
    (settled : Settled place) (spaced : Spaced ((c :: chars) :: more) place) :
    ∃ rest, place = c :: (chars ++ rest) ∧ Spaced more rest := by
  obtain ⟨rest, skipped, spaced⟩ := skip_spaced c chars solid spaced
  exact ⟨rest, settled.symm.trans skipped, spaced⟩

def listParts (parts : ι → List (List Char)) : Bool → List ι → List (List Char)
  | _, [] => []
  | true, item :: rest => parts item ++ listParts parts false rest
  | false, item :: rest => [','] :: (parts item ++ listParts parts false rest)

theorem items_parts (items : List Json) : itemsParts items = listParts Json.parts false items := by
  induction items with
  | nil => rfl
  | cons item rest ih => rw [itemsParts, ih, listParts]

theorem fields_parts (fields : Fields) :
    fieldsParts fields = listParts fieldParts false fields := by
  induction fields with
  | nil => rfl
  | cons field rest ih => rw [fieldsParts, ih, listParts]

theorem array_parts (items : List Json) :
    (Json.array items).parts = ['['] :: (listParts Json.parts true items ++ [[']']]) := by
  cases items with
  | nil => rfl
  | cons item rest => rw [parts, items_parts, listParts, List.append_assoc]

theorem object_parts (fields : Fields) :
    (Json.object fields).parts = ['\x7b'] :: (listParts fieldParts true fields ++ [['\x7d']]) := by
  cases fields with
  | nil => rfl
  | cons field rest => rw [parts, fields_parts, listParts, List.append_assoc]

structure Listable (close : Char) (parts : ι → List (List Char)) : Prop where
  closes : close = ']' ∨ close = '\x7d'
  opens : ∀ item, ∃ c chars others, parts item = (c :: chars) :: others ∧
    isBlank c = false ∧ c ≠ close

theorem values_listable : Listable ']' Json.parts where
  closes := .inl rfl
  opens value := by
    obtain ⟨c, chars, others, tokens, opens, solid⟩ := parts_open value
    refine ⟨c, chars, others, tokens, solid, ?_⟩
    rintro rfl
    exact absurd (kind_lt value) (opens ▸ by decide)

theorem fields_listable : Listable '\x7d' fieldParts where
  closes := .inr rfl
  opens := fun (_, _) => ⟨'"', _, _, rfl, rfl, by decide⟩

variable {close : Char} {parts : ι → List (List Char)}

theorem list_follows (listable : Listable close parts) (items : List ι)
    (more : List (List Char)) : Follows (listParts parts false items ++ [close] :: more) := by
  intro part others same
  cases items with
  | nil =>
      rw [← (List.cons.inj same).1]
      rcases listable.closes with rfl | rfl
      all_goals decide
  | cons item rest =>
      rw [← (List.cons.inj same).1]
      decide

theorem list_length (listable : Listable close parts) (first : Bool) (items : List ι) :
    items.length ≤ (listParts parts first items).flatten.length := by
  induction items generalizing first with
  | nil => exact Nat.zero_le _
  | cons item rest ih =>
      obtain ⟨c, chars, others, tokens, _⟩ := listable.opens item
      have shorter := ih false
      cases first
      all_goals
        simp only [listParts, tokens, List.flatten_cons, List.flatten_append, List.length_append,
          List.length_cons, List.cons_append]
        omega

theorem next_close (listable : Listable close parts) (first : Bool)
    (spaced : Spaced ([close] :: more) text) :
    ∃ rest, nextElement close first text = .ok (none, rest) ∧ Spaced more rest := by
  have solid : isBlank close = false := by
    rcases listable.closes with rfl | rfl
    all_goals rfl
  obtain ⟨rest, skipped, spaced⟩ := skip_spaced close [] solid spaced
  refine ⟨rest, ?_, spaced⟩
  rw [nextElement, skipped]
  exact if_pos rfl

theorem next_item (listable : Listable close parts) (first : Bool) (item : ι) (items : List ι)
    (spaced : Spaced (listParts parts first (item :: items) ++ more) text) :
    ∃ place, nextElement close first text = .ok (some place, []) ∧ Settled place ∧
      Spaced (parts item ++ (listParts parts false items ++ more)) place := by
  obtain ⟨c, chars, others, tokens, solid, other⟩ := listable.opens item
  cases first with
  | true =>
      rw [listParts, tokens] at spaced
      obtain ⟨rest, skipped, spaced⟩ := skip_spaced c chars solid spaced
      refine ⟨c :: (chars ++ rest), ?_, settled_solid c _ solid, ?_⟩
      · rw [nextElement, skipped]
        exact (if_neg other).trans (if_pos rfl)
      · rw [tokens, ← List.append_assoc]
        exact spaced_token (c :: chars) spaced
  | false =>
      have comma : ',' ≠ close := by
        rcases listable.closes with rfl | rfl
        all_goals decide
      rw [listParts, tokens] at spaced
      obtain ⟨between, found, spaced⟩ := skip_spaced ',' [] rfl spaced
      obtain ⟨rest, skipped, spaced⟩ := skip_spaced c chars solid spaced
      refine ⟨c :: (chars ++ rest), ?_, settled_solid c _ solid, ?_⟩
      · rw [nextElement, found]
        dsimp only
        rw [if_neg comma, if_neg Bool.false_ne_true, if_pos rfl, List.nil_append, skipped]
        exact if_neg other
      · rw [tokens, ← List.append_assoc]
        exact spaced_token (c :: chars) spaced

def Steps (element : σ → Reader σ) (parts : ι → List (List Char)) (step : σ → ι → Option σ) :
    Prop :=
  ∀ state item more place, Settled place → Follows more → Spaced (parts item ++ more) place →
    Gives (element state place) (step state item) more

-- By induction on the items; a round is left for every item, and one for the closing bracket.
theorem elements_give (listable : Listable close parts) (element : σ → Reader σ)
    (step : σ → ι → Option σ) (steps : Steps element parts step) (items : List ι) (rounds : Nat)
    (first : Bool) (state : σ) (text : List Char) (enough : items.length < rounds)
    (spaced : Spaced (listParts parts first items ++ [close] :: more) text) :
    Gives (elements close element rounds first state text) (items.foldlM step state) more := by
  induction items generalizing rounds first state text with
  | nil =>
      cases rounds with
      | zero => cases enough
      | succ rounds =>
          obtain ⟨rest, next, spaced⟩ := next_close listable first spaced
          refine ⟨rest, ?_, spaced⟩
          rw [elements, next]
          rfl
  | cons item items ih =>
      cases rounds with
      | zero => cases enough
      | succ rounds =>
          obtain ⟨place, next, settled, spaced⟩ := next_item listable first item items spaced
          have follows := list_follows listable items more
          rw [elements, next, List.foldlM_cons]
          exact gives_bind (element state place) _ _ _
            (steps state item _ place settled follows spaced) fun state rest _ spaced =>
              ih rounds false state rest (Nat.lt_of_succ_lt_succ enough) spaced

theorem sequence_gives (listable : Listable close parts) (element : σ → Reader σ)
    (step : σ → ι → Option σ) (steps : Steps element parts step) (items : List ι) (start : σ)
    (spaced : Spaced (listParts parts true items ++ [close] :: more) text) :
    Gives (sequence close element start text) (items.foldlM step start) more := by
  have rounds : items.length < text.length + 1 := by
    have written := spaced_length spaced
    have items := list_length listable true items
    rw [List.flatten_append, List.length_append] at written
    omega
  exact elements_give listable element step steps items _ true start text rounds spaced

theorem list_parts_attach (first : Bool) (items : List ι) :
    listParts parts first items =
      listParts (fun item : {item // item ∈ items} => parts item.1) first items.attach := by
  have mapped (first : Bool) (chosen : List {item // item ∈ items}) :
      listParts parts first (chosen.map Subtype.val) =
        listParts (fun item => parts item.1) first chosen := by
    induction chosen generalizing first with
    | nil => cases first <;> rfl
    | cons item rest ih =>
        cases first
        all_goals rw [List.map_cons, listParts, ih, listParts]
  rw [← mapped, List.attach_map_subtype_val]

theorem sequence_folds (listable : Listable close parts) (element : σ → Reader σ)
    (change : σ → ι → σ) (items : List ι)
    (each : ∀ item ∈ items, ∀ state more place, Settled place → Follows more →
      Spaced (parts item ++ more) place → Gives (element state place) (some (change state item)) more)
    (start : σ) (spaced : Spaced (listParts parts true items ++ [close] :: more) text) :
    Gives (sequence close element start text) (some (items.foldl change start)) more := by
  have steps : Steps element (fun item : {item // item ∈ items} => parts item.1)
      fun state item => some (change state item.1) :=
    fun state item => each item.1 item.2 state
  have whole : items.attach.foldlM (fun state item => some (change state item.1)) start =
      some (items.foldl change start) := by
    rw [← List.foldl_attach]
    exact List.foldlM_pure
  rw [list_parts_attach] at spaced
  rw [← whole]
  exact sequence_gives ⟨listable.closes, fun item => listable.opens item.1⟩ element _ steps _ start
    spaced

theorem value_place (value : Json) (settled : Settled place)
    (spaced : Spaced (value.parts ++ more) place) :
    ∃ c rest, place = c :: rest ∧ opening c = value.kind := by
  obtain ⟨c, chars, others, tokens, opens, solid⟩ := parts_open value
  rw [tokens] at spaced
  obtain ⟨rest, rfl, _⟩ := settled_token c chars solid settled spaced
  exact ⟨c, _, rfl, opens⟩

theorem opens_other {c mark : Char} {value : Json} {rest others : List Char}
    (opens : opening c = value.kind) (other : opening mark ≠ value.kind) :
    c :: rest ≠ mark :: others := by
  intro same
  rw [(List.cons.inj same).1] at opens
  exact other opens

theorem skip_value (value : Json) (spaced : Spaced (value.parts ++ more) text) :
    ∃ c rest, skipBlanks text = c :: rest ∧ Settled (c :: rest) ∧
      Spaced (value.parts ++ more) (c :: rest) := by
  obtain ⟨c, chars, others, tokens, _, solid⟩ := parts_open value
  rw [tokens] at spaced
  obtain ⟨rest, skipped, spaced⟩ := skip_spaced c chars solid spaced
  refine ⟨c, _, skipped, settled_solid c _ solid, ?_⟩
  rw [tokens]
  exact spaced_token (c :: chars) spaced

theorem scalar_place (value : Json) (scalar : value.parts = [value.text]) (settled : Settled place)
    (spaced : Spaced (value.parts ++ more) place) :
    ∃ rest, place = value.text ++ rest ∧ Spaced more rest := by
  obtain ⟨c, chars, others, tokens, _, solid⟩ := parts_open value
  have text : value.text = c :: chars := (List.cons.inj (scalar.symm.trans tokens)).1
  rw [scalar, text] at spaced
  obtain ⟨rest, same, after⟩ := settled_token c chars solid settled spaced
  exact ⟨rest, by rw [same, text]; rfl, after⟩

theorem array_place (items : List Json) (settled : Settled place)
    (spaced : Spaced ((Json.array items).parts ++ more) place) :
    ∃ rest, place = '[' :: rest ∧
      Spaced (listParts Json.parts true items ++ [']'] :: more) rest := by
  rw [array_parts, List.cons_append, List.append_assoc] at spaced
  exact settled_token '[' [] rfl settled spaced

theorem object_place (fields : Fields) (settled : Settled place)
    (spaced : Spaced ((Json.object fields).parts ++ more) place) :
    ∃ rest, place = '\x7b' :: rest ∧
      Spaced (listParts fieldParts true fields ++ ['\x7d'] :: more) rest := by
  rw [object_parts, List.cons_append, List.append_assoc] at spaced
  exact settled_token '\x7b' [] rfl settled spaced

theorem word_reads (expected rest : List Char) :
    word expected (expected ++ rest) = .ok ((), rest) := by
  induction expected with
  | nil => rfl
  | cons c others ih => exact (if_pos rfl).trans ih

theorem string_reads (value : String) (rest : List Char) :
    key (stringText value ++ rest) = .ok (value, rest) := by
  rw [string_text_shape, key, string, string_reads_back]
  exact congrArg (fun value => Except.ok (value, rest)) String.ofList_toList

theorem opening_number (c : Char) : (c = '-' ∨ c.isDigit = true) ↔ opening c = 0 := by
  constructor
  · exact fun number => if_pos number.symm
  · intro zero
    by_contra other
    unfold opening at zero
    rw [if_neg fun number => other number.symm] at zero
    split_ifs at zero

theorem colon_reads (spaced : Spaced ([':'] :: more) text) :
    ∃ rest, colon text = .ok ((), rest) ∧ Spaced more rest := by
  obtain ⟨rest, skipped, after⟩ := skip_spaced ':' [] rfl spaced
  unfold colon
  rw [skipped]
  exact ⟨rest, rfl, after⟩

theorem whole_found (reader : Reader α) (text : String) (found : α)
    (given : Gives (reader text.toList) (some found) []) : whole reader text = .ok found := by
  obtain ⟨rest, read, after⟩ := given
  unfold whole
  rw [read]
  exact if_pos (List.isEmpty_iff.mpr (skip_done after))

theorem whole_fails (reader : Reader α) (text : String)
    (given : Gives (reader text.toList) none []) : ∃ fault, whole reader text = .error fault := by
  obtain ⟨fault, failed⟩ := given
  unfold whole
  rw [failed]
  exact ⟨fault, rfl⟩

theorem whole_reads (reader : Reader α) (decode : Json → Option α) (reads : Reads reader decode)
    (value : Json) (text : String) (spaced : Spaced value.parts text.toList) :
    match decode value with
    | some found => whole reader text = .ok found
    | none => ∃ fault, whole reader text = .error fault := by
  have follows : Follows [] := fun _ _ => nofun
  have given := reads value [] text.toList follows (by rwa [List.append_nil])
  cases found : decode value with
  | none => exact whole_fails reader text (found ▸ given)
  | some result => exact whole_found reader text result (found ▸ given)

end RequestLayer.Json.Reader
