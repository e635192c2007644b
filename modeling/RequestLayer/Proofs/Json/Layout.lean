import RequestLayer.Proofs.Json.Decoding

set_option autoImplicit false

namespace RequestLayer.Json

open Reader

mutual

def parts : Json → List (List Char)
  | .array [] => [['['], [']']]
  | .array (item :: rest) => ['['] :: (item.parts ++ (itemsParts rest ++ [[']']]))
  | .object [] => [['\x7b'], ['\x7d']]
  | .object (field :: rest) => ['\x7b'] :: (fieldParts field ++ (fieldsParts rest ++ [['\x7d']]))
  | value => [value.text]

def itemsParts : List Json → List (List Char)
  | [] => []
  | item :: rest => [','] :: (item.parts ++ itemsParts rest)

def fieldsParts : List (String × Json) → List (List Char)
  | [] => []
  | field :: rest => [','] :: (fieldParts field ++ fieldsParts rest)

def fieldParts : String × Json → List (List Char)
  | (key, value) => stringText key :: [':'] :: value.parts

end

def Gap (gap : List Char) : Prop := ∀ c ∈ gap, isBlank c = true

inductive Spaced : List (List Char) → List Char → Prop
  | done (gap : List Char) (blank : Gap gap) : Spaced [] gap
  | part (gap part : List Char) (parts : List (List Char)) (rest : List Char) (blank : Gap gap)
      (spaced : Spaced parts rest) : Spaced (part :: parts) (gap ++ (part ++ rest))

def Follows (more : List (List Char)) : Prop :=
  ∀ part others, more = part :: others → part ∈ [[','], [']'], ['\x7d']]

-- A text that no token goes on into.
def Stops (rest : List Char) : Prop :=
  ∀ c others, rest = c :: others → c ∈ [' ', '\t', '\n', '\r', ',', ']', '\x7d']

theorem blank_iff (c : Char) : isBlank c = true ↔ c ∈ [' ', '\t', '\n', '\r'] := by
  simp [isBlank, or_assoc]

theorem gap_nil : Gap [] := fun _ member => nomatch member

theorem gap_append (gap other : List Char) (blank : Gap gap) (otherBlank : Gap other) :
    Gap (gap ++ other) :=
  List.forall_mem_append.mpr ⟨blank, otherBlank⟩

theorem line_break_gap (depth : Nat) : Gap (lineBreak depth) := by
  intro c member
  rcases List.mem_cons.mp member with rfl | space
  · rfl
  · rw [(List.mem_replicate.mp space).2]
    rfl

variable {parts others more : List (List Char)} {text rest : List Char}

theorem spaced_gap (gap : List Char) (blank : Gap gap) (spaced : Spaced parts text) :
    Spaced parts (gap ++ text) := by
  cases spaced with
  | done _ otherBlank => exact .done _ (gap_append gap text blank otherBlank)
  | part other part parts rest otherBlank spaced =>
      rw [← List.append_assoc]
      exact .part _ part _ rest (gap_append gap other blank otherBlank) spaced

theorem spaced_token (part : List Char) (spaced : Spaced parts rest) :
    Spaced (part :: parts) (part ++ rest) :=
  .part [] part parts rest gap_nil spaced

theorem spaced_single (part : List Char) : Spaced [part] part := by
  have single := spaced_token part (.done [] gap_nil)
  rwa [List.append_nil] at single

theorem spaced_append (spaced : Spaced parts text) (otherSpaced : Spaced others rest) :
    Spaced (parts ++ others) (text ++ rest) := by
  induction spaced with
  | done gap blank => exact spaced_gap gap blank otherSpaced
  | part gap part parts text blank _ ih =>
      rw [List.append_assoc, List.append_assoc]
      exact .part gap part (parts ++ others) (text ++ rest) blank ih

mutual

theorem text_spaced (value : Json) : Spaced value.parts value.text := by
  cases value with
  | array items =>
      cases items with
      | nil => exact spaced_token ['['] (spaced_single [']'])
      | cons item rest =>
          have inner := spaced_append (text_spaced item)
            (spaced_append (items_text_spaced rest) (spaced_single [']']))
          rw [text, List.cons_append, List.cons_append, List.append_assoc]
          exact spaced_token ['['] inner
  | object fields =>
      cases fields with
      | nil => exact spaced_token ['\x7b'] (spaced_single ['\x7d'])
      | cons field rest =>
          have inner := spaced_append (field_text_spaced field)
            (spaced_append (fields_text_spaced rest) (spaced_single ['\x7d']))
          rw [text, List.cons_append, List.cons_append, List.append_assoc]
          exact spaced_token ['\x7b'] inner
  | _ => exact spaced_single _
termination_by structural value

theorem items_text_spaced (items : List Json) : Spaced (itemsParts items) (itemsText items) := by
  cases items with
  | nil => exact .done [] gap_nil
  | cons item rest =>
      exact spaced_token [','] (spaced_append (text_spaced item) (items_text_spaced rest))
termination_by structural items

theorem fields_text_spaced (fields : List (String × Json)) :
    Spaced (fieldsParts fields) (fieldsText fields) := by
  cases fields with
  | nil => exact .done [] gap_nil
  | cons field rest =>
      exact spaced_token [','] (spaced_append (field_text_spaced field) (fields_text_spaced rest))
termination_by structural fields

theorem field_text_spaced (field : String × Json) :
    Spaced (fieldParts field) (fieldText field) := by
  obtain ⟨key, value⟩ := field
  exact spaced_token (stringText key) (spaced_token [':'] (text_spaced value))
termination_by structural field

end

mutual

theorem layout_spaced (depth : Nat) (value : Json) : Spaced value.parts (value.layout depth) := by
  cases value with
  | array items =>
      cases items with
      | nil => exact text_spaced (.array [])
      | cons item rest =>
          have ending := spaced_gap _ (line_break_gap depth) (spaced_single [']'])
          have inner := spaced_gap _ (line_break_gap (depth + 1))
            (spaced_append (layout_spaced (depth + 1) item)
              (spaced_append (items_layout_spaced depth rest) ending))
          have whole := spaced_token ['['] inner
          simpa only [parts, layout, List.cons_append, List.append_assoc, List.nil_append]
            using whole
  | object fields =>
      cases fields with
      | nil => exact text_spaced (.object [])
      | cons field rest =>
          have ending := spaced_gap _ (line_break_gap depth) (spaced_single ['\x7d'])
          have inner := spaced_gap _ (line_break_gap (depth + 1))
            (spaced_append (field_layout_spaced depth field)
              (spaced_append (fields_layout_spaced depth rest) ending))
          have whole := spaced_token ['\x7b'] inner
          simpa only [parts, layout, List.cons_append, List.append_assoc, List.nil_append]
            using whole
  | _ => exact text_spaced _
termination_by structural value

theorem items_layout_spaced (depth : Nat) (items : List Json) :
    Spaced (itemsParts items) (itemsLayout depth items) := by
  cases items with
  | nil => exact .done [] gap_nil
  | cons item rest =>
      have inner := spaced_gap _ (line_break_gap (depth + 1))
        (spaced_append (layout_spaced (depth + 1) item) (items_layout_spaced depth rest))
      have whole := spaced_token [','] inner
      simpa only [itemsParts, itemsLayout, List.cons_append, List.append_assoc, List.nil_append]
        using whole
termination_by structural items

theorem fields_layout_spaced (depth : Nat) (fields : List (String × Json)) :
    Spaced (fieldsParts fields) (fieldsLayout depth fields) := by
  cases fields with
  | nil => exact .done [] gap_nil
  | cons field rest =>
      have inner := spaced_gap _ (line_break_gap (depth + 1))
        (spaced_append (field_layout_spaced depth field) (fields_layout_spaced depth rest))
      have whole := spaced_token [','] inner
      simpa only [fieldsParts, fieldsLayout, List.cons_append, List.append_assoc, List.nil_append]
        using whole
termination_by structural fields

theorem field_layout_spaced (depth : Nat) (field : String × Json) :
    Spaced (fieldParts field) (fieldLayout depth field) := by
  obtain ⟨key, value⟩ := field
  have blank : Gap [' '] := List.forall_mem_singleton.mpr rfl
  exact spaced_token (stringText key) (spaced_token [':']
    (spaced_gap [' '] blank (layout_spaced (depth + 1) value)))
termination_by structural field

end

theorem compact_spaced (value : Json) : Spaced value.parts value.compact.toList := by
  rw [compact, String.toList_ofList]
  exact text_spaced value

theorem indented_spaced (value : Json) : Spaced value.parts value.indented.toList := by
  rw [indented, String.toList_ofList]
  exact layout_spaced 0 value

theorem skip_gap (gap rest : List Char) (blank : Gap gap) :
    skipBlanks (gap ++ rest) = skipBlanks rest :=
  List.dropWhile_append_of_pos blank

theorem skip_done (spaced : Spaced [] text) : skipBlanks text = [] := by
  cases spaced with
  | done _ blank =>
      have skipped := skip_gap text [] blank
      rwa [List.append_nil] at skipped

theorem skip_solid (c : Char) (rest : List Char) (solid : isBlank c = false) :
    skipBlanks (c :: rest) = c :: rest :=
  List.dropWhile_cons_of_neg (by rw [solid]; decide)

theorem skip_spaced (c : Char) (chars : List Char) (solid : isBlank c = false)
    (spaced : Spaced ((c :: chars) :: parts) text) :
    ∃ rest, skipBlanks text = c :: (chars ++ rest) ∧ Spaced parts rest := by
  cases spaced with
  | part gap _ _ rest blank spaced =>
      rw [skip_gap gap _ blank]
      exact ⟨rest, skip_solid c _ solid, spaced⟩

theorem blank_stops (c : Char) (blank : isBlank c = true) :
    c ∈ [' ', '\t', '\n', '\r', ',', ']', '\x7d'] :=
  List.mem_append_left [',', ']', '\x7d'] ((blank_iff c).mp blank)

theorem spaced_stops (follows : Follows more) (spaced : Spaced more rest) : Stops rest := by
  intro c others same
  cases spaced with
  | done _ blank => exact blank_stops c (blank c (same ▸ List.mem_cons_self))
  | part gap part parts tail blank _ =>
      cases gap with
      | cons first gap =>
          rw [← (List.cons.inj same).1]
          exact blank_stops first (blank first List.mem_cons_self)
      | nil =>
          have closing := follows part parts rfl
          simp only [List.mem_cons, List.not_mem_nil, or_false] at closing
          rcases closing with rfl | rfl | rfl
          all_goals
            rw [← (List.cons.inj same).1]
            decide

theorem spaced_length (spaced : Spaced parts text) : parts.flatten.length ≤ text.length := by
  induction spaced with
  | done gap _ => exact Nat.zero_le _
  | part gap part parts rest _ _ ih =>
      rw [List.flatten_cons, List.length_append, List.length_append, List.length_append]
      omega

theorem opening_solid (c : Char) (opens : opening c < 6) : isBlank c = false := by
  by_contra blank
  have spaces := (blank_iff c).mp (Bool.eq_true_of_not_eq_false blank)
  simp only [List.mem_cons, List.not_mem_nil, or_false] at spaces
  rcases spaces with rfl | rfl | rfl | rfl
  all_goals exact absurd opens (by decide)

theorem kind_lt (value : Json) : value.kind < 6 := by
  cases value with
  | _ => simp [kind]

theorem parts_open (value : Json) : ∃ c chars others, value.parts = (c :: chars) :: others ∧
    opening c = value.kind ∧ isBlank c = false := by
  obtain ⟨c, chars, text, opens⟩ := text_opens value
  have solid := opening_solid c (by rw [opens]; exact kind_lt value)
  cases value with
  | array items =>
      cases items with
      | nil => exact ⟨_, _, _, rfl, rfl, rfl⟩
      | cons item rest => exact ⟨_, _, _, rfl, rfl, rfl⟩
  | object fields =>
      cases fields with
      | nil => exact ⟨_, _, _, rfl, rfl, rfl⟩
      | cons field rest => exact ⟨_, _, _, rfl, rfl, rfl⟩
  | _ => exact ⟨c, chars, [], congrArg (fun text => [text]) text, opens, solid⟩

end RequestLayer.Json
