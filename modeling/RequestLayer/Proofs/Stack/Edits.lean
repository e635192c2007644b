import Mathlib.Data.List.Induction
import Mathlib.Data.List.Nodup
import RequestLayer.Proofs.Session.Basic

set_option autoImplicit false

namespace RequestLayer

namespace Stack

variable {α : Type} (outer inner : List (Named α)) (name : String)

theorem has_iff (stack : Stack α) : stack.has name = true ↔ name ∈ stack.names :=
  List.contains_iff_mem

theorem get_append :
    (Stack.mk (outer ++ inner)).get? name =
      ((Stack.mk outer).get? name).or ((Stack.mk inner).get? name) := by
  simp only [get?, List.find?_append, Option.map_or]

theorem get_cons (layer : Named α) :
    (Stack.mk (layer :: inner)).get? name =
      if layer.name = name then some layer.item else (Stack.mk inner).get? name := by
  by_cases same : layer.name = name <;> simp [get?, same]

theorem get_missing (absent : name ∉ outer.map Named.name) : (Stack.mk outer).get? name = none := by
  induction outer with
  | nil => rfl
  | cons layer rest ih =>
      rw [List.map_cons, List.mem_cons, not_or] at absent
      rw [get_cons, if_neg (Ne.symm absent.1)]
      exact ih absent.2

theorem missing_outside (missing : name ∉ (Stack.mk (outer ++ inner)).names) :
    name ∉ outer.map Named.name := by
  unfold names at missing
  rw [List.map_append, List.mem_append, not_or] at missing
  exact missing.1

theorem split_named (layers : List (Named α)) (present : name ∈ layers.map Named.name) :
    ∃ outer old inner, layers = outer ++ ⟨name, old⟩ :: inner ∧ name ∉ outer.map Named.name := by
  obtain ⟨before, after, names, absent⟩ := List.eq_append_cons_of_mem present
  obtain ⟨outer, rest, rfl, rfl, tail⟩ := List.map_eq_append_iff.mp names
  obtain ⟨layer, inner, rfl, rfl, _⟩ := List.map_eq_cons_iff.mp tail
  exact ⟨outer, layer.item, inner, rfl, absent⟩

section Positions

variable (layer : Named α) (absent : name ∉ outer.map Named.name) (old item : α)

theorem insert_between : (outer ++ inner).insertIdx outer.length layer = outer ++ layer :: inner := by
  induction outer with
  | nil => rfl
  | cons first rest ih => exact congrArg (first :: ·) ih

theorem modify_between (change : Named α → Named α) :
    (outer ++ layer :: inner).modify outer.length change = outer ++ change layer :: inner := by
  induction outer with
  | nil => rfl
  | cons first rest ih => exact congrArg (first :: ·) ih

theorem erase_between : (outer ++ layer :: inner).eraseIdx outer.length = outer ++ inner := by
  induction outer with
  | nil => rfl
  | cons first rest ih => exact congrArg (first :: ·) ih

theorem insert_split (stack : Stack α) (position : Nat) :
    ∃ outer inner, stack.layers = outer ++ inner ∧ outer.length = min position stack.size ∧
      stack.layers.insertIdx (min position stack.size) layer = outer ++ layer :: inner := by
  have count : (stack.layers.take (min position stack.size)).length = min position stack.size := by
    rw [List.length_take]
    exact Nat.min_eq_left (Nat.min_le_right position stack.size)
  refine ⟨_, _, (List.take_append_drop (min position stack.size) stack.layers).symm, count, ?_⟩
  have placed := insert_between (stack.layers.take (min position stack.size))
    (stack.layers.drop (min position stack.size)) layer
  rwa [List.take_append_drop, count] at placed

include absent in
theorem find_between :
    (outer ++ ⟨name, old⟩ :: inner).findIdx? (·.name == name) = some outer.length := by
  have before : outer.findIdx? (·.name == name) = none := by
    rw [List.findIdx?_eq_none_iff]
    intro other member
    exact beq_false_of_ne fun same => absent (same ▸ List.mem_map_of_mem member)
  have here : (Named.mk name old :: inner).findIdx? (·.name == name) = some 0 := by
    rw [List.findIdx?_cons, if_pos (beq_self_eq_true name)]
  rw [List.findIdx?_append, before, here, Option.none_or, Option.map_some, Nat.zero_add]

theorem find_missing (stack : Stack α) (missing : name ∉ stack.names) :
    stack.layers.findIdx? (·.name == name) = none := by
  rw [List.findIdx?_eq_none_iff]
  intro other member
  exact beq_false_of_ne fun same => missing (same ▸ List.mem_map_of_mem member)

end Positions

section Runs

variable (stack : Stack α) (item : α)

theorem get_run {β : Type} (next : Stack α → ExceptT Fault (StateM (Stack α)) β) :
    (get >>= next).run stack = (next stack).run stack := rfl

theorem new_layer_run :
    (newLayer name item).run stack =
      (if stack.has name then .error (.duplicateLayer name) else .ok ⟨name, item⟩, stack) := by
  rw [newLayer, get_run]
  cases stack.has name <;> rfl

theorem position_run :
    (position name).run stack =
      ((stack.layers.findIdx? (·.name == name)).elim (.error (.unknownLayer name)) .ok, stack) := by
  rw [position, get_run]
  cases stack.layers.findIdx? (·.name == name) <;> rfl

-- A check and then a change: only a check that passes is followed by the change.
theorem checked_run {β : Type} (check : ExceptT Fault (StateM (Stack α)) β)
    (change : β → Stack α → Stack α) (outcome : Except Fault β) :
    check.run stack = (outcome, stack) →
    (do
      let value ← check
      modify (change value) : ExceptT Fault (StateM (Stack α)) Unit).run stack =
      match outcome with
      | .ok value => (.ok (), change value stack)
      | .error fault => (.error fault, stack) := by
  intro checked
  have parts :
      (do
        let value ← check
        modify (change value) : ExceptT Fault (StateM (Stack α)) Unit).run stack =
      (ExceptT.bindCont (fun value => modify (change value)) (check.run stack).1 :
        StateM (Stack α) (Except Fault Unit)) (check.run stack).2 := rfl
  rw [parts, checked]
  cases outcome <;> rfl

theorem add_run : (add name item).run stack =
    if stack.has name then (.error (.duplicateLayer name), stack)
    else (.ok (), ⟨stack.layers ++ [⟨name, item⟩]⟩) := by
  rw [add, checked_run stack _ _ _ (new_layer_run name stack item)]
  cases stack.has name <;> rfl

theorem inject_run (position : Nat) : (inject name item position).run stack =
    if stack.has name then (.error (.duplicateLayer name), stack)
    else (.ok (), ⟨stack.layers.insertIdx (min position stack.size) ⟨name, item⟩⟩) := by
  rw [inject, checked_run stack _ _ _ (new_layer_run name stack item)]
  cases stack.has name <;> rfl

theorem replace_run : (replace name item).run stack =
    match stack.layers.findIdx? (·.name == name) with
    | some position => (.ok (), ⟨stack.layers.modify position fun layer => { layer with item }⟩)
    | none => (.error (.unknownLayer name), stack) := by
  rw [replace, checked_run stack _ _ _ (position_run name stack)]
  cases stack.layers.findIdx? (·.name == name) <;> rfl

theorem remove_run : (remove name).run stack =
    match stack.layers.findIdx? (·.name == name) with
    | some position => (.ok (), ⟨stack.layers.eraseIdx position⟩)
    | none => (.error (.unknownLayer name), stack) := by
  rw [remove, checked_run stack _ _ _ (position_run name stack)]
  cases stack.layers.findIdx? (·.name == name) <;> rfl

variable (old : α) (absent : name ∉ outer.map Named.name)

include absent

theorem replace_between :
    (replace name item).run (Stack.mk (outer ++ ⟨name, old⟩ :: inner)) =
      (.ok (), ⟨outer ++ ⟨name, item⟩ :: inner⟩) := by
  rw [replace_run, find_between outer inner name absent old]
  exact congrArg (fun layers => (Except.ok (), Stack.mk layers)) (modify_between outer inner _ _)

theorem remove_between :
    (remove name).run (Stack.mk (outer ++ ⟨name, old⟩ :: inner)) = (.ok (), ⟨outer ++ inner⟩) := by
  rw [remove_run, find_between outer inner name absent old]
  exact congrArg (fun layers => (Except.ok (), Stack.mk layers)) (erase_between outer inner _)

end Runs

end Stack

variable {ν : Type}

def Stack.edited (stack : Stack (Layer ν)) (edit : Edit ν) :
    Except Fault Unit × Stack (Layer ν) :=
  edit.apply.run stack

-- The outcomes of edits from the empty stack on, the last one first, and the stack they leave.
def Stack.editAll (edits : List (Edit ν)) : List (Edit ν × Except Fault Unit) × Stack (Layer ν) :=
  edits.foldl (fun (history, stack) edit =>
    let (outcome, next) := stack.edited edit
    ((edit, outcome) :: history, next)) ([], .empty)

namespace Edit

def introduces : Edit ν → Option String
  | .add name _ | .inject name _ _ => some name
  | .replace _ _ | .remove _ | .clear => none

def requires : Edit ν → Option String
  | .replace name _ | .remove name => some name
  | .add _ _ | .inject _ _ _ | .clear => none

def leaves (name : String) (old : Option (Layer ν)) : Edit ν → Option (Layer ν)
  | .add other layer | .inject other layer _ | .replace other layer =>
      if other = name then some layer else old
  | .remove other => if other = name then none else old
  | .clear => none

end Edit

-- What was put under a name last and not removed since, by a history that starts with its last edit.
def installed (name : String) : List (Edit ν × Except Fault Unit) → Option (Layer ν)
  | [] => none
  | (edit, .ok ()) :: earlier => edit.leaves name (installed name earlier)
  | (_, .error _) :: earlier => installed name earlier

inductive Edited (before : Stack (Layer ν)) :
    Edit ν → Except Fault Unit → Stack (Layer ν) → Prop
  | added (name : String) (layer : Layer ν) (new : name ∉ before.names) :
      Edited before (.add name layer) (.ok ()) ⟨before.layers ++ [⟨name, layer⟩]⟩
  | injected (name : String) (layer : Layer ν) (position : Nat)
      (outer inner : List (Named (Layer ν))) (new : name ∉ before.names)
      (split : before.layers = outer ++ inner) (place : outer.length = min position before.size) :
      Edited before (.inject name layer position) (.ok ()) ⟨outer ++ ⟨name, layer⟩ :: inner⟩
  | replaced (name : String) (old layer : Layer ν) (outer inner : List (Named (Layer ν)))
      (split : before.layers = outer ++ ⟨name, old⟩ :: inner) :
      Edited before (.replace name layer) (.ok ()) ⟨outer ++ ⟨name, layer⟩ :: inner⟩
  | removed (name : String) (old : Layer ν) (outer inner : List (Named (Layer ν)))
      (split : before.layers = outer ++ ⟨name, old⟩ :: inner) :
      Edited before (.remove name) (.ok ()) ⟨outer ++ inner⟩
  | cleared : Edited before .clear (.ok ()) .empty
  | duplicate (edit : Edit ν) (name : String) (introduces : edit.introduces = some name)
      (present : name ∈ before.names) :
      Edited before edit (.error (.duplicateLayer name)) before
  | unknown (edit : Edit ν) (name : String) (requires : edit.requires = some name)
      (missing : name ∉ before.names) :
      Edited before edit (.error (.unknownLayer name)) before

theorem edit_edited (stack : Stack (Layer ν)) (edit : Edit ν) :
    Edited stack edit (stack.edited edit).1 (stack.edited edit).2 := by
  cases edit with
  | add name layer =>
      have left := stack.add_run name layer
      by_cases present : stack.has name = true
      · rw [if_pos present] at left
        rw [Stack.edited, Edit.apply, left]
        exact .duplicate _ name rfl ((Stack.has_iff name stack).mp present)
      · rw [if_neg present] at left
        rw [Stack.edited, Edit.apply, left]
        exact .added name layer (mt (Stack.has_iff name stack).mpr present)
  | inject name layer position =>
      have left := stack.inject_run name layer position
      by_cases present : stack.has name = true
      · rw [if_pos present] at left
        rw [Stack.edited, Edit.apply, left]
        exact .duplicate _ name rfl ((Stack.has_iff name stack).mp present)
      · obtain ⟨outer, inner, split, place, placed⟩ := Stack.insert_split ⟨name, layer⟩ stack position
        rw [if_neg present, placed] at left
        rw [Stack.edited, Edit.apply, left]
        exact .injected name layer position outer inner (mt (Stack.has_iff name stack).mpr present)
          split place
  | replace name layer =>
      by_cases present : name ∈ stack.names
      · obtain ⟨outer, old, inner, split, absent⟩ := Stack.split_named name stack.layers present
        obtain rfl : stack = ⟨outer ++ ⟨name, old⟩ :: inner⟩ := congrArg Stack.mk split
        rw [Stack.edited, Edit.apply, Stack.replace_between outer inner name layer old absent]
        exact .replaced name old layer outer inner rfl
      · rw [Stack.edited, Edit.apply, Stack.replace_run, Stack.find_missing name stack present]
        exact .unknown _ name rfl present
  | remove name =>
      by_cases present : name ∈ stack.names
      · obtain ⟨outer, old, inner, split, absent⟩ := Stack.split_named name stack.layers present
        obtain rfl : stack = ⟨outer ++ ⟨name, old⟩ :: inner⟩ := congrArg Stack.mk split
        rw [Stack.edited, Edit.apply, Stack.remove_between outer inner name old absent]
        exact .removed name old outer inner rfl
      · rw [Stack.edited, Edit.apply, Stack.remove_run, Stack.find_missing name stack present]
        exact .unknown _ name rfl present
  | clear => exact .cleared

theorem names_around (name : String) (layer : Layer ν) (outer inner : List (Named (Layer ν)))
    (distinct : (Stack.mk (outer ++ ⟨name, layer⟩ :: inner)).names.Nodup) :
    name ∉ outer.map Named.name ∧ name ∉ inner.map Named.name := by
  unfold Stack.names at distinct
  rw [List.map_append] at distinct
  have absent := (List.nodup_cons.mp (List.nodup_middle.mp distinct)).1
  rw [List.mem_append, not_or] at absent
  exact absent

section One

variable (before after : Stack (Layer ν)) (edit : Edit ν) (outcome : Except Fault Unit)
  (edited : Edited before edit outcome after)

include edited

theorem edited_failed (fault : Fault) (failed : outcome = .error fault) : after = before := by
  cases edited with
  | duplicate | unknown => rfl
  | _ => cases failed

theorem edited_introduces (name : String) (introduces : edit.introduces = some name) :
    (outcome = .error (.duplicateLayer name) ↔ name ∈ before.names) ∧
      (outcome = .ok () ↔ name ∉ before.names) := by
  cases edited with
  | added other layer new =>
      obtain rfl := Option.some.inj introduces
      simp [new]
  | injected other layer position outer inner new =>
      obtain rfl := Option.some.inj introduces
      simp [new]
  | duplicate _ other introduced present =>
      obtain rfl := Option.some.inj (introduced.symm.trans introduces)
      simp [present]
  | unknown _ other requires =>
      cases edit with
      | add | inject => cases requires
      | replace | remove | clear => cases introduces
  | replaced | removed | cleared => cases introduces

theorem edited_requires (name : String) (requires : edit.requires = some name) :
    (outcome = .error (.unknownLayer name) ↔ name ∉ before.names) ∧
      (outcome = .ok () ↔ name ∈ before.names) := by
  have held (outer inner : List (Named (Layer ν))) (old : Layer ν)
      (split : before.layers = outer ++ ⟨name, old⟩ :: inner) : name ∈ before.names := by
    unfold Stack.names
    rw [split, List.map_append]
    exact List.mem_append_right _ List.mem_cons_self
  cases edited with
  | replaced other old layer outer inner split =>
      obtain rfl := Option.some.inj requires
      simp [held outer inner old split]
  | removed other old outer inner split =>
      obtain rfl := Option.some.inj requires
      simp [held outer inner old split]
  | unknown _ other required missing =>
      obtain rfl := Option.some.inj (required.symm.trans requires)
      simp [missing]
  | duplicate _ other introduces =>
      cases edit with
      | add | inject => cases requires
      | replace | remove | clear => cases introduces
  | added | injected | cleared => cases requires

theorem edited_distinct (distinct : before.names.Nodup) : after.names.Nodup := by
  cases edited with
  | added name layer new =>
      unfold Stack.names at distinct new ⊢
      rw [List.map_append, List.map_cons]
      exact List.nodup_middle.mpr (List.nodup_cons.mpr
        ⟨by rwa [List.map_nil, List.append_nil], by rwa [List.map_nil, List.append_nil]⟩)
  | injected name layer position outer inner new split =>
      unfold Stack.names at distinct new ⊢
      rw [split, List.map_append] at distinct new
      rw [List.map_append, List.map_cons]
      exact List.nodup_middle.mpr (List.nodup_cons.mpr ⟨new, distinct⟩)
  | replaced name old layer outer inner split =>
      unfold Stack.names at distinct ⊢
      rw [split, List.map_append] at distinct
      rw [List.map_append]
      exact distinct
  | removed name old outer inner split =>
      unfold Stack.names at distinct ⊢
      rw [split, List.map_append] at distinct
      rw [List.map_append]
      exact (List.nodup_cons.mp (List.nodup_middle.mp distinct)).2
  | cleared => exact List.nodup_nil
  | duplicate | unknown => exact distinct

theorem edited_get (distinct : before.names.Nodup) (done : outcome = .ok ()) (name : String) :
    after.get? name = edit.leaves name (before.get? name) := by
  cases edited with
  | added other layer new =>
      rw [Stack.get_append, Stack.get_cons]
      by_cases same : other = name
      · subst same
        rw [if_pos rfl, Stack.get_missing before.layers other new]
        exact (if_pos rfl).symm
      · rw [if_neg same]
        exact Option.or_none.trans (if_neg same).symm
  | injected other layer position outer inner new split =>
      obtain rfl : before = ⟨outer ++ inner⟩ := congrArg Stack.mk split
      rw [Stack.get_append, Stack.get_cons]
      by_cases same : other = name
      · subst same
        rw [if_pos rfl, Stack.get_missing outer other (Stack.missing_outside outer inner other new)]
        exact (if_pos rfl).symm
      · rw [if_neg same, ← Stack.get_append]
        exact (if_neg same).symm
  | replaced other old layer outer inner split =>
      obtain rfl : before = ⟨outer ++ ⟨other, old⟩ :: inner⟩ := congrArg Stack.mk split
      rw [Stack.get_append, Stack.get_cons]
      by_cases same : other = name
      · subst same
        have absent := (names_around other old outer inner distinct).1
        rw [if_pos rfl, Stack.get_missing outer other absent]
        exact (if_pos rfl).symm
      · simp only [Edit.leaves, Stack.get_append, Stack.get_cons, if_neg same]
  | removed other old outer inner split =>
      obtain rfl : before = ⟨outer ++ ⟨other, old⟩ :: inner⟩ := congrArg Stack.mk split
      rw [Stack.get_append]
      by_cases same : other = name
      · subst same
        obtain ⟨absent, gone⟩ := names_around other old outer inner distinct
        rw [Stack.get_missing outer other absent, Stack.get_missing inner other gone]
        exact (if_pos rfl).symm
      · simp only [Edit.leaves, Stack.get_append, Stack.get_cons, if_neg same]
  | cleared => rfl
  | duplicate | unknown => cases done

end One

theorem edit_all_append (edits : List (Edit ν)) (edit : Edit ν) :
    Stack.editAll (edits ++ [edit]) =
      ((edit, ((Stack.editAll edits).2.edited edit).1) :: (Stack.editAll edits).1,
        ((Stack.editAll edits).2.edited edit).2) := by
  unfold Stack.editAll
  rw [List.foldl_append]
  rfl

theorem edit_all_distinct (edits : List (Edit ν)) : (Stack.editAll edits).2.names.Nodup := by
  induction edits using List.reverseRecOn with
  | nil => exact List.nodup_nil
  | append_singleton edits edit ih =>
      rw [edit_all_append]
      exact edited_distinct _ _ edit _ (edit_edited _ edit) ih

theorem edit_all_get (edits : List (Edit ν)) (name : String) :
    (Stack.editAll edits).2.get? name = installed name (Stack.editAll edits).1 := by
  induction edits using List.reverseRecOn with
  | nil => rfl
  | append_singleton edits edit ih =>
      have edited := edit_edited (Stack.editAll edits).2 edit
      rw [edit_all_append]
      dsimp only
      cases outcome : ((Stack.editAll edits).2.edited edit).1 with
      | ok =>
          rw [edited_get _ _ edit _ edited (edit_all_distinct edits) outcome, ih]
          rfl
      | error fault =>
          rw [edited_failed _ _ edit _ edited fault outcome, ih]
          rfl

theorem injected_past_end (stack : Stack (Layer ν)) (name : String) (layer : Layer ν) (position : Nat)
    (past : stack.size ≤ position) :
    stack.edited (.inject name layer position) = stack.edited (.add name layer) := by
  have last : stack.layers.insertIdx stack.size ⟨name, layer⟩ = stack.layers ++ [⟨name, layer⟩] := by
    have placed := Stack.insert_between stack.layers [] ⟨name, layer⟩
    rwa [List.append_nil] at placed
  simp only [Stack.edited, Edit.apply, Stack.inject_run, Stack.add_run, Nat.min_eq_right past, last]

theorem injected_removed (stack : Stack (Layer ν)) (name : String) (layer : Layer ν) (position : Nat)
    (new : name ∉ stack.names) :
    (stack.edited (.inject name layer position)).2.edited (.remove name) = (.ok (), stack) := by
  obtain ⟨outer, inner, split, _, placed⟩ := Stack.insert_split ⟨name, layer⟩ stack position
  have left := stack.inject_run name layer position
  rw [if_neg (mt (Stack.has_iff name stack).mp new), placed] at left
  obtain rfl : stack = ⟨outer ++ inner⟩ := congrArg Stack.mk split
  have absent := Stack.missing_outside outer inner name new
  change (Stack.remove name).run ((Stack.inject name layer position).run _).2 = _
  rw [left]
  exact Stack.remove_between outer inner name layer absent

-- After any edits from the empty stack on, and of any further edit.
theorem edits_well_formed (edits : List (Edit ν)) :
    let (history, stack) := Stack.editAll edits
    stack.names.Nodup ∧
    (∀ name, stack.get? name = installed name history) ∧
    (∀ edit, Edited stack edit (stack.edited edit).1 (stack.edited edit).2) ∧
    (∀ edit name, edit.introduces = some name →
      ((stack.edited edit).1 = .error (.duplicateLayer name) ↔ name ∈ stack.names) ∧
        ((stack.edited edit).1 = .ok () ↔ name ∉ stack.names)) ∧
    (∀ edit name, edit.requires = some name →
      ((stack.edited edit).1 = .error (.unknownLayer name) ↔ name ∉ stack.names) ∧
        ((stack.edited edit).1 = .ok () ↔ name ∈ stack.names)) ∧
    (∀ edit fault, (stack.edited edit).1 = .error fault → (stack.edited edit).2 = stack) ∧
    (∀ name layer position, stack.size ≤ position →
      stack.edited (.inject name layer position) = stack.edited (.add name layer)) ∧
    ∀ name layer position, name ∉ stack.names →
      (stack.edited (.inject name layer position)).2.edited (.remove name) = (.ok (), stack) := by
  dsimp only
  generalize reached : (Stack.editAll edits).2 = stack
  have edited := edit_edited stack
  refine ⟨reached ▸ edit_all_distinct edits, ?_, edited, ?_, ?_, ?_, ?_, ?_⟩
  · intro name
    exact reached ▸ edit_all_get edits name
  · exact fun edit => edited_introduces stack _ edit _ (edited edit)
  · exact fun edit => edited_requires stack _ edit _ (edited edit)
  · exact fun edit => edited_failed stack _ edit _ (edited edit)
  · exact injected_past_end stack
  · exact injected_removed stack

end RequestLayer
