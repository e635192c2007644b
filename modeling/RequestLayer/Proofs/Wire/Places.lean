import Mathlib.Data.List.Nodup
import Mathlib.Data.List.Perm.Basic
import Mathlib.Data.List.Perm.Subperm
import RequestLayer.Proofs.Outcomes
import RequestLayer.Wire.Envelope

set_option autoImplicit false

namespace RequestLayer.Wire

theorem word_iff (value : Json) (word : Nat) :
    value.word? = some word ↔ value = .ofNat word ∧ word < Nat.pow 2 64 := by
  constructor
  · intro read
    unfold Json.word? at read
    split at read
    · rename_i integer
      split at read
      · rename_i bounds
        cases read
        have same : (integer.toNat : Int) = integer := Int.toNat_of_nonneg bounds.1
        exact ⟨congrArg (fun value => Json.number (.integer value)) same.symm, by omega⟩
      · cases read
    · cases read
  · rintro ⟨rfl, bound⟩
    unfold Json.word? Json.ofNat
    dsimp only
    rw [if_pos ⟨Int.natCast_nonneg word, Int.ofNat_lt.mpr bound⟩, Int.toNat_natCast]

theorem place_iff (firstId expected : Nat) (bounded : firstId + expected ≤ Nat.pow 2 64 - 1)
    (reply : Reply) (place : Nat) :
    place? firstId expected reply = some place ↔
      reply.id = some (.ofNat (firstId + place)) ∧ place < expected := by
  unfold place?
  constructor
  · intro found
    obtain ⟨value, has, found⟩ := Option.bind_eq_some_iff.mp found
    obtain ⟨word, reads, found⟩ := Option.bind_eq_some_iff.mp found
    obtain ⟨bounds, same⟩ := Option.ite_none_right_eq_some.mp found
    cases same
    rw [Nat.add_sub_cancel' bounds.1, ← ((word_iff value word).mp reads).1]
    exact ⟨has, bounds.2⟩
  · rintro ⟨has, bound⟩
    have small : firstId + place < Nat.pow 2 64 :=
      Nat.lt_of_lt_of_le (Nat.add_lt_add_left bound firstId) (Nat.le_trans bounded (Nat.sub_le _ _))
    have reads : (Json.ofNat (firstId + place)).word? = some (firstId + place) :=
      (word_iff _ _).mpr ⟨rfl, small⟩
    rw [has, Option.bind_eq_bind, Option.bind_some, reads, Option.bind_eq_bind, Option.bind_some,
      Nat.add_sub_cancel_left, if_pos ⟨Nat.le_add_right firstId place, bound⟩]

-- An item that holds a reply, with the place of that reply.
def Placed (firstId expected : Nat) (item : Json) (put : Reply × Nat) : Prop :=
  readReply item = .ok put.1 ∧ place? firstId expected put.1 = some put.2

def fill (places : List (Option Reply)) (puts : List (Reply × Nat)) : List (Option Reply) :=
  puts.foldl (fun places put => places.set put.2 (some put.1)) places

section Loop

variable (firstId expected : Nat)

theorem put_reply_iff (places next : List (Option Reply)) (item : Json) :
    putReply firstId expected places item = .ok next ↔
      ∃ put, Placed firstId expected item put ∧ next = places.set put.2 (some put.1) := by
  constructor
  · intro done
    obtain ⟨reply, reads, done⟩ := (bind_ok _ _ next).mp done
    cases found : place? firstId expected reply with
    | none => rw [found] at done; cases done
    | some place =>
        rw [found] at done
        cases done
        exact ⟨(reply, place), ⟨reads, found⟩, rfl⟩
  · rintro ⟨put, ⟨reads, found⟩, rfl⟩
    apply (bind_ok _ _ _).mpr
    refine ⟨put.1, reads, ?_⟩
    rw [found]
    rfl

theorem put_replies_iff (items : List Json) (places filled : List (Option Reply)) :
    items.foldlM (putReply firstId expected) places = .ok filled ↔
      ∃ puts, List.Forall₂ (Placed firstId expected) items puts ∧ fill places puts = filled := by
  induction items generalizing places with
  | nil =>
      constructor
      · rintro ⟨⟩
        exact ⟨[], .nil, rfl⟩
      · rintro ⟨_, ⟨⟩, rfl⟩
        rfl
  | cons item rest ih =>
      rw [List.foldlM_cons]
      constructor
      · intro done
        obtain ⟨next, stepped, done⟩ := (bind_ok _ _ filled).mp done
        obtain ⟨put, placed, rfl⟩ := (put_reply_iff firstId expected places next item).mp stepped
        obtain ⟨puts, others, rfl⟩ := (ih _).mp done
        exact ⟨put :: puts, .cons placed others, rfl⟩
      · rintro ⟨_, _ | ⟨placed, others⟩, rfl⟩
        exact (bind_ok _ _ _).mpr ⟨_, (put_reply_iff firstId expected places _ item).mpr
          ⟨_, placed, rfl⟩, (ih _).mpr ⟨_, others, rfl⟩⟩

end Loop

theorem filled_iff (number : Nat) (places : List (Option Reply)) (replies : List Reply) :
    filled number places = .ok replies ↔ places = replies.map some := by
  induction places generalizing number replies with
  | nil =>
      cases replies with
      | nil => exact ⟨fun _ => rfl, fun _ => rfl⟩
      | cons reply rest => exact ⟨nofun, nofun⟩
  | cons place rest ih =>
      cases place with
      | none =>
          refine ⟨nofun, fun same => ?_⟩
          cases replies <;> cases same
      | some reply =>
          constructor
          · intro done
            obtain ⟨others, following, same⟩ := (bind_ok _ _ replies).mp done
            cases same
            exact congrArg (some reply :: ·) ((ih (number + 1) others).mp following)
          · intro same
            cases replies with
            | nil => cases same
            | cons first others =>
                obtain ⟨⟨rfl⟩, tail⟩ := List.cons_eq_cons.mp same
                exact (bind_ok _ _ _).mpr ⟨others, (ih (number + 1) others).mpr tail, rfl⟩

section Filling

variable (places : List (Option Reply)) (puts : List (Reply × Nat))

theorem fill_length : (fill places puts).length = places.length := by
  induction puts generalizing places with
  | nil => rfl
  | cons put rest ih => exact (ih _).trans List.length_set

theorem fill_absent (place : Nat) (absent : place ∉ puts.map Prod.snd) :
    (fill places puts)[place]? = places[place]? := by
  induction puts generalizing places with
  | nil => rfl
  | cons put rest ih =>
      rw [List.map_cons, List.mem_cons, not_or] at absent
      rw [fill, List.foldl_cons]
      exact (ih _ absent.2).trans (List.getElem?_set_ne (Ne.symm absent.1))

theorem fill_present (distinct : (puts.map Prod.snd).Nodup) (put : Reply × Nat) (there : put ∈ puts)
    (bound : put.2 < places.length) : (fill places puts)[put.2]? = some (some put.1) := by
  induction puts generalizing places with
  | nil => cases there
  | cons first rest ih =>
      rw [List.map_cons, List.nodup_cons] at distinct
      rw [fill, List.foldl_cons]
      rcases List.mem_cons.mp there with rfl | later
      · exact (fill_absent _ rest _ distinct.1).trans (List.getElem?_set_self bound)
      · apply ih _ distinct.2 later
        rw [List.length_set]
        exact bound

end Filling

theorem zip_places_nodup (replies : List Reply) : (replies.zipIdx.map Prod.snd).Nodup := by
  rw [List.zipIdx_map_snd]
  exact List.nodup_range'

-- With as many replies as places, no place is taken twice if each one is taken, and the other way
-- round.
theorem places_distinct (puts : List (Reply × Nat))
    (taken : ∀ place, place < puts.length → place ∈ puts.map Prod.snd) :
    (puts.map Prod.snd).Nodup := by
  have within : (List.range puts.length).Subperm (puts.map Prod.snd) :=
    List.subperm_of_subset List.nodup_range fun place member => taken place (List.mem_range.mp member)
  have all : (List.range puts.length).Perm (puts.map Prod.snd) := by
    apply within.perm_of_length_le
    simp only [List.length_map, List.length_range, Nat.le_refl]
  exact all.nodup_iff.mp List.nodup_range

theorem places_taken (puts : List (Reply × Nat)) (bounds : ∀ put ∈ puts, put.2 < puts.length)
    (distinct : (puts.map Prod.snd).Nodup) : (puts.map Prod.snd).Perm (List.range puts.length) := by
  have within : (puts.map Prod.snd).Subperm (List.range puts.length) := by
    apply List.subperm_of_subset distinct
    intro place member
    obtain ⟨put, there, rfl⟩ := List.mem_map.mp member
    exact List.mem_range.mpr (bounds put there)
  apply within.perm_of_length_le
  simp only [List.length_map, List.length_range, Nat.le_refl]

section Full

variable (expected : Nat) (puts : List (Reply × Nat)) (replies : List Reply)

theorem permuted_of_full (count : puts.length = expected) (within : ∀ put ∈ puts, put.2 < expected)
    (full : fill (List.replicate expected none) puts = replies.map some) :
    puts.Perm replies.zipIdx := by
  have counted : replies.length = expected := by
    rw [← List.length_map (f := some), ← full, fill_length, List.length_replicate]
  have taken : ∀ place, place < expected → place ∈ puts.map Prod.snd := by
    intro place bound
    by_contra absent
    have hole := fill_absent (List.replicate expected none) puts place absent
    rw [full, List.getElem?_map, List.getElem?_replicate_of_lt bound,
      List.getElem?_eq_getElem (counted ▸ bound)] at hole
    cases hole
  have distinct := places_distinct puts (count ▸ taken)
  have holds : ∀ put ∈ puts, replies[put.2]? = some put.1 := by
    intro put there
    have present := fill_present (List.replicate expected none) puts distinct put there
      (List.length_replicate.symm ▸ within put there)
    rw [full, List.getElem?_map] at present
    obtain ⟨reply, has, same⟩ := Option.map_eq_some_iff.mp present
    cases same
    exact has
  apply (List.perm_ext_iff_of_nodup (List.Nodup.of_map _ distinct)
    (List.Nodup.of_map _ (zip_places_nodup replies))).mpr
  rintro ⟨reply, place⟩
  rw [List.mk_mem_zipIdx_iff_getElem?]
  constructor
  · exact holds (reply, place)
  · intro has
    obtain ⟨bound, _⟩ := List.getElem?_eq_some_iff.mp has
    obtain ⟨put, there, rfl⟩ := List.mem_map.mp (taken place (counted ▸ bound))
    have same := (holds put there).symm.trans has
    cases same
    exact there

theorem full_of_permuted (count : puts.length = expected) (permuted : puts.Perm replies.zipIdx) :
    fill (List.replicate expected none) puts = replies.map some := by
  have distinct : (puts.map Prod.snd).Nodup :=
    (permuted.map Prod.snd).nodup_iff.mpr (zip_places_nodup replies)
  have counted : replies.length = expected := by
    rw [← count, permuted.length_eq, List.length_zipIdx]
  apply List.ext_getElem?
  intro place
  rcases Nat.lt_or_ge place expected with bound | beyond
  · have has := List.getElem?_eq_getElem (l := replies) (counted ▸ bound)
    have there := permuted.mem_iff.mpr (List.mk_mem_zipIdx_iff_getElem?.mpr has)
    have present := fill_present (List.replicate expected none) puts distinct _ there
      (List.length_replicate.symm ▸ bound)
    rw [present, List.getElem?_map, has]
    rfl
  · rw [List.getElem?_eq_none, List.getElem?_eq_none]
    · rw [List.length_map, counted]
      exact beyond
    · rw [fill_length, List.length_replicate]
      exact beyond

theorem fill_full (count : puts.length = expected) (within : ∀ put ∈ puts, put.2 < expected) :
    fill (List.replicate expected none) puts = replies.map some ↔ puts.Perm replies.zipIdx :=
  ⟨permuted_of_full expected puts replies count within, full_of_permuted expected puts replies count⟩

end Full

end RequestLayer.Wire
