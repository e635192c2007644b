import RequestLayer.Proofs.Wire.Places

set_option autoImplicit false

namespace RequestLayer.Wire

def Decodes (item : Json) (reply : Reply) : Prop := readReply item = .ok reply

-- As many items as calls, each of them a reply with the id of a call, and no two with the same id.
structure Complete (firstId expected : Nat) (items : List Json) (decoded : List Reply) : Prop where
  count : items.length = expected
  decodes : List.Forall₂ Decodes items decoded
  within : ∀ reply ∈ decoded, ∃ id, firstId ≤ id ∧ id < firstId + expected ∧
    reply.id = some (.ofNat id)
  distinct : (decoded.map Reply.id).Nodup

structure InOrder (firstId : Nat) (decoded replies : List Reply) : Prop where
  permuted : replies.Perm decoded
  numbered : ∀ (place : Nat) reply, replies[place]? = some reply →
    reply.id = some (.ofNat (firstId + place))

def Repeats (items : List Json) : Prop :=
  ∃ (first second : Nat) (one other : Json) (reply again : Reply), first < second ∧
    items[first]? = some one ∧ items[second]? = some other ∧
    Decodes one reply ∧ Decodes other again ∧ reply.id = again.id

-- A server that replies to every envelope, under the id of the envelope.
def RepliesToAll (server : Json → Json) (envelopes : List Json) : Prop :=
  ∀ envelope ∈ envelopes, ∃ reply, Decodes (server envelope) reply ∧ reply.id = envelope.field? "id"

theorem placed_iff (firstId expected : Nat) (items : List Json) (puts : List (Reply × Nat)) :
    List.Forall₂ (Placed firstId expected) items puts ↔
      List.Forall₂ Decodes items (puts.map Prod.fst) ∧
        ∀ put ∈ puts, place? firstId expected put.1 = some put.2 := by
  rw [List.forall₂_map_right_iff]
  constructor
  · intro placed
    refine ⟨placed.imp fun _ _ => And.left, ?_⟩
    exact ((List.forall₂_and_left _ _).mp (placed.flip.imp fun _ _ both => ⟨both.2, both.1⟩)).1
  · rintro ⟨decodes, found⟩
    have together := (List.forall₂_and_left _ _).mpr ⟨found, decodes.flip⟩
    exact together.flip.imp fun _ _ both => ⟨both.2, both.1⟩

theorem ids_injective (firstId : Nat) :
    Function.Injective fun place => some (Json.ofNat (firstId + place)) := by
  intro one other same
  have integers := Number.integer.inj (Json.number.inj (Option.some.inj same))
  exact Nat.add_left_cancel (Int.ofNat.inj integers)

theorem permuted_map {α β : Type} (f : α → β) (values : List α) (others : List β)
    (permuted : others.Perm (values.map f)) :
    ∃ sorted : List α, others = sorted.map f ∧ sorted.Perm values :=
  Eq.mpr (congrFun (congrFun (List.eq_map_comp_perm f) others) values) permuted

theorem ordered_looped (firstId expected : Nat) (items : List Json) (count : items.length = expected) :
    orderedReplies firstId expected (.array items) =
      (items.foldlM (putReply firstId expected) (List.replicate expected none)).bind (filled 0) := by
  unfold orderedReplies
  dsimp only
  rw [if_neg (not_not_intro count)]
  rfl

theorem ordered_count (firstId expected : Nat) (items : List Json) (replies : List Reply)
    (done : orderedReplies firstId expected (.array items) = .ok replies) :
    items.length = expected := by
  by_contra miscount
  unfold orderedReplies at done
  dsimp only at done
  rw [if_pos miscount] at done
  cases done

theorem ordered_array (firstId expected : Nat) (body : Json) (replies : List Reply)
    (done : orderedReplies firstId expected body = .ok replies) : ∃ items, body = .array items := by
  unfold orderedReplies at done
  split at done
  · exact ⟨_, rfl⟩
  · obtain ⟨reply, _, done⟩ := (bind_ok _ _ replies).mp done
    split at done <;> cases done

theorem pairs_exist {α β : Type} (relation : α → β → Prop) (values : List α)
    (related : ∀ value ∈ values, ∃ other, relation value other) :
    ∃ pairs : List (α × β), values = pairs.map Prod.fst ∧ ∀ pair ∈ pairs, relation pair.1 pair.2 := by
  induction values with
  | nil => exact ⟨[], rfl, nofun⟩
  | cons value rest ih =>
      obtain ⟨other, first⟩ := related value List.mem_cons_self
      obtain ⟨pairs, rfl, others⟩ := ih fun value member =>
        related value (List.mem_cons_of_mem _ member)
      exact ⟨(value, other) :: pairs, rfl, List.forall_mem_cons.mpr ⟨first, others⟩⟩

theorem decoded_at (items : List Json) (decoded : List Reply)
    (decodes : List.Forall₂ Decodes items decoded) (place : Nat) (item : Json) (reply : Reply)
    (has : items[place]? = some item) (reads : Decodes item reply) : decoded[place]? = some reply := by
  obtain ⟨bound, rfl⟩ := List.getElem?_eq_some_iff.mp has
  have inside : place < decoded.length := decodes.length_eq ▸ bound
  have same := Except.ok.inj ((decodes.get bound inside).symm.trans reads)
  exact List.getElem?_eq_some_iff.mpr ⟨inside, same⟩

section Order

variable (firstId expected : Nat) (bounded : firstId + expected ≤ Nat.pow 2 64 - 1)

include bounded

theorem ordered_array_iff (items : List Json) (replies : List Reply) :
    orderedReplies firstId expected (.array items) = .ok replies ↔ items.length = expected ∧
      ∃ puts, List.Forall₂ (Placed firstId expected) items puts ∧ puts.Perm replies.zipIdx := by
  have full (puts : List (Reply × Nat)) (placed : List.Forall₂ (Placed firstId expected) items puts)
      (count : items.length = expected) :
      fill (List.replicate expected none) puts = replies.map some ↔ puts.Perm replies.zipIdx := by
    apply fill_full expected puts replies (placed.length_eq.symm.trans count)
    intro put there
    have found := ((placed_iff firstId expected items puts).mp placed).2 put there
    exact ((place_iff firstId expected bounded put.1 put.2).mp found).2
  constructor
  · intro done
    have count := ordered_count firstId expected items replies done
    rw [ordered_looped firstId expected items count] at done
    obtain ⟨places, looped, done⟩ := (bind_ok _ _ replies).mp done
    obtain ⟨puts, placed, rfl⟩ := (put_replies_iff firstId expected items _ places).mp looped
    exact ⟨count, puts, placed, (full puts placed count).mp ((filled_iff 0 _ replies).mp done)⟩
  · rintro ⟨count, puts, placed, permuted⟩
    rw [ordered_looped firstId expected items count]
    exact (bind_ok _ _ _).mpr ⟨_, (put_replies_iff firstId expected items _ _).mpr
      ⟨puts, placed, rfl⟩, (filled_iff 0 _ replies).mpr ((full puts placed count).mpr permuted)⟩

theorem distinct_iff (puts : List (Reply × Nat))
    (found : ∀ put ∈ puts, place? firstId expected put.1 = some put.2) :
    ((puts.map Prod.fst).map Reply.id).Nodup ↔ (puts.map Prod.snd).Nodup := by
  have ids : (puts.map Prod.fst).map Reply.id =
      (puts.map Prod.snd).map fun place => some (Json.ofNat (firstId + place)) := by
    rw [List.map_map, List.map_map]
    apply List.map_congr_left
    intro put there
    exact ((place_iff firstId expected bounded put.1 put.2).mp (found put there)).1
  rw [ids]
  exact List.nodup_map_iff (ids_injective firstId)

theorem ordered_complete (items : List Json) (replies : List Reply)
    (done : orderedReplies firstId expected (.array items) = .ok replies) :
    ∃ decoded, Complete firstId expected items decoded ∧ InOrder firstId decoded replies := by
  obtain ⟨count, puts, placed, permuted⟩ :=
    (ordered_array_iff firstId expected bounded items replies).mp done
  obtain ⟨decodes, found⟩ := (placed_iff firstId expected items puts).mp placed
  have ids : ∀ put ∈ puts, put.1.id = some (.ofNat (firstId + put.2)) ∧ put.2 < expected :=
    fun put there => (place_iff firstId expected bounded put.1 put.2).mp (found put there)
  refine ⟨puts.map Prod.fst, ⟨count, decodes, ?_, ?_⟩, ?_, ?_⟩
  · intro reply there
    obtain ⟨put, member, rfl⟩ := List.mem_map.mp there
    obtain ⟨has, bound⟩ := ids put member
    exact ⟨firstId + put.2, Nat.le_add_right _ _, Nat.add_lt_add_left bound firstId, has⟩
  · apply (distinct_iff firstId expected bounded puts found).mpr
    exact (permuted.map Prod.snd).nodup_iff.mpr (zip_places_nodup replies)
  · have same := (permuted.map Prod.fst).symm
    rw [List.zipIdx_map_fst] at same
    exact same
  · intro place reply has
    exact (ids _ (permuted.mem_iff.mpr (List.mk_mem_zipIdx_iff_getElem?.mpr has))).1

theorem complete_ordered (items : List Json) (decoded replies : List Reply)
    (complete : Complete firstId expected items decoded) (order : InOrder firstId decoded replies) :
    orderedReplies firstId expected (.array items) = .ok replies := by
  have counted : replies.length = expected := by
    rw [order.permuted.length_eq, ← complete.decodes.length_eq, complete.count]
  have permuted : decoded.Perm (replies.zipIdx.map Prod.fst) := by
    rw [List.zipIdx_map_fst]
    exact order.permuted.symm
  obtain ⟨puts, rfl, sorted⟩ := permuted_map Prod.fst replies.zipIdx decoded permuted
  apply (ordered_array_iff firstId expected bounded items replies).mpr
  refine ⟨complete.count, puts, (placed_iff firstId expected items puts).mpr
    ⟨complete.decodes, ?_⟩, sorted⟩
  rintro ⟨reply, place⟩ there
  have has := List.mk_mem_zipIdx_iff_getElem?.mp (sorted.mem_iff.mp there)
  obtain ⟨bound, _⟩ := List.getElem?_eq_some_iff.mp has
  exact (place_iff firstId expected bounded reply place).mpr
    ⟨order.numbered place reply has, counted ▸ bound⟩

theorem complete_places (items : List Json) (decoded : List Reply)
    (complete : Complete firstId expected items decoded) :
    ∃ puts : List (Reply × Nat), decoded = puts.map Prod.fst ∧
      (∀ put ∈ puts, place? firstId expected put.1 = some put.2) ∧
      (puts.map Prod.snd).Perm (List.range expected) := by
  have places : ∀ reply ∈ decoded, ∃ place, place? firstId expected reply = some place := by
    intro reply there
    obtain ⟨id, least, bound, has⟩ := complete.within reply there
    refine ⟨id - firstId, (place_iff firstId expected bounded reply _).mpr ⟨?_, by omega⟩⟩
    rw [Nat.add_sub_cancel' least]
    exact has
  obtain ⟨puts, rfl, found⟩ := pairs_exist _ decoded places
  have counted : puts.length = expected := by
    rw [← List.length_map (f := Prod.fst), ← complete.decodes.length_eq, complete.count]
  refine ⟨puts, rfl, found, ?_⟩
  rw [← counted]
  apply places_taken
  · intro put there
    rw [counted]
    exact ((place_iff firstId expected bounded put.1 put.2).mp (found put there)).2
  · exact (distinct_iff firstId expected bounded puts found).mp complete.distinct

theorem order_exists (items : List Json) (decoded : List Reply)
    (complete : Complete firstId expected items decoded) :
    ∃ replies, InOrder firstId decoded replies := by
  obtain ⟨puts, rfl, found, all⟩ := complete_places firstId expected bounded items decoded complete
  obtain ⟨sorted, inOrder, permuted⟩ := permuted_map Prod.snd puts (List.range expected) all.symm
  refine ⟨sorted.map Prod.fst, permuted.map Prod.fst, ?_⟩
  intro place reply has
  rw [List.getElem?_map] at has
  obtain ⟨put, stands, rfl⟩ := Option.map_eq_some_iff.mp has
  have number : (List.range expected)[place]? = some put.2 := by
    rw [inOrder, List.getElem?_map, stands]
    rfl
  obtain ⟨_, same⟩ := List.getElem?_eq_some_iff.mp number
  rw [List.getElem_range] at same
  rw [same]
  have there := permuted.mem_iff.mp (List.mem_of_getElem? stands)
  exact ((place_iff firstId expected bounded put.1 put.2).mp (found put there)).1

theorem ordered_iff_in_order (items : List Json) (decoded replies : List Reply)
    (complete : Complete firstId expected items decoded) :
    orderedReplies firstId expected (.array items) = .ok replies ↔ InOrder firstId decoded replies := by
  constructor
  · intro done
    obtain ⟨others, completed, order⟩ := ordered_complete firstId expected bounded items replies done
    have same : decoded = others := by
      apply List.right_unique_forall₂' _ complete.decodes completed.decodes
      intro item one other decodes again
      exact Except.ok.inj (decodes.symm.trans again)
    exact same ▸ order
  · exact complete_ordered firstId expected bounded items decoded replies complete

theorem ordered_permuted (items others : List Json) (permuted : items.Perm others)
    (replies : List Reply) (done : orderedReplies firstId expected (.array items) = .ok replies) :
    orderedReplies firstId expected (.array others) = .ok replies := by
  obtain ⟨count, puts, placed, sorted⟩ :=
    (ordered_array_iff firstId expected bounded items replies).mp done
  obtain ⟨moved, placedToo, same⟩ := List.perm_comp_forall₂ permuted.symm placed
  exact (ordered_array_iff firstId expected bounded others replies).mpr
    ⟨permuted.length_eq.symm.trans count, moved, placedToo, same.trans sorted⟩

theorem repeated_refused (items : List Json) (repeats : Repeats items) :
    ∃ fault, orderedReplies firstId expected (.array items) = .error fault := by
  obtain ⟨first, second, one, other, reply, again, apart, here, there, reads, readsToo, same⟩ :=
    repeats
  cases done : orderedReplies firstId expected (.array items) with
  | error fault => exact ⟨fault, rfl⟩
  | ok replies =>
      obtain ⟨decoded, complete, _⟩ := ordered_complete firstId expected bounded items replies done
      have early := decoded_at items decoded complete.decodes first one reply here reads
      have late := decoded_at items decoded complete.decodes second other again there readsToo
      obtain ⟨inside, _⟩ := List.getElem?_eq_some_iff.mp late
      absurd List.nodup_iff_getElem?_ne_getElem?.mp complete.distinct first second apart
        (List.length_map Reply.id ▸ inside)
      rw [List.getElem?_map, List.getElem?_map, early, late]
      exact congrArg some same

theorem in_bounds (earlier : List Json) (item : Json) (places : List (Option Reply)) (put : Reply × Nat)
    (looped : earlier.foldlM (putReply firstId expected) (List.replicate expected none) = .ok places)
    (placed : Placed firstId expected item put) :
    put.2 < places.length ∧
      putReply firstId expected places item = .ok (places.set put.2 (some put.1)) := by
  obtain ⟨puts, _, rfl⟩ := (put_replies_iff firstId expected earlier _ places).mp looped
  constructor
  · rw [fill_length, List.length_replicate]
    exact ((place_iff firstId expected bounded put.1 put.2).mp placed.2).2
  · exact (put_reply_iff firstId expected _ _ item).mpr ⟨put, placed, rfl⟩

end Order

section Server

theorem envelope_at (firstId : Nat) (calls : List Call) (place : Nat) :
    (batchEnvelopes firstId calls)[place]? = calls[place]?.map (envelope (firstId + place)) := by
  induction calls generalizing firstId place with
  | nil => rfl
  | cons call rest ih =>
      cases place with
      | zero => rfl
      | succ place =>
          rw [batchEnvelopes, List.getElem?_cons_succ, List.getElem?_cons_succ, ih,
            Nat.add_right_comm, Nat.add_assoc]

theorem envelopes_length (firstId : Nat) (calls : List Call) :
    (batchEnvelopes firstId calls).length = calls.length := by
  induction calls generalizing firstId with
  | nil => rfl
  | cons call rest ih => exact congrArg (· + 1) (ih (firstId + 1))

theorem envelope_id (id : Nat) (call : Call) : (envelope id call).field? "id" = some (.ofNat id) := by
  rfl

theorem server_ordered (firstId : Nat) (calls : List Call)
    (bounded : firstId + calls.length ≤ Nat.pow 2 64 - 1) (server : Json → Json)
    (answers : RepliesToAll server (batchEnvelopes firstId calls)) :
    ∃ replies, replies.length = calls.length ∧
      orderedReplies firstId calls.length
        (.array ((batchEnvelopes firstId calls).map server)) = .ok replies ∧
      ∀ (place : Nat) call, calls[place]? = some call → ∃ reply, replies[place]? = some reply ∧
        Decodes (server (envelope (firstId + place) call)) reply := by
  obtain ⟨pairs, envelopes, answered⟩ := pairs_exist _ (batchEnvelopes firstId calls) answers
  have envelope_of (place : Nat) : pairs[place]?.map Prod.fst =
      calls[place]?.map (envelope (firstId + place)) := by
    rw [← envelope_at, envelopes, List.getElem?_map]
  have counted : pairs.length = calls.length := by
    rw [← envelopes_length firstId calls, envelopes, List.length_map]
  refine ⟨pairs.map Prod.snd, ?_, ?_, ?_⟩
  · rw [List.length_map, counted]
  · apply (ordered_array_iff firstId calls.length bounded _ _).mpr
    refine ⟨?_, (pairs.map Prod.snd).zipIdx, (placed_iff firstId calls.length _ _).mpr ⟨?_, ?_⟩, .refl _⟩
    · rw [envelopes, List.length_map, List.length_map, counted]
    · rw [envelopes, List.zipIdx_map_fst, List.map_map, List.forall₂_map_left_iff,
        List.forall₂_map_right_iff, List.forall₂_same]
      exact fun pair member => (answered pair member).1
    · rintro ⟨reply, place⟩ there
      have has := List.mk_mem_zipIdx_iff_getElem?.mp there
      rw [List.getElem?_map] at has
      obtain ⟨pair, stands, rfl⟩ := Option.map_eq_some_iff.mp has
      obtain ⟨bound, _⟩ := List.getElem?_eq_some_iff.mp stands
      have sent := envelope_of place
      rw [stands] at sent
      obtain ⟨call, _, same⟩ := Option.map_eq_some_iff.mp sent.symm
      have id := (answered pair (List.mem_of_getElem? stands)).2
      rw [← same, envelope_id] at id
      exact (place_iff firstId calls.length bounded pair.2 place).mpr ⟨id, counted ▸ bound⟩
  · intro place call has
    have stands := envelope_of place
    rw [has] at stands
    obtain ⟨pair, stands, same⟩ := Option.map_eq_some_iff.mp stands
    refine ⟨pair.2, ?_, ?_⟩
    · rw [List.getElem?_map, stands]
      rfl
    · rw [← same]
      exact (answered pair (List.mem_of_getElem? stands)).1

end Server

-- Which bodies have ordered replies, and which these are; the same for the items in any order; a fault
-- where two replies have one id; a place for every reply that the loop puts; and so, from a server that
-- replies to every envelope, the reply to each call.
theorem ordered_replies_exact (firstId expected : Nat)
    (bounded : firstId + expected ≤ Nat.pow 2 64 - 1) :
    (∀ body, (∃ replies, orderedReplies firstId expected body = .ok replies) ↔
      ∃ items decoded, body = .array items ∧ Complete firstId expected items decoded) ∧
    (∀ items decoded replies, Complete firstId expected items decoded →
      (orderedReplies firstId expected (.array items) = .ok replies ↔
        InOrder firstId decoded replies)) ∧
    (∀ items others, items.Perm others → ∀ replies,
      orderedReplies firstId expected (.array items) = .ok replies ↔
        orderedReplies firstId expected (.array others) = .ok replies) ∧
    (∀ items, Repeats items →
      ∃ fault, orderedReplies firstId expected (.array items) = .error fault) ∧
    (∀ (earlier : List Json) item places put,
      earlier.foldlM (putReply firstId expected) (List.replicate expected none) = .ok places →
      Placed firstId expected item put → put.2 < places.length ∧
        putReply firstId expected places item = .ok (places.set put.2 (some put.1))) ∧
    ∀ calls server items, calls.length = expected →
      RepliesToAll server (batchBody firstId calls).items →
      items.Perm ((batchBody firstId calls).items.map server) →
      ∃ replies, orderedReplies firstId expected (.array items) = .ok replies ∧
        replies.length = expected ∧
        ∀ (place : Nat) call, calls[place]? = some call → ∃ reply, replies[place]? = some reply ∧
          Decodes (server (envelope (firstId + place) call)) reply := by
  refine ⟨?_, ordered_iff_in_order firstId expected bounded, ?_,
    repeated_refused firstId expected bounded, in_bounds firstId expected bounded, ?_⟩
  · intro body
    constructor
    · rintro ⟨replies, done⟩
      obtain ⟨items, rfl⟩ := ordered_array firstId expected body replies done
      obtain ⟨decoded, complete, _⟩ := ordered_complete firstId expected bounded items replies done
      exact ⟨items, decoded, rfl, complete⟩
    · rintro ⟨items, decoded, rfl, complete⟩
      obtain ⟨replies, order⟩ := order_exists firstId expected bounded items decoded complete
      exact ⟨replies, complete_ordered firstId expected bounded items decoded replies complete order⟩
  · intro items others permuted replies
    exact ⟨ordered_permuted firstId expected bounded items others permuted replies,
      ordered_permuted firstId expected bounded others items permuted.symm replies⟩
  · rintro calls server items rfl answers arrived
    obtain ⟨replies, counted, done, answered⟩ := server_ordered firstId calls bounded server answers
    exact ⟨replies, ordered_permuted firstId calls.length bounded _ items arrived.symm replies done,
      counted, answered⟩

-- A server that answers with the method, and two answers that arrive in reverse order.
def echo (envelope : Json) : Json :=
  .object [("id", envelope.fieldAt "id"), ("result", envelope.fieldAt "method")]

theorem ordered_replies_exact_reversed :
    7 + 2 ≤ Nat.pow 2 64 - 1 ∧ ∃ replies,
      orderedReplies 7 2 (.array [echo (envelope 8 ⟨"eth_gasPrice", []⟩),
        echo (envelope 7 ⟨"eth_chainId", []⟩)]) = .ok replies ∧
      replies.length = 2 ∧ ∃ reply, replies[0]? = some reply ∧
        Decodes (echo (envelope 7 ⟨"eth_chainId", []⟩)) reply := by
  have bounded : 7 + 2 ≤ Nat.pow 2 64 - 1 := by decide
  have answers : RepliesToAll echo
      (batchBody 7 [⟨"eth_chainId", []⟩, ⟨"eth_gasPrice", []⟩]).items := by
    rintro envelope (_ | ⟨_, _ | ⟨_, ⟨⟩⟩⟩)
    · exact ⟨_, rfl, rfl⟩
    · exact ⟨_, rfl, rfl⟩
  obtain ⟨replies, done, counted, answered⟩ := (ordered_replies_exact 7 2 bounded).2.2.2.2.2
    _ echo _ rfl answers (List.Perm.swap _ _ _)
  exact ⟨bounded, replies, done, counted, answered 0 _ rfl⟩

end RequestLayer.Wire
