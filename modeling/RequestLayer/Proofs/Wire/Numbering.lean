import Mathlib.Algebra.GroupWithZero.Nat
import RequestLayer.Proofs.Wire.Exchanges
import RequestLayer.Proofs.Wire.Ordering

set_option autoImplicit false

namespace RequestLayer.Wire

-- First ids, given the numbers of ids that are taken from `first` on. After the last word comes zero.
def firstIds : Nat → List Nat → List Nat
  | _, [] => []
  | first, size :: rest => first % Nat.pow 2 64 :: firstIds (first + size) rest

theorem first_ids_append (first : Nat) (sizes : List Nat) (size : Nat) :
    firstIds first (sizes ++ [size]) =
      firstIds first sizes ++ [(first + sizes.sum) % Nat.pow 2 64] := by
  induction sizes generalizing first with
  | nil => rfl
  | cons head rest ih =>
      rw [List.cons_append, firstIds, firstIds, ih, List.sum_cons, Nat.add_assoc]
      rfl

-- Exchanges have taken ids one after the other, and outcomes are what answers hold.
structure Line.Sound {ε : Type} (line : Line ε) : Prop where
  next : line.session.nextId = (1 + (line.exchanges.map Exchange.size).sum) % Nat.pow 2 64
  numbered : line.exchanges.map Exchange.firstId =
    firstIds 1 (line.exchanges.map Exchange.size)
  outcomes : ∀ exchange ∈ line.exchanges, ∀ outcome, exchange.outcome = some outcome →
    ∃ answer : Except Fault Json, outcome = answer.bind (exchange.request.read exchange.firstId)

section Soundness

variable {ε : Type}

theorem start_sound (server : ε) : (Line.start server).Sound := ⟨rfl, rfl, nofun⟩

theorem begun_sound (line : Line ε) (request : Request) (sound : line.Sound) :
    (line.begun request).2.Sound where
  next := by
    change (line.session.nextId + request.calls.length) % Nat.pow 2 64 =
      (1 + ((line.exchanges ++ [Exchange.underway request _]).map Exchange.size).sum) % Nat.pow 2 64
    rw [sound.next, List.map_append, List.sum_append, ← Nat.add_assoc, Nat.mod_add_mod]
    rfl
  numbered := by
    change (line.exchanges ++ [Exchange.underway request line.session.nextId]).map Exchange.firstId =
      firstIds 1 ((line.exchanges ++ [Exchange.underway request line.session.nextId]).map Exchange.size)
    rw [List.map_append, List.map_append, List.map_singleton, List.map_singleton, first_ids_append,
      sound.numbered, sound.next]
    rfl
  outcomes exchange member outcome has := by
    rcases List.mem_append.mp member with old | last
    · exact sound.outcomes exchange old outcome has
    · rw [List.mem_singleton.mp last] at has
      cases has

theorem ended_sound (server : Server ε) (line : Line ε) (number : Nat) (sound : line.Sound) :
    (line.ended server number).2.Sound := by
  unfold Line.ended
  cases found : line.exchanges[number]? with
  | none => exact sound
  | some exchange =>
      dsimp only
      generalize ended : Except.bind _ (exchange.request.read exchange.firstId) = outcome
      obtain ⟨bound, same⟩ := List.getElem?_eq_some_iff.mp found
      have still {α : Type} (part : Exchange → α)
          (kept : part { exchange with outcome := some outcome } = part exchange) :
          (line.exchanges.set number { exchange with outcome := some outcome }).map part =
            line.exchanges.map part := by
        rw [List.map_set, kept, ← same, ← List.getElem_map part (h := by simpa using bound),
          List.set_getElem_self]
      refine ⟨?_, ?_, ?_⟩
      · rw [still Exchange.size rfl]
        exact sound.next
      · rw [still Exchange.size rfl, still Exchange.firstId rfl]
        exact sound.numbered
      · intro other member last has
        rcases List.mem_or_eq_of_mem_set member with old | rfl
        · exact sound.outcomes other old last has
        · cases has
          exact ⟨_, ended.symm⟩

theorem moves_sound (server : Server ε) (line next : Line ε) (moves : Moves server line next)
    (sound : line.Sound) : next.Sound := by
  cases moves with
  | begins request => exact begun_sound line request sound
  | ends number => exact ended_sound server line number sound

theorem served_sound (line : Line ε) (change : ε → ε) (sound : line.Sound) :
    (line.served change).Sound := ⟨sound.next, sound.numbered, sound.outcomes⟩

end Soundness

def idOf (envelope : Json) : Option Nat := (envelope.field? "id").bind Json.word?

theorem id_of_envelope (id : Nat) (call : Call) (bound : id < Nat.pow 2 64) :
    idOf (envelope id call) = some id := by
  unfold idOf
  rw [envelope_id, Option.bind_some]
  exact (word_iff _ id).mpr ⟨rfl, bound⟩

namespace Exchange

variable (exchange : Exchange)

theorem envelope_of_call (place : Nat) :
    exchange.envelopes[place]? =
      exchange.request.calls[place]?.map (envelope (exchange.firstId + place)) := by
  obtain ⟨request, firstId, outcome⟩ := exchange
  cases request with
  | single call => cases place <;> rfl
  | batch calls => exact envelope_at firstId calls place

theorem envelopes_count : exchange.envelopes.length = exchange.size := by
  obtain ⟨request, firstId, outcome⟩ := exchange
  cases request with
  | single call => rfl
  | batch calls => exact envelopes_length firstId calls

theorem ids (bounded : exchange.firstId + exchange.size ≤ Nat.pow 2 64) :
    exchange.envelopes.map idOf = (List.range' exchange.firstId exchange.size).map some := by
  apply List.ext_getElem?
  intro place
  rw [List.getElem?_map, List.getElem?_map, envelope_of_call]
  rcases Nat.lt_or_ge place exchange.size with inside | past
  · rw [List.getElem?_eq_getElem inside, List.getElem?_range' inside, Nat.one_mul]
    exact congrArg some (id_of_envelope _ _ (by omega))
  · rw [List.getElem?_eq_none past, List.getElem?_eq_none (by rwa [List.length_range'])]
    rfl

end Exchange

section Numbers

variable (exchanges : List Exchange) (first : Nat)
  (numbered : exchanges.map Exchange.firstId = firstIds first (exchanges.map Exchange.size))
  (bounded : first + (exchanges.map Exchange.size).sum < Nat.pow 2 64)

include numbered bounded

theorem exchanges_ids :
    (exchanges.flatMap Exchange.envelopes).map idOf =
        (List.range' first (exchanges.map Exchange.size).sum).map some ∧
      ∀ exchange ∈ exchanges, exchange.firstId + exchange.size < Nat.pow 2 64 := by
  induction exchanges generalizing first with
  | nil => exact ⟨rfl, nofun⟩
  | cons exchange rest ih =>
      rw [List.map_cons, List.map_cons, firstIds] at numbered
      rw [List.map_cons, List.sum_cons] at bounded
      obtain ⟨own, others⟩ := List.cons_eq_cons.mp numbered
      rw [Nat.mod_eq_of_lt (by omega)] at own
      obtain ⟨following, small⟩ := ih (first + exchange.size) others (by omega)
      have start : exchange.firstId + exchange.size < Nat.pow 2 64 := by omega
      constructor
      · rw [List.flatMap_cons, List.map_append, following, exchange.ids (by omega), own,
          List.map_cons, List.sum_cons, ← List.map_append, ← List.range'_append_1]
      · exact List.forall_mem_cons.mpr ⟨start, small⟩

end Numbers

theorem envelopes_total {ε : Type} (line : Line ε) :
    line.envelopes.length = (line.exchanges.map Exchange.size).sum := by
  unfold Line.envelopes
  rw [List.length_flatMap]
  exact congrArg List.sum (List.map_congr_left fun exchange _ => exchange.envelopes_count)

theorem ordered_ids (firstId : Nat) (calls : List Call) (body : Json) (replies : List Reply)
    (bounded : firstId + calls.length ≤ Nat.pow 2 64 - 1)
    (done : orderedReplies firstId calls.length body = .ok replies) :
    replies.map Reply.id = (batchEnvelopes firstId calls).map (·.field? "id") := by
  obtain ⟨items, rfl⟩ := ordered_array firstId calls.length body replies done
  obtain ⟨decoded, complete, order⟩ :=
    ordered_complete firstId calls.length bounded items replies done
  have counted : replies.length = calls.length := by
    rw [order.permuted.length_eq, ← complete.decodes.length_eq, complete.count]
  apply List.ext_getElem?
  intro place
  rw [List.getElem?_map, List.getElem?_map, envelope_at]
  rcases Nat.lt_or_ge place calls.length with inside | past
  · have has := List.getElem?_eq_getElem (l := replies) (counted ▸ inside)
    rw [has, List.getElem?_eq_getElem inside]
    exact congrArg some (order.numbered place _ has)
  · rw [List.getElem?_eq_none (counted ▸ past), List.getElem?_eq_none past]
    rfl

-- The ids that exchanges take while words last, and what their replies are ordered by.
theorem line_numbered {ε : Type} (line : Line ε) (sound : line.Sound)
    (bounded : line.envelopes.length < Nat.pow 2 64 - 1) :
    line.envelopes.map idOf = (List.range' 1 line.envelopes.length).map some ∧
    (line.envelopes.map idOf).Nodup ∧
    ∀ exchange ∈ line.exchanges,
      (∀ place : Nat, exchange.envelopes[place]? =
        exchange.request.calls[place]?.map (envelope (exchange.firstId + place))) ∧
      exchange.envelopes.map idOf =
        (List.range' exchange.firstId exchange.request.calls.length).map some ∧
      ∀ calls outcome, exchange.request = .batch calls → exchange.outcome = some outcome →
        (∃ answer : Except Fault Json,
          outcome = answer.bind (orderedReplies exchange.firstId calls.length)) ∧
        ∀ replies, outcome = .ok replies →
          replies.map Reply.id = exchange.envelopes.map (·.field? "id") := by
  have total := envelopes_total line
  obtain ⟨all, each⟩ := exchanges_ids line.exchanges 1 sound.numbered (by omega)
  rw [← total] at all
  refine ⟨all, ?_, ?_⟩
  · change (line.exchanges.flatMap Exchange.envelopes).map idOf |>.Nodup
    rw [all]
    exact List.Nodup.map (fun _ _ => Option.some.inj) List.nodup_range'
  · intro exchange member
    have bound := each exchange member
    refine ⟨exchange.envelope_of_call, exchange.ids (by omega), ?_⟩
    intro calls outcome batch ended
    obtain ⟨answer, same⟩ := sound.outcomes exchange member outcome ended
    obtain ⟨request, firstId, recorded⟩ := exchange
    dsimp only at batch
    subst batch
    refine ⟨⟨answer, same⟩, ?_⟩
    rintro replies rfl
    obtain ⟨body, _, done⟩ := (bind_ok _ _ replies).mp same.symm
    exact ordered_ids firstId calls body replies (Nat.le_sub_one_of_lt bound) done

-- The program's node makes the attempts of which this speaks: alone, each is a call or a batch sent to it.
-- The requests are any on one way to a server, single ones and batches of any size, in any order of
-- their transitions, some attempted again and some dropped, as long as words last.
theorem ids_consecutive {ε : Type} (server : Server ε) :
    (∀ call (line : Line ε),
      let (outcome, after) := (attempt server (.single call)).run.run line
      let (reply, session) := (node server).send call line.session
      outcome = reply.map (fun reply => [reply]) ∧ after.session = session) ∧
    (∀ calls (line : Line ε),
      let (outcome, after) := (attempt server (.batch calls)).run.run line
      (outcome, after.session) = (node server).sendBatch calls line.session) ∧
    ∀ (initial : ε) (sendings : List Sending) (turns : List (Turn ε)),
      let line := ((Traffic.issue server initial sendings).run turns).line
      line.envelopes.length < Nat.pow 2 64 - 1 →
      line.envelopes.map idOf = (List.range' 1 line.envelopes.length).map some ∧
      (line.envelopes.map idOf).Nodup ∧
      ∀ exchange ∈ line.exchanges,
        (∀ place : Nat, exchange.envelopes[place]? =
          exchange.request.calls[place]?.map (envelope (exchange.firstId + place))) ∧
        exchange.envelopes.map idOf =
          (List.range' exchange.firstId exchange.request.calls.length).map some ∧
        ∀ calls outcome, exchange.request = .batch calls → exchange.outcome = some outcome →
          (∃ answer : Except Fault Json,
            outcome = answer.bind (orderedReplies exchange.firstId calls.length)) ∧
          ∀ replies, outcome = .ok replies →
            replies.map Reply.id = exchange.envelopes.map (·.field? "id") := by
  refine ⟨single_alone server, batch_alone server, ?_⟩
  intro initial sendings turns line bounded
  exact line_numbered line (run_holds server Line.Sound (moves_sound server) served_sound initial
    sendings turns (start_sound initial)) bounded

-- A batch of two, a call that is attempted twice, and an empty batch, where no server is there. The call
-- takes its first id before the batch takes two, and its second id after the empty batch, while the
-- batch is dropped before it is posted.
def crossing : List Sending :=
  [⟨.batch [⟨"eth_chainId", []⟩, ⟨"net_version", []⟩], 0⟩, ⟨.single ⟨"eth_gasPrice", []⟩, 1⟩,
    ⟨.batch [], 0⟩]

def crossingTurns : List (Turn Unit) :=
  [.advance 1, .advance 0, .advance 1, .advance 1, .advance 2, .advance 1, .advance 1, .drop 0,
    .advance 1, .advance 1]

theorem ids_consecutive_crossing :
    let line := ((Traffic.issue unreachable () crossing).run crossingTurns).line
    line.envelopes.length < Nat.pow 2 64 - 1 ∧
      line.exchanges.map Exchange.firstId = [1, 2, 4, 4] ∧
      line.envelopes.map idOf = [some 1, some 2, some 3, some 4] := by
  have bounded : ((Traffic.issue unreachable () crossing).run crossingTurns).line.envelopes.length <
      Nat.pow 2 64 - 1 := by
    change 4 < Nat.pow 2 64 - 1
    decide
  have ids := (ids_consecutive unreachable).2.2 () crossing crossingTurns bounded
  exact ⟨bounded, rfl, ids.1⟩

end RequestLayer.Wire
