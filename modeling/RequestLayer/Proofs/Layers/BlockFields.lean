import RequestLayer.Freshness.Rule
import RequestLayer.Layer
import RequestLayer.Proofs.Stack.Replies

set_option autoImplicit false

namespace RequestLayer

namespace Authority

def NamesBlocks (method : String) : Prop :=
  method = "eth_getBlockByHash" ∨ method = "eth_getBlockByNumber" ∨ method = "eth_subscribe"

structure Moved (extra : Json) (block fields : Fields) : Prop where
  gone : fields.lookup "extraData" = none
  there : fields.lookup "proofOfAuthorityData" = some extra
  others : ∀ key, key ≠ "extraData" → key ≠ "proofOfAuthorityData" →
    fields.lookup key = block.lookup key

-- What the caller gets of an answer: a block with its extra data moved, or the answer as it is.
inductive Shown (method : String) (answer : Reply) : Reply → Prop
  | moved (block fields : Fields) (extra : Json) (names : NamesBlocks method)
      (result : answer.result = some (.object block))
      (given : block.lookup "extraData" = some extra) (moved : Moved extra block fields) :
      Shown method answer { answer with result := some (.object fields) }
  | same (plain : ∀ block, NamesBlocks method → answer.result = some (.object block) →
      block.lookup "extraData" = none) : Shown method answer answer

theorem names_blocks_iff (method : String) : method ∈ blockMethods ↔ NamesBlocks method := by
  simp [blockMethods, NamesBlocks]

theorem renamed_lookup (block : Fields) (extra : Json)
    (given : block.lookup "extraData" = some extra) (key : String) :
    (renamed block).lookup key =
      if key = "proofOfAuthorityData" then some extra
      else if key = "extraData" then none else block.lookup key := by
  unfold renamed
  rw [given]
  dsimp only
  rw [Fields.lookup_insert, Fields.lookup_erase]

theorem renamed_moved (block : Fields) (extra : Json)
    (given : block.lookup "extraData" = some extra) : Moved extra block (renamed block) := by
  have lookup := renamed_lookup block extra given
  constructor
  case gone => rw [lookup, if_neg (by decide), if_pos rfl]
  case there => rw [lookup, if_pos rfl]
  case others =>
    intro key other different
    rw [lookup, if_neg different, if_neg other]

theorem renamed_plain (block : Fields) (plain : block.lookup "extraData" = none) :
    renamed block = block := by
  unfold renamed
  rw [plain]

theorem renamed_again (block : Fields) : renamed (renamed block) = renamed block := by
  cases given : block.lookup "extraData" with
  | none => rw [renamed_plain block given, renamed_plain block given]
  | some extra => exact renamed_plain _ (renamed_moved block extra given).gone

theorem reply_object (method : String) (answer : Reply) (block : Fields)
    (names : NamesBlocks method) (result : answer.result = some (.object block)) :
    reply method answer = { answer with result := some (.object (renamed block)) } := by
  unfold reply
  rw [result]
  exact if_pos ((names_blocks_iff method).mpr names)

theorem reply_other (method : String) (answer : Reply)
    (other : ∀ block, NamesBlocks method → answer.result ≠ some (.object block)) :
    reply method answer = answer := by
  unfold reply
  split
  · rename_i block result
    exact if_neg fun names => other block ((names_blocks_iff method).mp names) result
  · rfl

theorem block_or_other (method : String) (answer : Reply) :
    (∃ block, NamesBlocks method ∧ answer.result = some (.object block)) ∨
      reply method answer = answer := by
  by_cases found : ∃ block, NamesBlocks method ∧ answer.result = some (.object block)
  · exact .inl found
  · exact .inr (reply_other method answer fun block names result => found ⟨block, names, result⟩)

theorem reply_again (method : String) (answer : Reply) :
    reply method (reply method answer) = reply method answer := by
  rcases block_or_other method answer with ⟨block, names, result⟩ | same
  · rw [reply_object method answer block names result, reply_object method _ _ names rfl,
      renamed_again]
  · rw [same, same]

theorem reply_shown (method : String) (answer : Reply) : Shown method answer (reply method answer) := by
  by_cases plain : ∀ block, NamesBlocks method → answer.result = some (.object block) →
      block.lookup "extraData" = none
  · have same : reply method answer = answer := by
      rcases block_or_other method answer with ⟨block, names, result⟩ | same
      · rw [reply_object method answer block names result,
          renamed_plain block (plain block names result), ← result]
      · exact same
    rw [same]
    exact .same plain
  · push Not at plain
    obtain ⟨block, names, result, given⟩ := plain
    obtain ⟨extra, given⟩ := Option.ne_none_iff_exists'.mp given
    rw [reply_object method answer block names result]
    exact .moved block _ extra names result given (renamed_moved block extra given)

-- A rule reads the block's number, which stays where it was.
theorem shown_verdict (rule : Freshness.Rule) (call : Call) (method : String) (answer reply : Reply)
    (shown : Shown method answer reply) :
    rule.verdict call reply.result = rule.verdict call answer.result := by
  cases shown with
  | same plain => rfl
  | moved block fields extra names result given moved =>
      have number : (Json.object fields).field? "number" = (Json.object block).field? "number" :=
        moved.others "number" (by decide) (by decide)
      have blockNumber :
          (Json.object fields).field? "blockNumber" = (Json.object block).field? "blockNumber" :=
        moved.others "blockNumber" (by decide) (by decide)
      have anchored (threshold : Freshness.Threshold) (category : Freshness.Category) :
          Freshness.anchored threshold category call.params (.object fields) =
            Freshness.anchored threshold category call.params (.object block) := by
        unfold Freshness.anchored
        simp only [number, blockNumber]
      rw [result]
      unfold Freshness.Rule.verdict
      cases rule.category? call.method with
      | none => rfl
      | some category =>
          cases rule.threshold with
          | none => rfl
          | some threshold => exact anchored threshold category

inductive Comes (method : String) : Except Fault Reply → Except Fault Reply → Prop
  | reply (answer reply : Reply) (shown : Shown method answer reply) :
      Comes method (.ok answer) (.ok reply)
  | fault (fault : Fault) : Comes method (.error fault) (.error fault)

theorem reply_comes (method : String) (outcome : Except Fault Reply) :
    Comes method outcome (outcome.map (reply method)) := by
  cases outcome with
  | error fault => exact .fault fault
  | ok answer => exact .reply answer _ (reply_shown method answer)

structure ShownAll (calls : List Call) (answers replies : List Reply) : Prop where
  answered : answers.length = calls.length
  counted : replies.length = calls.length
  each : ∀ (index : Nat) (call : Call) (answer : Reply), calls[index]? = some call →
    answers[index]? = some answer →
      ∃ shown, replies[index]? = some shown ∧ Shown call.method answer shown

theorem replies_shown (calls : List Call) (answers : List Reply)
    (answered : answers.length = calls.length) :
    ShownAll calls answers
      ((calls.zip answers).map fun (call, answer) => reply call.method answer) := by
  refine ⟨answered, ?_, ?_⟩
  · rw [List.length_map, List.length_zip, answered, Nat.min_self]
  · intro index call answer named replied
    refine ⟨_, ?_, reply_shown call.method answer⟩
    have paired : (calls.zip answers)[index]? = some (call, answer) :=
      List.getElem?_zip_eq_some.mpr ⟨named, replied⟩
    rw [List.getElem?_map, paired]
    rfl

end Authority

section Layers

variable {ν : Type}

namespace Hook

variable {α : Type}

-- However its steps are answered, the hook ends with the outcome.
def Ends (outcome : Except Fault α) : Hook ν α → Prop
  | .done ended => ended = outcome
  | .step _ next => ∀ answer, (next answer).Ends outcome

def steps : Hook ν α → Hook ν Unit
  | .done _ => .done (.ok ())
  | .step first next => .step first fun answer => (next answer).steps

theorem ends_run {m : Type → Type} [Monad m] [LawfulMonad m] [Await m] [MonadStateOf (World ν) m]
    (channel : Channel m) (outcome : Except Fault α) (hook : Hook ν α) (ends : hook.Ends outcome) :
    hook.run channel = hook.steps.run channel >>= fun _ => pure outcome := by
  induction hook with
  | done ended =>
      obtain rfl : ended = outcome := ends
      rw [run, steps, run, pure_bind]
  | step first next ih =>
      simp only [run, steps, bind_assoc]
      exact bind_congr fun answer => ih answer (ends answer)

theorem ends_effect {m : Type → Type} [Monad m] [LawfulMonad m] [Await m]
    [MonadStateOf (World ν) m] (channel : Channel m) (value : α) (hook : Hook ν α)
    (ends : hook.Ends (.ok value)) :
    ExceptT.mk (hook.run channel) =
      ExceptT.lift (hook.steps.run channel >>= fun _ => pure ()) >>= fun _ => pure value := by
  apply ExceptT.ext
  rw [ExceptT.run_bind_lift, bind_assoc]
  simp only [pure_bind]
  exact ends_run channel (.ok value) hook ends

end Hook

namespace Layer

def change : Layer ν → String → Reply → Reply
  | .authority => Authority.reply
  | _ => fun _ reply => reply

def PassesReplies : Layer ν → Prop
  | .functions _ (some onReply) => ∀ method reply state, (onReply method reply state).1 = .ok reply
  | .custom _ onReply => ∀ method reply, (onReply method reply).Ends (.ok reply)
  | _ => True

def Blind : Layer ν → Prop
  | .functions _ (some onReply) =>
      ∀ method reply other state, (onReply method reply state).2 = (onReply method other state).2
  | .custom _ onReply => ∀ method reply other,
      (onReply method reply).steps = (onReply method other).steps
  | _ => True

theorem returns (layer : Layer ν) (passes : layer.PassesReplies) :
    (layer.hooks : Hooks (StateM (World ν))).Returns layer.change := by
  intro channel method reply
  cases layer with
  | functions onRequest onReply =>
      cases onReply with
      | none => exact pure_yields reply
      | some onReply =>
          refine ⟨modifyGet fun world => ((), (World.onOutside (onReply method reply) world).2), ?_⟩
          funext world
          exact congrArg (fun outcome => (outcome, _)) (passes method reply world.outside)
  | custom onRequest onReply =>
      exact ⟨_, Hook.ends_effect channel reply (onReply method reply) (passes method reply)⟩
  | authority => exact pure_yields (Authority.reply method reply)
  | _ => exact pure_yields reply

end Layer

-- The layers rename the extra data, however many of them do.
theorem changed_renamed (layers : List (Layer ν)) (method : String) (answer : Reply) :
    (Layer.authority ∈ layers →
      Hooks.changed Layer.change layers method answer = Authority.reply method answer) ∧
    (Layer.authority ∉ layers → Hooks.changed Layer.change layers method answer = answer) := by
  induction layers with
  | nil => exact ⟨nofun, fun _ => rfl⟩
  | cons layer rest ih =>
      change (_ → layer.change method (Hooks.changed Layer.change rest method answer) = _) ∧
        (_ → layer.change method (Hooks.changed Layer.change rest method answer) = _)
      cases layer with
      | authority =>
          refine ⟨fun _ => ?_, fun absent => absurd List.mem_cons_self absent⟩
          by_cases inside : Layer.authority ∈ rest
          · rw [ih.1 inside]
            exact Authority.reply_again method answer
          · rw [ih.2 inside]
            rfl
      | _ =>
          constructor
          · intro named
            exact ih.1 ((List.mem_cons.mp named).resolve_left nofun)
          · intro absent
            exact ih.2 fun inside => absent (List.mem_cons_of_mem _ inside)

-- The second list is the first with further renaming layers at any positions.
inductive Thicker : List (Layer ν) → List (Layer ν) → Prop
  | nil : Thicker [] []
  | both (layer : Layer ν) (thin thick : List (Layer ν)) (thicker : Thicker thin thick) :
      Thicker (layer :: thin) (layer :: thick)
  | more (thin thick : List (Layer ν)) (thicker : Thicker thin thick) :
      Thicker thin (.authority :: thick)

theorem thicker_refl (layers : List (Layer ν)) : Thicker layers layers := by
  induction layers with
  | nil => exact .nil
  | cons layer rest ih => exact .both layer rest rest ih

theorem thicker_inserted (outer inner : List (Layer ν)) :
    Thicker (outer ++ inner) (outer ++ .authority :: inner) := by
  induction outer with
  | nil => exact .more inner inner (thicker_refl inner)
  | cons layer rest ih => exact .both layer _ _ ih

theorem thicker_members (thin thick : List (Layer ν)) (thicker : Thicker thin thick) :
    (∀ layer ∈ thin, layer ∈ thick) ∧
      ∀ layer ∈ thick, layer ∈ thin ∨ layer = .authority := by
  induction thicker with
  | nil => exact ⟨nofun, nofun⟩
  | both layer thin thick _ ih =>
      refine ⟨fun other inside => ?_, fun other inside => ?_⟩
      · rcases List.mem_cons.mp inside with rfl | inside
        · exact List.mem_cons_self
        · exact List.mem_cons_of_mem _ (ih.1 other inside)
      · rcases List.mem_cons.mp inside with rfl | inside
        · exact .inl List.mem_cons_self
        · exact (ih.2 other inside).imp_left (List.mem_cons_of_mem _)
  | more thin thick _ ih =>
      refine ⟨fun other inside => List.mem_cons_of_mem _ (ih.1 other inside), fun other inside => ?_⟩
      rcases List.mem_cons.mp inside with rfl | inside
      · exact .inr rfl
      · exact ih.2 other inside

theorem thicker_outbound (channel : Channel (StateM (World ν))) (thin thick : List (Layer ν))
    (thicker : Thicker thin thick) (call : Call) :
    Hooks.outbound channel (thick.map Layer.hooks) call =
      Hooks.outbound channel (thin.map Layer.hooks) call := by
  induction thicker generalizing call with
  | nil => rfl
  | both layer thin thick _ ih =>
      rw [List.map_cons, List.map_cons, Hooks.outbound_cons, Hooks.outbound_cons]
      simp only [ih]
  | more thin thick _ ih =>
      rw [List.map_cons, Hooks.outbound_cons]
      exact ih call

theorem blind_effect (layer : Layer ν) (passes : layer.PassesReplies) (blind : layer.Blind)
    (channel : Channel (StateM (World ν))) (method : String) :
    ∃ effect : StateM (World ν) Unit, ∀ reply,
      layer.hooks.onReply channel method reply =
        ExceptT.lift effect >>= fun _ => pure (layer.change method reply) := by
  cases layer with
  | functions onRequest onReply =>
      cases onReply with
      | none => exact ⟨pure (), fun _ => rfl⟩
      | some onReply =>
          refine ⟨modifyGet fun world =>
            ((), (World.onOutside (onReply method ⟨none, none, none⟩) world).2), ?_⟩
          intro reply
          funext world
          have outcome := passes method reply world.outside
          have state := blind method reply ⟨none, none, none⟩ world.outside
          exact Prod.ext outcome (congrArg (fun outside => { world with outside }) state)
  | custom onRequest onReply =>
      refine ⟨(onReply method ⟨none, none, none⟩).steps.run channel >>= fun _ => pure (),
        fun reply => ?_⟩
      rw [← blind method reply]
      exact Hook.ends_effect channel reply (onReply method reply) (passes method reply)
  | _ => exact ⟨pure (), fun _ => rfl⟩

theorem thicker_effect (channel : Channel (StateM (World ν))) (thin thick : List (Layer ν))
    (thicker : Thicker thin thick) (passes : ∀ layer ∈ thin, layer.PassesReplies)
    (blind : ∀ layer ∈ thin, layer.Blind) (method : String) :
    ∃ effect : StateM (World ν) Unit,
      (∀ reply, Hooks.inbound channel (thin.map Layer.hooks) method reply =
        ExceptT.lift effect >>= fun _ => pure (Hooks.changed Layer.change thin method reply)) ∧
      ∀ reply, Hooks.inbound channel (thick.map Layer.hooks) method reply =
        ExceptT.lift effect >>= fun _ => pure (Hooks.changed Layer.change thick method reply) := by
  induction thicker with
  | nil => exact ⟨pure (), fun _ => rfl, fun _ => rfl⟩
  | both layer thin thick _ ih =>
      obtain ⟨passed, passes⟩ := List.forall_mem_cons.mp passes
      obtain ⟨blinded, blind⟩ := List.forall_mem_cons.mp blind
      obtain ⟨inner, same, other⟩ := ih passes blind
      obtain ⟨outer, own⟩ := blind_effect layer passed blinded channel method
      refine ⟨inner >>= fun _ => outer, fun reply => ?_, fun reply => ?_⟩
      · rw [List.map_cons, Hooks.inbound_cons, same]
        simp only [bind_assoc, pure_bind, own]
        rfl
      · rw [List.map_cons, Hooks.inbound_cons, other]
        simp only [bind_assoc, pure_bind, own]
        rfl
  | more thin thick _ ih =>
      obtain ⟨inner, same, other⟩ := ih passes blind
      refine ⟨inner, same, fun reply => ?_⟩
      rw [List.map_cons, Hooks.inbound_cons, other]
      simp only [bind_assoc, pure_bind]
      rfl

theorem thicker_inbound (channel : Channel (StateM (World ν))) (thin thick : List (Layer ν))
    (thicker : Thicker thin thick) (named : Layer.authority ∈ thin)
    (passes : ∀ layer ∈ thin, layer.PassesReplies) (blind : ∀ layer ∈ thin, layer.Blind)
    (method : String) (reply : Reply) :
    Hooks.inbound channel (thick.map Layer.hooks) method reply =
      Hooks.inbound channel (thin.map Layer.hooks) method reply := by
  obtain ⟨effect, same, other⟩ := thicker_effect channel thin thick thicker passes blind method
  have inside := (thicker_members thin thick thicker).1 _ named
  rw [same, other, (changed_renamed thin method reply).1 named,
    (changed_renamed thick method reply).1 inside]

end Layers

end RequestLayer
