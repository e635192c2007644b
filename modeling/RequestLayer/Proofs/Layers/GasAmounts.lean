import RequestLayer.Proofs.Layers.Answers
import RequestLayer.Proofs.Modes.Copies

set_option autoImplicit false

namespace RequestLayer.Gas

def estimated (result : Json) : Except Fault Nat :=
  match Quantity.ofJson? result with
  | some estimate => .ok estimate
  | none => .error (.invalidResponse ("invalid gas estimate: " ++ result.compact))

-- The gas that two answers come to. A fault of the estimate comes before one of the block.
inductive Allows (estimate latest : Except Fault Reply) : Except Fault Nat → Prop
  | noEstimate (fault : Fault) (failed : Answers estimated estimate (.error fault)) :
      Allows estimate latest (.error fault)
  | noBlock (amount : Nat) (fault : Fault) (needed : Answers estimated estimate (.ok amount))
      (failed : Answers Header.ofResult latest (.error fault)) :
      Allows estimate latest (.error fault)
  | noLimit (amount : Nat) (header : Header) (needed : Answers estimated estimate (.ok amount))
      (block : Answers Header.ofResult latest (.ok header)) (without : header.gasLimit = none) :
      Allows estimate latest (.error (.invalidResponse "latest block has no gasLimit"))
  | exceeded (amount limit : Nat) (header : Header)
      (needed : Answers estimated estimate (.ok amount))
      (block : Answers Header.ofResult latest (.ok header)) (limited : header.gasLimit = some limit)
      (above : limit < amount) : Allows estimate latest (.error (.gasLimitExceeded amount limit))
  | within (amount limit gas : Nat) (header : Header)
      (needed : Answers estimated estimate (.ok amount))
      (block : Answers Header.ofResult latest (.ok header)) (limited : header.gasLimit = some limit)
      (below : amount ≤ limit) (buffered : gas = min (amount + 100000) limit)
      (bounds : amount ≤ gas ∧ gas ≤ limit) : Allows estimate latest (.ok gas)

def asked (fields : Fields) (estimate latest : Except Fault Reply) : Journal :=
  [.sent ⟨"eth_estimateGas", [.object fields]⟩ estimate,
    .sent ⟨"eth_getBlockByNumber", [.string "latest", .bool false]⟩ latest]

inductive Fills : Call → Journal → Except Fault Params → Prop
  | passed (call : Call) (provided : ∀ fields rest,
      call = ⟨"eth_sendTransaction", .object fields :: rest⟩ → fields.lookup "gas" ≠ none) :
      Fills call [] (.ok call.params)
  | refused (fields : Fields) (rest : Params) (estimate latest : Except Fault Reply) (fault : Fault)
      (lacking : fields.lookup "gas" = none) (none : Allows estimate latest (.error fault)) :
      Fills ⟨"eth_sendTransaction", .object fields :: rest⟩ (asked fields estimate latest)
        (.error fault)
  | filled (fields after : Fields) (rest : Params) (estimate latest : Except Fault Reply) (gas : Nat)
      (allowed : Allows estimate latest (.ok gas))
      (added : Adds fields "gas" (Quantity.toJson gas) after) :
      Fills ⟨"eth_sendTransaction", .object fields :: rest⟩ (asked fields estimate latest)
        (.ok (.object after :: rest))

theorem estimated_decodes : Decodes estimated := by
  intro result fault failed
  unfold estimated at failed
  split at failed
  · cases failed
  · cases failed
    exact ⟨_, rfl⟩

def limited (amount : Nat) (header : Header) : Except Fault Nat := do
  let some limit := header.gasLimit
    | .error (.invalidResponse "latest block has no gasLimit")
  if limit < amount then .error (.gasLimitExceeded amount limit)
  else return min (min (amount + buffer) Quantity.greatest) limit

theorem buffered_steps (estimate latest : Except Fault Reply) :
    buffered estimate latest =
      (estimate.bind fun reply => reply.outcome.bind estimated).bind fun amount =>
        (latest.bind fun reply => reply.outcome.bind Header.ofResult).bind (limited amount) := by
  cases estimate with
  | error fault => rfl
  | ok reply =>
      change (reply.outcome.bind _) = (reply.outcome.bind _).bind _
      cases reply.outcome with
      | error fault => rfl
      | ok result =>
          change _ = (estimated result).bind _
          unfold estimated
          cases read : Quantity.ofJson? result with
          | none => simp [Except.bind, read]
          | some amount =>
              rw [Except.bind, read]
              exact answer_then Header.ofResult latest (limited amount)

theorem buffered_allows (estimate latest : Except Fault Reply) :
    Allows estimate latest (buffered estimate latest) := by
  rw [buffered_steps]
  have first := answer_cases estimated estimated_decodes estimate
  have second := answer_cases Header.ofResult Header.header_decodes latest
  cases needed : estimate.bind fun reply => reply.outcome.bind estimated with
  | error fault =>
      rw [needed] at first
      exact .noEstimate fault first
  | ok amount =>
      rw [needed] at first
      cases block : latest.bind fun reply => reply.outcome.bind Header.ofResult with
      | error fault =>
          rw [block] at second
          exact .noBlock amount fault first second
      | ok header =>
          rw [block] at second
          simp only [Except.bind]
          unfold limited
          cases there : header.gasLimit with
          | none => exact .noLimit amount header first second there
          | some limit =>
              by_cases above : limit < amount
              · simp only [if_pos above]
                exact .exceeded amount limit header first second there above
              · have bounded := block_limit_bounded latest header limit second there
                simp only [if_neg above]
                apply Allows.within amount limit _ header first second there
                · omega
                · unfold buffer Quantity.greatest
                  omega
                · unfold buffer Quantity.greatest
                  omega

section Layer

variable {m : Type → Type} [Monad m] [LawfulMonad m] [Await m]

omit [LawfulMonad m] in
theorem provided_passes (channel : Channel m) (call : Call) (provided : ∀ fields rest,
    call = ⟨"eth_sendTransaction", .object fields :: rest⟩ → fields.lookup "gas" ≠ none) :
    (hooks : Hooks m).onRequest channel call = pure call.params := by
  have nothing : transaction? call = none := by
    unfold transaction?
    split
    · rename_i fields rest params
      rw [if_neg]
      rintro ⟨method, lacking⟩
      apply provided fields rest
      · cases call
        cases method
        cases params
        rfl
      · exact Option.not_isSome_iff_eq_none.mp lacking
    · rfl
  change fill channel call = pure call.params
  rw [fill_eq, fillAsync, nothing]

omit [LawfulMonad m] in
theorem given_gas_passes (fields after : Fields) (rest : Params) (gas : Json) (channel : Channel m)
    (added : Adds fields "gas" gas after) :
    (hooks : Hooks m).onRequest channel ⟨"eth_sendTransaction", .object after :: rest⟩ =
      pure (.object after :: rest) := by
  apply provided_passes channel ⟨"eth_sendTransaction", .object after :: rest⟩
  rintro _ _ ⟨rfl, rfl⟩
  rw [added.added]
  exact Option.some_ne_none gas

theorem fill_records (channel : Channel m) (fields : Fields) (rest : Params)
    (lacking : fields.lookup "gas" = none) :
    Records ((hooks : Hooks (Journaled m)).onRequest channel.journaled
        ⟨"eth_sendTransaction", .object fields :: rest⟩).run
      ((hooks : Hooks m).onRequest channel ⟨"eth_sendTransaction", .object fields :: rest⟩).run
      fun outcome journal => Fills ⟨"eth_sendTransaction", .object fields :: rest⟩ journal outcome := by
  have there : transaction? ⟨"eth_sendTransaction", .object fields :: rest⟩ = some fields := by
    simp [transaction?, sendTransaction, Fields.has, lacking]
  change Records (fill channel.journaled _).run (fill channel _).run _
  rw [fill_eq, fill_eq]
  unfold fillAsync
  rw [there]
  apply call_then_records channel _ _ _ (fun estimate outcome late => ∃ latest,
    late = [.sent ⟨"eth_getBlockByNumber", [.string "latest", .bool false]⟩ latest] ∧
      Fills ⟨"eth_sendTransaction", .object fields :: rest⟩ (asked fields estimate latest) outcome)
  · intro estimate
    apply call_then_records channel _ _ _ (fun latest outcome late => late = [] ∧
      Fills ⟨"eth_sendTransaction", .object fields :: rest⟩ (asked fields estimate latest) outcome)
    · intro latest
      have allowed := buffered_allows estimate latest
      rw [known_then, known_then]
      cases given : buffered estimate latest with
      | error fault =>
          rw [given] at allowed
          exact pure_records _ _ ⟨rfl, .refused fields rest estimate latest fault lacking allowed⟩
      | ok gas =>
          rw [given] at allowed
          exact pure_records _ _ ⟨rfl, .filled fields _ rest estimate latest gas allowed
            (insert_adds fields "gas" (Quantity.toJson gas) lacking)⟩
    · rintro latest outcome _ ⟨rfl, filled⟩
      exact ⟨latest, rfl, filled⟩
  · rintro estimate outcome _ ⟨latest, rfl, filled⟩
    exact filled

-- In the journal are the calls that the layer makes. What it gives back passes it again, at no call.
theorem gas_exact (channel : Channel m) (call : Call) :
    Records ((hooks : Hooks (Journaled m)).onRequest channel.journaled call).run
      ((hooks : Hooks m).onRequest channel call).run fun outcome journal =>
        Fills call journal outcome ∧ ∀ params, outcome = .ok params → ∀ other : Channel m,
          (hooks : Hooks m).onRequest other ⟨call.method, params⟩ = pure params := by
  by_cases lacking : ∃ fields rest, call = ⟨"eth_sendTransaction", .object fields :: rest⟩ ∧
      fields.lookup "gas" = none
  · obtain ⟨fields, rest, rfl, lacking⟩ := lacking
    apply records_mono _ _ _ _ (fill_records channel fields rest lacking)
    intro outcome journal filled
    refine ⟨filled, ?_⟩
    rintro params rfl other
    cases filled with
    | passed call provided => exact provided_passes other _ provided
    | filled fields after rest estimate latest gas allowed added =>
        exact given_gas_passes fields after rest _ other added
  · have provided : ∀ fields rest, call = ⟨"eth_sendTransaction", .object fields :: rest⟩ →
        fields.lookup "gas" ≠ none :=
      fun fields rest same none => lacking ⟨fields, rest, same, none⟩
    rw [provided_passes channel call provided, provided_passes channel.journaled call provided]
    apply pure_records
    refine ⟨.passed call provided, ?_⟩
    rintro params ⟨rfl⟩ other
    exact provided_passes other call provided

end Layer

def roomy : Node Unit where
  send call outside :=
    let block : Json := .object [("gasLimit", .ofNat 18446744073709551615), ("number", .ofNat 1)]
    (.ok (.success (if call.method = "eth_estimateGas" then .ofNat 18446744073709551000 else block)),
      outside)
  sendBatch _ outside := (.ok [], outside)

-- With the buffer the estimate is above the limit, and above what can be written.
theorem gas_exact_near_greatest :
    ∃ journal params, Fills ⟨"eth_sendTransaction", [.object []]⟩ journal (.ok params) ∧
      params = [.object [("gas", .string "0xffffffffffffffff")]] ∧ journal.length = 2 ∧
      (hooks : Hooks (StateM (World Unit))).onRequest roomy.channel
        ⟨"eth_sendTransaction", params⟩ = pure params := by
  let call : Call := ⟨"eth_sendTransaction", [.object []]⟩
  let channel : Channel (StateM (World Unit)) := roomy.channel
  obtain ⟨journal, ⟨filled, again⟩, run⟩ :=
    records_blocking _ _ _ (gas_exact channel call) [] (World.start () (.still 0))
  have outcome : (((hooks : Hooks (StateM (World Unit))).onRequest channel call).run
      (World.start () (.still 0))).1 =
        .ok [.object [("gas", .string "0xffffffffffffffff")]] := rfl
  have two : journal.length = 2 := (congrArg (fun done => done.1.2.length) run).symm
  rw [outcome] at filled
  exact ⟨journal, _, filled, rfl, two, again _ outcome channel⟩

end RequestLayer.Gas
