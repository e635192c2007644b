import RequestLayer.Proofs.Layers.Answers
import RequestLayer.Proofs.Modes.Copies

set_option autoImplicit false

namespace RequestLayer.Fees

structure Paired (fields : Fields) (maximum priority : Json) : Prop where
  unpriced : fields.lookup "gasPrice" = none
  maximum : fields.lookup "maxFeePerGas" = some maximum
  priority : fields.lookup "maxPriorityFeePerGas" = some priority

structure Lone (fields : Fields) (priority : Json) : Prop where
  unpriced : fields.lookup "gasPrice" = none
  maximum : fields.lookup "maxFeePerGas" = none
  priority : fields.lookup "maxPriorityFeePerGas" = some priority

structure Bare (fields : Fields) : Prop where
  unpriced : fields.lookup "gasPrice" = none
  maximum : fields.lookup "maxFeePerGas" = none
  priority : fields.lookup "maxPriorityFeePerGas" = none

inductive Settles (strategy : Option Strategy) (fields : Fields) : Except Fault Fields → Prop
  | mixed (priced : fields.lookup "gasPrice" ≠ none)
      (dynamic : fields.lookup "maxFeePerGas" ≠ none ∨
        fields.lookup "maxPriorityFeePerGas" ≠ none) : Settles strategy fields (.error .mixedFees)
  | legacy (priced : fields.lookup "gasPrice" ≠ none)
      (maximum : fields.lookup "maxFeePerGas" = none)
      (priority : fields.lookup "maxPriorityFeePerGas" = none) : Settles strategy fields (.ok fields)
  | noPriority (unpriced : fields.lookup "gasPrice" = none)
      (maximum : fields.lookup "maxFeePerGas" ≠ none)
      (priority : fields.lookup "maxPriorityFeePerGas" = none) :
      Settles strategy fields (.error
        (.invalidTransaction "maxPriorityFeePerGas must be defined in a 1559 transaction"))
  | unfitMaximum (maximum priority : Json) (both : Paired fields maximum priority)
      (unread : Quantity.ofJson? maximum = none) :
      Settles strategy fields
        (.error (.invalidTransaction ("invalid maxFeePerGas: " ++ maximum.compact)))
  | unfitPriority (maximum priority : Json) (most : Nat) (both : Paired fields maximum priority)
      (read : Quantity.ofJson? maximum = some most) (unread : Quantity.ofJson? priority = none) :
      Settles strategy fields
        (.error (.invalidTransaction ("invalid maxPriorityFeePerGas: " ++ priority.compact)))
  | below (maximum priority : Json) (most least : Nat) (both : Paired fields maximum priority)
      (readMaximum : Quantity.ofJson? maximum = some most)
      (readPriority : Quantity.ofJson? priority = some least) (less : most < least) :
      Settles strategy fields
        (.error (.invalidTransaction "maxFeePerGas must be >= maxPriorityFeePerGas"))
  | paired (maximum priority : Json) (most least : Nat) (both : Paired fields maximum priority)
      (readMaximum : Quantity.ofJson? maximum = some most)
      (readPriority : Quantity.ofJson? priority = some least) (above : least ≤ most) :
      Settles strategy fields (.ok fields)
  | unfitAlone (priority : Json) (alone : Lone fields priority)
      (unread : Quantity.ofJson? priority = none) :
      Settles strategy fields
        (.error (.invalidTransaction ("invalid maxPriorityFeePerGas: " ++ priority.compact)))
  | unpriced (bare : Bare fields) (without : ∀ price, strategy.bind (· fields) ≠ some price) :
      Settles strategy fields (.ok fields)
  | priced (bare : Bare fields) (price : Nat) (after : Fields)
      (found : strategy.bind (· fields) = some price)
      (added : Adds fields "gasPrice" (Quantity.toJson price) after) :
      Settles strategy fields (.ok after)

inductive Derives (fields : Fields) (priority : Nat) (latest : Except Fault Reply) :
    Except Fault Fields → Prop
  | noBlock (fault : Fault) (failed : Answers Header.ofResult latest (.error fault)) :
      Derives fields priority latest (.error fault)
  | noBaseFee (header : Header) (block : Answers Header.ofResult latest (.ok header))
      (without : header.baseFee = none) :
      Derives fields priority latest
        (.error (.invalidResponse "latest block has no baseFeePerGas"))
  | derived (header : Header) (baseFee fee : Nat) (after : Fields)
      (block : Answers Header.ofResult latest (.ok header)) (there : header.baseFee = some baseFee)
      (sum : fee = min (priority + 2 * baseFee) (Nat.pow 2 64 - 1)) (above : priority ≤ fee)
      (added : Adds fields "maxFeePerGas" (Quantity.toJson fee) after) :
      Derives fields priority latest (.ok after)

-- From a call to the calls made for it, and the parameters it goes on with.
inductive Handles (strategy : Option Strategy) : Call → Journal → Except Fault Params → Prop
  | passed (call : Call)
      (other : ∀ fields rest, call ≠ ⟨"eth_sendTransaction", .object fields :: rest⟩) :
      Handles strategy call [] (.ok call.params)
  | settled (fields : Fields) (rest : Params) (outcome : Except Fault Fields)
      (settles : Settles strategy fields outcome) :
      Handles strategy ⟨"eth_sendTransaction", .object fields :: rest⟩ []
        (outcome.map fun after => .object after :: rest)
  | asked (fields : Fields) (rest : Params) (value : Json) (priority : Nat)
      (latest : Except Fault Reply) (outcome : Except Fault Fields) (alone : Lone fields value)
      (read : Quantity.ofJson? value = some priority)
      (derives : Derives fields priority latest outcome) :
      Handles strategy ⟨"eth_sendTransaction", .object fields :: rest⟩
        [.sent ⟨"eth_getBlockByNumber", [.string "latest", .bool false]⟩ latest]
        (outcome.map fun after => .object after :: rest)

structure Stable (strategy : Option Strategy) (fields : Fields) : Prop where
  priced : priced strategy fields = fields
  complete : missingMaximum fields = .ok none

section Checks

variable (strategy : Option Strategy) (fields : Fields)

theorem priced_kept (about : (Fields.has fields "gasPrice" || hasDynamicFee fields) = true) :
    priced strategy fields = fields := by
  unfold priced
  cases strategy.bind (· fields) with
  | none => rfl
  | some price => simp [about]

theorem legacy_stable (there : fields.lookup "gasPrice" ≠ none)
    (maximum : fields.lookup "maxFeePerGas" = none)
    (priority : fields.lookup "maxPriorityFeePerGas" = none) : Stable strategy fields := by
  have price : Fields.has fields "gasPrice" = true := Option.isSome_iff_ne_none.mpr there
  have fixed : hasDynamicFee fields = false := by
    simp [hasDynamicFee, Fields.has, maximum, priority]
  constructor
  · exact priced_kept strategy fields (by rw [price, Bool.true_or])
  · simp [missingMaximum, fixed, maximum, priority]
    rfl

theorem unpriced_missing (unpriced : fields.lookup "gasPrice" = none) :
    missingMaximum fields =
      match fields.lookup "maxFeePerGas", fields.lookup "maxPriorityFeePerGas" with
      | some maximum, some priority =>
          (fee "maxFeePerGas" maximum).bind fun most =>
            (fee "maxPriorityFeePerGas" priority).bind fun least =>
              if most < least then
                .error (.invalidTransaction "maxFeePerGas must be >= maxPriorityFeePerGas")
              else .ok none
      | none, some priority => (fee "maxPriorityFeePerGas" priority).map some
      | some _, none =>
          .error (.invalidTransaction "maxPriorityFeePerGas must be defined in a 1559 transaction")
      | none, none => .ok none := by
  have price : Fields.has fields "gasPrice" = false := by simp [Fields.has, unpriced]
  unfold missingMaximum
  rw [price, Bool.false_and, if_neg Bool.false_ne_true]
  cases fields.lookup "maxFeePerGas" <;> cases fields.lookup "maxPriorityFeePerGas" <;> rfl

theorem paired_missing (maximum priority : Json) (both : Paired fields maximum priority) :
    missingMaximum fields =
      (fee "maxFeePerGas" maximum).bind fun most =>
        (fee "maxPriorityFeePerGas" priority).bind fun least =>
          if most < least then
            .error (.invalidTransaction "maxFeePerGas must be >= maxPriorityFeePerGas")
          else .ok none := by
  rw [unpriced_missing fields both.unpriced, both.maximum, both.priority]

theorem paired_kept (maximum priority : Json) (both : Paired fields maximum priority) :
    priced strategy fields = fields := by
  apply priced_kept
  simp [hasDynamicFee, Fields.has, both.maximum]

theorem alone_kept (priority : Json) (alone : Lone fields priority) :
    priced strategy fields = fields := by
  apply priced_kept
  simp [hasDynamicFee, Fields.has, alone.priority]

theorem fee_of_quantity (name : String) (value : Json) (number : Nat)
    (read : Quantity.ofJson? value = some number) : fee name value = .ok number := by
  rw [fee, read]

theorem fee_of_other (name : String) (value : Json) (unread : Quantity.ofJson? value = none) :
    fee name value = .error (.invalidTransaction (s!"invalid {name}: " ++ value.compact)) := by
  rw [fee, unread]

theorem paired_stable (maximum priority : Json) (most least : Nat)
    (both : Paired fields maximum priority) (readMaximum : Quantity.ofJson? maximum = some most)
    (readPriority : Quantity.ofJson? priority = some least) (above : least ≤ most) :
    Stable strategy fields where
  priced := paired_kept strategy fields maximum priority both
  complete := by
    rw [paired_missing fields maximum priority both, fee_of_quantity _ maximum most readMaximum,
      fee_of_quantity _ priority least readPriority]
    simp only [Except.bind, if_neg (Nat.not_lt.mpr above)]

theorem bare_missing (bare : Bare fields) : missingMaximum fields = .ok none := by
  rw [unpriced_missing fields bare.unpriced, bare.maximum, bare.priority]

theorem bare_stable (bare : Bare fields)
    (without : ∀ price, strategy.bind (· fields) ≠ some price) : Stable strategy fields where
  priced := by rw [priced, Option.eq_none_iff_forall_ne_some.mpr without]
  complete := bare_missing fields bare

theorem added_price_stable (price : Nat) (after : Fields) (bare : Bare fields)
    (added : Adds fields "gasPrice" (Quantity.toJson price) after) : Stable strategy after := by
  apply legacy_stable
  · rw [added.added]
    exact Option.some_ne_none _
  · rw [added.others _ (by decide), bare.maximum]
  · rw [added.others _ (by decide), bare.priority]

theorem added_fee_stable (value : Json) (priority fee : Nat) (after : Fields)
    (alone : Lone fields value) (read : Quantity.ofJson? value = some priority)
    (above : priority ≤ fee) (bounded : fee < Nat.pow 2 64)
    (added : Adds fields "maxFeePerGas" (Quantity.toJson fee) after) : Stable strategy after := by
  apply paired_stable strategy after (Quantity.toJson fee) value fee priority
  · constructor
    · rw [added.others _ (by decide), alone.unpriced]
    · exact added.added
    · rw [added.others _ (by decide), alone.priority]
  · exact Quantity.read_written fee bounded
  · exact read
  · exact above

inductive Checked : Except Fault (Option Nat) → Prop
  | settled (outcome : Except Fault Fields) (settles : Settles strategy fields outcome)
      (same : ∀ after, outcome = .ok after → after = priced strategy fields) :
      Checked (outcome.map fun _ => none)
  | asks (value : Json) (priority : Nat) (alone : Lone fields value)
      (read : Quantity.ofJson? value = some priority) : Checked (.ok (some priority))

theorem paired_checked (maximum priority : Json) (both : Paired fields maximum priority) :
    Checked strategy fields (missingMaximum (priced strategy fields)) := by
  have kept := paired_kept strategy fields maximum priority both
  rw [kept, paired_missing fields maximum priority both]
  cases readMaximum : Quantity.ofJson? maximum with
  | none =>
      rw [fee_of_other _ maximum readMaximum]
      exact .settled _ (.unfitMaximum maximum priority both readMaximum) nofun
  | some most =>
      cases readPriority : Quantity.ofJson? priority with
      | none =>
          rw [fee_of_quantity _ maximum most readMaximum, fee_of_other _ priority readPriority]
          exact .settled _ (.unfitPriority maximum priority most both readMaximum readPriority) nofun
      | some least =>
          rw [fee_of_quantity _ maximum most readMaximum, fee_of_quantity _ priority least readPriority]
          simp only [Except.bind]
          by_cases less : most < least
          · rw [if_pos less]
            exact .settled _ (.below maximum priority most least both readMaximum readPriority less)
              nofun
          · rw [if_neg less]
            refine .settled (.ok fields) (.paired maximum priority most least both readMaximum
              readPriority (Nat.not_lt.mp less)) ?_
            rintro _ ⟨rfl⟩
            exact kept.symm

theorem unpriced_checked (unpriced : fields.lookup "gasPrice" = none) :
    Checked strategy fields (missingMaximum (priced strategy fields)) := by
  cases maximum : fields.lookup "maxFeePerGas" with
  | some limit =>
      cases priority : fields.lookup "maxPriorityFeePerGas" with
      | some value => exact paired_checked strategy fields limit value ⟨unpriced, maximum, priority⟩
      | none =>
          have kept := priced_kept strategy fields (by simp [hasDynamicFee, Fields.has, maximum])
          rw [kept, unpriced_missing fields unpriced, maximum, priority]
          exact .settled _ (.noPriority unpriced (by simp [maximum]) priority) nofun
  | none =>
      cases priority : fields.lookup "maxPriorityFeePerGas" with
      | some value =>
          have alone : Lone fields value := ⟨unpriced, maximum, priority⟩
          rw [alone_kept strategy fields value alone, unpriced_missing fields unpriced, maximum,
            priority]
          cases read : Quantity.ofJson? value with
          | none =>
              simp only [fee_of_other _ value read]
              exact .settled _ (.unfitAlone value alone read) nofun
          | some number =>
              simp only [fee_of_quantity _ value number read]
              exact .asks value number alone read
      | none =>
          have bare : Bare fields := ⟨unpriced, maximum, priority⟩
          cases found : strategy.bind (· fields) with
          | none =>
              have stable := bare_stable strategy fields bare (by simp [found])
              rw [stable.priced, stable.complete]
              refine .settled (.ok fields) (.unpriced bare (by simp [found])) ?_
              rintro _ ⟨rfl⟩
              exact stable.priced.symm
          | some price =>
              have added := insert_adds fields "gasPrice" (Quantity.toJson price) unpriced
              have after : priced strategy fields =
                  Fields.insert "gasPrice" (Quantity.toJson price) fields := by
                simp [priced, found, hasDynamicFee, Fields.has, unpriced, maximum, priority]
              rw [after, (added_price_stable strategy fields price _ bare added).complete]
              refine .settled (.ok _) (.priced bare price _ found added) ?_
              rintro _ ⟨rfl⟩
              exact after.symm

theorem fields_checked : Checked strategy fields (missingMaximum (priced strategy fields)) := by
  cases there : fields.lookup "gasPrice" with
  | none => exact unpriced_checked strategy fields there
  | some price =>
      have has : Fields.has fields "gasPrice" = true := by simp [Fields.has, there]
      have kept := priced_kept strategy fields (by rw [has, Bool.true_or])
      by_cases dynamic : hasDynamicFee fields = true
      · have mixed : missingMaximum fields = .error .mixedFees := by
          unfold missingMaximum
          rw [has, dynamic]
          rfl
        have one : fields.lookup "maxFeePerGas" ≠ none ∨
            fields.lookup "maxPriorityFeePerGas" ≠ none := by
          simpa [hasDynamicFee, Fields.has, Option.isSome_iff_ne_none] using dynamic
        rw [kept, mixed]
        exact .settled _ (.mixed (by simp [there]) one) nofun
      · have neither : fields.lookup "maxFeePerGas" = none ∧
            fields.lookup "maxPriorityFeePerGas" = none := by
          simpa only [hasDynamicFee, Fields.has, Bool.or_eq_true, not_or,
            Option.not_isSome_iff_eq_none] using dynamic
        have stable := legacy_stable strategy fields (by simp [there]) neither.1 neither.2
        rw [kept, stable.complete]
        refine .settled (.ok fields) (.legacy (by simp [there]) neither.1 neither.2) ?_
        rintro _ ⟨rfl⟩
        exact kept.symm

end Checks

def largest (priority : Nat) (header : Header) : Except Fault Nat := do
  let some baseFee := header.baseFee
    | .error (.invalidResponse "latest block has no baseFeePerGas")
  return min (priority + min (2 * baseFee) Quantity.greatest) Quantity.greatest

theorem maximum_derives (fields : Fields) (priority : Nat) (latest : Except Fault Reply)
    (bounded : priority < Nat.pow 2 64) (absent : fields.lookup "maxFeePerGas" = none) :
    Derives fields priority latest ((maximum priority latest).map fun fee =>
      Fields.insert "maxFeePerGas" (Quantity.toJson fee) fields) := by
  have steps : maximum priority latest =
      (latest.bind fun reply => reply.outcome.bind Header.ofResult).bind (largest priority) :=
    answer_then Header.ofResult latest (largest priority)
  have block := answer_cases Header.ofResult Header.header_decodes latest
  rw [steps]
  cases found : latest.bind fun reply => reply.outcome.bind Header.ofResult with
  | error fault =>
      rw [found] at block
      exact .noBlock fault block
  | ok header =>
      rw [found] at block
      simp only [Except.bind]
      unfold largest
      cases there : header.baseFee with
      | none => exact .noBaseFee header block there
      | some baseFee =>
          apply Derives.derived header baseFee _ _ block there _ _ (insert_adds _ _ _ absent)
          · unfold Quantity.greatest
            omega
          · unfold Quantity.greatest
            omega

theorem handled_stable (strategy : Option Strategy) (fields : Fields) (rest : Params)
    (journal : Journal) (params : Params)
    (handled : Handles strategy ⟨"eth_sendTransaction", .object fields :: rest⟩ journal (.ok params)) :
    ∃ after, params = .object after :: rest ∧ Stable strategy after := by
  generalize same : Except.ok params = result at handled
  cases handled with
  | passed call other => exact absurd rfl (other fields rest)
  | settled fields rest outcome settles =>
      cases settles with
      | legacy priced maximum priority =>
          cases same
          exact ⟨fields, rfl, legacy_stable strategy fields priced maximum priority⟩
      | paired maximum priority most least both readMaximum readPriority above =>
          cases same
          exact ⟨fields, rfl, paired_stable strategy fields maximum priority most least both
            readMaximum readPriority above⟩
      | unpriced bare without =>
          cases same
          exact ⟨fields, rfl, bare_stable strategy fields bare without⟩
      | priced bare price after found added =>
          cases same
          exact ⟨after, rfl, added_price_stable strategy fields price after bare added⟩
      | _ => cases same
  | asked fields rest value priority latest outcome alone read derives =>
      cases derives with
      | derived header baseFee fee after block there sum above added =>
          cases same
          have positive : 0 < Nat.pow 2 64 := by decide
          have bounded : fee < Nat.pow 2 64 := by omega
          exact ⟨after, rfl,
            added_fee_stable strategy fields value priority fee after alone read above bounded added⟩
      | _ => cases same

section Layer

variable {m : Type → Type} [Monad m] [LawfulMonad m] [Await m] (strategy : Option Strategy)

omit [LawfulMonad m] in
theorem transaction_steps (channel : Channel m) (fields : Fields) (rest : Params) :
    (hooks strategy : Hooks m).onRequest channel ⟨"eth_sendTransaction", .object fields :: rest⟩ =
      (ExceptT.mk (pure (missingMaximum (priced strategy fields))) >>= fun missing =>
        match missing with
        | none => pure (.object (priced strategy fields) :: rest)
        | some priority =>
            ExceptT.lift (channel.send (.header .latest)).run >>= fun latest =>
              ExceptT.mk (pure (maximum priority latest)) >>= fun fee =>
                pure (.object (Fields.insert "maxFeePerGas" (Quantity.toJson fee)
                  (priced strategy fields)) :: rest)) :=
  fill_eq strategy channel _

omit [LawfulMonad m] in
theorem other_passes (channel : Channel m) (call : Call)
    (other : ∀ fields rest, call ≠ ⟨"eth_sendTransaction", .object fields :: rest⟩) :
    (hooks strategy : Hooks m).onRequest channel call = pure call.params := by
  change fill strategy channel call = pure call.params
  rw [fill_eq]
  unfold fillAsync
  split
  · rename_i fields rest params
    by_cases method : call.method = sendTransaction
    · refine absurd ?_ (other fields rest)
      cases call
      cases method
      cases params
      rfl
    · rw [if_pos method]
  · rfl

theorem stable_passes (channel : Channel m) (fields : Fields) (rest : Params)
    (stable : Stable strategy fields) :
    (hooks strategy : Hooks m).onRequest channel ⟨"eth_sendTransaction", .object fields :: rest⟩ =
      pure (.object fields :: rest) := by
  rw [transaction_steps, stable.priced, stable.complete, known_then]

theorem transaction_records (channel : Channel m) (fields : Fields) (rest : Params) :
    Records ((hooks strategy : Hooks (Journaled m)).onRequest channel.journaled
        ⟨"eth_sendTransaction", .object fields :: rest⟩).run
      ((hooks strategy : Hooks m).onRequest channel
        ⟨"eth_sendTransaction", .object fields :: rest⟩).run
      fun outcome journal =>
        Handles strategy ⟨"eth_sendTransaction", .object fields :: rest⟩ journal outcome := by
  rw [transaction_steps, transaction_steps]
  generalize checking : missingMaximum (priced strategy fields) = check
  have checked := fields_checked strategy fields
  rw [checking] at checked
  cases checked with
  | settled outcome settles same =>
      rw [known_then, known_then]
      cases outcome with
      | error fault => exact pure_records _ _ (.settled fields rest (.error fault) settles)
      | ok after =>
          rw [← same after rfl]
          exact pure_records _ _ (.settled fields rest (.ok after) settles)
  | asks value priority alone read =>
      rw [known_then, known_then, alone_kept strategy fields value alone]
      apply call_then_records channel _ _ _ (fun latest outcome late => late = [] ∧
        ∃ derived, Derives fields priority latest derived ∧
          outcome = derived.map fun after => .object after :: rest)
      · intro latest
        have derives := maximum_derives fields priority latest
          (Quantity.read_bounded value priority read) alone.maximum
        rw [known_then, known_then]
        cases found : maximum priority latest with
        | error fault =>
            rw [found] at derives
            exact pure_records _ _ ⟨rfl, _, derives, rfl⟩
        | ok fee =>
            rw [found] at derives
            exact pure_records _ _ ⟨rfl, _, derives, rfl⟩
      · rintro latest outcome _ ⟨rfl, derived, derives, rfl⟩
        exact .asked fields rest value priority latest derived alone read derives

-- In the journal are the calls that the layer makes. What it gives back passes it again, at no call.
theorem fees_exact (channel : Channel m) (call : Call) :
    Records ((hooks strategy : Hooks (Journaled m)).onRequest channel.journaled call).run
      ((hooks strategy : Hooks m).onRequest channel call).run fun outcome journal =>
        Handles strategy call journal outcome ∧ ∀ params, outcome = .ok params →
          ∀ other : Channel m,
            (hooks strategy : Hooks m).onRequest other ⟨call.method, params⟩ = pure params := by
  by_cases transaction : ∃ fields rest, call = ⟨"eth_sendTransaction", .object fields :: rest⟩
  · obtain ⟨fields, rest, rfl⟩ := transaction
    apply records_mono _ _ _ _ (transaction_records strategy channel fields rest)
    intro outcome journal handled
    refine ⟨handled, ?_⟩
    rintro params rfl other
    obtain ⟨after, rfl, stable⟩ := handled_stable strategy fields rest journal params handled
    exact stable_passes strategy other after rest stable
  · have other : ∀ fields rest, call ≠ ⟨"eth_sendTransaction", .object fields :: rest⟩ :=
      fun fields rest same => transaction ⟨fields, rest, same⟩
    rw [other_passes strategy channel call other, other_passes strategy channel.journaled call other]
    apply pure_records
    refine ⟨.passed call other, ?_⟩
    rintro params ⟨rfl⟩ again
    exact other_passes strategy again call other

end Layer

def london : Node Unit where
  send _ outside :=
    (.ok (.success (.object [("baseFeePerGas", .ofNat 7), ("number", .ofNat 1)])), outside)
  sendBatch _ outside := (.ok [], outside)

-- The sum of the fees is above the greatest quantity.
theorem fees_exact_saturated :
    ∃ latest params, Handles none
        ⟨"eth_sendTransaction", [.object [("maxPriorityFeePerGas", .string "0xffffffffffffffff")]]⟩
        [.sent ⟨"eth_getBlockByNumber", [.string "latest", .bool false]⟩ latest] (.ok params) ∧
      params = [.object [("maxFeePerGas", .string "0xffffffffffffffff"),
        ("maxPriorityFeePerGas", .string "0xffffffffffffffff")]] ∧
      (hooks none : Hooks (StateM (World Unit))).onRequest london.channel
        ⟨"eth_sendTransaction", params⟩ = pure params := by
  let call : Call :=
    ⟨"eth_sendTransaction", [.object [("maxPriorityFeePerGas", .string "0xffffffffffffffff")]]⟩
  let channel : Channel (StateM (World Unit)) := london.channel
  obtain ⟨journal, ⟨handled, again⟩, run⟩ :=
    records_blocking _ _ _ (fees_exact none channel call) [] (World.start () (.still 0))
  have outcome : (((hooks none : Hooks (StateM (World Unit))).onRequest channel call).run
      (World.start () (.still 0))).1 =
        .ok [.object [("maxFeePerGas", .string "0xffffffffffffffff"),
          ("maxPriorityFeePerGas", .string "0xffffffffffffffff")]] := rfl
  have same : _ = journal := congrArg (fun done => done.1.2) run
  rw [outcome, ← same] at handled
  exact ⟨_, _, handled, rfl, again _ outcome channel⟩

end RequestLayer.Fees
