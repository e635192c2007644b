import RequestLayer.Layer
import RequestLayer.Proofs.Chain.Quantities
import RequestLayer.Proofs.Layers.Sending
import RequestLayer.Proofs.Outcomes

set_option autoImplicit false

namespace RequestLayer

structure Extended (given fields : Fields) : Prop where
  kept : ∀ key value, given.lookup key = some value → fields.lookup key = some value
  added : ∀ key, Fields.has given key = false → Fields.has fields key = true →
    key ∈ ["gas", "gasPrice", "maxFeePerGas"]

-- There is a gas price, or both fields of a dynamic fee, or neither.
structure Priced (fields : Fields) : Prop where
  apart : Fields.has fields "gasPrice" = true → Fees.hasDynamicFee fields = false
  dynamic : Fees.hasDynamicFee fields = true → ∃ maximum priority maximumFee priorityFee,
    fields.lookup "maxFeePerGas" = some maximum ∧
    fields.lookup "maxPriorityFeePerGas" = some priority ∧
    Quantity.ofJson? maximum = some maximumFee ∧ Quantity.ofJson? priority = some priorityFee ∧
    priorityFee ≤ maximumFee

-- A call made of the one with these fields and these other parameters.
def Completed (given : Fields) (rest : Params) (sent : Call) : Prop :=
  ∃ fields, sent = ⟨sendTransaction, .object fields :: rest⟩ ∧ Extended given fields ∧
    Fields.has fields "gas" = true ∧ Priced fields

namespace Layer

variable {ν : Type}

def Standard : Layer ν → Prop
  | .passing | .authority | .gas | .fees _ | .staleness _ _ => True
  | .functions onRequest _ => onRequest = none
  | .custom _ _ => False

def isGas : Layer ν → Bool
  | .gas => true
  | _ => false

def isFees : Layer ν → Bool
  | .fees _ => true
  | _ => false

end Layer

structure Prepared (given : Fields) (gas fees : Bool) (fields : Fields) : Prop where
  extended : Extended given fields
  gas : gas = true → Fields.has fields "gas" = true
  fees : fees = true → Priced fields

section Fields

variable {given fields : Fields} (key : String) (value : Json)

theorem has_insert (other : String) :
    Fields.has (Fields.insert key value fields) other = (other == key || Fields.has fields other) := by
  unfold Fields.has
  rw [Fields.lookup_insert]
  by_cases same : other = key <;> simp [same]

theorem Extended.refl (given : Fields) : Extended given given where
  kept _ _ there := there
  added key absent present := by
    rw [absent] at present
    cases present

theorem Extended.insert (extended : Extended given fields)
    (absent : Fields.has fields key = false)
    (named : key ∈ ["gas", "gasPrice", "maxFeePerGas"]) :
    Extended given (Fields.insert key value fields) where
  kept other held there := by
    have before := extended.kept other held there
    rw [Fields.lookup_insert, if_neg]
    · exact before
    · rintro rfl
      simp [Fields.has, before] at absent
  added other missing present := by
    rw [has_insert, Bool.or_eq_true, beq_iff_eq] at present
    rcases present with rfl | before
    · exact named
    · exact extended.added other missing before

theorem Priced.congr (priced : Priced fields) (other : Fields)
    (same : ∀ key ∈ ["gasPrice", "maxFeePerGas", "maxPriorityFeePerGas"],
      other.lookup key = fields.lookup key) : Priced other := by
  have maximum := same "maxFeePerGas" (by decide)
  have priority := same "maxPriorityFeePerGas" (by decide)
  have price : Fields.has other "gasPrice" = Fields.has fields "gasPrice" :=
    congrArg Option.isSome (same "gasPrice" (by decide))
  have dynamic : Fees.hasDynamicFee other = Fees.hasDynamicFee fields := by
    simp only [Fees.hasDynamicFee, Fields.has, maximum, priority]
  constructor
  · rw [price, dynamic]
    exact priced.apart
  · rw [dynamic, maximum, priority]
    exact priced.dynamic

end Fields

section Fees

theorem fee_read (name : String) (value : Json) (number : Nat)
    (read : Fees.fee name value = .ok number) : Quantity.ofJson? value = some number := by
  unfold Fees.fee at read
  cases given : Quantity.ofJson? value with
  | some other =>
      rw [given] at read
      cases read
      rfl
  | none =>
      rw [given] at read
      cases read

theorem unmixed_price (fields : Fields) (value : Json)
    (mixed : ¬ (Fields.has fields "gasPrice" && Fees.hasDynamicFee fields) = true)
    (priority : fields.lookup "maxPriorityFeePerGas" = some value) :
    Fields.has fields "gasPrice" = false := by
  have dynamic : Fees.hasDynamicFee fields = true := by
    simp [Fees.hasDynamicFee, Fields.has, priority]
  rw [dynamic, Bool.and_true, Bool.not_eq_true] at mixed
  exact mixed

theorem missing_maximum (fields : Fields) (missing : Option Nat)
    (passed : Fees.missingMaximum fields = .ok missing) :
    missing = none ∧ Priced fields ∨
      ∃ priority value, missing = some priority ∧ Fields.has fields "gasPrice" = false ∧
        Fields.has fields "maxFeePerGas" = false ∧
        fields.lookup "maxPriorityFeePerGas" = some value ∧
        Quantity.ofJson? value = some priority := by
  unfold Fees.missingMaximum at passed
  by_cases mixed : (Fields.has fields "gasPrice" && Fees.hasDynamicFee fields) = true
  · rw [if_pos mixed] at passed
    cases passed
  rw [if_neg mixed] at passed
  cases maximum : fields.lookup "maxFeePerGas" with
  | none =>
      cases priority : fields.lookup "maxPriorityFeePerGas" with
      | none =>
          rw [maximum, priority] at passed
          cases passed
          have dynamic : Fees.hasDynamicFee fields = false := by
            simp [Fees.hasDynamicFee, Fields.has, maximum, priority]
          refine .inl ⟨rfl, fun _ => dynamic, fun other => ?_⟩
          rw [dynamic] at other
          cases other
      | some value =>
          rw [maximum, priority] at passed
          obtain ⟨number, read, last⟩ := (bind_ok _ _ _).mp passed
          cases last
          refine .inr ⟨number, value, rfl, unmixed_price fields value mixed priority, ?_, rfl,
            fee_read _ value number read⟩
          simp [Fields.has, maximum]
  | some limit =>
      cases priority : fields.lookup "maxPriorityFeePerGas" with
      | none =>
          rw [maximum, priority] at passed
          cases passed
      | some value =>
          rw [maximum, priority] at passed
          obtain ⟨most, readMost, after⟩ := (bind_ok _ _ _).mp passed
          obtain ⟨number, read, last⟩ := (bind_ok _ _ _).mp after
          by_cases less : most < number
          · rw [if_pos less] at last
            cases last
          · rw [if_neg less] at last
            cases last
            have single := unmixed_price fields value mixed priority
            refine .inl ⟨rfl, fun there => ?_, fun _ => ⟨limit, value, most, number, maximum, priority,
              fee_read _ limit most readMost, fee_read _ value number read, Nat.le_of_not_lt less⟩⟩
            rw [single] at there
            cases there

theorem maximum_bounds (priority fee : Nat) (latest : Except Fault Reply)
    (bounded : priority < Nat.pow 2 64) (found : Fees.maximum priority latest = .ok fee) :
    priority ≤ fee ∧ fee < Nat.pow 2 64 := by
  unfold Fees.maximum at found
  obtain ⟨reply, _, answered⟩ := (bind_ok _ _ _).mp found
  obtain ⟨result, _, read⟩ := (bind_ok _ _ _).mp answered
  obtain ⟨header, _, last⟩ := (bind_ok _ _ _).mp read
  cases base : header.baseFee with
  | none =>
      rw [base] at last
      cases last
  | some baseFee =>
      rw [base] at last
      cases last
      unfold Quantity.greatest
      omega

theorem Priced.completed (fields : Fields) (priority fee : Nat) (value : Json)
    (price : Fields.has fields "gasPrice" = false)
    (there : fields.lookup "maxPriorityFeePerGas" = some value)
    (read : Quantity.ofJson? value = some priority) (above : priority ≤ fee)
    (bounded : fee < Nat.pow 2 64) :
    Priced (Fields.insert "maxFeePerGas" (Quantity.toJson fee) fields) where
  apart given := by
    rw [has_insert, price] at given
    cases given
  dynamic _ := by
    refine ⟨Quantity.toJson fee, value, fee, priority, ?_, ?_, Quantity.read_written fee bounded,
      read, above⟩
    · rw [Fields.lookup_insert, if_pos rfl]
    · rw [Fields.lookup_insert, if_neg (by decide)]
      exact there

theorem Prepared.insert (given fields : Fields) (gas : Bool) (key : String) (value : Json)
    (prepared : Prepared given gas false fields) (absent : Fields.has fields key = false)
    (named : key ∈ ["gas", "gasPrice", "maxFeePerGas"]) :
    Prepared given gas false (Fields.insert key value fields) where
  extended := prepared.extended.insert key value absent named
  gas asked := by rw [has_insert, prepared.gas asked, Bool.or_true]
  fees := nofun

theorem strategy_prepared (strategy : Option Fees.Strategy) (given fields : Fields) (gas : Bool)
    (prepared : Prepared given gas false fields) :
    Prepared given gas false (Fees.priced strategy fields) := by
  unfold Fees.priced
  cases strategy.bind (· fields) with
  | none => exact prepared
  | some price =>
      by_cases there : (Fields.has fields "gasPrice" || Fees.hasDynamicFee fields) = true
      · simp only [there, if_true]
        exact prepared
      · have absent : Fields.has fields "gasPrice" = false := by
          rw [Bool.or_eq_true, not_or, Bool.not_eq_true] at there
          exact there.1
        simp only [there]
        exact prepared.insert _ _ _ _ _ absent (by decide)

end Fees

section Layers

variable {ν : Type} {m : Type → Type} [Monad m] [LawfulMonad m] [Await m] (channel : Channel m)
  (given fields : Fields) (rest : Params) (gas fees : Bool)

def Passes (gas fees : Bool) (params : Params) : Prop :=
  ∃ fields, params = .object fields :: rest ∧ Prepared given gas fees fields

omit [Await m] in
theorem unchanged_delivers (prepared : Prepared given gas fees fields) :
    Delivers (pure (.object fields :: rest) : ExceptT Fault m Params)
      (Passes given rest gas fees) :=
  pure_delivers _ _ ⟨fields, rfl, prepared⟩

theorem gas_delivers (prepared : Prepared given gas fees fields) :
    Delivers (Gas.fill channel ⟨sendTransaction, .object fields :: rest⟩)
      (Passes given rest true fees) := by
  rw [Gas.fill_eq]
  unfold Gas.fillAsync
  by_cases there : Fields.has fields "gas" = true
  · have none_missing : Gas.transaction? ⟨sendTransaction, .object fields :: rest⟩ = none := by
      simp [Gas.transaction?, there]
    rw [none_missing]
    exact unchanged_delivers given fields rest true fees
      ⟨prepared.extended, fun _ => there, prepared.fees⟩
  · have missing : Gas.transaction? ⟨sendTransaction, .object fields :: rest⟩ = some fields := by
      simp [Gas.transaction?, there]
    rw [missing]
    apply then_delivers
    intro estimate
    apply then_delivers
    intro latest
    apply known_then_delivers
    intro amount _
    apply pure_delivers
    refine ⟨Fields.insert "gas" (Quantity.toJson amount) fields, rfl, ?_, ?_, ?_⟩
    · exact prepared.extended.insert _ _ (Bool.eq_false_iff.mpr there) (by decide)
    · intro _
      simp [has_insert]
    · intro asked
      apply (prepared.fees asked).congr
      intro key named
      rw [Fields.lookup_insert, if_neg]
      rintro rfl
      revert named
      decide

theorem fees_delivers (strategy : Option Fees.Strategy) (prepared : Prepared given gas fees fields) :
    Delivers (Fees.fill strategy channel ⟨sendTransaction, .object fields :: rest⟩)
      (Passes given rest gas true) := by
  have known := strategy_prepared strategy given fields gas
    ⟨prepared.extended, prepared.gas, nofun⟩
  rw [Fees.fill_eq]
  unfold Fees.fillAsync
  dsimp only
  rw [if_neg (not_not.mpr rfl)]
  apply known_then_delivers
  intro missing passed
  rcases missing_maximum _ missing passed with
    ⟨rfl, priced⟩ | ⟨priority, value, rfl, price, maximum, there, read⟩
  · exact pure_delivers _ _ ⟨_, rfl, known.extended, known.gas, fun _ => priced⟩
  · apply then_delivers
    intro latest
    apply known_then_delivers
    intro fee found
    have bounds := maximum_bounds priority fee latest (Quantity.read_bounded value priority read) found
    have filled := known.insert _ _ _ "maxFeePerGas" (Quantity.toJson fee) maximum (by decide)
    exact pure_delivers _ _ ⟨_, rfl, filled.extended, filled.gas,
      fun _ => .completed _ priority fee value price there read bounds.1 bounds.2⟩

theorem staleness_delivers (check : StaleCheck) (latest : Cell m (Option Header)) (now : m Nat)
    (prepared : Prepared given gas fees fields) :
    Delivers ((check.hooks latest now).onRequest channel
      ⟨sendTransaction, .object fields :: rest⟩) (Passes given rest gas fees) := by
  change Delivers (check.guard latest now channel _) _
  rw [StaleCheck.guard_eq]
  apply then_delivers
  intro due
  cases due with
  | false => exact unchanged_delivers given fields rest gas fees prepared
  | true =>
      apply then_delivers
      intro reply
      apply then_delivers
      intro _
      exact unchanged_delivers given fields rest gas fees prepared

variable [MonadStateOf (World ν) m]

theorem layer_delivers (layer : Layer ν) (standard : layer.Standard)
    (prepared : Prepared given gas fees fields) :
    Delivers (layer.hooks.onRequest channel ⟨sendTransaction, .object fields :: rest⟩)
      (Passes given rest (gas || layer.isGas) (fees || layer.isFees)) := by
  have unchanged : Delivers (pure (.object fields :: rest) : ExceptT Fault m Params)
      (Passes given rest (gas || false) (fees || false)) := by
    rw [Bool.or_false, Bool.or_false]
    exact unchanged_delivers given fields rest gas fees prepared
  cases layer with
  | passing => exact unchanged
  | authority => exact unchanged
  | functions onRequest onReply =>
      obtain rfl : onRequest = none := standard
      exact unchanged
  | custom onRequest onReply => exact standard.elim
  | gas =>
      change Delivers _ (Passes given rest (gas || true) (fees || false))
      rw [Bool.or_true, Bool.or_false]
      exact gas_delivers channel given fields rest gas fees prepared
  | fees strategy =>
      change Delivers _ (Passes given rest (gas || false) (fees || true))
      rw [Bool.or_true, Bool.or_false]
      exact fees_delivers channel given fields rest gas fees strategy prepared
  | staleness check memory =>
      change Delivers _ (Passes given rest (gas || false) (fees || false))
      rw [Bool.or_false, Bool.or_false]
      exact staleness_delivers channel given fields rest gas fees check _ _ prepared

theorem outbound_passes (layers : List (Layer ν)) (number : Nat)
    (standard : ∀ layer ∈ layers, layer.Standard) (prepared : Prepared given gas fees fields) :
    Records (Hooks.outbound channel.journaled
        (Hooks.journaledFrom channel number (layers.map Layer.hooks))
        ⟨sendTransaction, .object fields :: rest⟩).run
      (Hooks.outbound channel (layers.map Layer.hooks)
        ⟨sendTransaction, .object fields :: rest⟩).run
      fun outcome journal => journal.Unsent ∧ ∀ sent, outcome = .ok sent →
        sent.method = sendTransaction ∧
          Passes given rest (gas || layers.any Layer.isGas) (fees || layers.any Layer.isFees)
            sent.params := by
  induction layers generalizing number gas fees fields with
  | nil =>
      rw [List.map_nil, Hooks.journaledFrom, Hooks.outbound_nil, Hooks.outbound_nil]
      refine pure_records _ _ ⟨fun _ member => absurd member List.not_mem_nil, ?_⟩
      rintro _ ⟨rfl⟩
      rw [List.any_nil, List.any_nil, Bool.or_false, Bool.or_false]
      exact ⟨rfl, fields, rfl, prepared⟩
  | cons layer others ih =>
      have own := layer_delivers channel given fields rest gas fees layer
        (standard layer List.mem_cons_self) prepared
      have inner : ∀ other ∈ others, other.Standard :=
        fun other member => standard other (List.mem_cons_of_mem _ member)
      rw [List.map_cons, Hooks.journaledFrom, Hooks.outbound_cons, Hooks.outbound_cons, List.any_cons,
        List.any_cons, ← Bool.or_assoc, ← Bool.or_assoc]
      apply pause_then_records
      apply then_records _ _ _ _ _ (fun params outcome journal =>
        Passes given rest (gas || layer.isGas) (fees || layer.isFees) params →
          journal.Unsent ∧ ∀ sent, outcome = .ok sent → sent.method = sendTransaction ∧
            Passes given rest (gas || layer.isGas || others.any Layer.isGas)
              (fees || layer.isFees || others.any Layer.isFees) sent.params) _
        (noting_delivers _ (.request number _) _ own)
      · intro params
        by_cases passed : Passes given rest (gas || layer.isGas) (fees || layer.isFees) params
        · obtain ⟨after, rfl, known⟩ := passed
          exact records_mono _ _ _ _ (ih after _ _ (number + 1) inner known) fun _ _ held _ => held
        · exact records_mono _ _ _ _ (Hooks.outbound_records channel _ (number + 1) _)
            fun _ _ _ other => absurd other passed
      · rintro fault journal ⟨rfl, _⟩
        refine ⟨?_, fun sent same => by cases same⟩
        exact request_unsent number _ _ _ fun _ member => absurd member List.not_mem_nil
      · rintro params early outcome late ⟨rfl, held⟩ further
        obtain ⟨unsent, made⟩ := further (held params rfl)
        exact ⟨request_unsent number _ _ _ unsent, made⟩

theorem transactions_completed (layers : List (Layer ν))
    (standard : ∀ layer ∈ layers, layer.Standard) (gas : .gas ∈ layers)
    (fees : ∃ strategy, .fees strategy ∈ layers) :
    (∀ fields rest,
      Records (Hooks.execute channel.journaled
          (Hooks.journaledFrom channel 0 (layers.map Layer.hooks))
          ⟨sendTransaction, .object fields :: rest⟩).run
        (Hooks.execute channel (layers.map Layer.hooks)
          ⟨sendTransaction, .object fields :: rest⟩).run
        fun _ journal => ∀ sent answer, .sent sent answer ∈ journal → Completed fields rest sent) ∧
    ∀ calls,
      Records (Hooks.executeBatch channel.journaled
          (Hooks.journaledFrom channel 0 (layers.map Layer.hooks)) calls).run
        (Hooks.executeBatch channel (layers.map Layer.hooks) calls).run
        fun _ journal => ∀ sent answer, .sentBatch sent answer ∈ journal →
          List.Forall₂ (fun call sent => ∀ fields rest,
            call = ⟨sendTransaction, .object fields :: rest⟩ → Completed fields rest sent)
            calls sent := by
  have start (fields : Fields) : Prepared fields false false fields := ⟨.refl fields, nofun, nofun⟩
  have anyGas : layers.any Layer.isGas = true := List.any_eq_true.mpr ⟨.gas, gas, rfl⟩
  have anyFees : layers.any Layer.isFees = true := by
    obtain ⟨strategy, member⟩ := fees
    exact List.any_eq_true.mpr ⟨.fees strategy, member, rfl⟩
  have makes (fields : Fields) (rest : Params) :
      Hooks.Makes channel (layers.map Layer.hooks) ⟨sendTransaction, .object fields :: rest⟩
        (Completed fields rest) := by
    apply records_mono _ _ _ _
      (outbound_passes channel fields fields rest false false layers 0 standard (start fields))
    rintro outcome journal ⟨unsent, made⟩
    refine ⟨unsent, fun sent same => ?_⟩
    obtain ⟨method, after, params, known⟩ := made sent same
    rw [anyGas, anyFees] at known
    refine ⟨after, ?_, known.extended, known.gas rfl, known.fees rfl⟩
    cases sent
    cases method
    cases params
    rfl
  refine ⟨fun fields rest => Hooks.execute_sends channel _ _ _ (makes fields rest), fun calls => ?_⟩
  apply Hooks.execute_batch_sends
  intro call
  by_cases transaction : ∃ fields rest, call = ⟨sendTransaction, .object fields :: rest⟩
  · obtain ⟨fields, rest, rfl⟩ := transaction
    apply records_mono _ _ _ _ (makes fields rest)
    rintro outcome journal ⟨unsent, made⟩
    refine ⟨unsent, ?_⟩
    rintro sent same _ _ ⟨rfl, rfl⟩
    exact made sent same
  · apply records_mono _ _ _ _ (Hooks.outbound_records channel _ 0 call)
    intro outcome journal outgoing
    refine ⟨outgoing_unsent _ _ _ _ _ outgoing, ?_⟩
    rintro sent _ fields rest rfl
    exact absurd ⟨fields, rest, rfl⟩ transaction

end Layers

def answering : Node Unit where
  send call outside :=
    let block : Json := .object
      [("baseFeePerGas", .ofNat 7), ("gasLimit", .ofNat 30000000), ("number", .ofNat 1)]
    (.ok (.success (if call.method = "eth_estimateGas" then .ofNat 21000 else block)), outside)
  sendBatch _ outside := (.ok [], outside)

-- A transaction with a priority fee is given the other fee, and then gas.
theorem transactions_completed_dynamic :
    let layers : List (Layer Unit) := [.fees none, .passing, .gas]
    let channel : Channel (StateM (World Unit)) := answering.channel
    let fields : Fields := [("maxPriorityFeePerGas", .ofNat 2)]
    ∃ sent : Call, Completed fields [] sent ∧ ∃ after answer, sent.params = [.object after] ∧
      Fields.has after "maxFeePerGas" = true ∧
      .sent sent answer ∈ ((Hooks.execute channel.journaled
        (Hooks.journaledFrom channel 0 (layers.map Layer.hooks))
        ⟨sendTransaction, [.object fields]⟩).run [] (World.start () (.still 0))).1.2 := by
  intro layers channel fields
  have standard : ∀ layer ∈ layers, layer.Standard := by
    intro layer member
    simp only [layers, List.mem_cons, List.not_mem_nil, or_false] at member
    rcases member with rfl | rfl | rfl <;> trivial
  have gas : .gas ∈ layers := by simp [layers]
  have fees : ∃ strategy, .fees strategy ∈ layers := ⟨none, by simp [layers]⟩
  obtain ⟨journal, completed, run⟩ := records_blocking _ _ _
    ((transactions_completed channel layers standard gas fees).1 fields []) []
    (World.start () (.still 0))
  have same : _ = journal := congrArg (fun done => done.1.2) run
  have fourth : ∃ sent answer, journal[3]? = some (.sent sent answer) ∧
      ∃ after, sent.params = [.object after] ∧ Fields.has after "maxFeePerGas" = true := by
    rw [← same]
    exact ⟨_, _, rfl, _, rfl, rfl⟩
  obtain ⟨sent, answer, there, after, params, has⟩ := fourth
  have member := List.mem_of_getElem? there
  rw [run]
  exact ⟨sent, completed sent answer member, after, answer, params, has, member⟩

end RequestLayer
