import RequestLayer.Proofs.Chain.Reference
import RequestLayer.Proofs.Freshness.Judgement

set_option autoImplicit false

namespace RequestLayer.Freshness

theorem category_by_number (method : String) (group : method ∈ methodsByNumber) :
    category? method = some .numberInParams := by
  rw [category?, if_pos group]

theorem groups_apart :
    (∀ method ∈ methodsByHash, method ∉ methodsByNumber) ∧
      ∀ method ∈ methodsByResult, method ∉ methodsByNumber ∧ method ∉ methodsByHash := by
  decide

theorem category_by_hash (method : String) (group : method ∈ methodsByHash) :
    category? method = some .hashInParams := by
  rw [category?, if_neg (groups_apart.1 method group), if_pos group]

theorem category_by_result (method : String) (group : method ∈ methodsByResult) :
    category? method = some .numberInResult := by
  obtain ⟨noNumber, noHash⟩ := groups_apart.2 method group
  rw [category?, if_neg noNumber, if_neg noHash, if_pos group]

theorem category_otherwise (method : String) (noNumber : method ∉ methodsByNumber)
    (noHash : method ∉ methodsByHash) (noResult : method ∉ methodsByResult) :
    (category? method).getD .unvalidated = .unvalidated := by
  rw [category?, if_neg noNumber, if_neg noHash, if_neg noResult]
  split <;> rfl

theorem verdict_not_cacheable (rule : Rule) (call : Call) (result : Option Json)
    (outside : call.method ∉ rule.cacheable) : rule.verdict call result = .settled false := by
  have none : rule.category? call.method = none := by
    simp [Rule.category?, Rule.isCacheable, outside]
  unfold Rule.verdict
  rw [none]

theorem category_of_cacheable (rule : Rule) (method : String) (cacheable : method ∈ rule.cacheable) :
    rule.category? method = some ((category? method).getD .unvalidated) := by
  simp [Rule.category?, Rule.isCacheable, cacheable]

theorem verdict_no_result (rule : Rule) (call : Call) (result : Option Json)
    (nothing : result = none ∨ result = some .null) : rule.verdict call result = .settled false := by
  unfold Rule.verdict
  rcases nothing with rfl | rfl
  · cases rule.category? call.method <;> rfl
  · cases rule.category? call.method <;> rfl

theorem verdict_no_threshold (rule : Rule) (call : Call) (result : Option Json) (value : Json)
    (cacheable : call.method ∈ rule.cacheable) (present : result = some value)
    (notNull : value ≠ .null) (unbound : rule.threshold = none) :
    rule.verdict call result = .settled true := by
  unfold Rule.verdict
  rw [category_of_cacheable rule call.method cacheable, present, unbound]
  cases value with
  | null => exact absurd rfl notNull
  | _ => rfl

theorem verdict_pending (rule : Rule) (call : Call) (result : Option Json) (threshold : Threshold)
    (value : Json) (pending : Pending rule call.method result threshold value) :
    rule.verdict call result =
      anchored threshold ((category? call.method).getD .unvalidated) call.params value := by
  unfold Rule.verdict
  rw [category_of_cacheable rule call.method pending.cacheable, pending.present,
    pending.bound]
  cases value with
  | null => exact absurd rfl pending.notNull
  | _ => rfl

theorem names_iff (params : Params) (reference : BlockRef) :
    Names params reference ↔ params.head?.bind BlockRef.ofJson? = some reference :=
  Option.bind_eq_some_iff.symm

theorem names_earliest (params : Params) :
    Names params (.tag .earliest) ↔ params.head? = some (.string "earliest") := by
  constructor
  · rintro ⟨first, found, read⟩
    rw [found, (read_tag first .earliest).mp read]
    rfl
  · intro found
    exact ⟨.string "earliest", found, (read_tag _ .earliest).mpr rfl⟩

theorem carries_iff (result : Json) (number : Nat) :
    Carries result number ↔
      (((result.field? "number").orElse fun _ => result.field? "blockNumber").bind
        Quantity.ofJson?) = some number := by
  rw [Option.bind_eq_some_iff]
  constructor
  · rintro ⟨field, read, first | ⟨absent, second⟩⟩
    · exact ⟨field, by rw [first]; rfl, read⟩
    · exact ⟨field, by rw [absent, second]; rfl, read⟩
  · rintro ⟨field, found, read⟩
    refine ⟨field, read, ?_⟩
    cases first : result.field? "number" with
    | none => exact .inr ⟨rfl, by simpa [first] using found⟩
    | some value => exact .inl (by simpa [first] using found)

theorem verdict_by_number (rule : Rule) (call : Call) (result : Option Json) (threshold : Threshold)
    (value : Json) (pending : Pending rule call.method result threshold value)
    (group : call.method ∈ methodsByNumber) :
    rule.verdict call result =
      match call.params.head?.bind BlockRef.ofJson? with
      | some (.tag .earliest) => .settled true
      | some (.number number) => .depends threshold (.number number)
      | _ => .settled false := by
  rw [verdict_pending rule call result threshold value pending, category_by_number _ group]
  rfl

theorem verdict_by_hash (rule : Rule) (call : Call) (result : Option Json) (threshold : Threshold)
    (value : Json) (pending : Pending rule call.method result threshold value)
    (group : call.method ∈ methodsByHash) :
    rule.verdict call result =
      match call.params.head?.bind BlockRef.ofJson? with
      | some (.hash hash) => .depends threshold (.hash hash)
      | _ => .settled false := by
  rw [verdict_pending rule call result threshold value pending, category_by_hash _ group]
  rfl

theorem verdict_by_result (rule : Rule) (call : Call) (result : Option Json) (threshold : Threshold)
    (value : Json) (pending : Pending rule call.method result threshold value)
    (group : call.method ∈ methodsByResult) :
    rule.verdict call result =
      match ((value.field? "number").orElse fun _ => value.field? "blockNumber").bind
        Quantity.ofJson? with
      | some number => .depends threshold (.number number)
      | none => .settled false := by
  rw [verdict_pending rule call result threshold value pending, category_by_result _ group]
  rfl

theorem verdict_constant (rule : Rule) (call : Call) (result : Option Json) (threshold : Threshold)
    (value : Json) (pending : Pending rule call.method result threshold value)
    (noNumber : call.method ∉ methodsByNumber) (noHash : call.method ∉ methodsByHash)
    (noResult : call.method ∉ methodsByResult) : rule.verdict call result = .settled true := by
  rw [verdict_pending rule call result threshold value pending,
    category_otherwise _ noNumber noHash noResult]
  rfl

end RequestLayer.Freshness
