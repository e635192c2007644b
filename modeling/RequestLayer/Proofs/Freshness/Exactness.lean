import RequestLayer.Proofs.Freshness.SideCalls
import RequestLayer.Proofs.Freshness.Verdicts

set_option autoImplicit false

namespace RequestLayer.Freshness

variable {ν : Type}

theorem judged_at_most (node : Node ν) (threshold : Threshold) (state : ν) (number : Nat)
    (answer : Bool) (judged : answer = true ↔ Reached node threshold state number) :
    atMost number (node.send (.header threshold.tag) state).1 = answer :=
  Bool.eq_iff_iff.mpr ((at_most_iff node threshold state number).trans judged.symm)

-- Once the verdict names a number, the threshold's block settles it.
theorem run_reached (node : Node ν) (rule : Rule) (call : Call) (result : Option Json)
    (threshold : Threshold) (number : Nat) (answer : Bool) (state : ν) (sent : List Traffic)
    (depends : rule.verdict call result = .depends threshold (.number number))
    (judged : answer = true ↔ Reached node threshold state number) :
    (rule.allows (recorder node) call result).run (state, sent) =
      (answer, (node.send (.header threshold.tag) state).2,
        sent ++ [Call.header threshold.tag].map .single) := by
  rw [allows_number node rule call result state sent threshold number depends,
    judged_at_most node threshold state number answer judged]
  rfl

theorem judged_run (node : Node ν) (rule : Rule) (call : Call) (result : Option Json)
    (state final : ν) (answer : Bool) (calls : List Call) (sent : List Traffic)
    (judged : Judged node rule call result state answer calls final) :
    (rule.allows (recorder node) call result).run (state, sent) =
      (answer, final, sent ++ calls.map .single) := by
  have settled : ∀ allowed, rule.verdict call result = .settled allowed →
      (rule.allows (recorder node) call result).run (state, sent) =
        (allowed, state, sent ++ ([] : List Call).map .single) := by
    intro allowed verdict
    rw [allows_settled node rule call result state sent allowed verdict, List.map_nil,
      List.append_nil]
  cases judged with
  | notCacheable outside => exact settled false (verdict_not_cacheable rule call result outside)
  | noResult nothing => exact settled false (verdict_no_result rule call result nothing)
  | noThreshold value cacheable present notNull unbound =>
      exact settled true
        (verdict_no_threshold rule call result value cacheable present notNull unbound)
  | constant threshold value pending noNumber noHash noResult =>
      exact settled true
        (verdict_constant rule call result threshold value pending noNumber noHash noResult)
  | earliest threshold value pending group first =>
      apply settled true
      rw [verdict_by_number rule call result threshold value pending group,
        (names_iff _ _).mp ((names_earliest call.params).mpr first)]
  | number threshold value number answer pending group named judged =>
      apply run_reached node rule call result threshold number answer state sent _ judged
      rw [verdict_by_number rule call result threshold value pending group,
        (names_iff _ _).mp named]
  | noNumber threshold value pending group later unnamed =>
      apply settled false
      rw [verdict_by_number rule call result threshold value pending group]
      split
      · rename_i named
        exact absurd ((names_earliest _).mp ((names_iff _ _).mpr named)) later
      · rename_i number named
        exact absurd ((names_iff _ _).mpr named) (unnamed number)
      · rfl
  | hash threshold value hash number answer pending group named found judged =>
      have depends : rule.verdict call result = .depends threshold (.hash hash) := by
        rw [verdict_by_hash rule call result threshold value pending group, (names_iff _ _).mp named]
      rw [allows_hash node rule call result state sent threshold hash depends,
        (block_number_iff _ number).mpr found]
      dsimp only
      rw [judged_at_most node threshold _ number answer judged, List.append_assoc]
      rfl
  | lostHash threshold value hash pending group named lost =>
      have depends : rule.verdict call result = .depends threshold (.hash hash) := by
        rw [verdict_by_hash rule call result threshold value pending group, (names_iff _ _).mp named]
      rw [allows_hash node rule call result state sent threshold hash depends]
      cases found : blockNumber? (node.send (.headerByHash hash) state).1 with
      | none => rfl
      | some number => exact absurd ((block_number_iff _ number).mp found) (lost number)
  | noHash threshold value pending group unnamed =>
      apply settled false
      rw [verdict_by_hash rule call result threshold value pending group]
      split
      · rename_i hash named
        exact absurd ((names_iff _ _).mpr named) (unnamed hash)
      · rfl
  | carried threshold value number answer pending group carries judged =>
      apply run_reached node rule call result threshold number answer state sent _ judged
      rw [verdict_by_result rule call result threshold value pending group,
        (carries_iff value number).mp carries]
  | notCarried threshold value pending group without =>
      apply settled false
      rw [verdict_by_result rule call result threshold value pending group]
      split
      · rename_i number carried
        exact absurd ((carries_iff value number).mpr carried) (without number)
      · rfl

-- Every response is judged: the groups cover all methods, and each kind of answer has its case.
theorem judged_pending (node : Node ν) (rule : Rule) (call : Call) (result : Option Json)
    (state : ν) (threshold : Threshold) (value : Json)
    (pending : Pending rule call.method result threshold value) :
    ∃ answer calls final, Judged node rule call result state answer calls final := by
  by_cases byNumber : call.method ∈ methodsByNumber
  · by_cases first : call.params.head? = some (.string "earliest")
    · exact ⟨_, _, _, .earliest threshold value pending byNumber first⟩
    · by_cases named : ∃ number, Names call.params (.number number)
      · obtain ⟨number, named⟩ := named
        exact ⟨_, _, _, .number threshold value number _ pending byNumber named
          (at_most_iff node threshold state number)⟩
      · exact ⟨_, _, _, .noNumber threshold value pending byNumber first (not_exists.mp named)⟩
  · by_cases byHash : call.method ∈ methodsByHash
    · by_cases named : ∃ hash, Names call.params (.hash hash)
      · obtain ⟨hash, named⟩ := named
        by_cases found : ∃ number, Finds (node.send (.headerByHash hash) state).1 number
        · obtain ⟨number, found⟩ := found
          exact ⟨_, _, _, .hash threshold value hash number _ pending byHash named found
            (at_most_iff node threshold _ number)⟩
        · exact ⟨_, _, _, .lostHash threshold value hash pending byHash named
            (not_exists.mp found)⟩
      · exact ⟨_, _, _, .noHash threshold value pending byHash (not_exists.mp named)⟩
    · by_cases byResult : call.method ∈ methodsByResult
      · by_cases carried : ∃ number, Carries value number
        · obtain ⟨number, carries⟩ := carried
          exact ⟨_, _, _, .carried threshold value number _ pending byResult carries
            (at_most_iff node threshold state number)⟩
        · exact ⟨_, _, _, .notCarried threshold value pending byResult (not_exists.mp carried)⟩
      · exact ⟨_, _, _, .constant threshold value pending byNumber byHash byResult⟩

theorem judged_total (node : Node ν) (rule : Rule) (call : Call) (result : Option Json)
    (state : ν) : ∃ answer calls final, Judged node rule call result state answer calls final := by
  by_cases cacheable : call.method ∈ rule.cacheable
  · by_cases nothing : result = none ∨ result = some .null
    · exact ⟨_, _, _, .noResult nothing⟩
    · obtain ⟨absent, notNull⟩ := not_or.mp nothing
      obtain ⟨value, present⟩ := Option.ne_none_iff_exists'.mp absent
      have real : value ≠ .null := fun same => notNull (same ▸ present)
      cases bound : rule.threshold with
      | none => exact ⟨_, _, _, .noThreshold value cacheable present real bound⟩
      | some threshold =>
          exact judged_pending node rule call result state threshold value
            ⟨cacheable, present, real, bound⟩
  · exact ⟨_, _, _, .notCacheable cacheable⟩

-- A run answers and sends what `Judged` says, and nothing else. A text of 66 bytes is never taken for
-- a number, and the call for a block by its hash writes the hash in lower case.
theorem allows_exact (node : Node ν) (rule : Rule) (call : Call) (result : Option Json) :
    (∀ state sent answer final log,
      (rule.allows (recorder node) call result).run (state, sent) = (answer, final, log) ↔
        ∃ calls, log = sent ++ calls.map .single ∧
          Judged node rule call result state answer calls final) ∧
    (∀ text others number, text.utf8ByteSize = 66 →
      ¬ Names (.string text :: others) (.number number)) ∧
    (∀ threshold : Threshold, Call.header threshold.tag =
      ⟨"eth_getBlockByNumber", [.string threshold.name, .bool false]⟩) ∧
    ∀ hash, ∃ digits : List Char,
      Call.headerByHash hash =
          ⟨"eth_getBlockByHash", [.string (String.ofList ('0' :: 'x' :: digits)), .bool false]⟩ ∧
        digits.length = 64 ∧ (∀ c ∈ digits, c ∈ "0123456789abcdef".toList) ∧
        BlockRef.hash? (String.ofList ('0' :: 'x' :: digits)) = some hash := by
  refine ⟨?_, ?_, fun _ => rfl, ?_⟩
  · intro state sent answer final log
    constructor
    · intro run
      obtain ⟨decided, calls, last, judged⟩ := judged_total node rule call result state
      rw [judged_run node rule call result state last decided calls sent judged] at run
      cases run
      exact ⟨calls, rfl, judged⟩
    · rintro ⟨calls, rfl, judged⟩
      exact judged_run node rule call result state final answer calls sent judged
  · rintro text others number long ⟨first, found, read⟩
    cases found
    exact long_text_no_number text number long read
  · intro hash
    refine ⟨Hexadecimal.ofBytes hash.toList, rfl, ?_, ?_, read_marked hash⟩
    · rw [Hexadecimal.digits_length, Vector.length_toList]
    · exact Hexadecimal.digits_lower hash.toList

end RequestLayer.Freshness
