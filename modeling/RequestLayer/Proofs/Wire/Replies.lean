import RequestLayer.Proofs.Outcomes
import RequestLayer.Reply

set_option autoImplicit false

namespace RequestLayer

namespace Json

theorem present_present (value : Option Json) : present? (present? value) = present? value := by
  cases value with
  | none => rfl
  | some value => cases value <;> rfl

theorem present_or_null (value : Option Json) :
    (present? value).getD .null = value.getD .null := by
  cases value with
  | none => rfl
  | some value => cases value <;> rfl

end Json

namespace ErrorObject

def normal (error : ErrorObject) : ErrorObject :=
  { error with data := Json.present? error.data }

def Coded (error : ErrorObject) : Prop :=
  ∀ code, error.code = some code → -Nat.pow 2 63 ≤ code ∧ code < Nat.pow 2 63

-- What reading asks of a code. There are no smaller integers in JSON.
def Fits (error : ErrorObject) : Prop := ∀ code, error.code = some code → code < Nat.pow 2 63

theorem written (error : ErrorObject) : ∃ fields, error.toJson = .object fields ∧
    fields.lookup "code" = error.code.map Json.ofInt ∧
    fields.lookup "message" = some (.string error.message) ∧
    fields.lookup "data" = error.data := by
  obtain ⟨code, message, data⟩ := error
  cases code <;> cases data <;> exact ⟨_, rfl, rfl, rfl, rfl⟩

theorem code_read_back (code : Option Int)
    (small : ∀ value, code = some value → value < Nat.pow 2 63) :
    code? (code.map Json.ofInt) = .ok code := by
  cases code with
  | none => rfl
  | some value => exact if_pos (small value rfl)

theorem code_small (value : Option Json) (code : Int) (read : code? value = .ok (some code)) :
    code < Nat.pow 2 63 := by
  unfold code? at read
  split at read
  · cases read
  · cases read
  · rename_i value
    by_cases small : value < Nat.pow 2 63
    · rw [if_pos small] at read
      cases read
      exact small
    · rw [if_neg small] at read
      cases read
  · cases read

theorem read_back (error : ErrorObject) (fits : error.Fits) :
    ofJson error.toJson = .ok error.normal := by
  obtain ⟨fields, object, code, message, data⟩ := error.written
  rw [object, ofJson, code, message, data, code_read_back error.code fits]
  rfl

theorem read_normal (value : Json) (error : ErrorObject) (read : ofJson value = .ok error) :
    error.normal = error ∧ error.Fits := by
  have fits (given : Option Json) (code : Option Int) (read : code? given = .ok code) (number : Int)
      (there : code = some number) : number < Nat.pow 2 63 := code_small given number (there ▸ read)
  have plain (code : Option Int) (message : String) (data : Option Json) :
      normal ⟨code, message, Json.present? data⟩ = ⟨code, message, Json.present? data⟩ := by
    rw [normal, Json.present_present]
  cases value with
  | object fields =>
      obtain ⟨code, coded, read⟩ := (bind_ok _ _ error).mp read
      obtain ⟨message, _, read⟩ := (bind_ok _ _ error).mp read
      cases message with
      | none => cases read
      | some message =>
          cases read
          exact ⟨plain _ _ _, fits _ code coded⟩
  | array items =>
      obtain ⟨code, coded, read⟩ := (bind_ok _ _ error).mp read
      cases second : items[1]? with
      | none =>
          rw [second] at read
          cases read
      | some given =>
          rw [second] at read
          obtain ⟨message, _, read⟩ := (bind_ok _ _ error).mp read
          dsimp only at read
          by_cases many : 3 < items.length
          · rw [if_pos many] at read
            cases read
          · rw [if_neg many] at read
            cases read
            exact ⟨plain _ _ _, fits _ code coded⟩
  | _ => cases read

end ErrorObject

namespace Reply

def normal (reply : Reply) : Reply :=
  ⟨Json.present? reply.id, Json.present? reply.result, reply.error.map ErrorObject.normal⟩

def Coded (reply : Reply) : Prop := ∀ error, reply.error = some error → error.Coded

def Fits (reply : Reply) : Prop := ∀ error, reply.error = some error → error.Fits

theorem written (reply : Reply) : ∃ fields, reply.toJson = .object fields ∧
    fields.lookup "id" = reply.id ∧ fields.lookup "result" = reply.result ∧
    fields.lookup "error" = reply.error.map ErrorObject.toJson := by
  obtain ⟨id, result, error⟩ := reply
  cases id <;> cases result <;> cases error <;> exact ⟨_, rfl, rfl, rfl, rfl⟩

theorem error_read_back (error : Option ErrorObject)
    (fits : ∀ given, error = some given → given.Fits) :
    errorOf? (error.map ErrorObject.toJson) = .ok (error.map ErrorObject.normal) := by
  cases error with
  | none => rfl
  | some given =>
      obtain ⟨fields, object, _⟩ := given.written
      have read := given.read_back (fits given rfl)
      rw [Option.map_some, object, errorOf?, ← object, read]
      · rfl
      · exact nofun

theorem read_back (reply : Reply) (fits : reply.Fits) :
    ofJson reply.toJson = .ok reply.normal := by
  obtain ⟨fields, object, id, result, error⟩ := reply.written
  rw [object, ofJson, id, result, error, error_read_back reply.error fits]
  rfl

theorem error_read_normal (value : Option Json) (error : Option ErrorObject)
    (read : errorOf? value = .ok error) :
    error.map ErrorObject.normal = error ∧ ∀ given, error = some given → given.Fits := by
  unfold errorOf? at read
  split at read
  · cases read
    exact ⟨rfl, nofun⟩
  · cases read
    exact ⟨rfl, nofun⟩
  · rename_i value _
    cases given : ErrorObject.ofJson value with
    | error mismatch =>
        rw [given] at read
        cases read
    | ok object =>
        rw [given] at read
        cases read
        obtain ⟨plain, fits⟩ := object.read_normal value given
        exact ⟨congrArg some plain, fun | _, rfl => fits⟩

theorem read_normal (value : Json) (reply : Reply) (read : ofJson value = .ok reply) :
    reply.normal = reply ∧ reply.Fits := by
  have plain (id result : Option Json) (given : Option Json) (error : Option ErrorObject)
      (read : errorOf? given = .ok error) :
      normal ⟨Json.present? id, Json.present? result, error⟩ =
        ⟨Json.present? id, Json.present? result, error⟩ := by
    rw [normal, Json.present_present, Json.present_present, (error_read_normal given error read).1]
  cases value with
  | object fields =>
      obtain ⟨error, failed, read⟩ := (bind_ok _ _ reply).mp read
      cases read
      exact ⟨plain _ _ _ error failed, (error_read_normal _ error failed).2⟩
  | array items =>
      obtain ⟨error, failed, read⟩ := (bind_ok _ _ reply).mp read
      by_cases many : 3 < items.length
      · rw [if_pos many] at read
        cases read
      · rw [if_neg many] at read
        cases read
        exact ⟨plain _ _ _ error failed, (error_read_normal _ error failed).2⟩
  | _ => cases read

theorem normal_outcome (reply : Reply) : reply.normal.outcome =
    match reply.error with
    | some error => .error (.rpc error.code error.message (Json.present? error.data))
    | none => reply.outcome := by
  obtain ⟨id, result, error⟩ := reply
  cases error with
  | some error => rfl
  | none => exact congrArg Except.ok (Json.present_or_null result)

theorem replies_round_trip :
    (∀ reply : Reply, reply.Coded → ofJson reply.toJson = .ok reply.normal) ∧
    (∀ reply : Reply, reply.normal.isError = reply.isError) ∧
    (∀ (reply : Reply) (error : ErrorObject), reply.error = some error →
      reply.outcome = .error (.rpc error.code error.message error.data) ∧
      reply.normal.outcome = .error (.rpc error.code error.message (Json.present? error.data))) ∧
    (∀ reply : Reply, reply.error = none → reply.normal.outcome = reply.outcome) ∧
    ∀ value reply, ofJson value = .ok reply → ofJson reply.toJson = .ok reply := by
  refine ⟨fun reply coded => ?_, fun reply => Option.isSome_map, fun reply error given => ?_,
    fun reply none => ?_, fun value reply read => ?_⟩
  · exact reply.read_back fun error given code there => (coded error given code there).2
  · constructor
    · rw [outcome, given]
      rfl
    · rw [normal_outcome, given]
  · rw [normal_outcome, none]
  · obtain ⟨plain, fits⟩ := reply.read_normal value read
    rw [reply.read_back fits, plain]

theorem replies_round_trip_null_result :
    ofJson (toJson ⟨some (.ofNat 1), some .null, some ⟨some (-32000), "reverted", some .null⟩⟩) =
      .ok ⟨some (.ofNat 1), none, some ⟨some (-32000), "reverted", none⟩⟩ := by
  refine replies_round_trip.1 _ ?_
  rintro _ ⟨⟩ _ ⟨⟩
  decide

end Reply

end RequestLayer
