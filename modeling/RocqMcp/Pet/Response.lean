import RocqMcp.Pet.Protocol

/-! The JSON-RPC response in the body of a frame of PET. -/

namespace RocqMcp

def Value.asI64 : Value → Option Int
  | .number value => if -2 ^ 63 ≤ value && value < 2 ^ 63 then some value else none
  | _ => none

def Value.isObject : Value → Bool
  | .object _ => true
  | _ => false

def diagnosticOffset (point : Option Value) : Option Nat :=
  (point.bind (·.get? "offset")).bind Value.asNat

/-- `parse_pet_diagnostic`: the first entry with a range. -/
def parsePetDiagnostic : List Value → Except PetError (Option ProofDiagnostic)
  | [] => .ok none
  | entry :: rest =>
    match entry.get? "range" with
    | none | some .null => parsePetDiagnostic rest
    | some range =>
      match diagnosticOffset (range.get? "start"),
          diagnosticOffset (range.get? "end" <|> range.get? "end_") with
      | none, _ => .error (.protocol "PET diagnostic start offset is invalid")
      | some _, none => .error (.protocol "PET diagnostic end offset is invalid")
      | some byteStart, some byteEnd =>
        if byteEnd < byteStart then .error (.protocol "PET diagnostic range is reversed")
        else .ok (some { byteStart, byteEnd })

/-- The entries of an error's `data`. -/
def diagnosticEntries : Option Value → List Value
  | none => []
  | some (.array entries) => entries
  | some value => [value]

/-- The remote error that a response carries. -/
def remoteError (error : Value) (hasResult : Bool) : PetError :=
  if !error.isObject || hasResult then
    .protocol "PET response has an invalid result/error pair"
  else
    match (error.get? "code").bind Value.asI64, (error.get? "message").bind Value.asString with
    | none, _ => .protocol "PET error has no code"
    | some _, none => .protocol "PET error has no message"
    | some code, some message =>
      if trim message = "" then .protocol "PET error message is empty"
      else
        match parsePetDiagnostic (diagnosticEntries (error.get? "data")) with
        | .error error => error
        | .ok diagnostic => .remote code (.fromCode code) message diagnostic

/-- The result or the error in the body of a response. -/
def responseOf (requestId : Nat) (value : Value) : Except PetError Value :=
  if !value.isObject then .error (.protocol "PET response is not an object")
  else if (value.get? "jsonrpc").bind Value.asString ≠ some "2.0" then
    .error (.protocol "PET response has an invalid JSON-RPC version")
  else if (value.get? "id").bind Value.asNat ≠ some requestId then
    .error (.protocol "PET response id does not match request")
  else
    match value.get? "error", value.get? "result" with
    | some error, result => .error (remoteError error result.isSome)
    | none, some result => .ok result
    | none, none => .error (.protocol "PET response has no result")

/-- The outcome that a JSON-RPC response with the id of the request states. -/
inductive Answers (requestId : Nat) (response : Value) : Except PetError Value → Prop where
  | result {value : Value}
      (version : response.get? "jsonrpc" = some (.string "2.0"))
      (id : response.get? "id" = some (.number requestId))
      (noError : response.get? "error" = none)
      (hasResult : response.get? "result" = some value) :
      Answers requestId response (.ok value)
  | error {fields : List (String × Value)} {code : Int} {message : String}
      {diagnostic : Option ProofDiagnostic}
      (version : response.get? "jsonrpc" = some (.string "2.0"))
      (id : response.get? "id" = some (.number requestId))
      (hasError : response.get? "error" = some (.object fields))
      (noResult : response.get? "result" = none)
      (hasCode : (Value.object fields).get? "code" = some (.number code))
      (fits : -2 ^ 63 ≤ code ∧ code < 2 ^ 63)
      (hasMessage : (Value.object fields).get? "message" = some (.string message))
      (stated : trim message ≠ "")
      (located : parsePetDiagnostic (diagnosticEntries ((Value.object fields).get? "data")) =
        .ok diagnostic) :
      Answers requestId response (.error (.remote code (.fromCode code) message diagnostic))

namespace Value

variable {value : Value}

theorem asString_some {text : String} (read : value.asString = some text) :
    value = .string text := by
  cases value with
  | string found => exact congrArg Value.string (Option.some.inj read)
  | _ => cases read

theorem asNat_some {read : Nat} (number : value.asNat = some read) : value = .number read := by
  cases value with
  | number found =>
    dsimp only [Value.asNat] at number
    split at number
    case isTrue fits =>
      obtain rfl := Option.some.inj number
      have positive : 0 ≤ found := of_decide_eq_true (Bool.and_eq_true_iff.mp fits).1
      exact congrArg Value.number (Int.toNat_of_nonneg positive).symm
    case isFalse => cases number
  | _ => cases number

theorem asI64_some {read : Int} (number : value.asI64 = some read) :
    value = .number read ∧ -2 ^ 63 ≤ read ∧ read < 2 ^ 63 := by
  cases value with
  | number found =>
    dsimp only [Value.asI64] at number
    split at number
    case isTrue fits =>
      obtain rfl := Option.some.inj number
      obtain ⟨low, high⟩ := Bool.and_eq_true_iff.mp fits
      exact ⟨rfl, of_decide_eq_true low, of_decide_eq_true high⟩
    case isFalse => cases number
  | _ => cases number

theorem asI64_number {number : Int} (low : -2 ^ 63 ≤ number) (high : number < 2 ^ 63) :
    (Value.number number).asI64 = some number := by
  have inside : (decide (-2 ^ 63 ≤ number) && decide (number < 2 ^ 63)) = true :=
    Bool.and_eq_true_iff.mpr ⟨decide_eq_true low, decide_eq_true high⟩
  simp only [Value.asI64, inside, if_true]

theorem isObject_of_get? {field : Value} {key : String} (found : value.get? key = some field) :
    value.isObject = true := by
  cases value with
  | object fields => rfl
  | _ => cases found

theorem of_isObject (object : value.isObject = true) : ∃ fields, value = .object fields := by
  cases value with
  | object fields => exact ⟨fields, rfl⟩
  | _ => cases object

end Value

theorem parsePetDiagnostic_lost {entries : List Value} {error : PetError}
    (failed : parsePetDiagnostic entries = .error error) : error.isTransportLoss = true := by
  fun_induction parsePetDiagnostic entries with
  | case2 _ _ _ ih | case3 _ _ _ ih => exact ih failed
  | case1 | case7 => cases failed
  | _ =>
    cases failed
    rfl

theorem parsePetDiagnostic_ordered {entries : List Value} {range : ProofDiagnostic}
    (parsed : parsePetDiagnostic entries = .ok (some range)) : range.byteStart ≤ range.byteEnd := by
  fun_induction parsePetDiagnostic entries with
  | case2 _ _ _ ih | case3 _ _ _ ih => exact ih parsed
  | case7 _ _ _ _ _ byteStart _ byteEnd _ ordered =>
    cases parsed
    exact Nat.le_of_not_lt ordered
  | _ => cases parsed

/-- What the client reads in a well-formed response is what it states. -/
theorem Answers.read {requestId : Nat} {response : Value} {outcome : Except PetError Value}
    (answers : Answers requestId response outcome) (bounded : requestId < 2 ^ 64) :
    responseOf requestId response = outcome := by
  have readId := Value.asNat_number bounded
  have readVersion : (Value.string "2.0").asString = some "2.0" := rfl
  cases answers with
  | result version id noError hasResult =>
    rw [responseOf, Value.isObject_of_get? version, version, id, noError, hasResult]
    rw [Option.bind_some, Option.bind_some, readVersion, readId, if_neg nofun,
      if_neg (not_not.mpr rfl), if_neg (not_not.mpr rfl)]
  | error version id hasError noResult hasCode fits hasMessage stated located =>
    rw [responseOf, Value.isObject_of_get? version, version, id, hasError, noResult]
    rw [Option.bind_some, Option.bind_some, readVersion, readId, if_neg nofun,
      if_neg (not_not.mpr rfl), if_neg (not_not.mpr rfl)]
    dsimp only
    rw [remoteError, hasCode, hasMessage, Option.bind_some, Option.bind_some,
      Value.asI64_number fits.1 fits.2, if_neg nofun]
    dsimp only [Value.asString]
    rw [if_neg stated, located]

theorem remoteError_answers {requestId : Nat} {response error : Value}
    (version : response.get? "jsonrpc" = some (.string "2.0"))
    (id : response.get? "id" = some (.number requestId))
    (hasError : response.get? "error" = some error) :
    (remoteError error (response.get? "result").isSome).isTransportLoss = true ∨
      Answers requestId response (.error (remoteError error (response.get? "result").isSome)) := by
  unfold remoteError
  split
  case isTrue => exact .inl rfl
  case isFalse paired =>
    simp only [Bool.or_eq_true, Bool.not_eq_true', not_or, Bool.not_eq_false,
      Bool.not_eq_true, Option.isSome_eq_false_iff, Option.isNone_iff_eq_none] at paired
    obtain ⟨fields, rfl⟩ := Value.of_isObject paired.1
    split
    case h_1 => exact .inl rfl
    case h_2 => exact .inl rfl
    case h_3 code message hasCode hasMessage =>
      obtain ⟨codeValue, foundCode, readCode⟩ := Option.bind_eq_some_iff.mp hasCode
      obtain ⟨messageValue, foundMessage, readMessage⟩ := Option.bind_eq_some_iff.mp hasMessage
      obtain ⟨rfl, fits⟩ := Value.asI64_some readCode
      obtain rfl := Value.asString_some readMessage
      split
      case isTrue => exact .inl rfl
      case isFalse stated =>
        split
        case h_1 _ failed => exact .inl (parsePetDiagnostic_lost failed)
        case h_2 _ located =>
          exact .inr (.error version id hasError paired.2 foundCode fits foundMessage stated
            located)

/-- A response that states no outcome for the request ends the epoch. -/
theorem responseOf_answers (requestId : Nat) (response : Value) :
    (∃ error, responseOf requestId response = .error error ∧ error.isTransportLoss = true) ∨
      Answers requestId response (responseOf requestId response) := by
  unfold responseOf
  split
  case isTrue => exact .inl ⟨_, rfl, rfl⟩
  case isFalse object =>
    split
    case isTrue => exact .inl ⟨_, rfl, rfl⟩
    case isFalse version =>
      split
      case isTrue => exact .inl ⟨_, rfl, rfl⟩
      case isFalse id =>
        obtain ⟨versionValue, version, readVersion⟩ :=
          Option.bind_eq_some_iff.mp (not_not.mp version)
        obtain ⟨idValue, id, readId⟩ := Option.bind_eq_some_iff.mp (not_not.mp id)
        obtain rfl := Value.asString_some readVersion
        obtain rfl := Value.asNat_some readId
        split
        case h_1 error result hasError =>
          rcases remoteError_answers version id hasError with lost | answers
          · exact .inl ⟨_, rfl, lost⟩
          · exact .inr answers
        case h_2 noError hasResult => exact .inr (.result version id noError hasResult)
        case h_3 => exact .inl ⟨_, rfl, rfl⟩

end RocqMcp
