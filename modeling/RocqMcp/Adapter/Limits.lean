import RocqMcp.Adapter.Arguments
import RocqMcp.Pet.Encoding

/-! The limits on a fragment: one that the tools accept is never too large for
PET. -/

namespace RocqMcp

open Library

/-- The error of a size check between a fragment and PET. -/
def PetError.Oversized (error : PetError) : Prop :=
  error = .invalid "proof fragment is oversized" ∨ error = .invalid "request is oversized"

theorem PetError.Oversized.invalid {error : PetError} (oversized : error.Oversized) :
    ∃ message, error = .invalid message := by
  rcases oversized with same | same
  · exact ⟨_, same⟩
  · exact ⟨_, same⟩

theorem deadlineOf_fits {conditions : RpcConditions} {timeout : Option Nat} {error : PetError}
    (failed : deadlineOf conditions timeout = .error error) : ¬ error.Oversized := by
  cases timeout with
  | none => cases failed
  | some duration =>
    simp only [deadlineOf, responseDeadline] at failed
    split at failed
    · cases failed
      simp [PetError.Oversized]
    · split at failed
      · cases failed
        simp [PetError.Oversized]
      · split at failed
        · cases failed
          simp [PetError.Oversized]
        · split at failed
          · cases failed
            simp [PetError.Oversized]
          · cases failed

section

variable {json : JsonCodec} {escape : String → Bytes} {surroundings : PetSurroundings}
  {conditions : RpcConditions} {method : String} {params : Value} {timeout : Option Nat}

/-- The request fits whatever its id is. -/
def Fits (escape : String → Bytes) (method : String) (params : Value) : Prop :=
  ∀ id : UInt64, ((requestValue id.toNat method params).encode escape).length ≤ maxRequestBytes

theorem encodeRequest_fits (writes : ∀ value, json.toVec value = some (value.encode escape))
    (fits : Fits escape method params) {id : Nat} (bounded : id < 2 ^ 64) {error : PetError}
    (failed : PetChild.encodeRequest json conditions id method params timeout = .error error) :
    ¬ error.Oversized := by
  have size := fits (UInt64.ofNat id)
  rw [UInt64.toNat_ofNat_of_lt' bounded] at size
  simp only [PetChild.encodeRequest, writes, if_neg (Nat.not_lt_of_le size)] at failed
  cases deadline : deadlineOf conditions timeout with
  | error earlier =>
    rw [deadline] at failed
    cases failed
    exact deadlineOf_fits deadline
  | ok timeoutMs =>
    rw [deadline] at failed
    change (if _ then _ else _) = _ at failed
    split at failed
    · cases failed
      simp [PetError.Oversized]
    · split at failed
      · cases failed
        simp [PetError.Oversized]
      · cases failed

theorem receive_fits (timeoutMs : Option Nat) (id : Nat) :
    Throws (fun error => ¬ error.Oversized) (PetChild.receive json conditions timeoutMs id) := by
  intro child error failed oversized
  obtain ⟨message, rfl⟩ := oversized.invalid
  rcases (PetChild.receive_triple timeoutMs id child).of_error rfl failed with
    loss | ⟨_, _, _, _, _, _, answers⟩
  · cases loss
  · cases answers

/-- The id of a request is one of 64 bits, so the bound on the fragment is a
bound on the request. -/
theorem rpcWithTimeout_fits (writes : ∀ value, json.toVec value = some (value.encode escape))
    (fits : Fits escape method params) :
    Throws (fun error => ¬ error.Oversized)
      (PetChild.rpcWithTimeout json conditions method params timeout) := by
  refine .bind (.gets _) fun id => .guard (by simp [PetError.Oversized]) fun small => ?_
  have bounded : id < 2 ^ 64 := by
    have below : id + 1 < 2 ^ 64 := by simpa using small
    omega
  refine .bind (.modify _) fun _ => ?_
  refine .bind (.ofExcept fun error failed => encodeRequest_fits writes fits bounded failed)
    fun timeoutMs => ?_
  refine .bind (.modify _) fun _ => .recover (receive_fits timeoutMs id) (fun value => ?_) ?_
  · exact .bind (.modify _) fun _ => .ofExcept nofun
  · intro error known
    refine .bind (.modify _) fun _ => .ofExcept fun thrown same => ?_
    cases same
    exact known

end

section

variable {json : JsonCodec} {escape : String → Bytes} {surroundings : PetSurroundings}
  {method : String} {params : Value} {timeout : Option Nat}

theorem orDiscard_throws {action : Act PetLink PetError α} {allowed : PetError → Prop}
    (throws : Throws allowed action) : Throws allowed (PetLink.orDiscard action) :=
  .recover throws .pure fun error known =>
    .bind (.when error.invalidatesProcess (.modify _)) fun _ => .throw known

theorem callLiveWithTimeout_fits (writes : ∀ value, json.toVec value = some (value.encode escape))
    (fits : Fits escape method params) :
    Throws (fun error => ¬ error.Oversized)
      (PetLink.callLiveWithTimeout json surroundings method params timeout) := by
  refine .bind (.gets _) fun process => ?_
  cases process with
  | none => exact .throw (by simp [PetError.Oversized])
  | some process =>
    refine orDiscard_throws ?_
    intro link error failed
    exact rpcWithTimeout_fits writes fits process error failed

end

/-! ### Fragments -/

theorem validateFragment_bound {fragment : String} (accepted : validateFragment fragment = .ok ()) :
    fragment.utf8ByteSize ≤ 1024 * 1024 := by
  unfold validateFragment at accepted
  split at accepted
  · cases accepted
  · split at accepted
    · cases accepted
    · omega

/-- The loop over the fragments checks each of them. -/
theorem forM_validateFragment {fragments : List String} {fragment : String}
    (accepted : fragments.forM validateFragment = .ok ()) (member : fragment ∈ fragments) :
    validateFragment fragment = .ok () := by
  induction fragments with
  | nil => cases member
  | cons first rest ih =>
    change (validateFragment first).bind (fun _ => rest.forM validateFragment) = .ok () at accepted
    cases checked : validateFragment first with
    | error error =>
      rw [checked] at accepted
      cases accepted
    | ok passed =>
      rw [checked] at accepted
      rcases List.mem_cons.mp member with rfl | later
      · exact checked
      · exact ih accepted later

theorem validateFragments_bound {fragments : List String} {fragment : String}
    (accepted : Adapter.validateFragments fragments = .ok ()) (member : fragment ∈ fragments) :
    fragment.utf8ByteSize ≤ 1024 * 1024 := by
  simp only [Adapter.validateFragments] at accepted
  split at accepted
  · cases accepted
  · exact validateFragment_bound (forM_validateFragment accepted member)

/-- Six bytes for each of the fragment, and an envelope. -/
theorem fragments_fit {json : JsonCodec} {escape : String → Bytes} {fragments : List String}
    {fragment : String} (writes : ∀ value, json.toVec value = some (value.encode escape))
    (escapes : ∀ text, (escape text).length ≤ 6 * text.utf8ByteSize)
    (accepted : Adapter.validateFragments fragments = .ok ()) (member : fragment ∈ fragments)
    (state : UInt64) (includeTrace : Bool) :
    Fits escape "petanque/run" (runParams state fragment) ∧
      Fits escape "petanque/run_trace" (runTraceParams state fragment includeTrace) ∧
      ∀ (surroundings : PetSurroundings) (timeout : Option Nat),
        Throws (fun error => ¬ error.Oversized)
          (PetLink.runWithTimeout json surroundings state fragment timeout) ∧
        Throws (fun error => ¬ error.Oversized)
          (PetLink.runTracedWithTimeout json surroundings state fragment includeTrace timeout) := by
  have bound := validateFragments_bound accepted member
  have ran : Fits escape "petanque/run" (runParams state fragment) := by
    intro id
    have envelope := length_requestValue escapes id "petanque/run" (runParams state fragment)
    have content := length_runParams escapes state fragment
    have method : "petanque/run".utf8ByteSize = 12 := by decide
    unfold maxRequestBytes
    omega
  have traced : Fits escape "petanque/run_trace" (runTraceParams state fragment includeTrace) := by
    intro id
    have envelope := length_requestValue escapes id "petanque/run_trace"
      (runTraceParams state fragment includeTrace)
    have content := length_runTraceParams escapes state fragment includeTrace
    have method : "petanque/run_trace".utf8ByteSize = 18 := by decide
    unfold maxRequestBytes
    omega
  have half : decide (fragment.utf8ByteSize ≤ maxRequestBytes / 2) = true := by
    unfold maxRequestBytes
    simp only [decide_eq_true_eq]
    omega
  refine ⟨ran, traced, fun surroundings timeout => ⟨?_, ?_⟩⟩
  · unfold PetLink.runWithTimeout PetLink.fitsHalf
    rw [half]
    exact .bind (.pure ()) fun _ => callLiveWithTimeout_fits writes ran
  · unfold PetLink.runTracedWithTimeout PetLink.fitsHalf
    rw [half]
    exact .bind (.pure ()) fun _ => callLiveWithTimeout_fits writes traced

/-- The codec that writes with `escapeText`. -/
def escapingJson : JsonCodec where
  toVec value := some (value.encode escapeText)
  fromSlice _ := .error "expected value at line 1 column 1"

theorem fragments_fit_intros :
    Fits escapeText "petanque/run" (runParams 7 "intros n \"H\".\n") ∧
      Fits escapeText "petanque/run_trace" (runTraceParams 7 "intros n \"H\".\n" true) ∧
      ∀ (surroundings : PetSurroundings) (timeout : Option Nat),
        Throws (fun error => ¬ error.Oversized)
          (PetLink.runWithTimeout escapingJson surroundings 7 "intros n \"H\".\n" timeout) ∧
        Throws (fun error => ¬ error.Oversized)
          (PetLink.runTracedWithTimeout escapingJson surroundings 7 "intros n \"H\".\n" true
            timeout) :=
  @fragments_fit escapingJson escapeText ["intros n \"H\".\n"] _ (fun _ => rfl)
    length_escapeText (by decide +kernel) List.mem_cons_self 7 true

end RocqMcp
