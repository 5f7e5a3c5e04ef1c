import RocqMcp.Pet.Protocol

/-! The projections of PET's values onto the engine's: goal views, and the
error class of a PET failure for each kind of operation. -/

namespace RocqMcp

/-- The goals that a scope selects, in the order of their rendering. -/
def PetGoals.select (goals : PetGoals) (scope : GoalScope) : List PetGoal :=
  let frames := goals.stack.flatMap fun frame => frame.left ++ frame.right
  match scope with
  | .focused => goals.focused
  | .unfocused => frames
  | .shelved => goals.shelved
  | .givenUp => goals.givenUp
  | .all => goals.focused ++ frames ++ goals.shelved ++ goals.givenUp

def renderHypothesis (hypothesis : GoalHypothesis) : String :=
  let names := joinStrings " " hypothesis.names
  match hypothesis.definition with
  | some value => s!"{names} := {value} : {hypothesis.type}"
  | none => s!"{names} : {hypothesis.type}"

def renderGoal (goal : PetGoal) (index : Nat) : String :=
  let header := goal.name.toList.map fun name => s!"goal {index + 1} ({name})"
  joinStrings "\n" (header ++ goal.hypotheses.map renderHypothesis ++
    ["============================", goal.type])

/-- Render the goals of a scope, or the one goal of it that has the given id. -/
def renderGoals (goals : PetGoals) (scope : GoalScope) (goalId : Option Evar) : Option String :=
  let selected := goals.select scope
  match goalId with
  | some goalId =>
    (selected.find? fun goal => goal.evar = goalId).map fun goal => renderGoal goal 0
  | none => some (joinStrings "\n\n" (selected.mapIdx fun index goal => renderGoal goal index))

def PetGoal.detail (goal : PetGoal) : GoalDetail where
  evar := goal.evar
  name := goal.name
  hypotheses := goal.hypotheses
  type := goal.type

def PetGoals.structured (goals : PetGoals) : StructuredGoals :=
  let stack := goals.stack.map fun frame =>
    { left := frame.left.map PetGoal.detail
      right := frame.right.map PetGoal.detail : GoalStackDetail }
  { focused := goals.focused.map PetGoal.detail
    stack
    unfocused := stack.flatMap fun frame => frame.left ++ frame.right
    shelved := goals.shelved.map PetGoal.detail
    givenUp := goals.givenUp.map PetGoal.detail
    nextBullet := goals.bullet }

/-- `proof_state_with_rendering`. -/
def proofStateWithRendering (info : DeclarationInfo) (goals : PetGoals) (rendered : String) :
    ProofState where
  theorem' := info
  lifecycle := .open'
  goals := rendered
  goalFocus := goals.focus
  structuredGoals := none

/-- Rendering all focused goals cannot miss an id. -/
def proofState (info : DeclarationInfo) (goals : PetGoals) : ProofState :=
  proofStateWithRendering info goals ((renderGoals goals .focused none).getD "")

def proofStateStructured (info : DeclarationInfo) (goals : PetGoals) : ProofState :=
  { proofState info goals with structuredGoals := some goals.structured }

def completedState (info : DeclarationInfo) : ProofState where
  theorem' := info
  lifecycle := .completed
  goals := ""
  goalFocus := {}
  structuredGoals := none

inductive PetOperation where
  | declaration
  | proofStep
  | query
  deriving DecidableEq

/-- The class of a typed PET remote rejection. -/
def remotePetKind (operation : PetOperation) : PetRemoteKind → ErrorKind
  | .methodNotFound => .invalidConfiguration
  | .anomaly | .system | .unknown _ => .petFailure
  | .theoremNotFound | .noNodeAtPoint => .notFound
  | .referenceNotFound =>
    match operation with
    | .query => .notFound
    | .declaration => .invalidDeclaration
    | .proofStep => .proofStepFailed
  | .interrupted | .parsing | .coq =>
    match operation with
    | .query => .queryFailed
    | .declaration => .invalidDeclaration
    | .proofStep => .proofStepFailed

/-- The class of a PET failure; `invalid` is the class of a request that the
client itself rejects. -/
def PetError.kindFor (operation : PetOperation) (invalid : ErrorKind) : PetError → ErrorKind
  | .cancelled => .requestCancelled
  | .timedOut _ => .proofStepTimeout
  | .processLost _ | .protocol _ | .outputOverflow => .petLost
  | .environment _ => .invalidConfiguration
  | .invalid _ => invalid
  | .remote _ kind _ _ => remotePetKind operation kind

def PetError.diagnostic : PetError → Option ProofDiagnostic
  | .remote _ _ _ diagnostic => diagnostic
  | _ => none

def projectedPetError (kind : ErrorKind) (error : PetError) (preserveDiagnostic : Bool) : Error where
  kind := kind
  message := error.publicMessage
  diagnostic := if preserveDiagnostic then error.diagnostic else none
  semantic := error.isSemantic

def PetError.isMissingReference : PetError → Bool
  | .remote _ .referenceNotFound _ _ => true
  | _ => false

def Resolution.missingIdentifier : Resolution where
  identifier := none
  suggestedImports := []
  candidates := []
  statementByteRange := none

def declarationPetError (error : PetError) : Error :=
  { projectedPetError (error.kindFor .declaration .invalidDeclaration) error true with
    resolution := if error.isMissingReference then some .missingIdentifier else none }

def stepPetError (error : PetError) : Error :=
  projectedPetError (error.kindFor .proofStep .invalidRequest) error true

/-- The closing command has no location in the accepted fragment. -/
def finalizerPetError (error : PetError) : Error := { stepPetError error with diagnostic := none }

def queryPetError (error : PetError) : Error :=
  projectedPetError (error.kindFor .query .invalidRequest) error false

/-- The class of a failure of the transport, whatever the operation. -/
def PetError.transportKind (error : PetError) : ErrorKind :=
  match error with
  | .cancelled => .requestCancelled
  | .timedOut _ => .proofStepTimeout
  | .processLost _ | .protocol _ | .outputOverflow => .petLost
  | .invalid _ | .environment _ => .invalidConfiguration
  | .remote .. => if error.isInternalFailure then .petFailure else .invalidConfiguration

def refreshError (error : PetError) : Error := projectedPetError error.transportKind error false

def petReleaseError (error : PetError) : Error := projectedPetError error.transportKind error false

end RocqMcp
