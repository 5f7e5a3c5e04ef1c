import RocqMcp.Types

/-! The values exchanged with the PET process: its calls, its replies, and the
errors of the client. -/

namespace RocqMcp

inductive PetRemoteKind where
  | methodNotFound
  | interrupted
  | parsing
  | coq
  | anomaly
  | system
  | theoremNotFound
  | noNodeAtPoint
  | referenceNotFound
  | unknown (code : Int)
  deriving DecidableEq

def PetRemoteKind.fromCode (code : Int) : PetRemoteKind :=
  if code = -32601 then .methodNotFound
  else if code = -32001 then .interrupted
  else if code = -32002 then .parsing
  else if code = -32003 then .coq
  else if code = -32004 then .anomaly
  else if code = -32005 then .system
  else if code = -32006 then .theoremNotFound
  else if code = -32007 then .noNodeAtPoint
  else if code = -32008 then .referenceNotFound
  else .unknown code

/-- A Rocq rejection whose diagnostic crosses the MCP boundary unchanged. -/
def PetRemoteKind.isSemantic : PetRemoteKind → Bool
  | .interrupted | .parsing | .coq | .theoremNotFound | .noNodeAtPoint | .referenceNotFound =>
    true
  | .methodNotFound | .anomaly | .system | .unknown _ => false

inductive PetError where
  | invalid (message : String)
  | environment (message : String)
  | cancelled
  | timedOut (timeoutMs : Nat)
  | processLost (message : String)
  | protocol (message : String)
  | outputOverflow
  | remote (code : Int) (kind : PetRemoteKind) (message : String)
      (diagnostic : Option ProofDiagnostic)
  deriving DecidableEq

namespace PetError

/-- Whether the PET transport is no longer trustworthy. -/
def isTransportLoss : PetError → Bool
  | .processLost _ | .protocol _ | .outputOverflow => true
  | _ => false

/-- Whether the current PET epoch must be discarded. -/
def invalidatesProcess (error : PetError) : Bool :=
  error.isTransportLoss ||
    match error with
    | .cancelled | .timedOut _ => true
    | _ => false

def isInternalFailure : PetError → Bool
  | .remote _ .anomaly _ _ | .remote _ .system _ _ | .remote _ (.unknown _) _ _ => true
  | _ => false

def isSemantic : PetError → Bool
  | .remote _ kind _ _ => kind.isSemantic
  | _ => false

end PetError

/-- `str::replace` of a non-empty needle, from left to right. -/
def replaceAll (needle replacement : List Char) : Nat → List Char → List Char
  | 0, text => text
  | _, [] => []
  | fuel + 1, head :: rest =>
    if needle.isPrefixOf (head :: rest) then
      replacement ++ replaceAll needle replacement fuel ((head :: rest).drop needle.length)
    else head :: replaceAll needle replacement fuel rest

/-- A hyphen followed by five ASCII digits, wherever the scan meets one. -/
def redactCodes : List Char → List Char
  | [] => []
  | '-' :: a :: b :: c :: d :: e :: rest =>
    if [a, b, c, d, e].all Char.isDigit then
      "(internal error code)".toList ++ redactCodes rest
    else '-' :: redactCodes (a :: b :: c :: d :: e :: rest)
  | head :: rest => head :: redactCodes rest

def neutralizeTransportDetail (message : String) : String :=
  let value := message.toList
  let value := replaceAll "petanque".toList "prover protocol".toList value.length value
  let value := replaceAll "PET".toList "prover".toList value.length value
  String.ofList (redactCodes value)

/-- The backend-neutral message that is safe to expose through MCP. -/
def PetError.publicMessage : PetError → String
  | .invalid message | .environment message | .processLost message =>
    neutralizeTransportDetail message
  | .cancelled => "request cancelled"
  | .timedOut timeoutMs => s!"proof fragment exceeded {timeoutMs} ms"
  | .protocol _ => "received an invalid response"
  | .outputOverflow => "response exceeded the output limit"
  | .remote _ .methodNotFound _ _ => "a required operation is not supported"
  | .remote _ .anomaly _ _ => "internal proof execution anomaly"
  | .remote _ .system _ _ => "proof execution system failure"
  | .remote _ (.unknown _) _ _ => "unrecognized proof execution failure"
  | .remote _ _ message _ => message

structure PetGoal where
  evar : Evar
  name : Option String
  hypotheses : List GoalHypothesis
  type : String
  deriving DecidableEq

structure PetGoalStackFrame where
  left : List PetGoal
  right : List PetGoal
  deriving DecidableEq

structure PetGoals where
  focused : List PetGoal
  stack : List PetGoalStackFrame
  shelved : List PetGoal
  givenUp : List PetGoal
  bullet : Option String
  proofMode : Bool
  deriving DecidableEq

def PetGoals.outsideProof : PetGoals where
  focused := []
  stack := []
  shelved := []
  givenUp := []
  bullet := none
  proofMode := false

def PetGoals.focus (goals : PetGoals) : GoalFocus where
  focused := goals.focused.map PetGoal.evar
  stack := goals.stack.map fun frame =>
    { left := frame.left.map PetGoal.evar, right := frame.right.map PetGoal.evar }
  shelved := goals.shelved.map PetGoal.evar
  givenUp := goals.givenUp.map PetGoal.evar
  nextBullet := goals.bullet

structure PetExecution where
  state : PetStateId
  proofFinished : Bool
  goals : PetGoals
  deriving DecidableEq

/-- One sentence boundary of a traced run, as PET sends it. -/
structure PetTraceStep where
  sentenceIndex : Nat
  byteStart : Nat
  byteEnd : Nat
  command : String
  deriving DecidableEq

structure PetTraceFailure where
  error : PetError
  sentenceIndex : Nat
  sentenceRange : ProofDiagnostic
  beforeState : PetStateId
  beforeGoals : PetGoals
  trace : List PetTraceStep
  deriving DecidableEq

inductive PetTraceOutcome where
  | success (execution : PetExecution)
  | failure (failure : PetTraceFailure)
  deriving DecidableEq

/-- One record of PET's whole-document declaration endpoint. -/
structure PetDeclaration where
  qualifiedPath : List String
  kind : String
  range : PetRange
  declarationRange : PetRange
  proofFinished : Bool
  statement : String
  deriving DecidableEq

/-- Semantic class assigned by Rocq's global-context dependency analysis. -/
inductive PetAssumptionKind where
  | axiomKind
  | positive
  | guarded
  | typeInType
  | uip
  | sectionVariable
  | opaqueKind
  | transparent
  deriving DecidableEq

structure PetAssumption where
  kind : PetAssumptionKind
  qualifiedPath : List String
  deriving DecidableEq

structure PetTheoryAssumptions where
  rewriteRules : Bool
  impredicativeSet : Bool
  typeInType : Bool
  deriving DecidableEq

structure PetAssumptionReport where
  assumptions : List PetAssumption
  theory : PetTheoryAssumptions
  deriving DecidableEq

/-- Zero-based line and UTF-16 column. -/
structure SourcePosition where
  line : Nat
  character : Nat
  deriving DecidableEq

/-- A JSON-RPC request to PET. -/
inductive PetCall where
  | capabilities
  | setWorkspace (workspace : PetWorkspace)
  | documentDeclarations (source : Path)
  | insertionPoint (source : Path) (modules : List String)
  | getStateAtPos (source : Path) (position : SourcePosition)
  | run (state : PetStateId) (tactic : String)
  | runTrace (state : PetStateId) (tactic : String) (includeTrace : Bool)
  | goals (state : PetStateId)
  | assumptions (state : PetStateId) (qualifiedPath : List String)
  | notations (state : PetStateId) (statement : String)
  | releaseStates (states : List PetStateId)
  | stateCount
  | refreshWorkspace

/-- The requests by which PET exports a state. -/
def PetCall.mayExport : PetCall → Bool
  | .getStateAtPos .. | .run .. | .runTrace .. => true
  | _ => false

/-- The fields of a traced run's failure reply. -/
structure RawTraceFailure where
  code : Int
  message : String
  sentenceIndex : Nat
  sentenceStart : Nat
  sentenceEnd : Nat
  diagnosticStart : Option Nat
  diagnosticEnd : Option Nat
  trace : List PetTraceStep

/-- A well-framed result of PET, by shape. `State` is the exported state that
three of the shapes carry; `malformed` stands for every other JSON value. -/
inductive PetReply (State : Type) where
  | null
  | capabilities (names : List String)
  | declarations (rows : List PetDeclaration)
  | offset (value : Nat)
  /-- `feedback` is `none` where PET sent none, or a malformed one. -/
  | run (state : State) (proofFinished : Bool) (feedback : Option String)
  | traceSuccess (state : State) (proofFinished : Bool)
  | traceFailure (before : State) (failure : RawTraceFailure)
  | goals (goals : PetGoals)
  | assumptions (report : PetAssumptionReport)
  | notations (text : String)
  | released (released missing : Nat)
  | malformed

/-- The state that a reply carries. -/
def PetReply.states : PetReply State → List State
  | .run state _ _ | .traceSuccess state _ | .traceFailure state _ => [state]
  | _ => []

end RocqMcp
