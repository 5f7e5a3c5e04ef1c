import RocqMcp.Checkpoint
import RocqMcp.Engine.Proof

/-! The shapes of tool arguments and of tool results. A result carries the
values from which the adapter renders its JSON. -/

namespace RocqMcp

namespace Adapter

def invalid (message : String) : Except Error α := .error (.new .invalidRequest message)

def require (message : String) : Option α → Except Error α
  | some value => .ok value
  | none => invalid message

/-- Read one required non-empty string argument. -/
def requiredString (args : Value) (field : String) : Except Error String :=
  require (field ++ " must be a non-empty string")
    (((args.get? field).bind Value.asString).filter fun text => text ≠ "")

/-- Reject fields outside the selected tool or query variant. -/
def rejectUnknown (args : Value) (allowed : List String) : Except Error Unit :=
  match args with
  | .object fields =>
    match fields.find? fun entry => entry.1 ∉ allowed with
    | some entry => invalid ("unexpected field '" ++ entry.1 ++ "'")
    | none => .ok ()
  | _ => invalid "arguments must be an object"

def fileOf (text : String) : FileId := { text := replaceChar '\\' '/' text }

def qualifiedPart (part : Value) : Except Error String :=
  require "qualified_path must contain non-empty strings"
    (part.asString.filter fun text => text ≠ "")

def declarationId (value : Value) (field : String) : Except Error DeclarationIdentity :=
  match value with
  | .object fields => do
    if fields.any fun entry => entry.1 ∉ ["file", "qualified_path"] then
      invalid (field ++ " has an unknown field")
    else
      let file ← require (field ++ ".file is required")
        (((value.get? "file").bind Value.asString).filter fun file => file ≠ "")
      let parts ← require (field ++ ".qualified_path is required")
        (((value.get? "qualified_path").bind Value.asArray).filter fun parts => !parts.isEmpty)
      let qualifiedPath ← parts.mapM qualifiedPart
      return { file := fileOf file, qualifiedPath }
  | _ => invalid (field ++ " must be an object")

def requiredTarget (args : Value) : Except Error DeclarationIdentity := do
  let target ← require "target is required" (args.get? "target")
  declarationId target "target"

/-- `validate_fragments`. -/
def validateFragments (fragments : List String) : Except Error Unit :=
  if fragments.isEmpty || 20 < fragments.length then
    invalid "attempts must contain 1 to 20 fragments"
  else fragments.forM validateFragment

def attempts (args : Value) : Except Error (List String) := do
  let values ← require "attempts must be an array" ((args.get? "attempts").bind Value.asArray)
  let fragments ← values.mapM fun value => require "attempt must be a string" value.asString
  validateFragments fragments
  return fragments

/-- An optional field that must be well-formed where it is present. -/
def optional (args : Value) (field : String) (read : Value → Except Error α) :
    Except Error (Option α) :=
  match args.get? field with
  | none => .ok none
  | some value => (read value).map some

def positive (message : String) (value : Value) : Except Error Nat :=
  require message (value.asNat.filter fun number => 0 < number)

def attemptTimeout (args : Value) : Except Error (Option Nat) :=
  optional args "timeout_ms" (positive "timeout_ms must be a positive integer")

def optionalBool (args : Value) (field : String) : Except Error Bool :=
  match args.get? field with
  | none => .ok false
  | some (.bool value) => .ok value
  | some _ => invalid (field ++ " must be a boolean")

def scopeError : String := "scope must be focused, unfocused, shelved, given_up, or all"

def goalScope (args : Value) : Except Error GoalScope :=
  match args.get? "scope" with
  | none => .ok .focused
  | some (.string scope) =>
    if scope = "focused" then .ok .focused
    else if scope = "unfocused" then .ok .unfocused
    else if scope = "shelved" then .ok .shelved
    else if scope = "given_up" then .ok .givenUp
    else if scope = "all" then .ok .all
    else invalid scopeError
  | some _ => invalid scopeError

def queryOffset (args : Value) : Except Error Nat :=
  match args.get? "offset" with
  | none => .ok 0
  | some value => require "offset must be a non-negative integer" value.asNat

/-- `str::to_ascii_lowercase`. -/
def asciiLowercase (text : String) : String :=
  String.ofList (text.toList.map fun character =>
    if 'A' ≤ character && character ≤ 'Z' then Char.ofNat (character.toNat + 32) else character)

def declarationKind (value : Option String) : Except Error DeclarationKind :=
  let kind := asciiLowercase (value.getD "Theorem")
  if kind = "theorem" then .ok .theorem'
  else if kind = "lemma" then .ok .lemma'
  else if kind = "definition" then .ok .definition
  else .error (.new .invalidDeclaration "unsupported declaration kind")

/-- The arguments of `check` and of `try`. -/
structure AttemptArguments where
  fragments : List String
  timeoutMs : Option Nat
  trace : Bool
  structured : Bool

def attemptArguments (args : Value) : Except Error AttemptArguments := do
  rejectUnknown args ["attempts", "timeout_ms", "trace", "structured"]
  let fragments ← attempts args
  let timeoutMs ← attemptTimeout args
  let trace ← optionalBool args "trace"
  let structured ← optionalBool args "structured"
  return { fragments, timeoutMs, trace, structured }

def goalIdError : String := "goal_id must be a non-empty evar array returned by query(goals)"

/-- The arguments of `query(goals)`. -/
structure GoalsArguments where
  offset : Nat
  diff : Bool
  structured : Bool
  goalId : Option Evar
  scope : GoalScope

def goalsArguments (args : Value) : Except Error GoalsArguments := do
  rejectUnknown args ["kind", "scope", "goal_id", "offset", "diff", "structured"]
  let offset ← queryOffset args
  let diff ← optionalBool args "diff"
  let structured ← optionalBool args "structured"
  let goalId ← optional args "goal_id" fun value =>
    require goalIdError ((value.asArray.filter fun id => !id.isEmpty).map fun _ => value.render)
  if goalId.isSome then
    if (args.get? "scope").isSome then invalid "scope and goal_id are mutually exclusive"
    else return { offset, diff, structured, goalId, scope := .all }
  else
    let scope ← goalScope args
    return { offset, diff, structured, goalId, scope }

/-- Maximum raw UTF-8 bytes returned by one semantic text query response. -/
def queryPageBytes : Nat := 32 * 1024

/-- One page of a text result. -/
structure TextPage where
  text : String
  nextOffset : Option Nat
  deriving DecidableEq

/-- The last character boundary at or before a byte position, down to `start`. -/
def floorBoundary (text : String) (start : Nat) : Nat → Nat
  | 0 => 0
  | stop + 1 =>
    if start < stop + 1 && !isCharBoundary text (stop + 1) then floorBoundary text start stop
    else stop + 1

def textResult (text : String) (offset : Nat) : Except Error TextPage :=
  let length := text.utf8ByteSize
  if length < offset || !isCharBoundary text offset || (offset = length && text ≠ "") then
    invalid "offset is not a valid boundary in the query result"
  else if offset = 0 && length ≤ queryPageBytes then .ok { text, nextOffset := none }
  else
    let stop := floorBoundary text offset (min (offset + queryPageBytes) length)
    .ok { text := sliceText text offset stop, nextOffset := if stop < length then some stop else none }

/-- Bound the pretty-printed goal text retained by a checkpoint. -/
def boundedCheckpointView (state : ProofState) : ProofState × Option Nat :=
  if state.goals.utf8ByteSize ≤ queryPageBytes then (state, none)
  else
    let stop := floorBoundary state.goals 0 queryPageBytes
    ({ state with goals := sliceText state.goals 0 stop }, some stop)

/-- What `state_json_with_options` renders. -/
structure StateView where
  state : ProofState
  checkpoint : Option CheckpointId
  retainedNextOffset : Option Nat
  structured : Bool
  deriving DecidableEq

/-- A goal context without its epoch-scoped identity. -/
structure SemanticGoal where
  scope : GoalScope
  name : Option String
  hypotheses : List GoalHypothesis
  type : String
  deriving DecidableEq

structure GoalDiff where
  ambiguous : Bool
  beforeCount : Nat
  afterCount : Nat
  unchangedCount : Nat
  added : List SemanticGoal
  removed : List SemanticGoal
  deriving DecidableEq

def GoalDetail.semantic (scope : GoalScope) (goal : GoalDetail) : SemanticGoal :=
  { scope, name := goal.name, hypotheses := goal.hypotheses, type := goal.type }

def StructuredGoals.flatten (goals : StructuredGoals) : List SemanticGoal :=
  goals.focused.map (GoalDetail.semantic .focused) ++
    goals.unfocused.map (GoalDetail.semantic .unfocused) ++
    goals.shelved.map (GoalDetail.semantic .shelved) ++
    goals.givenUp.map (GoalDetail.semantic .givenUp)

/-- Match the goals before the step with those after it, as multisets. -/
def matchGoals (diff : GoalDiff) : List SemanticGoal → List SemanticGoal → GoalDiff
  | [], after => { diff with added := after }
  | goal :: rest, after =>
    let ambiguous := diff.ambiguous || 1 < after.count goal
    if goal ∈ after then
      matchGoals { diff with ambiguous, unchangedCount := diff.unchangedCount + 1 } rest
        (after.erase goal)
    else matchGoals { diff with ambiguous, removed := diff.removed ++ [goal] } rest after

/-- Compare goal contexts without PET evar numbers. -/
def goalDiff (before after : ProofState) : Option GoalDiff := do
  let before := StructuredGoals.flatten (← before.structuredGoals)
  let after := StructuredGoals.flatten (← after.structuredGoals)
  return matchGoals
    { ambiguous := false
      beforeCount := before.length
      afterCount := after.length
      unchangedCount := 0
      added := []
      removed := [] } before after

/-- A fragment that was not accepted. -/
inductive Rejection where
  | traced (failure : ProofFailure) (structured : Bool)
  | error (error : Error)
  deriving DecidableEq

inductive AttemptView where
  | evaluated (solved : Bool) (state : StateView) (diff : Option GoalDiff)
  | rejected (rejection : Rejection)
  deriving DecidableEq

/-- The result of a tool. -/
inductive Response where
  | done
  | files (files : List FileId)
  | declarations (declarations : List DeclarationInfo)
  | state (view : StateView)
  /-- `diff` is `none` where it was not asked for. -/
  | goals (view : StateView) (page : TextPage) (diff : Option (Option GoalDiff))
  | selected (index : Nat) (view : StateView) (rejected : List Rejection) (diff : Option GoalDiff)
  | selectedError (index : Nat) (view : StateView) (rejected : List Rejection) (error : Error)
  | unselected (view : StateView) (rejected : List Rejection)
  | attempts (attempts : List AttemptView)
  | symbols (symbol : String) (locations : List SymbolLocation) (truncated : Bool)
  | text (page : TextPage)
  | progress (observed : Option Nat)
  deriving DecidableEq

end Adapter

end RocqMcp
