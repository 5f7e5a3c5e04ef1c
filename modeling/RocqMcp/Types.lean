import Mathlib.Algebra.Group.Int.Defs
import Mathlib.Algebra.Group.Nat.Defs
import Mathlib.Algebra.GroupWithZero.Nat
import Mathlib.Data.List.Basic

/-! Values crossing the Dune, PET, writeback, and MCP boundaries. -/

namespace RocqMcp

abbrev Bytes := List UInt8

/-- A SHA-256 value. Its fixed length is not modelled: where a result needs a
collision-free digest, it assumes the digest function injective. -/
abbrev Digest := List UInt8

/-- The components of a canonical path below the file-system root. -/
abbrev Path := List String

abbrev SessionId := Nat

/-- The process-wide key of a project runtime is its canonical root. -/
abbrev ProjectId := Path

def textBytes (text : String) : Bytes := text.toUTF8.toList

def bytesText? (bytes : Bytes) : Option String := String.fromUTF8? bytes.toByteArray

/-- `[str]::join`. -/
def joinStrings (separator : String) (parts : List String) : String :=
  String.intercalate separator parts

/-- `str::replace` of one character. -/
def replaceChar (before after : Char) (text : String) : String :=
  String.ofList (text.toList.map fun character => if character = before then after else character)

/-- `char::is_whitespace`. -/
def isWhitespace (character : Char) : Bool :=
  let code := character.toNat
  (9 ≤ code && code ≤ 13) || code = 0x20 || code = 0x85 || code = 0xA0 || code = 0x1680 ||
    (0x2000 ≤ code && code ≤ 0x200A) || code = 0x2028 || code = 0x2029 || code = 0x202F ||
    code = 0x205F || code = 0x3000

/-- `str::trim_end_matches`. -/
def trimEndWhile (matched : Char → Bool) (text : String) : String :=
  String.ofList (text.toList.reverse.dropWhile matched).reverse

def trimEnd (text : String) : String := trimEndWhile isWhitespace text

/-- `str::trim`. -/
@[irreducible] def trim (text : String) : String := String.ofList ((trimEnd text).toList.dropWhile isWhitespace)

/-- `str::split`. -/
def splitText (separator : Char) (text : String) : List String :=
  (text.toList.splitOn separator).map String.ofList

/-- A JSON value of the tool arguments. -/
inductive Value where
  | null
  | bool (value : Bool)
  | number (value : Int)
  | decimal (text : String)
  | string (value : String)
  | array (values : List Value)
  | object (fields : List (String × Value))

/-- A JSON string literal. -/
def quoteText (text : String) : String :=
  "\"" ++ String.join (text.toList.map fun character =>
    if character = '"' || character = '\\' then String.ofList ['\\', character]
    else String.singleton character) ++ "\""

mutual

/-- The compact JSON text of a value. -/
def Value.render : Value → String
  | .null => "null"
  | .bool value => if value then "true" else "false"
  | .number value => toString value
  | .decimal text => text
  | .string value => quoteText value
  | .array values => "[" ++ Value.renderItems values ++ "]"
  | .object fields => "\x7b" ++ Value.renderFields fields ++ "\x7d"

def Value.renderItems : List Value → String
  | [] => ""
  | [value] => value.render
  | value :: rest => value.render ++ "," ++ Value.renderItems rest

def Value.renderFields : List (String × Value) → String
  | [] => ""
  | [(field, value)] => quoteText field ++ ":" ++ value.render
  | (field, value) :: rest =>
    quoteText field ++ ":" ++ value.render ++ "," ++ Value.renderFields rest

end

namespace Value

def get? (field : String) : Value → Option Value
  | .object fields => (fields.find? fun entry => entry.1 = field).map Prod.snd
  | _ => none

def asString : Value → Option String
  | .string text => some text
  | _ => none

def asArray : Value → Option (List Value)
  | .array values => some values
  | _ => none

/-- `as_u64`. -/
def asNat : Value → Option Nat
  | .number value => if 0 ≤ value && value < 2 ^ 64 then some value.toNat else none
  | _ => none

theorem asNat_number {number : Nat} (bounded : number < 2 ^ 64) :
    (Value.number number).asNat = some number := by
  have within : (decide ((0 : Int) ≤ number) && decide ((number : Int) < 2 ^ 64)) = true := by
    rw [Bool.and_eq_true_iff, decide_eq_true_iff, decide_eq_true_iff]
    omega
  rw [asNat, if_pos within, Int.toNat_natCast]

end Value

/-- A goal identifier: the compact text of PET's JSON array. -/
abbrev Evar := String

/-- Content identity of one Dune consumer compilation unit. -/
structure ArtifactFingerprint where
  source : Digest
  vo : Option Digest
  glob : Option Digest
  deriving DecidableEq

inductive ErrorKind where
  | invalidRequest
  | invalidConfiguration
  | invalidDeclaration
  | notFound
  | ambiguous
  | declarationChanged
  | proofStepFailed
  | proofStepTimeout
  | requestCancelled
  | petLost
  | queryFailed
  | queryTimeout
  | petFailure
  | projectTimeout
  | buildTimeout
  | axiomDependencyOutOfScope
  | unfinishedDependency
  deriving DecidableEq

/-- `invalidates_pet_epoch`. -/
def ErrorKind.invalidatesPetEpoch : ErrorKind → Bool
  | .petLost | .proofStepTimeout | .requestCancelled => true
  | _ => false

/-- A byte range in the caller's proof fragment. -/
structure ProofDiagnostic where
  byteStart : Nat
  byteEnd : Nat
  deriving DecidableEq

/-- Workspace-relative identity selected by Dune. -/
structure FileId where
  text : String
  deriving DecidableEq

/-- Canonical Dune logical compilation-unit path. -/
structure LogicalLibrary where
  parts : List String
  deriving DecidableEq

structure PetLoadPath where
  physical : Path
  logical : LogicalLibrary
  implicit : Bool
  deriving DecidableEq

structure PetWorkspace where
  root : Path
  loadPaths : List PetLoadPath
  deriving DecidableEq

structure DeclarationIdentity where
  file : FileId
  qualifiedPath : List String
  deriving DecidableEq

def DeclarationIdentity.qualifiedName (identity : DeclarationIdentity) : String :=
  joinStrings "." identity.qualifiedPath

inductive DeclarationKind where
  | theorem'
  | lemma'
  | fact
  | remark
  | corollary
  | proposition
  | definition
  deriving DecidableEq

def DeclarationKind.terminator : DeclarationKind → String
  | .definition => "Defined."
  | _ => "Qed."

def DeclarationKind.keyword : DeclarationKind → String
  | .theorem' => "Theorem"
  | .lemma' => "Lemma"
  | .fact => "Fact"
  | .remark => "Remark"
  | .corollary => "Corollary"
  | .proposition => "Proposition"
  | .definition => "Definition"

structure DeclarationInfo where
  identity : DeclarationIdentity
  kind : DeclarationKind
  statement : String
  deriving DecidableEq

/-- A declaration that `locate_symbol` found. -/
structure SymbolLocation where
  identity : DeclarationIdentity
  qualifiedName : String
  kind : DeclarationKind
  statement : String
  requireImport : String
  matchKind : String
  deriving DecidableEq

/-- The remediation data of a missing identifier. -/
structure Resolution where
  identifier : Option String
  suggestedImports : List String
  candidates : List SymbolLocation
  statementByteRange : Option ProofDiagnostic
  deriving DecidableEq

structure Error where
  kind : ErrorKind
  message : String
  diagnostic : Option ProofDiagnostic := none
  resolution : Option Resolution := none
  semantic : Bool := false
  deriving DecidableEq

def Error.new (kind : ErrorKind) (message : String) : Error := { kind, message }

structure GoalStackFrame where
  left : List Evar
  right : List Evar
  deriving DecidableEq

structure GoalFocus where
  focused : List Evar := []
  stack : List GoalStackFrame := []
  shelved : List Evar := []
  givenUp : List Evar := []
  nextBullet : Option String := none
  deriving DecidableEq

structure GoalHypothesis where
  names : List String
  definition : Option String
  type : String
  deriving DecidableEq

structure GoalDetail where
  evar : Evar
  name : Option String
  hypotheses : List GoalHypothesis
  type : String
  deriving DecidableEq

structure GoalStackDetail where
  left : List GoalDetail
  right : List GoalDetail
  deriving DecidableEq

structure StructuredGoals where
  focused : List GoalDetail
  stack : List GoalStackDetail
  unfocused : List GoalDetail
  shelved : List GoalDetail
  givenUp : List GoalDetail
  nextBullet : Option String
  deriving DecidableEq

inductive GoalScope where
  | focused
  | unfocused
  | shelved
  | givenUp
  | all
  deriving DecidableEq

inductive ProofLifecycle where
  | open'
  | completed
  deriving DecidableEq

/-- Materialized PET goal view returned to MCP. -/
structure ProofState where
  theorem' : DeclarationInfo
  lifecycle : ProofLifecycle
  goals : String
  goalFocus : GoalFocus
  structuredGoals : Option StructuredGoals
  deriving DecidableEq

/-- PET-provided byte range in the exact source snapshot. The end is exclusive. -/
structure PetRange where
  start : Nat
  stop : Nat
  deriving DecidableEq

/-- Compare-and-swap anchor for one declaration. `document` is not in the
source: it records the bytes on which PET computed the two ranges. -/
structure SourceAnchor where
  source : Path
  digest : Digest
  header : PetRange
  declaration : PetRange
  replaceable : Bool
  document : Bytes
  deriving DecidableEq

structure DeclarationTarget where
  info : DeclarationInfo
  anchor : SourceAnchor
  newHeader : Option String
  deriving DecidableEq

def DeclarationTarget.identity (target : DeclarationTarget) : DeclarationIdentity :=
  target.info.identity

def DeclarationTarget.isNew (target : DeclarationTarget) : Bool := target.newHeader.isSome

/-- A PET state id. `exportedAt` is not in the source: it records when the number
was exported, which tells apart its uses by different PET processes. -/
structure PetStateId where
  value : Nat
  exportedAt : Nat
  deriving DecidableEq

structure OpenedProof where
  target : DeclarationTarget
  state : PetStateId
  view : ProofState
  finished : Bool
  deriving DecidableEq

inductive OpenResult where
  | open' (opened : OpenedProof)
  | published (target : DeclarationTarget)
  deriving DecidableEq

structure ProofStep where
  state : PetStateId
  view : ProofState
  finished : Bool
  deriving DecidableEq

structure ProofTraceStep where
  sentenceIndex : Nat
  byteRange : ProofDiagnostic
  command : String
  deriving DecidableEq

structure ProofFailure where
  error : Error
  sentenceIndex : Nat
  sentenceRange : ProofDiagnostic
  before : ProofState
  trace : List ProofTraceStep
  deriving DecidableEq

inductive TracedProofStep where
  | success (step : ProofStep)
  | failure (failure : ProofFailure)
  deriving DecidableEq

inductive PetQuery where
  | search (pattern : String)
  | about (name : String)
  | print (name : String)
  | assumptions (name : String)
  | dependencies (name : String)
  | expressionType (expression : String)
  | notations (expression : String)
  deriving DecidableEq

/-- Components of a path relative to a workspace root. -/
def Path.relative? (workspace source : Path) : Option Path :=
  if workspace.isPrefixOf source then some (source.drop workspace.length) else none

/-- `FileId::from_path`. -/
def FileId.fromPath (workspace source : Path) : Except String FileId :=
  match Path.relative? workspace source with
  | none => .error "source escapes Dune workspace"
  | some relative =>
    let value := joinStrings "/" (relative.map (replaceChar '\\' '/'))
    if value = "" ∨ value = ".." ∨ "../".isPrefixOf value then
      .error "source path is not workspace-relative"
    else .ok { text := value }

end RocqMcp
