import RocqMcp.Engine.Declarations

/-! Opening, declaring, replaying and stepping a proof, and queries in its
states. Temporary PET states are released before each operation returns. -/

namespace RocqMcp

open Library

def validateIdentity (identity : DeclarationIdentity) : Except Error Unit := do
  validateFileId identity.file
  if identity.qualifiedPath.isEmpty || identity.qualifiedPath.any String.isEmpty then
    .error (.new .invalidDeclaration "declaration path is empty")
  else .ok ()

def validateFragment (fragment : String) : Except Error Unit :=
  if trim fragment = "" then .error (.new .invalidRequest "proof fragment is empty")
  else if 1024 * 1024 < fragment.utf8ByteSize then
    .error (.new .invalidRequest "proof fragment exceeds 1 MiB")
  else .ok ()

/-- One declaration identity from Dune's compilation unit and a caller name
that is strictly relative to it. -/
def declaredIdentity (file : FileId) (library : LogicalLibrary) (name : String) :
    Except Error DeclarationIdentity :=
  let parts := splitText '.' name
  if parts.any String.isEmpty then
    .error (.new .invalidDeclaration "name contains an empty component")
  else if library.parts.isPrefixOf parts then
    .error (.new .invalidDeclaration "name must not repeat its Dune compilation-unit prefix")
  else .ok { file, qualifiedPath := library.parts ++ parts }

def relativePath (identity : DeclarationIdentity) (library : LogicalLibrary) :
    Except Error (List String) :=
  if library.covers identity.qualifiedPath then
    .ok (identity.qualifiedPath.drop library.parts.length)
  else .error (.new .invalidDeclaration "declaration path is outside its Dune logical library")

/-- `split_last`: the leaf and the modules around it. -/
def splitLeaf (relative : List String) : Except Error (String × List String) :=
  match relative.getLast? with
  | some leaf => .ok (leaf, relative.dropLast)
  | none => .error (.new .invalidDeclaration "declaration path is empty")

def declaredStatement (statement : String) : Except Error String :=
  let statement := trim (trimEndWhile (· = '.') (trim statement))
  if statement = "" then .error (.new .invalidDeclaration "declaration statement is empty")
  else .ok statement

/-- The synthetic header. -/
def declarationHeader (kind : DeclarationKind) (leaf statement : String) : String :=
  s!"{kind.keyword} {leaf} : {statement}"

/-- The place of a new declaration and its statement, before PET sees the header. -/
structure DeclarationSite where
  identity : DeclarationIdentity
  leaf : String
  statement : String
  source : Path
  workspace : PetWorkspace
  petSource : PetSource
  insertion : Nat
  document : Option Bytes
  bytes : Bytes
  deriving DecidableEq

/-- Outside proof mode, or with admitted goals. -/
def PetExecution.unsafeProof (execution : PetExecution) : Bool :=
  !execution.goals.proofMode || !execution.goals.givenUp.isEmpty

def unsafeProofError : Error :=
  .new .invalidDeclaration "the declaration did not open a safe proof state"

def closedFragmentError : Error :=
  .new .proofStepFailed "fragment closes proof mode, runs a global command, or gives up a goal"

def PetTraceFailure.project (failure : PetTraceFailure) (info : DeclarationInfo) : ProofFailure where
  error := stepPetError failure.error
  sentenceIndex := failure.sentenceIndex
  sentenceRange := failure.sentenceRange
  before := proofStateStructured info failure.beforeGoals
  trace := failure.trace.map fun step =>
    { sentenceIndex := step.sentenceIndex
      byteRange := { byteStart := step.byteStart, byteEnd := step.byteEnd }
      command := step.command }

/-- The range of a diagnostic inside the submitted statement. -/
def translateDiagnostic (headerLength : Nat) (statement : String) (diagnostic : ProofDiagnostic) :
    Option ProofDiagnostic :=
  if headerLength ≤ diagnostic.byteStart && headerLength ≤ diagnostic.byteEnd then
    let start := diagnostic.byteStart - headerLength
    let stop := diagnostic.byteEnd - headerLength
    if start ≤ stop && stop ≤ statement.utf8ByteSize && isCharBoundary statement start &&
        isCharBoundary statement stop then
      some { byteStart := start, byteEnd := stop }
    else none
  else none

/-- The text of a byte range on character boundaries. -/
def sliceText (text : String) (start stop : Nat) : String :=
  (bytesText? (((textBytes text).take stop).drop start)).getD ""

namespace Engine

section

variable (project : ProjectId)

def validateTarget (target : DeclarationTarget) : EngineM Unit := do
  let selected ← Act.mapError
    (fun error : Error =>
      if error.kind = .notFound then
        .new .declarationChanged "Dune no longer selects the proof's source file"
      else error)
    (DuneProject.source project target.info.identity.file)
  Act.ensure (selected = target.anchor.source)
    (.new .declarationChanged "Dune source selection changed")
  let bytes ← readOr selected "target source is unavailable"
  let digest ← Act.gets fun world => world.digest bytes
  Act.ensure (digest = target.anchor.digest)
    (.new .declarationChanged "target source changed while proof was open")

/-- Release a temporary state under the error projection of the caller. -/
def releaseState (projection : PetError → Error) (state : PetStateId) : EngineM Unit :=
  Act.mapError projection (PetActor.releaseStates project [state])

/-- `release_after`: a failed release takes precedence over the result. -/
def releaseAfter (state : PetStateId) (result : Except Error α) : EngineM α := do
  releaseState project declarationPetError state
  Act.ofExcept result

/-- `require_open_proof`, with the release of a rejected state. -/
def requireOpenProof (execution : PetExecution) : EngineM Unit :=
  if execution.unsafeProof then do
    releaseState project declarationPetError execution.state
    .throw unsafeProofError
  else return ()

def openTarget (target : DeclarationTarget) : EngineM OpenedProof := do
  let workspace ← DuneProject.petWorkspace project target.anchor.source
  let petSource ← DuneProject.petSource project target.anchor.source
  let opened ← Act.mapError declarationPetError
    (PetActor.stateAt project workspace petSource target.anchor.header.stop)
  requireOpenProof project opened
  return {
    target
    state := opened.state
    view := proofState target.info opened.goals
    finished := opened.proofFinished }

/-- Select an exact PET declaration; a finished one is returned as published. -/
def openDeclaration (identity : DeclarationIdentity) : EngineM OpenResult := do
  Act.ofExcept (validateIdentity identity)
  let resolved ← resolve project identity
  match resolved.target with
  | none => .throw (.new .invalidDeclaration "target is not a proof declaration")
  | some target =>
    if resolved.proofFinished then return .published target
    else if !target.anchor.replaceable then
      .throw (.new .invalidDeclaration
        "declaration shares one source command with another declaration")
    else
      let opened ← openTarget project target
      return .open' opened

/-- A best-effort lookup of the rejected text. -/
def probeCandidates (probe : String) : Act World ε (Except Error (List SymbolLocation)) :=
  if probe = "" then return .ok []
  else PetActor.bestEffort project (locateSymbols project probe 20)

/-- Ask the project-wide index for candidates of a missing identifier. A failed
lookup leaves the original Rocq error. -/
def enrichDeclarationError (error : Error) (statement : String) (kind : DeclarationKind)
    (leaf : String) : Act World ε Error :=
  if error.resolution.isNone then return error
  else do
    let headerLength := s!"{kind.keyword} {leaf} : ".utf8ByteSize
    let translated := error.diagnostic.bind (translateDiagnostic headerLength statement)
    let probe := (translated.map fun range =>
      trim (sliceText statement range.byteStart range.byteEnd)).getD ""
    let candidates ← probeCandidates project probe
    let candidates := candidates.toOption.getD []
    let imports := ((candidates.map SymbolLocation.requireImport).mergeSort).eraseDups
    return { error with
      diagnostic := translated <|> error.diagnostic
      resolution := some
        { identifier := some probe
          suggestedImports := imports
          candidates
          statementByteRange := translated } }

/-- Run the header of a new declaration at a module's insertion state. -/
def openHeader (workspace : PetWorkspace) (petSource : PetSource) (insertion : Nat)
    (header : String) : EngineM (Except Error PetExecution) := do
  let base ← Act.mapError declarationPetError
    (PetActor.stateAt project workspace petSource insertion)
  let opened ← Act.attempt
    (Act.mapError declarationPetError (PetActor.run project base.state (header ++ ".")))
  Act.attempt (releaseAfter project base.state opened)

/-- The target of a declaration that is not in its file yet. -/
def newTarget (identity : DeclarationIdentity) (kind : DeclarationKind) (header : String)
    (source : Path) (digest : Digest) (insertion : Nat) (document : Bytes) :
    DeclarationTarget where
  info := { identity, kind, statement := header }
  anchor :=
    { source
      digest
      header := { start := insertion, stop := insertion }
      declaration := { start := insertion, stop := insertion }
      replaceable := true
      document }
  newHeader := some header

/-- Validate a new declaration header. Disk is untouched until publication. -/
def declare (kind : DeclarationKind) (file : FileId) (name statement : String) :
    EngineM OpenedProof := do
  let source ← DuneProject.source project file
  let library ← DuneProject.library project source
  let identity ← Act.ofExcept (declaredIdentity file library name)
  Act.ofExcept (validateIdentity identity)
  let statement ← Act.ofExcept (declaredStatement statement)
  let relative ← Act.ofExcept (relativePath identity library)
  let (leaf, modules) ← Act.ofExcept (splitLeaf relative)
  let existing ← declarations project identity.file
  Act.ensure (existing.all fun declaration => declaration.identity ≠ identity)
    (.new .invalidDeclaration "declaration identity is already present")
  let workspace ← DuneProject.petWorkspace project source
  let petSource ← DuneProject.petSource project source
  let insertion ← Act.mapError declarationPetError
    (PetActor.insertionPoint project workspace petSource modules)
  let document ← Act.gets fun world => world.document petSource
  let bytes ← readOr source "target source is unavailable"
  noteWhen (document ≠ some bytes) (.staleDocument source)
  Act.ensure (insertion ≤ bytes.length)
    (.new .invalidConfiguration "declaration insertion metadata is invalid")
  let header := s!"{kind.keyword} {leaf} : {statement}"
  match ← openHeader project workspace petSource insertion header with
  | .error error =>
    let enriched ← enrichDeclarationError project error statement kind leaf
    .throw enriched
  | .ok opened =>
    requireOpenProof project opened
    let digest ← Act.gets fun world => world.digest bytes
    let target := newTarget identity kind header source digest insertion (document.getD [])
    return {
      target
      state := opened.state
      view := proofState target.info opened.goals
      finished := opened.proofFinished }

/-- `declare`, up to the header. -/
def declarationSite (file : FileId) (name submitted : String) : EngineM DeclarationSite := do
  let source ← DuneProject.source project file
  let library ← DuneProject.library project source
  let identity ← Act.ofExcept (declaredIdentity file library name)
  Act.ofExcept (validateIdentity identity)
  let statement ← Act.ofExcept (declaredStatement submitted)
  let relative ← Act.ofExcept (relativePath identity library)
  let (leaf, modules) ← Act.ofExcept (splitLeaf relative)
  let existing ← declarations project identity.file
  Act.ensure (existing.all fun declaration => declaration.identity ≠ identity)
    (.new .invalidDeclaration "declaration identity is already present")
  let workspace ← DuneProject.petWorkspace project source
  let petSource ← DuneProject.petSource project source
  let insertion ← Act.mapError declarationPetError
    (PetActor.insertionPoint project workspace petSource modules)
  let document ← Act.gets fun world => world.document petSource
  let bytes ← readOr source "target source is unavailable"
  noteWhen (document ≠ some bytes) (.staleDocument source)
  Act.ensure (insertion ≤ bytes.length)
    (.new .invalidConfiguration "declaration insertion metadata is invalid")
  return { identity, leaf, statement, source, workspace, petSource, insertion, document, bytes }

/-- `declare`, from the header on. -/
def declareAt (kind : DeclarationKind) (site : DeclarationSite) : EngineM OpenedProof := do
  let header := declarationHeader kind site.leaf site.statement
  match ← openHeader project site.workspace site.petSource site.insertion header with
  | .error error =>
    let enriched ← enrichDeclarationError project error site.statement kind site.leaf
    .throw enriched
  | .ok opened =>
    requireOpenProof project opened
    let digest ← Act.gets fun world => world.digest site.bytes
    let target := newTarget site.identity kind header site.source digest site.insertion
      (site.document.getD [])
    return {
      target
      state := opened.state
      view := proofState target.info opened.goals
      finished := opened.proofFinished }

theorem declare_eq (kind : DeclarationKind) (file : FileId) (name submitted : String) :
    declare project kind file name submitted =
      declarationSite project file name submitted >>= declareAt project kind := by
  simp only [declare, declarationSite, Act.bind_assoc]
  rfl

/-- The root of a proof whose declaration is not in its file yet. -/
def replayNewRoot (target : DeclarationTarget) (header : String) : EngineM OpenedProof := do
  let workspace ← DuneProject.petWorkspace project target.anchor.source
  let petSource ← DuneProject.petSource project target.anchor.source
  match ← openHeader project workspace petSource target.anchor.header.start header with
  | .error error => .throw error
  | .ok opened =>
    requireOpenProof project opened
    return {
      target
      state := opened.state
      view := proofState target.info opened.goals
      finished := opened.proofFinished }

/-- Recreate only a proof root. -/
def replayRoot (target : DeclarationTarget) : EngineM OpenedProof := do
  validateTarget project target
  match target.newHeader with
  | some header => replayNewRoot project target header
  | none =>
    let current ← Act.mapError
      (fun error : Error =>
        if error.kind = .notFound then
          .new .declarationChanged "target identity changed in the current project context"
        else error)
      (resolve project target.info.identity)
    match current.target with
    | none => .throw (.new .declarationChanged "declaration kind changed")
    | some current =>
      if current.info ≠ target.info || current.anchor.digest ≠ target.anchor.digest then
        .throw (.new .declarationChanged "target declaration changed while proof was open")
      else openTarget project current

/-- A step that stays inside the proof; another one is released. -/
def checkedStep (target : DeclarationTarget) (execution : PetExecution) : EngineM ProofStep :=
  if execution.unsafeProof then do
    releaseState project stepPetError execution.state
    .throw closedFragmentError
  else
    return {
      state := execution.state
      view := proofStateStructured target.info execution.goals
      finished := execution.proofFinished }

/-- Execute one complete proof fragment directly through PET. -/
def run (target : DeclarationTarget) (state : PetStateId) (fragment : String)
    (timeoutMs : Option Nat) : EngineM ProofStep := do
  validateTarget project target
  Act.ofExcept (validateFragment fragment)
  let execution ← Act.mapError stepPetError (PetActor.run project state fragment timeoutMs)
  checkedStep project target execution

/-- Execute a fragment with sentence diagnostics: a semantic rejection is
returned as a value. -/
def runTraced (target : DeclarationTarget) (state : PetStateId) (fragment : String)
    (includeTrace : Bool) (timeoutMs : Option Nat) : EngineM TracedProofStep := do
  validateTarget project target
  Act.ofExcept (validateFragment fragment)
  match ← Act.mapError stepPetError
      (PetActor.runTraced project state fragment includeTrace timeoutMs) with
  | .success execution =>
    let step ← checkedStep project target execution
    return .success step
  | .failure failure =>
    releaseState project stepPetError failure.beforeState
    return .failure (failure.project target.info)

def goals (target : DeclarationTarget) (state : PetStateId) (scope : GoalScope)
    (goalId : Option Evar) : EngineM ProofState := do
  validateTarget project target
  let goals ← Act.mapError stepPetError (PetActor.goals project state)
  Act.ensure goals.proofMode (.new .notFound "proof state is no longer open")
  match renderGoals goals scope goalId with
  | none => .throw (.new .notFound "goal_id is not in this state")
  | some rendered =>
    return { proofStateWithRendering target.info goals rendered with
      structuredGoals := some goals.structured }

/-- Run a semantic query in a caller-owned proof state. -/
def queryState (target : DeclarationTarget) (state : PetStateId) (query : PetQuery) :
    EngineM String := do
  validateTarget project target
  Act.mapError queryPetError (PetActor.query project state query)

/-- Run a semantic query after one exact source declaration. -/
def queryAt (identity : DeclarationIdentity) (query : PetQuery) : EngineM String := do
  let resolved ← resolve project identity
  match resolved.target with
  | none => .throw (.new .invalidDeclaration "query target is not supported")
  | some target =>
    let workspace ← DuneProject.petWorkspace project target.anchor.source
    let petSource ← DuneProject.petSource project target.anchor.source
    let context ← Act.mapError queryPetError
      (PetActor.stateAt project workspace petSource target.anchor.declaration.stop)
    let result ← Act.attempt
      (Act.mapError queryPetError (PetActor.query project context.state query))
    releaseState project queryPetError context.state
    Act.ofExcept result

/-- Validate PET's finalizer while the current epoch is still live. -/
def closeProof (target : DeclarationTarget) (finalState : PetStateId) : EngineM Unit := do
  validateTarget project target
  let closed ← Act.mapError finalizerPetError
    (PetActor.run project finalState target.info.kind.terminator)
  releaseState project finalizerPetError closed.state
  Act.ensure (!closed.goals.proofMode && closed.proofFinished)
    (.new .proofStepFailed "the generated proof terminator did not close the proof")

end

end Engine

end RocqMcp
