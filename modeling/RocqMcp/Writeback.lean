import RocqMcp.Engine.Proof

/-! PET-range-based compare-and-swap publication. -/

namespace RocqMcp

open Library

/-- A prepared, side-effect-free source transaction. -/
structure PreparedPublication where
  path : Path
  workspace : PetWorkspace
  original : Bytes
  replacement : Bytes
  replacementDigest : Digest

namespace Writeback

def newline : UInt8 := 10

/-- The header of a declaration that is not in its file yet. -/
def newHeaderText (original : Bytes) (start : Nat) (header : String) : String :=
  let separator :=
    if 0 < start && (original.drop (start - 1)).head? ≠ some newline then "\n" else ""
  separator ++ header ++ ".\n"

/-- The header of an existing declaration, closed by a full stop. -/
def existingHeaderText (header : String) : String :=
  let stop := if (trimEnd header).toList.getLast? = some '.' then "" else "."
  header ++ stop ++ "\n"

def headerText (original : Bytes) (target : DeclarationTarget) : Except Error String :=
  let range := target.anchor.declaration
  match target.newHeader with
  | some header => .ok (newHeaderText original range.start header)
  | none =>
    let headerEnd := target.anchor.header.stop
    if headerEnd < range.start || range.stop < headerEnd then
      .error (.new .declarationChanged
        "declaration header range is inconsistent with the current source")
    else
      match bytesText? ((original.take headerEnd).drop range.start) with
      | none => .error (.new .invalidConfiguration "Rocq source is not UTF-8")
      | some header => .ok (existingHeaderText header)

/-- The proof script: the fragments between the opening and the terminator. -/
def proofText (kind : DeclarationKind) (fragments : List String) : String :=
  let opening := if kind = .definition then "" else "Proof.\n"
  opening ++ String.join (fragments.map fun fragment => trim fragment ++ "\n") ++
    kind.terminator ++ "\n"

def replacement (original : Bytes) (target : DeclarationTarget) (fragments : List String) :
    Except Error Bytes :=
  let range := target.anchor.declaration
  if range.stop < range.start || original.length < range.stop then
    .error (.new .declarationChanged "declaration range is inconsistent with the current source")
  else do
    let header ← headerText original target
    return original.take range.start ++
      textBytes (header ++ proofText target.info.kind fragments) ++ original.drop range.stop

section

variable (project : ProjectId)

def prepare (target : DeclarationTarget) (fragments : List String) :
    EngineM PreparedPublication := do
  Act.ensure target.anchor.replaceable
    (.new .invalidDeclaration "source range is shared by multiple declarations")
  let path := target.anchor.source
  let workspace ← DuneProject.petWorkspace project path
  let original ← Engine.readOr path "target source is unavailable"
  let digest ← Act.gets fun world => world.digest original
  Act.ensure (digest = target.anchor.digest)
    (.new .declarationChanged "target source changed while proof was open")
  let replacement ← Act.ofExcept (replacement original target fragments)
  Act.modify fun world => world.recordSplice { anchor := target.anchor, original }
  let replacementDigest ← Act.gets fun world => world.digest replacement
  return { path, workspace, original, replacement, replacementDigest }

/-- The new content of a source file. -/
def overwrite (world : World) (path : Path) (bytes : Bytes) : World :=
  (world.writeSource .server path (some bytes)).record (.wrote path world.now)

/-- The rename of a temporary file over the source. There is no replacement
that also compares: an external write can race with it. -/
def atomicWrite (path : Path) (bytes : Bytes) : EngineM Unit := do
  let tick ← tick
  let present ← Act.gets fun world => (world.sources path).isSome
  if !present || tick.rename = .failed then
    .throw (.new .invalidConfiguration "atomic source replacement failed")
  else
    noteWhen (tick.edits.any fun edit => edit.path = path) (.raced path)
    Act.modify fun world => overwrite world path bytes
    Act.ensure (tick.rename ≠ .unsynced)
      (.new .invalidConfiguration "atomic source replacement failed")

def requireDigest (path : Path) (expected : Digest) : EngineM Unit := do
  let bytes ← Engine.readOr path "published source became unavailable"
  let digest ← Act.gets fun world => world.digest bytes
  Act.ensure (digest = expected) (.new .declarationChanged "source changed during publication")

/-- The content of a source file has the given digest. -/
def owns (path : Path) (expected : Digest) : EngineM Bool := do
  let current ← readSource path
  .gets fun world => current.any fun bytes => world.digest bytes = expected

def rollbackBuildError (error : Error) : Error :=
  .new .invalidConfiguration ("publication rollback build failed: " ++ error.message)

def rollbackRefreshError (error : PetError) : Error :=
  .new .invalidConfiguration
    ("publication rollback could not refresh the project context: " ++ error.publicMessage)

/-- Both outcomes of a rollback epoch. -/
def rollbackOutcome (build refresh : Except Error Unit) (restored : Bool) : Except Error Bool :=
  match build, refresh with
  | .ok (), .ok () => .ok restored
  | .error build, .ok () => .error build
  | .ok (), .error refresh => .error refresh
  | .error build, .error refresh =>
    .error (.new .invalidConfiguration
      (build.message ++ "; additionally, " ++ refresh.message))

/-- Put the original back over the replacement. `mark` is the length of the
journal before the publication, and serves the records only. -/
def restore (mark : Nat) (publication : PreparedPublication) : EngineM Unit := do
  let path := publication.path
  let renamed ← Act.gets fun world => world.serverWroteSince mark path
  noteWhen (!renamed) (.foreignReplacement path)
  noteOnError (.restoreFailed project) (atomicWrite path publication.original)

/-- Build the source that won, and admit it as a fresh PET epoch. -/
def rollbackEpoch (publication : PreparedPublication) (restored : Bool) : EngineM Bool := do
  let build ← Act.attempt
    (Act.mapError rollbackBuildError (nativeBuild project publication.path))
  let refresh ← Act.attempt
    (Act.mapError rollbackRefreshError (PetActor.refreshWorkspace project publication.workspace))
  Act.ofExcept (rollbackOutcome build refresh restored)

/-- Restore the original bytes only when the exact replacement still owns the
source. -/
def restoreEpoch (mark : Nat) (publication : PreparedPublication) : EngineM Bool := do
  let owned ← owns publication.path publication.replacementDigest
  if owned then
    restore project mark publication
    rollbackEpoch project publication true
  else rollbackEpoch project publication false

/-- Validate a replacement that stays in its source. -/
def validateReplacement (publication : PreparedPublication) (validate : EngineM α) : EngineM α := do
  let value ← validate
  requireDigest publication.path publication.replacementDigest
  return value

/-- Build, refresh and validate the replacement; its digest is checked after
each of them. -/
def buildAndValidate (publication : PreparedPublication) (validate : EngineM α) : EngineM α := do
  nativeBuild project publication.path
  requireDigest publication.path publication.replacementDigest
  Act.mapError refreshError (PetActor.refreshWorkspace project publication.workspace)
  requireDigest publication.path publication.replacementDigest
  validateReplacement publication validate

/-- Roll back, and report why. -/
def rollback (mark : Nat) (publication : PreparedPublication) (error : Error) : EngineM α := do
  let restored ← restoreEpoch project mark publication
  if restored then .throw error
  else
    .throw (.new .declarationChanged
      ("source changed during failed publication; original error: " ++ error.message))

/-- `publish_with_progress`: commit one prepared publication. -/
def publish (publication : PreparedPublication) (validate : EngineM α) : EngineM α := do
  let mark ← Act.gets fun world => world.journal.length
  let originalDigest ← Act.gets fun world => world.digest publication.original
  let owned ← owns publication.path originalDigest
  if !owned then
    let _restored ← restoreEpoch project mark publication
    .throw (.new .declarationChanged "target source changed before publication commit")
  else
    match ← Act.attempt (atomicWrite publication.path publication.replacement) with
    | .error error =>
      let _restored ← restoreEpoch project mark publication
      .throw error
    | .ok () =>
      match ← Act.attempt (buildAndValidate project publication validate) with
      | .ok value => return value
      | .error error => rollback project mark publication error

/-- A build epoch for an already-published declaration: PET is refreshed after
both success and failure of the build. -/
def buildAndRefresh (source : Path) (validate : EngineM α) : EngineM α := do
  let workspace ← noteOnError (.forgottenUnrefreshed project)
    (DuneProject.petWorkspace project source)
  let build ← Act.attempt (nativeBuild project source)
  Act.mapError refreshError (PetActor.refreshWorkspace project workspace)
  Act.ofExcept build
  validate

end

end Writeback

end RocqMcp
