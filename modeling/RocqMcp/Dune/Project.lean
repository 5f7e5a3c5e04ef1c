import RocqMcp.World

/-! `DuneProject`: a workspace identity with its Dune-selected view, the paths
derived from the view, and the coordination with Dune. -/

namespace RocqMcp

open Library

/-- `Path::file_stem` of a file name. -/
def fileStem (name : String) : String :=
  let parts := splitText '.' name
  let stem := joinStrings "." parts.dropLast
  if stem = "" then name else stem

/-- `Path::set_extension`. -/
def Path.withExtension (path : Path) (extension : String) : Path :=
  match path.getLast? with
  | none => path
  | some name => path.dropLast ++ [fileStem name ++ "." ++ extension]

/-- The path is relative and made of normal components only. -/
def FileId.isSafe (file : FileId) : Bool :=
  let components := splitText '/' file.text
  file.text ≠ "" && components.head? ≠ some "" && components.head? ≠ some "." &&
    components.all (· ≠ "..")

def validateFileId (file : FileId) : Except Error Unit :=
  if file.isSafe then .ok ()
  else .error (.new .invalidRequest "file must be a safe project-relative path")

namespace World

def buildRoot (world : World) (project : ProjectId) : Path :=
  match world.environment.duneBuildDir with
  | some (.absolute path) => path
  | some (.relative path) => project ++ path
  | none => project ++ ["_build"]

def artifactPath (world : World) (project : ProjectId) (source : Path) : Except Error Path := do
  return world.buildRoot project ++ ["default"] ++ (← (world.layout project).buildTarget source)

end World

namespace DuneProject

section

variable (project : ProjectId)

def source (file : FileId) : EngineM Path := do
  Act.ofExcept (validateFileId file)
  let tick ← tick
  let path ← Act.gets fun world => world.environment.canonicalize project file.text
  let present ← Act.gets fun world => (world.sources path).isSome
  Act.ensure (present && !tick.fault) (.new .notFound "requested source file is unavailable")
  let selected ← Act.gets fun world => (world.layout project).containsFile path
  Act.ensure selected (.new .notFound "Dune has not selected the requested source file")
  return path

def petWorkspace (source : Path) : EngineM PetWorkspace := do
  let layout ← Act.gets fun world => world.layout project
  Act.ofExcept (layout.petWorkspaceOf source)

def library (source : Path) : EngineM LogicalLibrary := do
  let layout ← Act.gets fun world => world.layout project
  Act.ofExcept (layout.library source)

def artifactPath (source : Path) : EngineM Path := do
  let path ← Act.gets fun world => world.artifactPath project source
  Act.ofExcept path

/-- Dune's build-context copy of a source file, or the source before its first
build. -/
def petSource (source : Path) : EngineM PetSource := do
  let artifact ← artifactPath project source
  let path := artifact.withExtension "v"
  let tick ← tick
  let built ← Act.gets fun world => (world.outputs path).isSome
  return if built && !tick.fault then { path, inBuildTree := true } else .ofPath source

def sourceForConstant (constant : String) : Act World ε (Option Path) :=
  .gets fun world => (world.layout project).sourceForConstant constant

/-- Replace the view, and tell whether it is a different one. -/
def replaceLayout (layout : Layout) : Act World ε Bool := do
  let current ← Act.gets fun world => world.layout project
  if current = layout then return false
  else
    .modify fun world =>
      let runtime := world.projects project
      (world.setRuntime project
        { runtime with project := { runtime.project with layout } }).recordChange project
    return true

def replaceProbe (probe : Digest) : Act World ε Unit :=
  .modify fun world =>
    let runtime := world.projects project
    world.setRuntime project { runtime with project := { runtime.project with probe } }

end

end DuneProject

/-- `layout_probe`. -/
def layoutProbe : EngineM Digest := do
  let tick ← tick
  match tick.probe with
  | some probe => return probe
  | none => .throw (.new .invalidConfiguration "project layout inputs are unavailable")

/-- `Layout::load`. -/
def loadLayout : EngineM (Path × Layout) := do
  let tick ← tick
  let cancelled ← Act.gets fun world => world.signal.isCancelled
  if cancelled && tick.interrupted then
    .throw (.new .requestCancelled "Dune description was cancelled")
  else
    match tick.layout with
    | .unavailable message => .throw (.new .invalidConfiguration message)
    | .timedOut => .throw (.new .projectTimeout "Dune description timed out")
    | .ambiguous message => .throw (.new .ambiguous message)
    | .loaded root layout => return (root, layout)

namespace Engine

/-- Resolve a caller path through Dune. -/
def attach : EngineM DuneProject := do
  let tick ← tick
  Act.ensure (!tick.fault) (.new .invalidConfiguration "project path is unavailable")
  let (root, layout) ← loadLayout
  let probe ← layoutProbe
  return { root, layout, probe }

section

variable (project : ProjectId)

/-- Probe the layout inputs and, only when they changed, query Dune again. The
result is true exactly when the caller must begin a new PET epoch. -/
def refreshProject : EngineM Bool := do
  let probe ← layoutProbe
  let known ← Act.gets fun world => (world.projects project).project.probe
  if probe = known then return false
  else
    let (root, layout) ← loadLayout
    Act.ensure (root = project)
      (.new .invalidConfiguration "Dune workspace identity changed; call start again")
    let changed ← DuneProject.replaceLayout project layout
    DuneProject.replaceProbe project probe
    return changed

/-- `FileId::from_path`, as the engine reports its failure. -/
def fileIdOf (source : Path) : Except Error FileId :=
  match FileId.fromPath project source with
  | .ok file => .ok file
  | .error message => .error (.new .invalidConfiguration message)

def listFiles : EngineM (List FileId) := do
  let files ← Act.gets fun world => (world.layout project).files
  Act.ofExcept (files.mapM (fileIdOf project))

/-- `digest_if_present`. -/
def digestIfPresent (path : Path) : EngineM (Option Digest) := do
  let tick ← tick
  Act.ensure (!tick.fault) (.new .invalidConfiguration "Dune artifact is unavailable")
  .gets fun world => (world.outputs path).map world.digest

/-- The bytes of a source file, or the error of the caller. -/
def readOr (path : Path) (message : String) : EngineM Bytes := do
  match ← readSource path with
  | some bytes => return bytes
  | none => .throw (.new .declarationChanged message)

/-- The current identity of a source and its consumer artifacts. -/
def artifactFingerprint (file : FileId) : EngineM ArtifactFingerprint := do
  let source ← DuneProject.source project file
  let bytes ← readOr source "target source is unavailable"
  let artifact ← DuneProject.artifactPath project source
  let vo ← digestIfPresent artifact
  let glob ← digestIfPresent (artifact.withExtension "glob")
  let digest ← Act.gets fun world => world.digest bytes
  return { source := digest, vo, glob }

end

end Engine

/-- How the build ends for a request, cancelled or not. -/
def BuildOutcome.result (interrupted : Bool) (outcome : BuildOutcome) : Except Error Unit :=
  match interrupted, outcome with
  | true, _ => .error (.new .requestCancelled "native build was cancelled")
  | _, .unavailable => .error (.new .invalidConfiguration "failed to execute Dune")
  | _, .timedOut => .error (.new .buildTimeout "native build timed out")
  | _, .overflow =>
    .error (.new .invalidConfiguration "Dune output exceeded the configured bound")
  | _, .rejected stderr =>
    .error (.new .invalidDeclaration s!"proof source was rejected: {trim stderr}")
  | _, .succeeded => .ok ()

/-- The contents of a source file from the start to the end of the edits. -/
def World.contentsDuring (world : World) (source : Path) (edits : List Edit) :
    List (Option Bytes) :=
  (edits.scanl World.edit world).map fun world => world.sources source

/-- The build runs: other programs may write, and the build tree changes. -/
def World.runBuild (world : World) (source : Path) (tick : Tick) (succeeded : Bool) : World :=
  let edited := world.edits tick.during
  let built := { edited with
    outputs := tick.outputs.foldl (fun outputs (path, content) =>
      Function.update outputs path content) edited.outputs }
  built.record (.built source world.now (world.contentsDuring source tick.during) succeeded)

/-- The build tree has the bytes of the source. -/
def World.copies (world : World) (project : ProjectId) (source : Path) : Bool :=
  match world.artifactPath project source with
  | .ok artifact => world.outputs (artifact.withExtension "v") = world.sources source
  | .error _ => false

/-- Build exactly the target Dune reported for one source. -/
def nativeBuild (project : ProjectId) (source : Path) : EngineM Unit := do
  let layout ← Act.gets fun world => world.layout project
  let _target ← Act.ofExcept (layout.buildTarget source)
  let tick ← tick
  let cancelled ← Act.gets fun world => world.signal.isCancelled
  let result := tick.build.result (cancelled && tick.interrupted)
  .modify fun world => world.runBuild source tick result.isOk
  let copied ← Act.gets fun world => world.copies project source
  noteWhen (result.isOk && !copied) (.staleCopy source)
  Act.ofExcept result

/-- Build one consumer target and return its fingerprint. PET is not touched. -/
def Engine.reconcileSource (project : ProjectId) (file : FileId) : EngineM ArtifactFingerprint := do
  let source ← DuneProject.source project file
  nativeBuild project source
  Engine.artifactFingerprint project file

end RocqMcp
