import RocqMcp.Dune.OsPath
import RocqMcp.Dune.Project
import RocqMcp.Library.Table

/-! `dune_sources` from the compile rules on, and `Layout::load`. -/

namespace RocqMcp

open Library

/-- A `-R` or `-Q` mapping of a compile action. -/
structure RuleLoadPath where
  physical : OsPath
  logical : LogicalLibrary
  implicit : Bool
  deriving DecidableEq

/-- One `.vo` rule with a Rocq compile action, its source joined to the workspace. -/
structure CompileRule where
  source : OsPath
  buildTarget : OsPath
  loadPaths : List RuleLoadPath

structure ReportedSource where
  path : OsPath
  logical : LogicalLibrary
  buildTarget : OsPath
  loadPaths : List RuleLoadPath
  deriving DecidableEq

structure SourceMapping where
  directory : OsPath
  logical : LogicalLibrary
  deriving DecidableEq

/-- The sources and mappings collected by the loop of `dune_sources`. -/
structure DuneSources where
  sources : List ReportedSource := []
  mappings : List SourceMapping := []
  deriving DecidableEq

section

variable (system : FileSystem) (workspace : OsPath)

/-- The mapping of a rule whose directory is the longest one above the source. -/
def CompileRule.mapping (rule : CompileRule) : Option RuleLoadPath :=
  maxByKey (fun mapping => mapping.physical.length) (rule.loadPaths.filter fun mapping =>
    mapping.physical.startsWith workspace && rule.source.startsWith mapping.physical)

def DuneSources.add (reported : DuneSources) (rule : CompileRule) : Except Error DuneSources :=
  if rule.source.startsWith workspace && system.isFile rule.source then
    match rule.mapping workspace with
    | none => .error (.new .invalidConfiguration "Rocq rule lacks source mapping")
    | some chosen =>
      match system.canonicalize rule.source with
      | none => .error (.new .invalidConfiguration "Dune source unavailable")
      | some path =>
        let mapping : SourceMapping := { directory := chosen.physical, logical := chosen.logical }
        .ok {
          sources := reported.sources ++ [{
            path
            logical := chosen.logical
            buildTarget := rule.buildTarget
            loadPaths := rule.loadPaths }]
          mappings :=
            if mapping ∈ reported.mappings then reported.mappings
            else reported.mappings ++ [mapping] }
  else .ok reported

/-- `dune_sources`, on the rules that Dune described. -/
def duneSources (rules : List CompileRule) : Except Error DuneSources :=
  rules.foldlM (DuneSources.add system workspace) {}

end

/-- The maps of `Layout`, and its PET load paths. -/
structure LayoutMaps where
  byLibrary : Table LogicalLibrary OsPath := .empty
  byFile : Table OsPath LogicalLibrary := .empty
  buildTargetByFile : Table OsPath OsPath := .empty
  loadPaths : List RuleLoadPath := []
  deriving DecidableEq

section

-- `char::is_alphanumeric`.
variable (isAlphanumeric : Char → Bool)

def validateComponent (value : String) : Except Error Unit :=
  if value ≠ "" && value.toList.all fun character =>
      character = '_' || character = '\'' || isAlphanumeric character then .ok ()
  else .error (.new .invalidConfiguration "logical library component is invalid")

/-- The logical library of a path below a mapping directory. -/
def libraryParts (parts : List String) : OsPath → Except Error (List String)
  | [] => .ok parts
  | component :: rest =>
    match component.toStr with
    | none => .error (.new .invalidConfiguration "project layout is not UTF-8")
    | some value => do
      let value := if rest = [] then fileStem value else value
      validateComponent isAlphanumeric value
      libraryParts (parts ++ [value]) rest

namespace LayoutMaps

variable (system : FileSystem) (root buildRoot : OsPath)

/-- `pet_load_path_allowed`. -/
def allowed (mapping : RuleLoadPath) : Bool :=
  !mapping.physical.startsWith root || mapping.physical.startsWith buildRoot

def addLoadPaths (maps : LayoutMaps) (loadPaths : List RuleLoadPath) : LayoutMaps :=
  loadPaths.foldl (fun maps mapping =>
    if allowed root buildRoot mapping && mapping ∉ maps.loadPaths then
      { maps with loadPaths := maps.loadPaths ++ [mapping] }
    else maps) maps

/-- Fill the three maps, unless one of them has the key. -/
def insert (maps : LayoutMaps) (library : LogicalLibrary) (canonical buildTarget : OsPath) :
    Option LayoutMaps := do
  let byLibrary ← maps.byLibrary.insertNew library canonical
  let byFile ← maps.byFile.insertNew canonical library
  let buildTargetByFile ← maps.buildTargetByFile.insertNew canonical buildTarget
  return { maps with byLibrary, byFile, buildTargetByFile }

/-- The body of the loop over the sources of one mapping. -/
def addSource (mapping : SourceMapping) (maps : LayoutMaps) (source : ReportedSource) :
    Except Error LayoutMaps :=
  let maps := maps.addLoadPaths root buildRoot source.loadPaths
  match system.canonicalize source.path with
  | none => .error (.new .invalidConfiguration "project source is unavailable")
  | some canonical =>
    if !canonical.startsWith root then
      .error (.new .invalidConfiguration "project layout escapes its root")
    else
      match canonical.stripPrefix mapping.directory with
      | none => .error (.new .invalidConfiguration "ambiguous project layout")
      | some relative =>
        match libraryParts isAlphanumeric mapping.logical.parts relative with
        | .error error => .error error
        | .ok parts =>
          match maps.insert { parts } canonical source.buildTarget with
          | none => .error (.new .ambiguous "project layout is ambiguous")
          | some maps => .ok maps

end LayoutMaps

/-- The mapping selects the source. -/
def SourceMapping.selects (mapping : SourceMapping) (source : ReportedSource) : Bool :=
  source.path.startsWith mapping.directory && source.logical = mapping.logical

/-- `Layout::load`, on the reported sources and mappings. -/
def DuneSources.load (reported : DuneSources) (system : FileSystem) (root buildRoot : OsPath) :
    Except Error LayoutMaps :=
  reported.mappings.foldlM (fun maps mapping =>
    (reported.sources.filter mapping.selects).foldlM
      (LayoutMaps.addSource isAlphanumeric system root buildRoot mapping) maps) {}

end

/-- The maps are mutually inverse, have the same files, and have every reported
source with its own build target. -/
structure LayoutMaps.Exact (maps : LayoutMaps) (sources : List ReportedSource) : Prop where
  inverse : ∀ library path,
    maps.byLibrary.get? library = some path ↔ maps.byFile.get? path = some library
  targets : ∀ path, (maps.buildTargetByFile.get? path).isSome ↔ (maps.byFile.get? path).isSome
  separate : ∀ left right library, maps.byFile.get? left = some library →
    maps.byFile.get? right = some library → left = right
  reported : ∀ source ∈ sources, (maps.byFile.get? source.path).isSome ∧
    maps.buildTargetByFile.get? source.path = some source.buildTarget

/-- Some mapping selects each source, or the same file and target reported again. -/
def DuneSources.Selected (reported : DuneSources) : Prop :=
  ∀ source ∈ reported.sources, ∃ other ∈ reported.sources, ∃ mapping ∈ reported.mappings,
    mapping.selects other ∧ other.path = source.path ∧ other.buildTarget = source.buildTarget

/-! ### What the loops keep -/

section

variable {system : FileSystem} {workspace root buildRoot : OsPath} {isAlphanumeric : Char → Bool}
  {reported : DuneSources} {rules : List CompileRule}

/-- Every reported source is canonical. -/
theorem duneSources_canonical (described : duneSources system workspace rules = .ok reported) :
    ∀ source ∈ reported.sources, system.canonicalize source.path = some source.path := by
  have kept : ∀ (done : List CompileRule) (rule : CompileRule) (reported next : DuneSources),
      rule ∈ rules →
      (∀ source ∈ reported.sources, system.canonicalize source.path = some source.path) →
      reported.add system workspace rule = .ok next →
      ∀ source ∈ next.sources, system.canonicalize source.path = some source.path := by
    intro done rule reported next _ canonical added
    unfold DuneSources.add at added
    split at added
    · split at added
      · cases added
      · split at added
        · cases added
        · rename_i path resolved
          obtain rfl := Except.ok.inj added
          intro source member
          rcases List.mem_append.mp member with early | last
          · exact canonical source early
          · obtain rfl := List.mem_singleton.mp last
            exact system.canonical _ _ resolved
    · obtain rfl := Except.ok.inj added
      exact canonical
  have whole := foldlM_invariant [] (fun _ reported => ∀ source ∈ reported.sources,
    system.canonicalize source.path = some source.path) kept nofun described
  exact whole

namespace LayoutMaps

variable {maps next : LayoutMaps} {done : List ReportedSource}

/-- The maps have exactly the sources done, and the two first ones are each other's reverse. -/
structure Filled (done : List ReportedSource) (maps : LayoutMaps) : Prop where
  files : maps.byFile.entries.map Prod.fst = done.map ReportedSource.path
  targets : maps.buildTargetByFile.entries =
    done.map fun source => (source.path, source.buildTarget)
  libraries : maps.byFile.entries = maps.byLibrary.entries.map Prod.swap

theorem addLoadPaths_maps (loadPaths : List RuleLoadPath) :
    (maps.addLoadPaths root buildRoot loadPaths).byLibrary = maps.byLibrary ∧
      (maps.addLoadPaths root buildRoot loadPaths).byFile = maps.byFile ∧
      (maps.addLoadPaths root buildRoot loadPaths).buildTargetByFile = maps.buildTargetByFile := by
  induction loadPaths generalizing maps with
  | nil => exact ⟨rfl, rfl, rfl⟩
  | cons mapping rest ih =>
    rw [addLoadPaths, List.foldl_cons, ← addLoadPaths]
    split
    · exact ih
    · exact ih

theorem insert_entries {library : LogicalLibrary} {canonical buildTarget : OsPath}
    (inserted : maps.insert library canonical buildTarget = some next) :
    next.byLibrary.entries = maps.byLibrary.entries ++ [(library, canonical)] ∧
      next.byFile.entries = maps.byFile.entries ++ [(canonical, library)] ∧
      next.buildTargetByFile.entries =
        maps.buildTargetByFile.entries ++ [(canonical, buildTarget)] := by
  simp only [insert, Option.bind_eq_bind, Option.bind_eq_some_iff, Option.pure_def,
    Option.some.injEq] at inserted
  obtain ⟨byLibrary, first, byFile, second, buildTargetByFile, third, rfl⟩ := inserted
  exact ⟨Table.entries_insertNew first, Table.entries_insertNew second,
    Table.entries_insertNew third⟩

theorem Filled.addSource {mapping : SourceMapping} {source : ReportedSource}
    (filled : maps.Filled done)
    (canonical : system.canonicalize source.path = some source.path)
    (added : maps.addSource isAlphanumeric system root buildRoot mapping source = .ok next) :
    next.Filled (done ++ [source]) := by
  obtain ⟨libraries, files, targets⟩ :
      (maps.addLoadPaths root buildRoot source.loadPaths).byLibrary = maps.byLibrary ∧ _ :=
    addLoadPaths_maps source.loadPaths
  simp only [LayoutMaps.addSource, canonical] at added
  split at added
  · cases added
  split at added
  · cases added
  split at added
  · cases added
  split at added
  · cases added
  rename_i inserted
  obtain rfl := Except.ok.inj added
  obtain ⟨byLibrary, byFile, buildTargetByFile⟩ := insert_entries inserted
  rw [libraries] at byLibrary
  rw [files] at byFile
  rw [targets] at buildTargetByFile
  constructor
  · rw [byFile, List.map_append, List.map_append, filled.files]
    rfl
  · rw [buildTargetByFile, List.map_append, filled.targets]
    rfl
  · rw [byFile, byLibrary, List.map_append, filled.libraries]
    rfl

end LayoutMaps

/-- The sources that the loops of `Layout::load` visit. -/
def DuneSources.visited (reported : DuneSources) : List ReportedSource :=
  reported.mappings.flatMap fun mapping => reported.sources.filter mapping.selects

theorem DuneSources.mem_visited {source : ReportedSource} : source ∈ reported.visited ↔
    source ∈ reported.sources ∧ ∃ mapping ∈ reported.mappings, mapping.selects source := by
  simp only [visited, List.mem_flatMap, List.mem_filter]
  constructor
  · rintro ⟨mapping, member, present, selected⟩
    exact ⟨present, mapping, member, selected⟩
  · rintro ⟨present, mapping, member, selected⟩
    exact ⟨mapping, member, present, selected⟩

theorem DuneSources.load_filled {maps : LayoutMaps}
    (canonical : ∀ source ∈ reported.sources, system.canonicalize source.path = some source.path)
    (loaded : reported.load isAlphanumeric system root buildRoot = .ok maps) :
    maps.Filled reported.visited := by
  have kept : ∀ (done : List SourceMapping) (mapping : SourceMapping) (maps next : LayoutMaps),
      mapping ∈ reported.mappings →
      maps.Filled (done.flatMap fun mapping => reported.sources.filter mapping.selects) →
      (reported.sources.filter mapping.selects).foldlM
        (LayoutMaps.addSource isAlphanumeric system root buildRoot mapping) maps = .ok next →
      next.Filled ((done ++ [mapping]).flatMap fun mapping =>
        reported.sources.filter mapping.selects) := by
    intro done mapping maps next _ filled ran
    rw [List.flatMap_append, List.flatMap_singleton]
    refine foldlM_invariant _ (fun done maps => LayoutMaps.Filled done maps) ?_ filled ran
    intro done source maps next member filled added
    exact filled.addSource (canonical source (List.mem_filter.mp member).1) added
  exact foldlM_invariant [] (fun done maps =>
    LayoutMaps.Filled (done.flatMap fun mapping => reported.sources.filter mapping.selects) maps)
    kept ⟨rfl, rfl, rfl⟩ loaded

/-- A loaded layout is exact if and only if the mappings select every reported source. -/
theorem load_exact_iff {maps : LayoutMaps}
    (described : duneSources system workspace rules = .ok reported)
    (loaded : reported.load isAlphanumeric system root buildRoot = .ok maps) :
    maps.Exact reported.sources ↔ reported.Selected := by
  have filled := DuneSources.load_filled (duneSources_canonical described) loaded
  have files {path : OsPath} : (maps.byFile.get? path).isSome ↔
      ∃ source ∈ reported.visited, source.path = path := by
    rw [Table.isSome_get?, filled.files, List.mem_map]
  have targets {path target : OsPath} : maps.buildTargetByFile.get? path = some target ↔
      ∃ source ∈ reported.visited, source.path = path ∧ source.buildTarget = target := by
    rw [Table.get?_eq_some, filled.targets, List.mem_map]
    simp only [Prod.mk.injEq]
  have inverse := Table.inverse_of_swap filled.libraries
  constructor
  · intro exact' source member
    obtain ⟨other, visited, same⟩ := targets.mp (exact'.reported source member).2
    obtain ⟨present, mapping, listed, selects⟩ := DuneSources.mem_visited.mp visited
    exact ⟨other, present, mapping, listed, selects, same⟩
  · intro selected
    constructor
    · exact inverse
    · intro path
      rw [files, Option.isSome_iff_exists]
      constructor
      · rintro ⟨target, found⟩
        obtain ⟨source, visited, same, _⟩ := targets.mp found
        exact ⟨source, visited, same⟩
      · rintro ⟨source, visited, same⟩
        exact ⟨source.buildTarget, targets.mpr ⟨source, visited, same, rfl⟩⟩
    · intro left right library first second
      have left' := (inverse library left).mpr first
      have right' := (inverse library right).mpr second
      exact Option.some.inj (left'.symm.trans right')
    · intro source member
      obtain ⟨other, present, mapping, listed, selects, path, target⟩ := selected source member
      have visited := DuneSources.mem_visited.mpr ⟨present, mapping, listed, selects⟩
      exact ⟨files.mpr ⟨other, visited, path⟩, targets.mpr ⟨other, visited, path, target⟩⟩

end

namespace LinkedSource

/-- `/w/theories/A.v` is a link to `/w/shared/A.v`. -/
def link : OsPath := [textBytes "w", textBytes "theories", textBytes "A.v"]

def target : OsPath := [textBytes "w", textBytes "shared", textBytes "A.v"]

def system : FileSystem where
  canonicalize path := some (if path = link then target else path)
  isFile path := path = link || path = target
  canonical path real resolved := by
    obtain rfl := Option.some.inj resolved
    have other : target ≠ link := by decide +kernel
    by_cases linked : path = link <;> simp [linked, other]

def rules : List CompileRule := [{
  source := link
  buildTarget := [textBytes "theories", textBytes "A.vo"]
  loadPaths := [{
    physical := [textBytes "w", textBytes "theories"]
    logical := { parts := ["T"] }
    implicit := true }] }]

def reported : DuneSources where
  sources := [{
    path := target
    logical := { parts := ["T"] }
    buildTarget := [textBytes "theories", textBytes "A.vo"]
    loadPaths := [{
      physical := [textBytes "w", textBytes "theories"]
      logical := { parts := ["T"] }
      implicit := true }] }]
  mappings := [{
    directory := [textBytes "w", textBytes "theories"]
    logical := { parts := ["T"] } }]

theorem described : duneSources system [textBytes "w"] rules = .ok reported := by
  decide +kernel

theorem loads : reported.load Char.isAlphanum system [textBytes "w"]
    [textBytes "w", textBytes "_build"] = .ok {} := by
  decide +kernel

/-- The layout loads, but without the source. -/
theorem loaded_inexact : duneSources system [textBytes "w"] rules = .ok reported ∧
    reported.load Char.isAlphanum system [textBytes "w"] [textBytes "w", textBytes "_build"] =
      .ok {} ∧
    ¬ ({} : LayoutMaps).Exact reported.sources := by
  refine ⟨described, loads, fun exact' => ?_⟩
  have listed := (exact'.reported _ List.mem_cons_self).1
  cases listed

theorem exact_iff : ({} : LayoutMaps).Exact reported.sources ↔ reported.Selected :=
  load_exact_iff described loads

end LinkedSource

end RocqMcp
