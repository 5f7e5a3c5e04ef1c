import RocqMcp.Dune.Identity
import RocqMcp.Engine.Declarations
import RocqMcp.Library.Words

/-! The candidate documents of `locate_symbol`: an exact compilation unit, the
`.glob` indexes of the compiler, and the texts of the other sources. -/

namespace RocqMcp

open Library

/-- `str::lines`. -/
def textLines (text : String) : List String :=
  let parts := splitText '\n' text
  let last := parts.getLastD ""
  parts.dropLast.map (fun line =>
    if line.toList.getLast? = some '\r' then String.ofList line.toList.dropLast else line) ++
      if last = "" then [] else [last]

/-- `str::split_whitespace`. -/
def splitWhitespace (text : String) : List String :=
  ((text.toList.splitOnP isWhitespace).filter (· ≠ [])).map String.ofList

/-- The part of a symbol behind its last dot. -/
def lastPart (symbol : String) : String := (splitText '.' symbol).getLastD symbol

/-- A definition line of a `.glob` file. -/
structure GlobEntry where
  scope : String
  name : String
  deriving DecidableEq

/-- A `.glob` file behind its digest line. -/
structure GlobIndex where
  library : String
  entries : List GlobEntry
  deriving DecidableEq

namespace GlobEntry

def ofLine? (line : String) : Option GlobEntry :=
  if line = "" || "R".isPrefixOf line then none
  else
    match splitWhitespace line with
    | _ :: _ :: scope :: name :: _ => some { scope, name }
    | _ => none

def qualified (library : String) (entry : GlobEntry) : String :=
  if entry.scope = "<>" then library ++ "." ++ entry.name
  else library ++ "." ++ entry.scope ++ "." ++ entry.name

/-- The entry may be what the symbol asks for. -/
def answers (library symbol : String) (entry : GlobEntry) : Bool :=
  let qualified := entry.qualified library
  let dotted := '.' ∈ symbol.toList
  (symbolMatchKind qualified entry.name symbol).isSome ||
    (dotted && (('.' :: symbol.toList).isSuffixOf qualified.toList ||
      entry.name = lastPart symbol)) ||
    (!dotted && entry.name = lastPart symbol)

end GlobEntry

namespace GlobIndex

def parse? (text : String) : Option GlobIndex :=
  match textLines text with
  | _ :: header :: lines =>
    if "F".isPrefixOf header then
      some {
        library := String.ofList (header.toList.drop 1)
        entries := lines.filterMap GlobEntry.ofLine? }
    else none
  | _ => none

def answers (index : GlobIndex) (symbol : String) : Bool :=
  index.entries.any fun entry => entry.answers index.library symbol

end GlobIndex

/-- What reading a path and its modification time give. -/
structure DiskFile where
  content : Option Bytes := none
  modified : Option Nat := none

/-- The index that `glob_matches` reads: the file is not older than the source. -/
def standingIndex (source glob : DiskFile) : Option GlobIndex := do
  let sourceModified ← source.modified
  let globModified ← glob.modified
  if globModified < sourceModified then none
  else
    let text ← glob.content.bind bytesText?
    GlobIndex.parse? text

/-- `glob_matches`. -/
def globMatches (source glob : DiskFile) (symbol : String) : Option Bool :=
  (standingIndex source glob).map fun index => index.answers symbol

section

-- `char::is_alphanumeric`.
variable (isAlphanumeric : Char → Bool)

def isIdentifierChar (character : Char) : Bool :=
  character = '_' || character = '\'' || isAlphanumeric character

/-- `contains_identifier`. -/
def containsIdentifier (source needle : String) : Bool :=
  needle ≠ "" && containsWord (isIdentifierChar isAlphanumeric) needle.toList source.toList

end

/-- A loaded layout with its root, its build root and what the disk has. -/
structure ProjectDisk where
  maps : LayoutMaps
  system : FileSystem
  root : OsPath
  buildRoot : OsPath
  disk : OsPath → DiskFile

/-- `Layout::source_for_constant`. -/
def LayoutMaps.sourceForConstant (maps : LayoutMaps) (constant : String) : Option OsPath :=
  (maxByKey (fun entry => entry.1.parts.length) (maps.byLibrary.entries.filter fun entry =>
    entry.1.covers (splitText '.' constant))).map Prod.snd

/-- `Layout::files`, in the order of the paths. -/
def LayoutMaps.files (maps : LayoutMaps) : List OsPath :=
  (maps.byFile.entries.map Prod.fst).mergeSort fun first second => first ≤ second

namespace ProjectDisk

variable (project : ProjectDisk)

def fileIdOf (source : OsPath) : Except Error FileId :=
  match FileId.fromOsPath project.root source with
  | .ok file => .ok file
  | .error message => .error (.new .invalidConfiguration message)

def listFiles : Except Error (List FileId) := project.maps.files.mapM project.fileIdOf

def globPath (source : OsPath) : Option OsPath :=
  (project.maps.buildTargetByFile.get? source).map fun target =>
    (project.buildRoot ++ [textBytes "default"] ++ target).withExtension (textBytes "glob")

/-- The index that stands for a source. -/
def index (source : OsPath) : Option GlobIndex :=
  (project.globPath source).bind fun glob => standingIndex (project.disk source) (project.disk glob)

variable (isAlphanumeric : Char → Bool) (cancelled : Nat → Bool) (symbol : String)

/-- Whether a source is a candidate, by its index or else by its text. -/
def isCandidate (source : OsPath) : Except Error Bool :=
  match (project.globPath source).bind fun glob =>
      globMatches (project.disk source) (project.disk glob) symbol with
  | some answer => .ok answer
  | none =>
    match (project.disk source).content with
    | some bytes => .ok (containsIdentifier isAlphanumeric (lossyText bytes) (lastPart symbol))
    | none => .error (.new .declarationChanged "declaration source is unavailable")

/-- The scan, polling for a cancellation before each file. -/
def scanFiles : Nat → List FileId → Except Error (List FileId)
  | _, [] => .ok []
  | position, file :: rest =>
    if cancelled position then .error (.new .requestCancelled "symbol lookup cancelled")
    else do
      let source ← project.maps.source project.system project.root file
      let candidate ← project.isCandidate isAlphanumeric symbol source
      let candidates ← scanFiles (position + 1) rest
      return if candidate then file :: candidates else candidates

/-- The unit of an exact qualified name. -/
def exactUnit : Option OsPath :=
  if '.' ∈ symbol.toList then project.maps.sourceForConstant symbol else none

/-- `locate_symbol_candidates`. -/
def locateSymbolCandidates : Except Error (List FileId) := do
  let symbol := trim symbol
  if symbol = "" then .error (.new .invalidRequest "symbol must not be empty")
  else
    let files ← project.listFiles
    match project.exactUnit symbol with
    | none => project.scanFiles isAlphanumeric cancelled symbol 0 files
    | some source =>
      let file ← project.fileIdOf source
      return [file]

end ProjectDisk

/-- A declaration of a document, by the modules around it. -/
structure DeclaredName where
  modules : List String
  leaf : String
  deriving DecidableEq

namespace DeclaredName

def qualified (library : LogicalLibrary) (name : DeclaredName) : String :=
  joinStrings "." (library.parts ++ name.modules ++ [name.leaf])

/-- The symbol asks for the declaration. -/
def Matches (library : LogicalLibrary) (symbol : String) (name : DeclaredName) : Prop :=
  (symbolMatchKind (name.qualified library) name.leaf symbol).isSome = true

end DeclaredName

/-- The index has an entry with the leaf of each of the names. -/
def GlobIndex.Lists (index : GlobIndex) (names : List DeclaredName) : Prop :=
  ∀ name ∈ names, ∃ entry ∈ index.entries, entry.name = name.leaf

/-- What Rocq finds declared in the text of a file. Each leaf is an identifier that
stands in the text. -/
structure Elaboration (isAlphanumeric : Char → Bool) where
  names : OsPath → Bytes → List DeclaredName
  nonempty : ∀ path bytes, ∀ name ∈ names path bytes, name.leaf ≠ ""
  undotted : ∀ path bytes, ∀ name ∈ names path bytes, '.' ∉ name.leaf.toList
  identifier : ∀ path bytes, ∀ name ∈ names path bytes, ∀ character ∈ name.leaf.toList,
    isIdentifierChar isAlphanumeric character = true
  written : ∀ path bytes, ∀ name ∈ names path bytes,
    Delimited (isIdentifierChar isAlphanumeric) name.leaf.toList (lossyText bytes).toList

namespace ProjectDisk

/-- The file that the identity of a declaring file names: the index that stands
for it has an entry for the symbol. Without index it is the declaring file
itself, or another one whose text has the leaf too. -/
def Reached (project : ProjectDisk) (isAlphanumeric : Char → Bool) (symbol : String)
    (path source : OsPath) : Prop :=
  match project.index source with
  | some index => index.answers symbol = true
  | none => source = path ∨ ∃ bytes, (project.disk source).content = some bytes ∧
      containsIdentifier isAlphanumeric (lossyText bytes) (lastPart symbol) = true

section

variable {isAlphanumeric : Char → Bool} (project : ProjectDisk)
  (elaboration : Elaboration isAlphanumeric) (symbol : String)

/-- The current text of a selected file declares what the symbol asks for. -/
def Declares (path : OsPath) : Prop :=
  ∃ library bytes name, project.maps.byFile.get? path = some library ∧
    (project.disk path).content = some bytes ∧ name ∈ elaboration.names path bytes ∧
      name.Matches library symbol

/-- Each file that declares what the symbol asks for is among the candidates. -/
def Complete (files : List FileId) : Prop :=
  ∀ path, project.Declares elaboration symbol path →
    ∃ file ∈ files, FileId.fromOsPath project.root path = .ok file

/-- If the symbol has an exact unit, only files of its identity declare what the
symbol asks for. Otherwise each file that does is reached. -/
def Covered : Prop :=
  match project.exactUnit symbol with
  | some unit => ∀ path, project.Declares elaboration symbol path →
      FileId.fromOsPath project.root path = FileId.fromOsPath project.root unit
  | none => ∀ path file source, project.Declares elaboration symbol path →
      FileId.fromOsPath project.root path = .ok file →
        project.maps.source project.system project.root file = .ok source →
          project.Reached isAlphanumeric symbol path source

end

end ProjectDisk

/-! ### What a match says of the leaf -/

theorem splitText_ne_nil (separator : Char) (text : String) : splitText separator text ≠ [] := by
  simp [splitText]

theorem lastPart_append (front back : String) :
    lastPart (front ++ String.singleton '.' ++ back) = lastPart back := by
  have some : splitText '.' back ≠ [] := splitText_ne_nil '.' back
  simp only [lastPart, splitText_append, List.getLastD_eq_getLast?, List.getLast?_append]
  rw [List.getLast?_eq_some_getLast some]
  rfl

theorem lastPart_undotted {text : String} (undotted : '.' ∉ text.toList) : lastPart text = text := by
  rw [lastPart, splitText_single undotted]
  rfl

theorem DeclaredName.lastPart_qualified {library : LogicalLibrary} {name : DeclaredName}
    (undotted : '.' ∉ name.leaf.toList) : lastPart (name.qualified library) = name.leaf := by
  unfold qualified joinStrings
  by_cases outer : library.parts ++ name.modules = []
  · rw [outer, List.nil_append, String.intercalate_singleton, lastPart_undotted undotted]
  · rw [String.intercalate_append_of_ne_nil outer (by simp), String.intercalate_singleton]
    exact (lastPart_append _ _).trans (lastPart_undotted undotted)

/-- A symbol that asks for a declaration ends in its leaf. -/
theorem DeclaredName.Matches.lastPart {library : LogicalLibrary} {name : DeclaredName}
    {symbol : String} (matched : name.Matches library symbol) (undotted : '.' ∉ name.leaf.toList) :
    RocqMcp.lastPart symbol = name.leaf := by
  have whole : RocqMcp.lastPart (name.qualified library) = name.leaf := lastPart_qualified undotted
  unfold Matches symbolMatchKind at matched
  dsimp only at matched
  split at matched
  · rename_i same
    rw [← same, whole]
  split at matched
  · rename_i ends
    obtain ⟨front, split⟩ := List.isSuffixOf_iff_suffix.mp (Bool.and_eq_true_iff.mp ends).2
    have text : name.qualified library = String.ofList front ++ String.singleton '.' ++ symbol := by
      apply String.toList_injective
      simp [← split]
    rw [← whole, text, lastPart_append]
  split at matched
  · rename_i bare
    obtain ⟨_, same⟩ := Bool.and_eq_true_iff.mp bare
    rw [← of_decide_eq_true same, lastPart_undotted undotted]
  · cases matched

namespace ProjectDisk

section

variable {project : ProjectDisk} {isAlphanumeric : Char → Bool} {cancelled : Nat → Bool}
  {symbol : String} {source path : OsPath} {files found : List FileId}

/-- The two ways to a verdict, by the index that stands for the source. -/
theorem isCandidate_eq : project.isCandidate isAlphanumeric symbol source =
    match project.index source with
    | some index => .ok (index.answers symbol)
    | none =>
      match (project.disk source).content with
      | some bytes => .ok (containsIdentifier isAlphanumeric (lossyText bytes) (lastPart symbol))
      | none => .error (.new .declarationChanged "declaration source is unavailable") := by
  unfold isCandidate index globMatches
  cases project.globPath source with
  | none => rfl
  | some glob =>
    simp only [Option.bind_some]
    cases standingIndex (project.disk source) (project.disk glob) with
    | none => rfl
    | some index => rfl

variable (project isAlphanumeric symbol) in
/-- The scan keeps the file. -/
def admits (file : FileId) : Bool :=
  match project.maps.source project.system project.root file with
  | .ok source => (project.isCandidate isAlphanumeric symbol source).toOption = some true
  | .error _ => false

theorem scanFiles_filter {position : Nat}
    (scanned : project.scanFiles isAlphanumeric cancelled symbol position files = .ok found) :
    found = files.filter (project.admits isAlphanumeric symbol) ∧ ∀ file ∈ files, ∃ source verdict,
      project.maps.source project.system project.root file = .ok source ∧
        project.isCandidate isAlphanumeric symbol source = .ok verdict := by
  induction files generalizing position found with
  | nil =>
    obtain rfl := Except.ok.inj scanned
    exact ⟨rfl, List.forall_mem_nil _⟩
  | cons file rest ih =>
    unfold scanFiles at scanned
    split at scanned
    · cases scanned
    cases accepted : project.maps.source project.system project.root file with
    | error error =>
      rw [accepted] at scanned
      cases scanned
    | ok source =>
      rw [accepted] at scanned
      cases judged : project.isCandidate isAlphanumeric symbol source with
      | error error =>
        simp [bind, Except.bind, judged] at scanned
      | ok verdict =>
        simp only [bind, Except.bind, judged] at scanned
        cases others : project.scanFiles isAlphanumeric cancelled symbol (position + 1) rest with
        | error error =>
          rw [others] at scanned
          cases scanned
        | ok later =>
          rw [others] at scanned
          obtain rfl := Except.ok.inj scanned
          obtain ⟨rfl, decided⟩ := ih others
          refine ⟨?_, List.forall_mem_cons.mpr ⟨⟨source, verdict, accepted, judged⟩, decided⟩⟩
          have admitted : project.admits isAlphanumeric symbol file = verdict := by
            simp only [admits, accepted, judged]
            cases verdict <;> rfl
          rw [List.filter_cons, admitted]

theorem fileIdOf_eq_ok {file : FileId} : project.fileIdOf path = .ok file ↔
    FileId.fromOsPath project.root path = .ok file := by
  unfold fileIdOf
  cases FileId.fromOsPath project.root path <;> simp

/-- Every selected file has an identity in a list of files. -/
theorem listFiles_named (listed : project.listFiles = .ok files)
    (selected : (project.maps.byFile.get? path).isSome = true) :
    ∃ file ∈ files, FileId.fromOsPath project.root path = .ok file := by
  have member : path ∈ project.maps.files := by
    rw [LayoutMaps.files, List.mem_mergeSort]
    exact Table.isSome_get?.mp selected
  obtain ⟨file, present, named⟩ := mapM_ok listed path member
  exact ⟨file, present, fileIdOf_eq_ok.mp named⟩

variable {elaboration : Elaboration isAlphanumeric}

theorem Declares.selected (declares : project.Declares elaboration symbol path) :
    (project.maps.byFile.get? path).isSome = true := by
  obtain ⟨library, _, _, selected, _⟩ := declares
  rw [selected]
  rfl

/-- The text of a file that declares what a symbol asks for has the last part of the symbol. -/
theorem Declares.written (declares : project.Declares elaboration symbol path) :
    ∃ bytes, (project.disk path).content = some bytes ∧
      containsIdentifier isAlphanumeric (lossyText bytes) (lastPart symbol) = true := by
  obtain ⟨library, bytes, name, _, content, member, matched⟩ := declares
  have leaf := matched.lastPart (elaboration.undotted _ bytes name member)
  have nonempty := elaboration.nonempty _ bytes name member
  refine ⟨bytes, content, ?_⟩
  rw [leaf, containsIdentifier, Bool.and_eq_true_iff]
  exact ⟨decide_eq_true nonempty, containsWord_complete (by simpa using nonempty)
    (elaboration.identifier _ bytes name member) (elaboration.written _ bytes name member)⟩

/-- The scan keeps the identity of a declaring file exactly if it is reached. -/
theorem Declares.admits_iff (declares : project.Declares elaboration symbol path) {file : FileId}
    {verdict : Bool}
    (accepted : project.maps.source project.system project.root file = .ok source)
    (judged : project.isCandidate isAlphanumeric symbol source = .ok verdict) :
    project.admits isAlphanumeric symbol file = true ↔
      project.Reached isAlphanumeric symbol path source := by
  have kept : project.admits isAlphanumeric symbol file = true ↔ verdict = true := by
    simp [admits, accepted, judged, Except.toOption]
  rw [kept]
  rw [isCandidate_eq] at judged
  unfold Reached
  cases stands : project.index source with
  | some index =>
    rw [stands] at judged
    rw [← Except.ok.inj judged]
  | none =>
    rw [stands] at judged
    cases read : (project.disk source).content with
    | none =>
      rw [read] at judged
      cases judged
    | some bytes =>
      rw [read] at judged
      rw [← Except.ok.inj judged]
      constructor
      · exact fun has => .inr ⟨bytes, rfl, has⟩
      · rintro (rfl | ⟨found, same, has⟩)
        · obtain ⟨found, content, has⟩ := declares.written
          obtain rfl := Option.some.inj (read.symm.trans content)
          exact has
        · obtain rfl := Option.some.inj same
          exact has

/-- The candidates miss no file exactly if the exact unit, or else the scan, covers all. -/
theorem complete_iff
    (returned : project.locateSymbolCandidates isAlphanumeric cancelled symbol = .ok found) :
    project.Complete elaboration (trim symbol) found ↔ project.Covered elaboration (trim symbol) := by
  unfold locateSymbolCandidates at returned
  dsimp only at returned
  split at returned
  · cases returned
  cases listed : project.listFiles with
  | error error =>
    rw [listed] at returned
    cases returned
  | ok files =>
    rw [listed] at returned
    simp only [bind, Except.bind] at returned
    unfold Covered
    cases unit : project.exactUnit (trim symbol) with
    | some source =>
      rw [unit] at returned
      cases named : project.fileIdOf source with
      | error error =>
        simp only [named] at returned
        cases returned
      | ok file =>
        simp only [named] at returned
        obtain rfl := Except.ok.inj returned
        have own := fileIdOf_eq_ok.mp named
        constructor
        · intro complete path declares
          obtain ⟨other, member, named'⟩ := complete path declares
          obtain rfl := List.mem_singleton.mp member
          rw [named', own]
        · intro covered path declares
          exact ⟨file, List.mem_singleton_self _, (covered path declares).trans own⟩
    | none =>
      rw [unit] at returned
      obtain ⟨rfl, decided⟩ := scanFiles_filter returned
      constructor
      · intro complete path file source declares named accepted
        obtain ⟨other, member, named'⟩ := complete path declares
        obtain rfl := Except.ok.inj (named.symm.trans named')
        obtain ⟨present, admitted⟩ := List.mem_filter.mp member
        obtain ⟨source', verdict, accepted', judged⟩ := decided file present
        obtain rfl := Except.ok.inj (accepted.symm.trans accepted')
        exact (declares.admits_iff accepted judged).mp admitted
      · intro covered path declares
        obtain ⟨file, present, named⟩ := listFiles_named listed declares.selected
        obtain ⟨source, verdict, accepted, judged⟩ := decided file present
        have reached := covered path file source declares named accepted
        exact ⟨file, List.mem_filter.mpr ⟨present, (declares.admits_iff accepted judged).mpr reached⟩,
          named⟩

/-- Without an exact unit nothing is missed where each identity names its own file
and each index that stands lists what the current text declares. -/
theorem covered_of_current (unit : project.exactUnit symbol = none)
    (named : ∀ path file source, FileId.fromOsPath project.root path = .ok file →
      project.maps.source project.system project.root file = .ok source → source = path)
    (current : ∀ path index bytes, project.index path = some index →
      (project.disk path).content = some bytes → index.Lists (elaboration.names path bytes)) :
    project.Covered elaboration symbol := by
  unfold Covered
  rw [unit]
  intro path file source declares identity accepted
  obtain rfl := named path file source identity accepted
  unfold Reached
  cases stands : project.index source with
  | none => exact .inl rfl
  | some index =>
    obtain ⟨library, bytes, name, _, content, member, matched⟩ := declares
    obtain ⟨entry, listed, leaf⟩ := current source index bytes stands content name member
    have last := matched.lastPart (elaboration.undotted _ bytes name member)
    refine List.any_eq_true.mpr ⟨entry, listed, ?_⟩
    have asked : entry.name = lastPart symbol := leaf.trans last.symm
    by_cases dotted : '.' ∈ symbol.toList <;> simp [GlobEntry.answers, asked, dotted]

end

end ProjectDisk

namespace SuffixQuery

/-- `a/B.v` of the theory `A`, with a module `C` that has an `x`. -/
def file : OsPath := [textBytes "w", textBytes "a", textBytes "B.v"]

/-- `b/C.v` of the theory `B`. -/
def unit : OsPath := [textBytes "w", textBytes "b", textBytes "C.v"]

def root : OsPath := [textBytes "w"]

def buildRoot : OsPath := [textBytes "w", textBytes "_build"]

def text : String := "Module C. Definition x := 0. End C."

def system : FileSystem where
  canonicalize path := if path.isPrefixOf file || path.isPrefixOf unit then some path else none
  isFile path := path = file || path = unit
  canonical path real resolved := by
    obtain ⟨known, same⟩ := Option.ite_none_right_eq_some.mp resolved
    obtain rfl := Option.some.inj same
    exact if_pos known

def rules : List CompileRule := [
  { source := file
    buildTarget := [textBytes "a", textBytes "B.vo"]
    loadPaths := [{
      physical := [textBytes "w", textBytes "a"]
      logical := { parts := ["A"] }
      implicit := true }] },
  { source := unit
    buildTarget := [textBytes "b", textBytes "C.vo"]
    loadPaths := [{
      physical := [textBytes "w", textBytes "b"]
      logical := { parts := ["B"] }
      implicit := true }] }]

def maps : LayoutMaps where
  byLibrary := ⟨[({ parts := ["A", "B"] }, file), ({ parts := ["B", "C"] }, unit)], by decide⟩
  byFile := ⟨[(file, { parts := ["A", "B"] }), (unit, { parts := ["B", "C"] })], by decide +kernel⟩
  buildTargetByFile := ⟨[(file, [textBytes "a", textBytes "B.vo"]),
    (unit, [textBytes "b", textBytes "C.vo"])], by decide +kernel⟩

/-- No index has been written yet. -/
def project : ProjectDisk where
  maps := maps
  system := system
  root := root
  buildRoot := buildRoot
  disk path :=
    if path = file then { content := some (textBytes text), modified := some 1 }
    else if path = unit then { content := some [], modified := some 1 }
    else {}

def nested : DeclaredName := { modules := ["C"], leaf := "x" }

def elaboration : Elaboration Char.isAlphanum where
  names _ bytes := if bytes = textBytes text then [nested] else []
  nonempty path bytes name member := by
    obtain ⟨_, rfl⟩ := by simpa using member
    decide
  undotted path bytes name member := by
    obtain ⟨_, rfl⟩ := by simpa using member
    decide
  identifier path bytes name member := by
    obtain ⟨_, rfl⟩ := by simpa using member
    intro character present
    obtain rfl : character = 'x' := by simpa [nested] using present
    decide
  written path bytes name member := by
    obtain ⟨rfl, rfl⟩ := by simpa using member
    rw [lossyText_textBytes]
    exact ⟨"Module C. Definition ".toList, " := 0. End C.".toList, by decide, by decide, by decide⟩

theorem loaded : (duneSources system root rules).bind (fun reported =>
    reported.load Char.isAlphanum system root buildRoot) = .ok maps := by
  decide +kernel

def symbol : String := "B.C.x"

theorem trimmed : trim symbol = symbol := by decide +kernel

theorem listed : project.listFiles = .ok [{ text := "a/B.v" }, { text := "b/C.v" }] := by
  have sorted : project.maps.files = [file, unit] :=
    List.mergeSort_of_pairwise (by decide +kernel)
  rw [ProjectDisk.listFiles, sorted]
  decide +kernel

theorem returned : project.locateSymbolCandidates Char.isAlphanum (fun _ => false) symbol =
    .ok [{ text := "b/C.v" }] := by
  unfold ProjectDisk.locateSymbolCandidates
  rw [listed, trimmed]
  decide +kernel

theorem declares : project.Declares elaboration (trim symbol) file := by
  rw [trimmed]
  refine ⟨{ parts := ["A", "B"] }, textBytes text, nested, by decide +kernel, by decide +kernel, ?_, ?_⟩
  · simp [elaboration]
  · unfold DeclaredName.Matches
    decide +kernel

/-- `A.B.C.x` ends in the symbol, but only the unit `B.C` is a candidate. -/
theorem missed : (duneSources system root rules).bind (fun reported =>
      reported.load Char.isAlphanum system root buildRoot) = .ok maps ∧
    project.locateSymbolCandidates Char.isAlphanum (fun _ => false) symbol =
      .ok [{ text := "b/C.v" }] ∧
    project.Declares elaboration (trim symbol) file ∧
    ¬ project.Complete elaboration (trim symbol) [{ text := "b/C.v" }] := by
  refine ⟨loaded, returned, declares, fun complete => ?_⟩
  obtain ⟨found, member, named⟩ := complete file declares
  obtain rfl := List.mem_singleton.mp member
  have other : FileId.fromOsPath project.root file ≠ .ok { text := "b/C.v" } := by decide +kernel
  exact other named

theorem missed_iff : project.Complete elaboration (trim symbol) [{ text := "b/C.v" }] ↔
    project.Covered elaboration (trim symbol) :=
  ProjectDisk.complete_iff returned

end SuffixQuery

end RocqMcp
