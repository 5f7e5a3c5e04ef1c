import RocqMcp.Dune.Loading

/-! `FileId::from_path` and `DuneProject::source`: the identities of the selected
files, and the texts that are accepted as identities. -/

namespace RocqMcp

/-- The text of a component in a file identity. -/
def OsName.spelled (name : OsName) : String := replaceChar '\\' '/' (lossyText name)

/-- `FileId::from_path`, of paths whose names need not be UTF-8. -/
def FileId.fromOsPath (workspace source : OsPath) : Except String FileId :=
  match source.stripPrefix workspace with
  | none => .error "source escapes Dune workspace"
  | some relative =>
    let value := joinStrings "/" (relative.map OsName.spelled)
    if value = "" ∨ value = ".." ∨ "../".isPrefixOf value then
      .error "source path is not workspace-relative"
    else .ok { text := value }

/-- A name for one component of a path. -/
def IsName (name : String) : Prop := name ≠ "" ∧ name ≠ "." ∧ name ≠ ".." ∧ '/' ∉ name.toList

namespace FileId

/-- The names that the system resolves; a repeated slash and a dot stand for none. -/
def names (file : FileId) : List String :=
  (splitText '/' file.text).filter fun part => part ≠ "" && part ≠ "."

/-- The text ends in a slash or in a dot, which only a directory may have. -/
def endsInDirectory (file : FileId) : Bool :=
  (splitText '/' file.text).getLast?.any fun part => part = "" || part = "."

end FileId

/-- `fs::canonicalize` of an identity joined to the root. -/
def FileSystem.resolve (system : FileSystem) (root : OsPath) (file : FileId) : Option OsPath :=
  match system.canonicalize (root ++ file.names.map textBytes) with
  | none => none
  | some path => if file.endsInDirectory && system.isFile path then none else some path

namespace LayoutMaps

section

variable (maps : LayoutMaps) (system : FileSystem) (root : OsPath)

/-- `contains_file`. -/
def containsFile (path : OsPath) : Bool := (maps.byFile.get? path).isSome

/-- `DuneProject::source`. -/
def source (file : FileId) : Except Error OsPath := do
  validateFileId file
  match system.resolve root file with
  | none => .error (.new .notFound "requested source file is unavailable")
  | some path =>
    if maps.containsFile path then .ok path
    else .error (.new .notFound "Dune has not selected the requested source file")

/-- Each selected file has one identity, which no other file has and which is
accepted for the file, and no other text is accepted for it. -/
structure Canonical : Prop where
  named : ∀ path, maps.containsFile path →
    ∃ file, FileId.fromOsPath root path = .ok file ∧ maps.source system root file = .ok path
  distinct : ∀ first second file, maps.containsFile first → maps.containsFile second →
    FileId.fromOsPath root first = .ok file → FileId.fromOsPath root second = .ok file →
      first = second
  unique : ∀ file path, maps.source system root file = .ok path →
    FileId.fromOsPath root path = .ok file

/-- Each selected file lies in the root itself, and the decoded name is the only
way down from the root to it. -/
def Flat : Prop :=
  ∀ path, maps.containsFile path → system.isFile path ∧ ∃ name : OsName, path = root ++ [name] ∧
    IsName (lossyText name) ∧ '\\' ∉ (lossyText name).toList ∧
    ∀ names, names ≠ [] → (∀ part ∈ names, IsName part) →
      (system.canonicalize (root ++ names.map textBytes) = some path ↔ names = [lossyText name])

end

end LayoutMaps

namespace FileId

variable {file : FileId}

theorem isSafe_iff : file.isSafe = true ↔ file.text ≠ "" ∧ (splitText '/' file.text).head? ≠ some "" ∧
    (splitText '/' file.text).head? ≠ some "." ∧ ∀ part ∈ splitText '/' file.text, part ≠ ".." := by
  simp [isSafe, and_assoc]

/-- A safe text begins with a name. -/
theorem isSafe_cons (safe : file.isSafe = true) : ∃ first rest,
    splitText '/' file.text = first :: rest ∧ first ≠ "" ∧ first ≠ "." := by
  obtain ⟨_, absolute, current, _⟩ := isSafe_iff.mp safe
  cases parts : splitText '/' file.text with
  | nil => simp [splitText] at parts
  | cons first rest =>
    rw [parts] at absolute current
    exact ⟨first, rest, rfl, fun same => absolute (congrArg some same),
      fun same => current (congrArg some same)⟩

theorem names_ne_nil (safe : file.isSafe = true) : file.names ≠ [] := by
  obtain ⟨first, rest, parts, nonempty, current⟩ := isSafe_cons safe
  simp [names, parts, nonempty, current]

theorem isName_of_mem_names (safe : file.isSafe = true) : ∀ part ∈ file.names, IsName part := by
  intro part member
  obtain ⟨present, kept⟩ := List.mem_filter.mp member
  obtain ⟨nonempty, current⟩ : part ≠ "" ∧ part ≠ "." := by simpa using kept
  exact ⟨nonempty, current, (isSafe_iff.mp safe).2.2.2 part present, not_mem_splitText part present⟩

/-- A slash of an accepted text can be doubled. -/
theorem exists_respelled (safe : file.isSafe = true) (slash : '/' ∈ file.text.toList) :
    ∃ other : FileId, other ≠ file ∧ other.isSafe = true ∧ other.names = file.names ∧
      other.endsInDirectory = file.endsInDirectory := by
  obtain ⟨front, back, text⟩ := exists_append_of_mem slash
  have parts : splitText '/' file.text = splitText '/' front ++ splitText '/' back := by
    rw [text, splitText_append]
  let other : FileId :=
    { text := front ++ String.singleton '/' ++ ("" ++ String.singleton '/' ++ back) }
  have doubled : splitText '/' other.text = splitText '/' front ++ "" :: splitText '/' back := by
    have empty : splitText '/' "" = [""] := rfl
    rw [splitText_append, splitText_append, empty]
    rfl
  have first : splitText '/' front ≠ [] := by simp [splitText]
  have last : splitText '/' back ≠ [] := by simp [splitText]
  obtain ⟨nonempty, absolute, current, parents⟩ := isSafe_iff.mp safe
  rw [parts] at absolute current parents
  refine ⟨other, ?_, ?_, ?_, ?_⟩
  · intro same
    have lengths := congrArg (fun file => file.text.length) same
    simp [other, text] at lengths
  · refine isSafe_iff.mpr ⟨?_, ?_, ?_, ?_⟩
    · intro empty
      have lengths := congrArg String.length empty
      simp [other] at lengths
    · rw [doubled]
      rwa [List.head?_append_of_ne_nil _ first] at absolute ⊢
    · rw [doubled]
      rwa [List.head?_append_of_ne_nil _ first] at current ⊢
    · rw [doubled]
      intro part member
      simp only [List.mem_append, List.mem_cons] at member parents
      rcases member with early | rfl | late
      · exact parents part (.inl early)
      · decide
      · exact parents part (.inr late)
  · simp [names, parts, doubled]
  · obtain ⟨head, rest, cons⟩ := List.exists_cons_of_ne_nil last
    simp [endsInDirectory, parts, doubled, cons]

/-- Nothing but its one name is in a safe text that ends in its only name. -/
theorem text_of_names {name : String} (safe : file.isSafe = true) (only : file.names = [name])
    (ends : file.endsInDirectory = false) : file.text = name := by
  obtain ⟨first, rest, parts, nonempty, current⟩ := isSafe_cons safe
  have kept : first :: rest.filter (fun part => part ≠ "" && part ≠ ".") = [name] := by
    rw [← only, names, parts, List.filter_cons_of_pos (by simp [nonempty, current])]
  obtain ⟨rfl, dropped⟩ := List.cons.inj kept
  have alone : rest = [] := by
    by_contra more
    have last := List.getLast_mem more
    have absent := List.filter_eq_nil_iff.mp dropped _ last
    rw [endsInDirectory, parts, List.getLast?_cons_of_ne_nil more,
      List.getLast?_eq_some_getLast more] at ends
    simp_all
  have whole : joinStrings "/" (splitText '/' file.text) = file.text := joinStrings_splitText
  rw [← whole, parts, alone]
  rfl

/-- What accepts a text for a file. -/
theorem resolve_eq_some {system : FileSystem} {root path : OsPath} :
    system.resolve root file = some path ↔
      system.canonicalize (root ++ file.names.map textBytes) = some path ∧
        (file.endsInDirectory = true → system.isFile path = false) := by
  unfold FileSystem.resolve
  cases resolved : system.canonicalize (root ++ file.names.map textBytes) with
  | none => simp
  | some found =>
    rw [Option.ite_none_left_eq_some, Option.some.injEq]
    constructor
    · rintro ⟨kept, rfl⟩
      exact ⟨rfl, fun ends => by simpa [ends] using kept⟩
    · rintro ⟨rfl, kept⟩
      refine ⟨fun refused => ?_, rfl⟩
      obtain ⟨ends, regular⟩ := Bool.and_eq_true_iff.mp refused
      rw [kept ends] at regular
      cases regular

end FileId

theorem OsPath.stripPrefix_eq_some {path directory relative : OsPath} :
    path.stripPrefix directory = some relative ↔ path = directory ++ relative := by
  unfold stripPrefix
  rw [Option.ite_none_right_eq_some, List.isPrefixOf_iff_prefix]
  constructor
  · rintro ⟨⟨rest, rfl⟩, same⟩
    rw [← Option.some.inj same, List.drop_left]
  · rintro rfl
    exact ⟨List.prefix_append _ _, by rw [List.drop_left]⟩

theorem FileId.fromOsPath_eq_ok {root path : OsPath} {file : FileId} :
    FileId.fromOsPath root path = .ok file ↔ ∃ relative, path = root ++ relative ∧
      file.text = joinStrings "/" (relative.map OsName.spelled) ∧ file.text ≠ "" ∧
        file.text ≠ ".." ∧ "../".isPrefixOf file.text = false := by
  unfold fromOsPath
  cases stripped : path.stripPrefix root with
  | none =>
    refine iff_of_false nofun ?_
    rintro ⟨relative, below, _⟩
    rw [OsPath.stripPrefix_eq_some.mpr below] at stripped
    cases stripped
  | some relative =>
    obtain rfl := OsPath.stripPrefix_eq_some.mp stripped
    dsimp only
    constructor
    · intro named
      split at named
      · cases named
      · rename_i kept
        obtain rfl := Except.ok.inj named
        rw [not_or, not_or, Bool.not_eq_true] at kept
        exact ⟨relative, rfl, rfl, kept⟩
    · rintro ⟨other, below, text, kept⟩
      obtain rfl := List.append_cancel_left below
      rw [text] at kept
      rw [if_neg (by simpa [not_or] using kept), ← text]

section

variable {maps : LayoutMaps} {system : FileSystem} {root path : OsPath} {file : FileId}

theorem LayoutMaps.source_eq_ok : maps.source system root file = .ok path ↔
    file.isSafe = true ∧ system.resolve root file = some path ∧ maps.containsFile path = true := by
  unfold source validateFileId
  cases safe : file.isSafe with
  | false => exact iff_of_false nofun (fun accepted => nomatch accepted.1)
  | true =>
    cases resolved : system.resolve root file with
    | none => exact iff_of_false nofun (fun accepted => nomatch accepted.2.1)
    | some found =>
      simp only [bind, Except.bind, if_true, Option.some.injEq, true_and]
      cases selected : maps.containsFile found with
      | false =>
        refine iff_of_false nofun ?_
        rintro ⟨rfl, present⟩
        rw [selected] at present
        cases present
      | true =>
        rw [if_pos rfl, Except.ok.injEq]
        constructor
        · rintro rfl
          exact ⟨rfl, selected⟩
        · exact And.left

end

/-! ### Identities of names -/

/-- The identity that names a path component by component. -/
def FileId.ofNames (names : List String) : FileId := { text := joinStrings "/" names }

section

variable {names : List String} (some : names ≠ []) (proper : ∀ name ∈ names, IsName name)

include some proper

theorem FileId.parts_ofNames : splitText '/' (ofNames names).text = names :=
  splitText_joinStrings some fun name member => (proper name member).2.2.2

theorem FileId.names_ofNames : (ofNames names).names = names := by
  rw [FileId.names, parts_ofNames some proper, List.filter_eq_self]
  intro name member
  simp [(proper name member).1, (proper name member).2.1]

theorem FileId.ofNames_safe : (ofNames names).isSafe = true := by
  rw [isSafe_iff, parts_ofNames some proper]
  obtain ⟨first, rest, rfl⟩ := List.exists_cons_of_ne_nil some
  have head := proper first List.mem_cons_self
  refine ⟨fun empty => ?_, ?_, ?_, fun name member => (proper name member).2.2.1⟩
  · have parts := parts_ofNames some proper
    rw [empty] at parts
    exact head.1 (List.cons.inj parts).1.symm
  · exact fun same => head.1 (Option.some.inj same)
  · exact fun same => head.2.1 (Option.some.inj same)

theorem FileId.ofNames_ends : (ofNames names).endsInDirectory = false := by
  rw [endsInDirectory, parts_ofNames some proper, List.getLast?_eq_some_getLast some]
  have last := proper _ (List.getLast_mem some)
  simp [last.1, last.2.1]

end

/-- The last name of an identity can be followed by a slash. -/
theorem FileId.exists_directory {name : String} (proper : IsName name) :
    ∃ other : FileId, other.text ≠ name ∧ other.isSafe = true ∧ other.names = [name] := by
  let other : FileId := { text := name ++ String.singleton '/' ++ "" }
  have empty : splitText '/' "" = [""] := rfl
  have parts : splitText '/' other.text = [name, ""] := by
    rw [splitText_append, splitText_single proper.2.2.2, empty]
    rfl
  refine ⟨other, ?_, ?_, ?_⟩
  · intro same
    have lengths := congrArg String.length same
    simp [other] at lengths
  · rw [isSafe_iff, parts]
    refine ⟨?_, ?_, ?_, ?_⟩
    · intro empty'
      have lengths := congrArg String.length empty'
      simp [other] at lengths
    · exact fun same => proper.1 (Option.some.inj same)
    · exact fun same => proper.2.1 (Option.some.inj same)
    · simpa using proper.2.2.1
  · simp [names, parts, proper.1, proper.2.1]

namespace LayoutMaps

section

variable {maps : LayoutMaps} {system : FileSystem} {root path : OsPath}

theorem Canonical.same (canonical : maps.Canonical system root) {file other : FileId}
    (named : FileId.fromOsPath root path = .ok file)
    (accepted : maps.source system root other = .ok path) : other = file :=
  Except.ok.inj ((canonical.unique other path accepted).symm.trans named)

/-- The identity of a selected file is one name. -/
theorem Canonical.slash_not_mem (canonical : maps.Canonical system root) {file : FileId}
    (named : FileId.fromOsPath root path = .ok file)
    (accepted : maps.source system root file = .ok path) : '/' ∉ file.text.toList := by
  intro slash
  obtain ⟨safe, resolved, selected⟩ := source_eq_ok.mp accepted
  obtain ⟨other, different, safe', names, ends⟩ := FileId.exists_respelled safe slash
  refine different (canonical.same named (source_eq_ok.mpr ⟨safe', ?_, selected⟩))
  rw [FileId.resolve_eq_some, names, ends]
  exact FileId.resolve_eq_some.mp resolved

end

end LayoutMaps

theorem OsName.spelled_plain {name : OsName} (single : '/' ∉ name.spelled.toList) :
    '\\' ∉ (lossyText name).toList ∧ name.spelled = lossyText name := by
  have plain : '\\' ∉ (lossyText name).toList := by
    intro member
    rw [spelled, toList_replaceChar] at single
    exact single (List.mem_map.mpr ⟨'\\', member, rfl⟩)
  exact ⟨plain, replaceChar_absent plain⟩

/-- A path whose identity is one name lies in the root itself. -/
theorem FileId.fromOsPath_single {root path : OsPath} {file : FileId}
    (named : FileId.fromOsPath root path = .ok file) (single : '/' ∉ file.text.toList) :
    ∃ name : OsName, path = root ++ [name] ∧ file.text = lossyText name ∧
      '\\' ∉ (lossyText name).toList := by
  obtain ⟨relative, rfl, text, nonempty, _⟩ := fromOsPath_eq_ok.mp named
  cases relative with
  | nil => exact absurd text nonempty
  | cons name rest =>
    cases rest with
    | cons second others =>
      rw [text] at single
      exact absurd (by simp [joinStrings]) single
    | nil =>
      have spelled : file.text = name.spelled := by simpa [joinStrings] using text
      rw [spelled] at single
      obtain ⟨plain, same⟩ := OsName.spelled_plain single
      exact ⟨name, rfl, spelled.trans same, plain⟩

theorem FileId.escapes_parts {text : String} (escapes : text = ".." ∨ "../".isPrefixOf text = true) :
    ".." ∈ splitText '/' text := by
  rcases escapes with rfl | escapes
  · decide
  · obtain ⟨rest, split⟩ := String.startsWith_string_iff.mp escapes
    have text : text = ".." ++ String.singleton '/' ++ String.ofList rest := by
      apply String.toList_injective
      rw [← split]
      simp
    rw [text, splitText_append]
    exact List.mem_append_left _ (by decide)

/-- The decoded names of a path below the root are its identity. -/
theorem FileId.fromOsPath_names {root relative : OsPath} (some : relative ≠ [])
    (proper : ∀ name ∈ relative, IsName (lossyText name))
    (plain : ∀ name ∈ relative, '\\' ∉ (lossyText name).toList) :
    FileId.fromOsPath root (root ++ relative) = .ok (.ofNames (relative.map lossyText)) := by
  have spelled : relative.map OsName.spelled = relative.map lossyText :=
    List.map_congr_left fun name member => replaceChar_absent (plain name member)
  have some' : relative.map lossyText ≠ [] := by simpa using some
  have proper' : ∀ name ∈ relative.map lossyText, IsName name := by simpa using proper
  have safe := isSafe_iff.mp (ofNames_safe some' proper')
  have inside : ¬ ((ofNames (relative.map lossyText)).text = ".." ∨
      "../".isPrefixOf (ofNames (relative.map lossyText)).text = true) :=
    fun escapes => safe.2.2.2 _ (escapes_parts escapes) rfl
  rw [not_or, Bool.not_eq_true] at inside
  exact fromOsPath_eq_ok.mpr ⟨relative, rfl, by rw [spelled]; rfl, safe.1, inside⟩

namespace LayoutMaps

section

variable {maps : LayoutMaps} {system : FileSystem} {root path : OsPath}

theorem Canonical.flat (canonical : maps.Canonical system root) : maps.Flat system root := by
  intro path selected
  obtain ⟨file, named, accepted⟩ := canonical.named path selected
  have single := canonical.slash_not_mem named accepted
  obtain ⟨safe, resolved, _⟩ := source_eq_ok.mp accepted
  obtain ⟨name, below, text, plain⟩ := FileId.fromOsPath_single named single
  have parts : splitText '/' file.text = [file.text] := splitText_single single
  have proper : IsName file.text := by
    obtain ⟨first, rest, split, nonempty, current⟩ := FileId.isSafe_cons safe
    obtain ⟨rfl, rfl⟩ := List.cons.inj (parts.symm.trans split)
    have parent := (FileId.isSafe_iff.mp safe).2.2.2 _ (parts ▸ List.mem_singleton_self _)
    exact ⟨nonempty, current, parent, single⟩
  have names : file.names = [file.text] := by
    simp [FileId.names, parts, proper.1, proper.2.1]
  obtain ⟨real, _⟩ := FileId.resolve_eq_some.mp resolved
  refine ⟨?_, name, below, text ▸ proper, plain, fun others some proper' => ⟨fun way => ?_, ?_⟩⟩
  · by_contra special
    obtain ⟨other, different, safe', names'⟩ := FileId.exists_directory proper
    have found : maps.source system root other = .ok path := by
      refine source_eq_ok.mpr ⟨safe', FileId.resolve_eq_some.mpr ⟨?_, ?_⟩, selected⟩
      · rw [names', ← names]
        exact real
      · exact fun _ => Bool.eq_false_iff.mpr special
    exact different (congrArg FileId.text (canonical.same named found))
  · have found : maps.source system root (.ofNames others) = .ok path := by
      refine source_eq_ok.mpr ⟨FileId.ofNames_safe some proper',
        FileId.resolve_eq_some.mpr ⟨?_, ?_⟩, selected⟩
      · rw [FileId.names_ofNames some proper']
        exact way
      · rw [FileId.ofNames_ends some proper']
        exact nofun
    have same := canonical.same named found
    rw [← FileId.parts_ofNames some proper', same, parts, text]
  · rintro rfl
    rw [names, text] at real
    exact real

/-- The one name of a flat file is its identity. -/
theorem Flat.named (flat : maps.Flat system root) (selected : maps.containsFile path) :
    ∃ file, FileId.fromOsPath root path = .ok file ∧ maps.source system root file = .ok path := by
  obtain ⟨regular, name, rfl, proper, plain, ways⟩ := flat path selected
  have proper' : ∀ part ∈ [lossyText name], IsName part := by simpa using proper
  have named : FileId.fromOsPath root (root ++ [name]) = .ok (.ofNames [lossyText name]) :=
    FileId.fromOsPath_names (by simp) (by simpa using proper) (by simpa using plain)
  refine ⟨.ofNames [lossyText name], named, ?_⟩
  refine source_eq_ok.mpr ⟨FileId.ofNames_safe (by simp) proper',
    FileId.resolve_eq_some.mpr ⟨?_, ?_⟩, selected⟩
  · rw [FileId.names_ofNames (by simp) proper']
    exact (ways _ (by simp) proper').mpr rfl
  · rw [FileId.ofNames_ends (by simp) proper']
    exact nofun

theorem Flat.unique (flat : maps.Flat system root) {file : FileId}
    (accepted : maps.source system root file = .ok path) :
    FileId.fromOsPath root path = .ok file := by
  obtain ⟨safe, resolved, selected⟩ := source_eq_ok.mp accepted
  obtain ⟨real, ends⟩ := FileId.resolve_eq_some.mp resolved
  obtain ⟨regular, name, rfl, proper, plain, ways⟩ := flat path selected
  have only : file.names = [lossyText name] :=
    (ways file.names (FileId.names_ne_nil safe) (FileId.isName_of_mem_names safe)).mp real
  have text : file.text = lossyText name := by
    refine FileId.text_of_names safe only (Bool.eq_false_iff.mpr fun directory => ?_)
    rw [ends directory] at regular
    cases regular
  have same : file = .ofNames [lossyText name] := by
    rw [FileId.ofNames, joinStrings, String.intercalate_singleton, ← text]
  rw [same]
  exact FileId.fromOsPath_names (by simp) (by simpa using proper) (by simpa using plain)

/-- Identities are canonical names of the selected files exactly for the layouts
that have their files in the root, without a second way to any of them. -/
theorem canonical_iff : maps.Canonical system root ↔ maps.Flat system root := by
  constructor
  · exact Canonical.flat
  · intro flat
    refine ⟨fun path selected => flat.named selected, ?_, fun file path => flat.unique⟩
    intro first second file selected selected' named named'
    obtain ⟨left, named₁, accepted⟩ := flat.named selected
    obtain ⟨right, named₂, accepted'⟩ := flat.named selected'
    obtain rfl := Except.ok.inj (named.symm.trans named₁)
    obtain rfl := Except.ok.inj (named'.symm.trans named₂)
    exact Except.ok.inj (accepted.symm.trans accepted')

end

end LayoutMaps

/-! ### Normal spellings of unlinked UTF-8 paths -/

section

variable {maps : LayoutMaps} {system : FileSystem} {root : OsPath} {names : List String}

/-- A selected file with a UTF-8 path, to which no link leads down from the root
by the same names, has its normal spelling as identity. -/
theorem FileId.ofNames_roundTrip (some : names ≠ []) (proper : ∀ name ∈ names, IsName name)
    (plain : ∀ name ∈ names, '\\' ∉ name.toList)
    (unlinked : system.canonicalize (root ++ names.map textBytes) =
      Option.some (root ++ names.map textBytes))
    (selected : maps.containsFile (root ++ names.map textBytes)) :
    FileId.fromOsPath root (root ++ names.map textBytes) = .ok (.ofNames names) ∧
      maps.source system root (.ofNames names) = .ok (root ++ names.map textBytes) := by
  have decoded : (names.map textBytes).map lossyText = names := by
    simp [Function.comp_def, lossyText_textBytes]
  have named : FileId.fromOsPath root (root ++ names.map textBytes) =
      .ok (.ofNames ((names.map textBytes).map lossyText)) :=
    FileId.fromOsPath_names (by simpa using some) (by simpa [lossyText_textBytes] using proper)
      (by simpa [lossyText_textBytes] using plain)
  rw [decoded] at named
  refine ⟨named, LayoutMaps.source_eq_ok.mpr
    ⟨FileId.ofNames_safe some proper, FileId.resolve_eq_some.mpr ⟨?_, ?_⟩, selected⟩⟩
  · rw [FileId.names_ofNames some proper]
    exact unlinked
  · rw [FileId.ofNames_ends some proper]
    exact nofun

/-- On UTF-8 paths this is the identity of the other models. -/
theorem FileId.fromOsPath_textBytes (workspace source : Path) :
    FileId.fromOsPath (workspace.map textBytes) (source.map textBytes) =
      FileId.fromPath workspace source := by
  have below : (workspace.map textBytes).isPrefixOf (source.map textBytes) =
      workspace.isPrefixOf source := by
    rw [Bool.eq_iff_iff, List.isPrefixOf_iff_prefix, List.isPrefixOf_iff_prefix]
    exact List.prefix_map_iff_of_injective fun _ _ => textBytes_inj
  have spelled : OsName.spelled ∘ textBytes = replaceChar '\\' '/' := by
    funext name
    simp [OsName.spelled, lossyText_textBytes]
  unfold FileId.fromOsPath FileId.fromPath OsPath.stripPrefix Path.relative?
  rw [below, List.length_map]
  cases workspace.isPrefixOf source with
  | false => rfl
  | true => simp only [if_true, ← List.map_drop, List.map_map, spelled]

end

namespace NestedSource

/-- `/w/d/A.v`, in a project with the root `/w`. -/
def file : OsPath := [textBytes "w", textBytes "d", textBytes "A.v"]

def root : OsPath := [textBytes "w"]

def system : FileSystem where
  canonicalize path := if path.isPrefixOf file then some path else none
  isFile path := path = file
  canonical path real resolved := by
    obtain ⟨known, same⟩ := Option.ite_none_right_eq_some.mp resolved
    obtain rfl := Option.some.inj same
    exact if_pos known

def rules : List CompileRule := [{
  source := file
  buildTarget := [textBytes "d", textBytes "A.vo"]
  loadPaths := [{ physical := root, logical := { parts := ["T"] }, implicit := true }] }]

def maps : LayoutMaps where
  byLibrary := ⟨[({ parts := ["T", "d", "A"] }, file)], by decide⟩
  byFile := ⟨[(file, { parts := ["T", "d", "A"] })], by decide⟩
  buildTargetByFile := ⟨[(file, [textBytes "d", textBytes "A.vo"])], by decide⟩

def normal : FileId := { text := "d/A.v" }

def respelled : FileId := { text := "d//A.v" }

/-- The loaded layout accepts two texts for its file. -/
theorem not_canonical : (duneSources system root rules).bind (fun reported =>
      reported.load Char.isAlphanum system root (root ++ [textBytes "_build"])) = .ok maps ∧
    FileId.fromOsPath root file = .ok normal ∧ maps.source system root normal = .ok file ∧
    maps.source system root respelled = .ok file ∧ ¬ maps.Canonical system root := by
  have loaded : (duneSources system root rules).bind (fun reported =>
      reported.load Char.isAlphanum system root (root ++ [textBytes "_build"])) = .ok maps := by
    decide +kernel
  have named : FileId.fromOsPath root file = .ok normal := by decide +kernel
  have returned : maps.source system root normal = .ok file := by decide +kernel
  have accepted : maps.source system root respelled = .ok file := by decide +kernel
  refine ⟨loaded, named, returned, accepted, fun canonical => ?_⟩
  exact absurd (canonical.same named accepted) (by decide)

end NestedSource

end RocqMcp
