import RocqMcp.Dune.OsPath
import RocqMcp.Library.Delimited
import Mathlib.Data.String.Basic
import Mathlib.Data.Set.Basic

/-! `layout_probe`: the bytes that stand for the layout inputs of a project tree. -/

namespace RocqMcp

open Library

/-- A name in a directory. -/
structure FileName where
  bytes : OsName
  nonempty : bytes ≠ []
  slash : 0x2f ∉ bytes
  nul : 0 ∉ bytes
  deriving DecidableEq

mutual

/-- What a directory entry is. Links and special files are `other`. -/
inductive TreeNode where
  | file (content : Bytes)
  | directory (listing : Listing)
  | other

/-- A directory, in the order in which it is listed. -/
inductive Listing where
  | nil
  | cons (name : FileName) (node : TreeNode) (rest : Listing)

end

def Listing.names : Listing → List FileName
  | .nil => []
  | .cons name _ rest => name :: rest.names

mutual

def TreeNode.Distinct : TreeNode → Prop
  | .directory listing => listing.Distinct
  | _ => True

/-- No directory has two entries of one name. -/
def Listing.Distinct : Listing → Prop
  | .nil => True
  | .cons name node rest => name ∉ rest.names ∧ node.Distinct ∧ rest.Distinct

end

structure ProjectTree where
  listing : Listing
  distinct : listing.Distinct

def isIgnored (name : FileName) : Bool :=
  name.bytes ∈ [textBytes ".git", textBytes "_build", textBytes "target"]

def isSource (path : OsPath) : Bool :=
  (path.getLast?.bind OsName.extension) = some (textBytes "v")

def layoutNames : List OsName :=
  [textBytes "dune", textBytes "dune-project", textBytes "dune-workspace",
    textBytes "dune-workspace.dev", textBytes "_CoqProject", textBytes "_RocqProject"]

def isLayout (path : OsPath) : Bool := path.getLast?.any fun name => name ∈ layoutNames

/-- A name and the contents of a layout file. -/
abbrev ProbeEntry := String × Option Bytes

/-- The entry of a regular file, if it is a layout input. -/
def probeEntry (path : OsPath) (content : Bytes) : Option ProbeEntry :=
  if isSource path then some ("source:" ++ path.lossy, none)
  else if isLayout path then some ("layout:" ++ path.lossy, some content)
  else none

mutual

def TreeNode.visit (path : OsPath) : TreeNode → List ProbeEntry
  | .directory listing => listing.visit path
  | .file content => (probeEntry path content).toList
  | .other => []

/-- `visit`, from a directory on. -/
def Listing.visit (directory : OsPath) : Listing → List ProbeEntry
  | .nil => []
  | .cons name node rest =>
    if isIgnored name then rest.visit directory
    else node.visit (directory ++ [name.bytes]) ++ rest.visit directory

end

namespace ProbeEntry

def encode (entry : ProbeEntry) : Bytes :=
  textBytes entry.1 ++ [0] ++ entry.2.getD [] ++ [0xff]

end ProbeEntry

namespace ProjectTree

variable (tree : ProjectTree)

/-- The entries sorted by name. -/
def entries : List ProbeEntry :=
  (tree.listing.visit []).mergeSort fun left right => left.1 ≤ right.1

/-- The bytes fed to SHA-256. -/
def probeBytes : Bytes := tree.entries.flatMap ProbeEntry.encode

end ProjectTree

/-! ### The inputs that the probe is to tell apart -/

mutual

def TreeNode.files (path : OsPath) : TreeNode → List (OsPath × Bytes)
  | .directory listing => listing.files path
  | .file content => [(path, content)]
  | .other => []

/-- The regular files outside the ignored directories. -/
def Listing.files (directory : OsPath) : Listing → List (OsPath × Bytes)
  | .nil => []
  | .cons name node rest =>
    (if isIgnored name then [] else node.files (directory ++ [name.bytes])) ++ rest.files directory

end

namespace ProjectTree

variable (tree left right : ProjectTree)

def files : List (OsPath × Bytes) := tree.listing.files []

/-- The relative paths of the `.v` files. -/
def sources : Set OsPath := {path | isSource path ∧ ∃ content, (path, content) ∈ tree.files}

/-- The paths and bytes of the layout files. -/
def layoutFiles : Set (OsPath × Bytes) := {file | isLayout file.1 ∧ file ∈ tree.files}

def SameInputs : Prop := left.sources = right.sources ∧ left.layoutFiles = right.layoutFiles

/-- The probe bytes of two trees agree exactly when their layout inputs do. -/
def Separated : Prop := left.probeBytes = right.probeBytes ↔ left.SameInputs right

/-- The bytes of the files listed under one spelling, framed in their order. -/
def spelledAs (name : String) : Bytes :=
  ((tree.listing.visit []).filter fun entry => entry.1 = name).flatMap ProbeEntry.encode

/-- The frames of the sorted entries. -/
def frames : List (Bytes × Bytes) :=
  tree.entries.map fun entry => (textBytes entry.1, entry.2.getD [])

/-- Different paths are not spelled alike, one spelling lists the same bytes in
the same order, and no layout file absorbs the entries after it. -/
structure Separable : Prop where
  spelled : left.frames = right.frames → left.SameInputs right
  listed : left.SameInputs right → ∀ name, left.spelledAs name = right.spelledAs name
  framed : ¬ left.SameInputs right → ¬ Absorbs 0 0xff left.frames right.frames ∧
    ¬ Absorbs 0 0xff right.frames left.frames

end ProjectTree

/-! ### The entries and the inputs -/

/-- The layout input that a regular file is. -/
def layoutInput (file : OsPath × Bytes) : Option (OsPath × Option Bytes) :=
  if isSource file.1 then some (file.1, none)
  else if isLayout file.1 then some (file.1, some file.2)
  else none

def spellInput (input : OsPath × Option Bytes) : ProbeEntry :=
  ((if input.2.isSome then "layout:" else "source:") ++ input.1.lossy, input.2)

theorem probeEntry_eq (path : OsPath) (content : Bytes) :
    probeEntry path content = (layoutInput (path, content)).map spellInput := by
  unfold probeEntry layoutInput
  split
  · rfl
  · split <;> rfl

mutual

theorem TreeNode.visit_eq (node : TreeNode) (path : OsPath) :
    node.visit path = ((node.files path).filterMap layoutInput).map spellInput := by
  match node with
  | .directory listing => exact listing.visit_eq path
  | .other => rfl
  | .file content =>
    simp only [TreeNode.visit, TreeNode.files, probeEntry_eq]
    cases input : layoutInput (path, content) <;> simp [input]

theorem Listing.visit_eq (listing : Listing) (directory : OsPath) :
    listing.visit directory = ((listing.files directory).filterMap layoutInput).map spellInput := by
  match listing with
  | .nil => rfl
  | .cons name node rest =>
    have first := node.visit_eq (directory ++ [name.bytes])
    have others := rest.visit_eq directory
    simp only [Listing.visit, Listing.files]
    split
    · rw [others, List.nil_append]
    · rw [first, others, List.filterMap_append, List.map_append]

end

mutual

theorem TreeNode.files_below (node : TreeNode) (path : OsPath) :
    ∀ file ∈ node.files path, path.isPrefixOf file.1 = true := by
  match node with
  | .directory listing =>
    intro file member
    obtain ⟨name, _, below⟩ := listing.files_below path file member
    exact List.isPrefixOf_iff_prefix.mpr
      ((List.prefix_append path [name.bytes]).trans (List.isPrefixOf_iff_prefix.mp below))
  | .other => exact nofun
  | .file content =>
    intro file member
    obtain rfl := List.mem_singleton.mp member
    exact List.isPrefixOf_iff_prefix.mpr (List.prefix_refl path)

/-- A file lies below the entry of its directory that leads to it. -/
theorem Listing.files_below (listing : Listing) (directory : OsPath) :
    ∀ file ∈ listing.files directory, ∃ name ∈ listing.names,
      (directory ++ [name.bytes]).isPrefixOf file.1 = true := by
  match listing with
  | .nil => exact nofun
  | .cons name node rest =>
    intro file member
    rcases List.mem_append.mp member with here | later
    · split at here
      · cases here
      · exact ⟨name, List.mem_cons_self, node.files_below _ file here⟩
    · obtain ⟨other, listed, below⟩ := rest.files_below directory file later
      exact ⟨other, List.mem_cons_of_mem _ listed, below⟩

end

theorem FileName.eq_of_below {first second : FileName} {directory path : OsPath}
    (left : (directory ++ [first.bytes]).isPrefixOf path = true)
    (right : (directory ++ [second.bytes]).isPrefixOf path = true) : first = second := by
  obtain ⟨early, rfl⟩ := List.isPrefixOf_iff_prefix.mp left
  obtain ⟨late, same⟩ := List.isPrefixOf_iff_prefix.mp right
  have names : second.bytes = first.bytes ∧ late = early := by simpa using same
  cases first
  cases second
  cases names.1
  rfl

mutual

theorem TreeNode.files_nodup (node : TreeNode) (path : OsPath) (distinct : node.Distinct) :
    ((node.files path).map Prod.fst).Nodup := by
  match node with
  | .directory listing => exact listing.files_nodup path distinct
  | .other => exact List.nodup_nil
  | .file content => exact List.nodup_cons.mpr ⟨nofun, List.nodup_nil⟩

/-- The paths of a tree without doubled names are distinct. -/
theorem Listing.files_nodup (listing : Listing) (directory : OsPath) (distinct : listing.Distinct) :
    ((listing.files directory).map Prod.fst).Nodup := by
  match listing with
  | .nil => exact List.nodup_nil
  | .cons name node rest =>
    obtain ⟨fresh, inner, others⟩ := distinct
    have first : (((if isIgnored name then [] else node.files (directory ++ [name.bytes]))).map
        Prod.fst).Nodup := by
      split
      · exact List.nodup_nil
      · exact node.files_nodup _ inner
    rw [Listing.files, List.map_append]
    refine List.nodup_append.mpr ⟨first, rest.files_nodup directory others, ?_⟩
    intro path early other late
    rintro rfl
    obtain ⟨file, here, rfl⟩ := List.mem_map.mp early
    obtain ⟨file', there, same⟩ := List.mem_map.mp late
    split at here
    · cases here
    · have below := node.files_below _ file here
      obtain ⟨other, listed, below'⟩ := rest.files_below directory file' there
      rw [same] at below'
      exact fresh (FileName.eq_of_below below below' ▸ listed)

end

mutual

theorem TreeNode.files_nul (node : TreeNode) (path : OsPath) (plain : ∀ name ∈ path, 0 ∉ name) :
    ∀ file ∈ node.files path, ∀ name ∈ file.1, 0 ∉ name := by
  match node with
  | .directory listing => exact listing.files_nul path plain
  | .other => exact nofun
  | .file content =>
    intro file member
    obtain rfl := List.mem_singleton.mp member
    exact plain

theorem Listing.files_nul (listing : Listing) (directory : OsPath)
    (plain : ∀ name ∈ directory, 0 ∉ name) :
    ∀ file ∈ listing.files directory, ∀ name ∈ file.1, 0 ∉ name := by
  match listing with
  | .nil => exact nofun
  | .cons name node rest =>
    intro file member
    rcases List.mem_append.mp member with here | later
    · split at here
      · cases here
      · refine node.files_nul _ (fun other inside => ?_) file here
        rcases List.mem_append.mp inside with above | last
        · exact plain other above
        · obtain rfl := List.mem_singleton.mp last
          exact name.nul
    · exact rest.files_nul directory plain file later

end

theorem OsPath.nul_not_mem_bytes {path : OsPath} (plain : ∀ name ∈ path, 0 ∉ name) :
    0 ∉ path.bytes := by
  induction path with
  | nil => exact nofun
  | cons name rest ih =>
    have first := plain name List.mem_cons_self
    have others := ih fun other member => plain other (List.mem_cons_of_mem _ member)
    by_cases last : rest = []
    · subst last
      simpa [bytes] using first
    · rw [bytes, List.intercalate_cons_of_ne_nil last]
      simp only [List.mem_append, List.mem_singleton, not_or]
      exact ⟨⟨first, by decide⟩, others⟩

theorem OsPath.nul_not_mem_lossy {path : OsPath} (plain : ∀ name ∈ path, 0 ∉ name) :
    '\x00' ∉ path.lossy.toList := by
  have text := nul_not_mem_lossyText (nul_not_mem_bytes plain)
  simp only [lossy, replaceChar, String.toList_ofList, List.mem_map, not_exists, not_and]
  intro character present same
  split at same
  · cases same
  · exact text (same ▸ present)

theorem isLayout_not_isSource {path : OsPath} (layout : isLayout path = true) :
    isSource path = false := by
  unfold isLayout at layout
  unfold isSource
  cases last : path.getLast? with
  | none => rfl
  | some name =>
    rw [last] at layout
    have member : name ∈ layoutNames := of_decide_eq_true layout
    have others : ∀ name ∈ layoutNames, OsName.extension name ≠ some (textBytes "v") := by
      decide +kernel
    simpa using others name member

namespace ProjectTree

variable {tree left right : ProjectTree}

def inputs (tree : ProjectTree) : List (OsPath × Option Bytes) := tree.files.filterMap layoutInput

theorem visit_eq (tree : ProjectTree) : tree.listing.visit [] = tree.inputs.map spellInput :=
  tree.listing.visit_eq []

theorem layoutInput_path {file : OsPath × Bytes} {input : OsPath × Option Bytes}
    (found : layoutInput file = some input) : input.1 = file.1 := by
  unfold layoutInput at found
  split at found
  · obtain rfl := Option.some.inj found
    rfl
  · split at found
    · obtain rfl := Option.some.inj found
      rfl
    · cases found

theorem inputs_nodup (tree : ProjectTree) : tree.inputs.Nodup := by
  have paths : (tree.files.map Prod.fst).Nodup := tree.listing.files_nodup [] tree.distinct
  rw [List.nodup_iff_pairwise_ne, List.pairwise_map] at paths
  refine List.Pairwise.filterMap layoutInput ?_ paths
  intro file file' apart input found input' found' same
  rw [← layoutInput_path found, ← layoutInput_path found', same] at apart
  exact apart rfl

theorem mem_inputs {path : OsPath} {body : Option Bytes} : (path, body) ∈ tree.inputs ↔
    (body = none ∧ path ∈ tree.sources) ∨
      ∃ content, body = some content ∧ (path, content) ∈ tree.layoutFiles := by
  rw [inputs, List.mem_filterMap]
  constructor
  · rintro ⟨⟨path', content⟩, member, found⟩
    unfold layoutInput at found
    split at found
    · cases found
      exact .inl ⟨rfl, ‹_›, content, member⟩
    · split at found
      · cases found
        exact .inr ⟨content, rfl, ‹_›, member⟩
      · cases found
  · rintro (⟨rfl, source, content, member⟩ | ⟨content, rfl, layout, member⟩)
    · exact ⟨(path, content), member, by simp [layoutInput, source]⟩
    · have other := isLayout_not_isSource layout
      exact ⟨(path, content), member, by simp [layoutInput, other, layout]⟩

theorem SameInputs.perm (same : left.SameInputs right) : left.inputs.Perm right.inputs := by
  rw [List.perm_ext_iff_of_nodup left.inputs_nodup right.inputs_nodup]
  rintro ⟨path, body⟩
  rw [mem_inputs, mem_inputs, same.1, same.2]

theorem entries_perm (tree : ProjectTree) : tree.entries.Perm (tree.listing.visit []) :=
  List.mergeSort_perm _ _

theorem entries_sorted (tree : ProjectTree) :
    tree.entries.Pairwise fun first second => first.1 ≤ second.1 := by
  let below (first second : ProbeEntry) : Bool := first.1 ≤ second.1
  have transitive : ∀ first second third, below first second → below second third →
      below first third := by
    intro first second third early late
    exact decide_eq_true (le_trans (of_decide_eq_true early) (of_decide_eq_true late))
  have total : ∀ first second, (below first second || below second first) = true := by
    intro first second
    simpa [below] using le_total first.1 second.1
  have sorted := List.pairwise_mergeSort transitive total (tree.listing.visit [])
  simpa [entries, below] using sorted

/-- The sort keeps the order of the entries of one name. -/
theorem entries_filter (tree : ProjectTree) (name : String) :
    (tree.entries.filter fun entry => entry.1 = name) =
      (tree.listing.visit []).filter fun entry => entry.1 = name := by
  let group := (tree.listing.visit []).filter fun entry => entry.1 = name
  have names : ∀ entry ∈ group, entry.1 = name := by
    intro entry member
    simpa using (List.mem_filter.mp member).2
  have equal : group.Pairwise fun first second : ProbeEntry => decide (first.1 ≤ second.1) = true := by
    rw [List.pairwise_iff_forall_sublist]
    intro first second pair
    have members := pair.subset
    have first' := names first (members (by simp))
    have second' := names second (members (by simp))
    simp [first', second']
  have sorted : group.Sublist tree.entries := by
    refine List.sublist_mergeSort (fun first second third early late => ?_) (fun first second => ?_)
      equal List.filter_sublist
    · simp only [decide_eq_true_eq] at early late ⊢
      exact le_trans early late
    · simpa using le_total first.1 second.1
  have within : group.Sublist (tree.entries.filter fun entry => entry.1 = name) := by
    have filtered := sorted.filter fun entry => decide (entry.1 = name)
    have all : group.filter (fun entry => decide (entry.1 = name)) = group := by
      rw [List.filter_eq_self]
      intro entry member
      simpa using names entry member
    rwa [all] at filtered
  have size := (tree.entries_perm.filter fun entry => decide (entry.1 = name)).length_eq
  exact (within.eq_of_length size.symm).symm

theorem probeBytes_eq_framed (tree : ProjectTree) :
    tree.probeBytes = framed 0 0xff tree.frames := by
  rw [probeBytes, frames, framed, List.flatMap_map]
  congr 1
  funext entry
  simp [ProbeEntry.encode, frame]

theorem frames_keys (tree : ProjectTree) : ∀ entry ∈ tree.frames, 0 ∉ entry.1 := by
  intro frame member
  obtain ⟨entry, listed, rfl⟩ := List.mem_map.mp member
  rw [tree.entries_perm.mem_iff, tree.visit_eq, List.mem_map] at listed
  obtain ⟨input, present, rfl⟩ := listed
  obtain ⟨file, found, input'⟩ := List.mem_filterMap.mp present
  have plain := tree.listing.files_nul [] nofun file found
  rw [← layoutInput_path input'] at plain
  apply zero_not_mem_textBytes
  simp only [spellInput, String.toList_append, List.mem_append, not_or]
  refine ⟨?_, OsPath.nul_not_mem_lossy plain⟩
  split <;> decide

/-- With the same inputs, the probe bytes agree spelling by spelling. -/
theorem SameInputs.probeBytes_iff (same : left.SameInputs right) :
    left.probeBytes = right.probeBytes ↔ ∀ name, left.spelledAs name = right.spelledAs name := by
  have visits : (left.listing.visit []).Perm (right.listing.visit []) := by
    rw [visit_eq, visit_eq]
    exact same.perm.map spellInput
  have perm := left.entries_perm.trans (visits.trans right.entries_perm.symm)
  have groups : left.entries.flatMap ProbeEntry.encode = right.entries.flatMap ProbeEntry.encode ↔ _ :=
    flatMap_sorted_iff perm left.entries_sorted right.entries_sorted
  have spelled {tree : ProjectTree} (name : String) :
      (tree.entries.filter fun entry => entry.1 = name).flatMap ProbeEntry.encode =
        tree.spelledAs name := by
    rw [entries_filter]
    rfl
  simp only [spelled] at groups
  exact groups

/-- The probe separates two trees exactly when no path is respelled, one
spelling lists the same bytes, and no layout file absorbs other entries. -/
theorem separated_iff : left.Separated right ↔ left.Separable right := by
  have framed : framed 0 0xff left.frames = framed 0 0xff right.frames ↔ _ :=
    framed_eq_iff left.frames_keys right.frames_keys
  rw [← probeBytes_eq_framed, ← probeBytes_eq_framed] at framed
  constructor
  · intro separated
    refine ⟨fun same => ?_, fun same => ?_, fun other => ⟨fun absorbs => ?_, fun absorbs => ?_⟩⟩
    · exact separated.mp (framed.mpr (.inl same))
    · exact same.probeBytes_iff.mp (separated.mpr same)
    · exact other (separated.mp (framed.mpr (.inr (.inl absorbs))))
    · exact other (separated.mp (framed.mpr (.inr (.inr absorbs))))
  · intro separable
    constructor
    · intro bytes
      rcases framed.mp bytes with same | absorbs | absorbs
      · exact separable.spelled same
      · by_contra other
        exact (separable.framed other).1 absorbs
      · by_contra other
        exact (separable.framed other).2 absorbs
    · intro same
      exact same.probeBytes_iff.mpr (separable.listed same)

namespace Absorbed

def dune : FileName where
  bytes := textBytes "dune"
  nonempty := by decide +kernel
  slash := by decide +kernel
  nul := by decide +kernel

def source : FileName where
  bytes := textBytes "a.v"
  nonempty := by decide +kernel
  slash := by decide +kernel
  nul := by decide +kernel

/-- One layout file, a comment that holds the entry of a source. -/
def comment : ProjectTree where
  listing := .cons dune (.file (textBytes ";" ++ [0xff] ++ textBytes "source:a.v" ++ [0])) .nil
  distinct := ⟨nofun, trivial, trivial⟩

/-- A layout file and a source. -/
def project : ProjectTree where
  listing := .cons dune (.file (textBytes ";")) (.cons source (.file []) .nil)
  distinct := ⟨by decide +kernel, trivial, nofun, trivial, trivial⟩

/-- The two trees have the same probe bytes, but only one has a source. -/
theorem not_separated : comment.probeBytes = project.probeBytes ∧
    ¬ comment.SameInputs project ∧ ¬ comment.Separated project := by
  have sorted : comment.entries = comment.listing.visit [] ∧
      project.entries = project.listing.visit [] :=
    ⟨List.mergeSort_of_pairwise (by decide +kernel), List.mergeSort_of_pairwise (by decide +kernel)⟩
  have bytes : comment.probeBytes = project.probeBytes := by
    rw [probeBytes, probeBytes, sorted.1, sorted.2]
    decide +kernel
  have present : [source.bytes] ∈ project.sources :=
    ⟨by decide +kernel, [], by decide +kernel⟩
  have absent : [source.bytes] ∉ comment.sources := by
    rintro ⟨_, content, member⟩
    have paths : [source.bytes] ∉ comment.files.map Prod.fst := by decide +kernel
    exact paths (List.mem_map_of_mem member)
  have other : ¬ comment.SameInputs project := fun same => absent (same.1 ▸ present)
  exact ⟨bytes, other, fun separated => other (separated.mp bytes)⟩

end Absorbed

end ProjectTree

end RocqMcp
