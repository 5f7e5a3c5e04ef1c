import RocqMcp.Types

/-! The Dune-reported project view: which source files are selected, and the
logical library and build target of each. -/

namespace RocqMcp

/-- One Dune-selected compilation unit. -/
structure LayoutRow where
  path : Path
  library : LogicalLibrary
  buildTarget : Path
  deriving DecidableEq

/-- Bidirectional, unambiguous mapping for one Dune-reported project view.
`Layout::load` rejects a view in which two units share a library or a file. -/
structure Layout where
  rows : List LayoutRow
  petWorkspace : PetWorkspace
  byLibrary : (rows.map LayoutRow.library).Nodup
  byFile : (rows.map LayoutRow.path).Nodup
  deriving DecidableEq

def Layout.empty : Layout where
  rows := []
  petWorkspace := { root := [], loadPaths := [] }
  byLibrary := List.nodup_nil
  byFile := List.nodup_nil

namespace Layout

def row? (layout : Layout) (file : Path) : Option LayoutRow :=
  layout.rows.find? fun row => row.path = file

def library (layout : Layout) (file : Path) : Except Error LogicalLibrary :=
  match layout.row? file with
  | some row => .ok row.library
  | none => .error (.new .invalidConfiguration "source is outside the project layout")

def files (layout : Layout) : List Path := layout.rows.map LayoutRow.path

def containsFile (layout : Layout) (file : Path) : Bool := (layout.row? file).isSome

def petWorkspaceOf (layout : Layout) (file : Path) : Except Error PetWorkspace :=
  if layout.containsFile file then .ok layout.petWorkspace
  else .error (.new .invalidConfiguration "source is outside Dune project")

def buildTarget (layout : Layout) (file : Path) : Except Error Path :=
  match layout.row? file with
  | some row => .ok row.buildTarget
  | none => .error (.new .invalidConfiguration "Dune source has no reported build target")

end Layout

/-- The library is a proper prefix of the dotted name. -/
def LogicalLibrary.covers (library : LogicalLibrary) (parts : List String) : Bool :=
  library.parts.length < parts.length && library.parts.isPrefixOf parts

/-- `Iterator::max_by_key`: the last element with the greatest key. -/
def maxByKey (key : α → Nat) : List α → Option α
  | [] => none
  | head :: rest =>
    match maxByKey key rest with
    | none => some head
    | some best => if key best < key head then some head else some best

/-- The row of the unit that can define a canonical Rocq constant: the longest
logical-library prefix wins. -/
def Layout.rowForConstant (layout : Layout) (constant : String) : Option LayoutRow :=
  maxByKey (fun row => row.library.parts.length)
    (layout.rows.filter fun row => row.library.covers (splitText '.' constant))

def Layout.sourceForConstant (layout : Layout) (constant : String) : Option Path :=
  (layout.rowForConstant constant).map LayoutRow.path

end RocqMcp
