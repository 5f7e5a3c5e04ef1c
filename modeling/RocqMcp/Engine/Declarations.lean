import RocqMcp.Dune.Project
import RocqMcp.Engine.View
import RocqMcp.Pet.Actor

/-! PET's declarations of one document, anchored in the source bytes that Rust
reads, and the lookup of declarations by identity or by symbol. -/

namespace RocqMcp

open Library

structure ResolvedDeclaration where
  identity : DeclarationIdentity
  target : Option DeclarationTarget
  proofFinished : Bool
  explicitAxiom : Bool
  deriving DecidableEq

/-- `declaration_kind` of the engine. -/
def DeclarationKind.ofPet? (kind : String) : Option DeclarationKind :=
  if kind = "Theorem" then some .theorem'
  else if kind = "Lemma" then some .lemma'
  else if kind = "Fact" then some .fact
  else if kind = "Remark" then some .remark
  else if kind = "Corollary" then some .corollary
  else if kind = "Proposition" then some .proposition
  else if kind = "Definition" then some .definition
  else none

/-- The ranges of a row fit each other and the selected source bytes. -/
def PetDeclaration.consistent (row : PetDeclaration) (length : Nat) : Bool :=
  !row.qualifiedPath.isEmpty && row.range.start < row.range.stop &&
    row.declarationRange.start = row.range.start &&
    row.range.stop ≤ row.declarationRange.stop && row.declarationRange.stop ≤ length

def PetRange.intersects (range other : PetRange) : Bool :=
  range.start < other.stop && other.start < range.stop

/-- A range can be replaced only when no other declaration intersects it. -/
def replaceableDeclarationRanges (rows : List PetDeclaration) : List Bool :=
  rows.zipIdx.map fun (row, index) =>
    !rows.zipIdx.any fun (other, otherIndex) =>
      index ≠ otherIndex && row.declarationRange.intersects other.declarationRange

/-- What all rows of one document share. -/
structure DocumentContext where
  file : FileId
  library : LogicalLibrary
  source : Path
  digest : Digest
  document : Bytes

namespace DocumentContext

variable (context : DocumentContext)

def identity (row : PetDeclaration) : DeclarationIdentity :=
  { file := context.file, qualifiedPath := row.qualifiedPath }

def target (row : PetDeclaration) (replaceable : Bool) (kind : DeclarationKind) :
    DeclarationTarget where
  info := { identity := context.identity row, kind, statement := row.statement }
  anchor :=
    { source := context.source
      digest := context.digest
      header := row.range
      declaration := row.declarationRange
      replaceable
      document := context.document }
  newHeader := none

def resolveRow (row : PetDeclaration) (replaceable : Bool) : ResolvedDeclaration where
  identity := context.identity row
  target := (DeclarationKind.ofPet? row.kind).map (context.target row replaceable)
  proofFinished := row.proofFinished
  explicitAxiom := row.kind = "Axiom"

def misplacedPath (row : PetDeclaration) : Error :=
  .new .invalidConfiguration ("declaration path '" ++ joinStrings "." row.qualifiedPath ++
    "' disagrees with Dune compilation unit '" ++ joinStrings "." context.library.parts ++ "'")

/-- The rows in order; `seen` are the identities of the earlier ones. -/
def resolveRows (seen : List DeclarationIdentity) :
    List (PetDeclaration × Bool) → Except Error (List ResolvedDeclaration)
  | [] => .ok []
  | (row, replaceable) :: rest =>
    if !context.library.covers row.qualifiedPath then .error (context.misplacedPath row)
    else if context.identity row ∈ seen then
      .error (.new .ambiguous "declaration identity is ambiguous")
    else do
      let resolved ← resolveRows (context.identity row :: seen) rest
      return context.resolveRow row replaceable :: resolved

def resolveDocument (rows : List PetDeclaration) (length : Nat) :
    Except Error (List ResolvedDeclaration) :=
  if rows.all fun row => row.consistent length then
    context.resolveRows [] (rows.zip (replaceableDeclarationRanges rows))
  else
    .error (.new .invalidConfiguration
      "declaration metadata is inconsistent with the selected source bytes")

/-- Accepted rows are resolved one by one, and no identity occurs twice. -/
theorem resolveRows_ok {rows : List (PetDeclaration × Bool)} {seen : List DeclarationIdentity}
    {resolved : List ResolvedDeclaration} (accepted : context.resolveRows seen rows = .ok resolved) :
    resolved = rows.map (fun row => context.resolveRow row.1 row.2) ∧
      (resolved.map ResolvedDeclaration.identity).Nodup ∧
        ∀ row ∈ resolved, row.identity ∉ seen := by
  induction rows generalizing seen resolved with
  | nil =>
    cases accepted
    simp
  | cons head rest ih =>
    unfold resolveRows at accepted
    split at accepted
    · cases accepted
    · split at accepted
      · cases accepted
      · rename_i fresh
        cases ran : context.resolveRows (context.identity head.1 :: seen) rest with
        | error error => simp [ran, bind, Except.bind] at accepted
        | ok others =>
          simp only [ran, bind, Except.bind, pure, Except.pure] at accepted
          cases accepted
          obtain ⟨rfl, distinct, unseen⟩ := ih ran
          refine ⟨rfl, ?_, ?_⟩
          · rw [List.map_cons, List.nodup_cons]
            refine ⟨?_, distinct⟩
            intro member
            obtain ⟨row, found, same⟩ := List.mem_map.mp member
            exact unseen row found (by rw [same]; exact List.mem_cons_self)
          · intro row member
            rcases List.mem_cons.mp member with rfl | later
            · exact fresh
            · exact fun known => unseen row later (List.mem_cons_of_mem _ known)

theorem resolveDocument_ok {rows : List PetDeclaration} {length : Nat}
    {resolved : List ResolvedDeclaration}
    (accepted : context.resolveDocument rows length = .ok resolved) :
    (∀ row ∈ resolved, ∃ read replaceable, row = context.resolveRow read replaceable) ∧
      (resolved.map ResolvedDeclaration.identity).Nodup := by
  unfold resolveDocument at accepted
  split at accepted
  · obtain ⟨rfl, distinct, _⟩ := context.resolveRows_ok accepted
    refine ⟨fun row member => ?_, distinct⟩
    obtain ⟨read, _, rfl⟩ := List.mem_map.mp member
    exact ⟨read.1, read.2, rfl⟩
  · cases accepted

end DocumentContext

namespace Engine

section

variable (project : ProjectId)

/-- The declarations of one document: PET opens the build-context copy, and
Rust reads the bytes to which the ranges are anchored afterwards. -/
def declarations (file : FileId) : EngineM (List ResolvedDeclaration) := do
  let source ← DuneProject.source project file
  let workspace ← DuneProject.petWorkspace project source
  let petSource ← DuneProject.petSource project source
  let rows ← Act.mapError declarationPetError
    (PetActor.documentDeclarations project workspace petSource)
  let document ← Act.gets fun world => world.document petSource
  let bytes ← readOr source "declaration source is unavailable"
  noteWhen (document ≠ some bytes) (.staleDocument source)
  let digest ← Act.gets fun world => world.digest bytes
  let library ← DuneProject.library project source
  let context : DocumentContext :=
    { file, library, source, digest, document := document.getD [] }
  Act.ofExcept (context.resolveDocument rows bytes.length)

/-- The rows are those of a document that has been accepted. -/
theorem declarations_resolved {start : World → Prop} (file : FileId) :
    Triple start (declarations project file) (fun resolved _ =>
      ∃ (context : DocumentContext) (rows : List PetDeclaration) (length : Nat),
        context.file = file ∧ context.resolveDocument rows length = .ok resolved)
      fun _ _ => True := by
  unfold declarations
  repeat refine .last fun _ => ?_
  refine (Triple.ofExcept _).weaken (fun _ holds => holds) ?_ fun _ _ _ => trivial
  exact fun resolved _ accepted => ⟨_, _, _, rfl, accepted.2⟩

def resolve (identity : DeclarationIdentity) : EngineM ResolvedDeclaration := do
  let rows ← declarations project identity.file
  match rows.find? fun candidate => candidate.identity = identity with
  | none =>
    .throw (.new .notFound "declaration is not present in the selected source context")
  | some resolved =>
    PetActor.recordInEpoch project (.resolved identity resolved.proofFinished)
    return resolved

/-- The supported proof declarations of one document. -/
def listDecls (file : FileId) : EngineM (List DeclarationInfo) := do
  let rows ← declarations project file
  return rows.filterMap fun declaration => declaration.target.map DeclarationTarget.info

end

end Engine

/-- Dotted queries match suffixes only, unless they match the whole name. -/
def symbolMatchKind (qualifiedName leaf symbol : String) : Option String :=
  let dotted := '.' ∈ symbol.toList
  if qualifiedName = symbol then some "exact"
  else if dotted && ('.' :: symbol.toList).isSuffixOf qualifiedName.toList then some "suffix"
  else if !dotted && leaf = symbol then some "leaf"
  else none

def matchRank (kind : String) : Nat :=
  if kind = "exact" then 0 else if kind = "suffix" then 1 else if kind = "leaf" then 2 else 3

/-- The order of the reported locations: by match, then name, then file. -/
def SymbolLocation.precedes (left right : SymbolLocation) : Bool :=
  if matchRank left.matchKind ≠ matchRank right.matchKind then
    matchRank left.matchKind < matchRank right.matchKind
  else if left.qualifiedName ≠ right.qualifiedName then
    left.qualifiedName < right.qualifiedName
  else left.identity.file.text ≤ right.identity.file.text

def SymbolLocation.of? (library : LogicalLibrary) (symbol : String)
    (declaration : DeclarationInfo) : Option SymbolLocation :=
  let identity := declaration.identity
  let qualifiedName := identity.qualifiedName
  let leaf := identity.qualifiedPath.getLastD ""
  (symbolMatchKind qualifiedName leaf symbol).map fun matchKind =>
    { identity
      qualifiedName
      kind := declaration.kind
      statement := declaration.statement
      requireImport := "Require Import " ++ joinStrings "." library.parts ++ "."
      matchKind }

namespace Engine

section

variable (project : ProjectId) (symbol : String)

/-- The cheap verdict on each file: its compiler index or its text may mention
the symbol. PET rechecks every candidate, so each verdict is admitted. -/
def filterCandidates : List FileId → EngineM (List FileId)
  | [] => return []
  | file :: rest => do
    let cancelled ← requestCancelled
    Act.ensure (!cancelled) (.new .requestCancelled "symbol lookup cancelled")
    let _source ← DuneProject.source project file
    let tick ← tick
    Act.ensure (!tick.fault)
      (.new .declarationChanged "declaration source is unavailable")
    let candidates ← filterCandidates rest
    return if tick.candidate then file :: candidates else candidates

def rejectEmptySymbol : EngineM Unit :=
  .ensure (trim symbol ≠ "") (.new .invalidRequest "symbol must not be empty")

/-- A file candidate set for a symbol. An exact qualified name has one
Dune-owned compilation unit. -/
def locateSymbolCandidates : EngineM (List FileId) := do
  rejectEmptySymbol symbol
  let files ← listFiles project
  match ← DuneProject.sourceForConstant project (trim symbol) with
  | some source =>
    if '.' ∈ (trim symbol).toList then
      let file ← Act.ofExcept (fileIdOf project source)
      return [file]
    else filterCandidates project files
  | none => filterCandidates project files

variable (limit : Nat)

/-- Append the matches of one document until the limit is reached. -/
def appendMatches (library : LogicalLibrary) :
    List DeclarationInfo → List SymbolLocation → List SymbolLocation
  | [], found => found
  | declaration :: rest, found =>
    match SymbolLocation.of? library (trim symbol) declaration with
    | none => appendMatches library rest found
    | some location =>
      if limit ≤ found.length + 1 then found ++ [location]
      else appendMatches library rest (found ++ [location])

/-- The candidate documents in order, until the limit is reached. -/
def resolveFiles (found : List SymbolLocation) : List FileId → EngineM (List SymbolLocation)
  | [] => return found
  | file :: rest => do
    let cancelled ← requestCancelled
    Act.ensure (!cancelled) (.new .requestCancelled "symbol lookup cancelled")
    let source ← DuneProject.source project file
    let library ← DuneProject.library project source
    let declarations ← listDecls project file
    let found := appendMatches symbol limit library declarations found
    if limit ≤ found.length then return found else resolveFiles found rest

/-- Ask PET for canonical declarations in the candidate documents only. -/
def resolveSymbolCandidates (files : List FileId) : EngineM (List SymbolLocation) := do
  rejectEmptySymbol symbol
  let limit := min (max limit 1) 101
  let found ← resolveFiles project symbol limit [] files
  return (found.mergeSort SymbolLocation.precedes).take limit

def locateSymbols : EngineM (List SymbolLocation) := do
  let files ← locateSymbolCandidates project symbol
  resolveSymbolCandidates project symbol limit files

end

end Engine

end RocqMcp
