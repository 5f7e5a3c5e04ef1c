import RocqMcp.Engine.Proof
import RocqMcp.Pet.Boundaries

/-! The range of a missing identifier in a new declaration. PET reports it in the
synthetic header; the caller reads it in the statement as submitted. -/

namespace RocqMcp

open Library

/-- What the header has before the statement. -/
def headerPrefix (kind : DeclarationKind) (leaf : String) : String := s!"{kind.keyword} {leaf} : "

/-- A valid range of the header that lies in the statement part. -/
def InStatement (kind : DeclarationKind) (leaf statement : String) (range : ProofDiagnostic) : Prop :=
  (headerPrefix kind leaf).utf8ByteSize ≤ range.byteStart ∧
    validRange (declarationHeader kind leaf statement) range.byteStart range.byteEnd = true

/-- PET rejects the header for a missing reference at the range. -/
def missingReference (message : String) (range : ProofDiagnostic) : Error :=
  declarationPetError (.remote (-32008) .referenceNotFound message (some range))

section

variable (project : ProjectId) (kind : DeclarationKind) (leaf statement : String)

/-- What the caller of `declare` gets for the rejected header. -/
def Enriched (message : String) (range : ProofDiagnostic) (error : Error) : Prop :=
  ∃ world world', Engine.enrichDeclarationError (ε := Error) project (missingReference message range)
    statement kind leaf world = (.ok error, world')

/-- The returned range selects the text of PET's range in the submitted statement. -/
def PointsInto (submitted : String) (range : ProofDiagnostic) (error : Error) : Prop :=
  ∃ returned text, error.diagnostic = some returned ∧
    textSlice? submitted returned.byteStart returned.byteEnd = some text ∧
    textSlice? (declarationHeader kind leaf statement) range.byteStart range.byteEnd = some text

variable {kind leaf statement}

theorem declarationHeader_eq :
    declarationHeader kind leaf statement = headerPrefix kind leaf ++ statement := by
  simp only [declarationHeader, headerPrefix]
  rfl

/-- The ends of a range in the statement part. -/
theorem inStatement_iff {range : ProofDiagnostic} : InStatement kind leaf statement range ↔
    ∃ front middle back, statement = front ++ middle ++ back ∧
      range.byteStart = (headerPrefix kind leaf ++ front).utf8ByteSize ∧
      range.byteEnd = (headerPrefix kind leaf ++ front ++ middle).utf8ByteSize := by
  rw [InStatement, validRange_iff, declarationHeader_eq]
  constructor
  · rintro ⟨within, front, middle, back, whole, start, stop⟩
    rw [start] at within
    rw [String.append_assoc] at whole
    obtain ⟨inner, rfl, rest⟩ := append_split whole within
    exact ⟨inner, middle, back, by rw [rest, String.append_assoc], start, stop⟩
  · rintro ⟨front, middle, back, rfl, start, stop⟩
    refine ⟨by rw [start, String.utf8ByteSize_append]; omega, headerPrefix kind leaf ++ front, middle,
      back, by simp only [String.append_assoc], start, stop⟩

theorem translateDiagnostic_eq (length : Nat) (range : ProofDiagnostic) :
    translateDiagnostic length statement range =
      if length ≤ range.byteStart ∧ length ≤ range.byteEnd ∧
          validRange statement (range.byteStart - length) (range.byteEnd - length) = true then
        some { byteStart := range.byteStart - length, byteEnd := range.byteEnd - length }
      else none := by
  by_cases above : length ≤ range.byteStart ∧ length ≤ range.byteEnd
  · simp [translateDiagnostic, validRange, above]
  · have below : ¬ (length ≤ range.byteStart ∧ length ≤ range.byteEnd ∧
        validRange statement (range.byteStart - length) (range.byteEnd - length) = true) :=
      fun all => above ⟨all.1, all.2.1⟩
    rw [translateDiagnostic, if_neg (by simpa using above), if_neg below]

/-- A range in the statement part is moved to the start of the trimmed statement. -/
theorem translateDiagnostic_some (front middle back : String) {range : ProofDiagnostic}
    (start : range.byteStart = (headerPrefix kind leaf ++ front).utf8ByteSize)
    (stop : range.byteEnd = (headerPrefix kind leaf ++ front ++ middle).utf8ByteSize) :
    translateDiagnostic (headerPrefix kind leaf).utf8ByteSize (front ++ middle ++ back) range =
      some { byteStart := front.utf8ByteSize, byteEnd := (front ++ middle).utf8ByteSize } := by
  have valid := validRange_iff.mpr ⟨front, middle, back, rfl, rfl, rfl⟩
  have start' : range.byteStart - (headerPrefix kind leaf).utf8ByteSize = front.utf8ByteSize := by
    rw [start, String.utf8ByteSize_append]
    omega
  have stop' : range.byteEnd - (headerPrefix kind leaf).utf8ByteSize =
      (front ++ middle).utf8ByteSize := by
    rw [stop, String.append_assoc, String.utf8ByteSize_append]
    omega
  have above : (headerPrefix kind leaf).utf8ByteSize ≤ range.byteStart := by
    rw [start, String.utf8ByteSize_append]
    omega
  have above' : (headerPrefix kind leaf).utf8ByteSize ≤ range.byteEnd := by
    rw [stop, String.append_assoc, String.utf8ByteSize_append]
    omega
  rw [translateDiagnostic_eq, start', stop', if_pos ⟨above, above', valid⟩]

theorem translateDiagnostic_none {range : ProofDiagnostic}
    (outside : ¬ InStatement kind leaf statement range) :
    translateDiagnostic (headerPrefix kind leaf).utf8ByteSize statement range = none := by
  rw [translateDiagnostic_eq, if_neg]
  rintro ⟨above, above', valid⟩
  obtain ⟨front, middle, back, rfl, start, stop⟩ := validRange_iff.mp valid
  refine outside (inStatement_iff.mpr ⟨front, middle, back, rfl, ?_, ?_⟩)
  · rw [String.utf8ByteSize_append]
    omega
  · rw [String.append_assoc, String.utf8ByteSize_append]
    omega

/-- Off the statement part the range stays as PET gives it. -/
theorem translateDiagnostic_iff {range : ProofDiagnostic} :
    (translateDiagnostic (headerPrefix kind leaf).utf8ByteSize statement range <|> some range) =
      some range ↔ ¬ InStatement kind leaf statement range := by
  constructor
  · intro kept within
    obtain ⟨front, middle, back, rfl, start, stop⟩ := inStatement_iff.mp within
    rw [translateDiagnostic_some front middle back start stop] at kept
    have moved : front.utf8ByteSize = range.byteStart :=
      congrArg ProofDiagnostic.byteStart (Option.some.inj kept)
    rw [start, String.utf8ByteSize_append] at moved
    have ending : headerPrefix kind leaf = kind.keyword ++ " " ++ leaf ++ " : " := rfl
    have colon : " : ".utf8ByteSize = 3 := rfl
    rw [ending, String.utf8ByteSize_append, colon] at moved
    omega
  · intro outside
    rw [translateDiagnostic_none outside]
    rfl

/-! ### The submitted statement -/

/-- The first character is white space. -/
def Padded (submitted : String) : Prop := submitted.toList.head?.any isWhitespace = true

theorem padded_append {front : String} (some : front ≠ "") (back : String) :
    Padded (front ++ back) ↔ Padded front := by
  have filled : front.toList ≠ [] := fun empty => some (String.toList_injective empty)
  rw [Padded, Padded, String.toList_append, List.head?_append_of_ne_nil _ filled]

theorem padded_of_white {lead : String} (white : lead.toList.all isWhitespace = true)
    (some : lead ≠ "") : Padded lead := by
  cases characters : lead.toList with
  | nil => exact absurd (String.toList_injective characters) some
  | cons head rest =>
    rw [characters, List.all_cons, Bool.and_eq_true] at white
    simpa [Padded, characters] using white.1

/-- The statement of the header is a part of the submitted one, behind white space. -/
theorem declaredStatement_split {submitted : String}
    (declared : declaredStatement submitted = .ok statement) :
    ∃ lead tail, submitted = lead ++ statement ++ tail ∧ (lead = "" ↔ ¬ Padded submitted) ∧
      statement ≠ "" ∧ ¬ Padded statement := by
  rw [declaredStatement] at declared
  split at declared
  · cases declared
  · rename_i filled
    cases declared
    obtain ⟨lead, tail, whole, white, bare⟩ := trim_split submitted
    obtain ⟨dots, undotted⟩ := trimEndWhile_split (· = '.') (trim submitted)
    obtain ⟨inner, tail', core, white', bare'⟩ :=
      trim_split (trimEndWhile (· = '.') (trim submitted))
    generalize trim (trimEndWhile (· = '.') (trim submitted)) = statement at *
    rw [core] at undotted
    have flush : inner = "" := by
      by_contra some
      have padded := (padded_append some (statement ++ tail' ++ dots)).mpr
        (padded_of_white white' some)
      rw [← String.append_assoc, ← String.append_assoc, ← undotted, Padded, bare] at padded
      cases padded
    rw [flush, String.empty_append] at undotted
    have bareStatement : ¬ Padded statement := by simp [Padded, bare']
    refine ⟨lead, tail' ++ dots ++ tail, ?_, ?_, filled, bareStatement⟩
    · rw [undotted] at whole
      simpa only [String.append_assoc] using whole
    · constructor
      · rintro rfl
        rw [whole, undotted, String.empty_append, String.append_assoc, String.append_assoc,
          padded_append filled]
        exact bareStatement
      · intro unpadded
        by_contra some
        rw [whole, String.append_assoc, padded_append some] at unpadded
        exact unpadded (padded_of_white white some)

/-- The range of the whole statement. -/
def wholeStatement (kind : DeclarationKind) (leaf statement : String) : ProofDiagnostic where
  byteStart := (headerPrefix kind leaf).utf8ByteSize
  byteEnd := (headerPrefix kind leaf ++ statement).utf8ByteSize

theorem wholeStatement_inside (kind : DeclarationKind) (leaf statement : String) :
    InStatement kind leaf statement (wholeStatement kind leaf statement) :=
  inStatement_iff.mpr ⟨"", statement, "", by simp, by simp [wholeStatement],
    by simp [wholeStatement]⟩

/-! ### The rejection -/

theorem Engine.probeCandidates_safe (probe : String) :
    Throws (fun _ : Error => False) (Engine.probeCandidates project probe) :=
  .ite (fun _ => .pure _) fun _ => .bind (.gets _) fun _ => .bind (.attempt _) fun _ =>
    .bind (.gets _) fun _ => .bind (.when _ (.modify _)) fun _ => .pure _

theorem Engine.enrichDeclarationError_safe (kind : DeclarationKind)
    (leaf statement message : String) (range : ProofDiagnostic) :
    Throws (fun _ : Error => False) (Engine.enrichDeclarationError project
      (missingReference message range) statement kind leaf) :=
  .ite (fun _ => .pure _) fun _ => .bind (Engine.probeCandidates_safe project _) fun _ => .pure _

theorem enriched_exists (kind : DeclarationKind) (leaf statement message : String)
    (range : ProofDiagnostic) :
    ∃ error, Enriched project kind leaf statement message range error := by
  have start : World := .initial
    { tick _ := {}, sha256 := id, canonicalize root _ := root, duneBuildDir := none }
    (fun _ => none) fun _ => none
  obtain ⟨error, world', ran⟩ :=
    (Engine.enrichDeclarationError_safe project kind leaf statement message range).returns start
  exact ⟨error, start, world', ran⟩

/-- The enriched error has the moved range, or PET's own. -/
theorem enriched_diagnostic {message : String} {range : ProofDiagnostic} {error : Error}
    (enriched : Enriched project kind leaf statement message range error) :
    error.diagnostic =
      (translateDiagnostic (headerPrefix kind leaf).utf8ByteSize statement range <|> some range) := by
  obtain ⟨world, world', ran⟩ := enriched
  have triple : Triple (fun _ : World => True)
      (Engine.enrichDeclarationError (ε := Error) project (missingReference message range) statement
        kind leaf)
      (fun error _ => error.diagnostic =
        (translateDiagnostic (headerPrefix kind leaf).utf8ByteSize statement range <|> some range))
      fun _ _ => True := by
    refine .ite (fun unresolved => ?_) fun _ => .bind .trivial fun _ => .pure fun _ _ => rfl
    simp [missingReference, declarationPetError, PetError.isMissingReference] at unresolved
  have known := triple world trivial
  rw [ran] at known
  exact known

/-- The text of a range in the statement part, by the part of the statement. -/
theorem header_slice (front middle back : String) {range : ProofDiagnostic}
    (start : range.byteStart = (headerPrefix kind leaf ++ front).utf8ByteSize)
    (stop : range.byteEnd = (headerPrefix kind leaf ++ front ++ middle).utf8ByteSize) :
    textSlice? (declarationHeader kind leaf (front ++ middle ++ back)) range.byteStart
      range.byteEnd = some middle := by
  have whole : declarationHeader kind leaf (front ++ middle ++ back) =
      headerPrefix kind leaf ++ front ++ middle ++ back := by
    simp only [declarationHeader_eq, String.append_assoc]
  rw [whole, start, stop]
  exact textSlice_append _ middle back

/-- The returned ranges point into the statement, unless it begins with white space. -/
theorem pointsInto_iff {submitted : String} (declared : declaredStatement submitted = .ok statement) :
    (∀ message range error, InStatement kind leaf statement range →
      Enriched project kind leaf statement message range error →
        PointsInto kind leaf statement submitted range error) ↔ ¬ Padded submitted := by
  obtain ⟨lead, tail, rfl, unpadded, some, bare⟩ := declaredStatement_split declared
  rw [← unpadded]
  constructor
  · intro points
    by_contra led
    obtain ⟨error, enriched⟩ :=
      enriched_exists project kind leaf statement "" (wholeStatement kind leaf statement)
    obtain ⟨returned, text, given, selected, inHeader⟩ :=
      points _ _ _ (wholeStatement_inside kind leaf statement) enriched
    have start : (wholeStatement kind leaf statement).byteStart =
        (headerPrefix kind leaf ++ "").utf8ByteSize := by simp [wholeStatement]
    have stop : (wholeStatement kind leaf statement).byteEnd =
        (headerPrefix kind leaf ++ "" ++ statement).utf8ByteSize := by simp [wholeStatement]
    have all : "" ++ statement ++ "" = statement := by simp
    have slice := header_slice "" statement "" start stop
    have moved := translateDiagnostic_some "" statement "" start stop
    rw [all] at slice moved
    rw [enriched_diagnostic project enriched, moved] at given
    cases given
    rw [slice] at inHeader
    cases inHeader
    -- The returned range starts at the first character, and that is white space.
    obtain ⟨back, same⟩ := textSlice_start selected
    have padded : Padded (lead ++ statement ++ tail) := by
      by_contra bareWhole
      exact led (unpadded.mpr bareWhole)
    rw [same, padded_append some] at padded
    exact bare padded
  · rintro rfl message range error within enriched
    obtain ⟨front, middle, back, rfl, start, stop⟩ := inStatement_iff.mp within
    have moved := enriched_diagnostic project enriched
    rw [translateDiagnostic_some front middle back start stop] at moved
    refine ⟨_, middle, moved, ?_, header_slice front middle back start stop⟩
    have whole : "" ++ (front ++ middle ++ back) ++ tail = front ++ middle ++ (back ++ tail) := by
      rw [String.empty_append, String.append_assoc]
    rw [whole]
    exact textSlice_append front middle (back ++ tail)

end

/-! ### The run of `declare` -/

namespace Engine

section

variable (project : ProjectId)

theorem declarationSite_statement (file : FileId) (name submitted : String) :
    Triple (fun _ => True) (declarationSite project file name submitted)
      (fun site _ => declaredStatement submitted = .ok site.statement) fun _ _ => True := by
  refine .last fun source => .last fun library => .last fun identity => .last fun _ => ?_
  refine .bind ((Triple.ofExcept (declaredStatement submitted)).weaken (fun _ holds => holds)
    (fun _ _ holds => holds) fun _ _ _ => trivial) fun statement => .assume fun declared => ?_
  repeat refine .last fun _ => ?_
  exact .pure fun _ _ => declared

/-- A run of `declare` in which PET rejects the header for a missing reference
at the range, and the error that it ends with. -/
def Rejected (kind : DeclarationKind) (file : FileId) (name submitted : String)
    (site : DeclarationSite) (message : String) (range : ProofDiagnostic) (error : Error) : Prop :=
  ∃ world opening rejected ended,
    declarationSite project file name submitted world = (.ok site, opening) ∧
    openHeader project site.workspace site.petSource site.insertion
      (declarationHeader kind site.leaf site.statement) opening =
        (.ok (.error (missingReference message range)), rejected) ∧
    declare project kind file name submitted world = (.error error, ended)

variable {project} {kind : DeclarationKind} {file : FileId} {name submitted message : String}
  {site : DeclarationSite} {range : ProofDiagnostic} {error : Error}

/-- The caller gets the enriched error. -/
theorem Rejected.enriched
    (rejected : Rejected project kind file name submitted site message range error) :
    declaredStatement submitted = .ok site.statement ∧
      Enriched project kind site.leaf site.statement message range error := by
  obtain ⟨world, opening, after, ended, sited, opened, declared⟩ := rejected
  have stated := declarationSite_statement project file name submitted world trivial
  rw [sited] at stated
  refine ⟨stated, ?_⟩
  obtain ⟨enriched, world', ran⟩ := (enrichDeclarationError_safe project kind site.leaf
    site.statement message range).returns after
  have continued : declare project kind file name submitted world = (.error enriched, world') := by
    rw [declare_eq]
    change Act.bind _ _ world = _
    unfold Act.bind
    rw [sited]
    change Act.bind _ _ opening = _
    unfold Act.bind
    rw [opened]
    change Act.bind _ _ after = _
    unfold Act.bind
    rw [ran]
    rfl
  rw [continued] at declared
  cases declared
  exact ⟨after, _, ran⟩

variable (project kind file name) in
/-- The range of a missing identifier points into the submitted statement,
unless that begins with white space, or PET's range leaves the statement. -/
theorem declareDiagnostics_iff (declared : declaredStatement submitted = .ok statement) :
    (∀ site message range error,
      Rejected project kind file name submitted site message range error →
        site.statement = statement ∧
          Enriched project kind site.leaf statement message range error) ∧
    ∀ leaf,
      ((∀ message range error, InStatement kind leaf statement range →
        Enriched project kind leaf statement message range error →
          PointsInto kind leaf statement submitted range error) ↔ ¬ Padded submitted) ∧
      ∀ message range error, Enriched project kind leaf statement message range error →
        (error.diagnostic = some range ↔ ¬ InStatement kind leaf statement range) := by
  refine ⟨?_, fun leaf => ⟨pointsInto_iff project declared, ?_⟩⟩
  · intro site message range error rejected
    obtain ⟨stated, enriched⟩ := rejected.enriched
    rw [declared] at stated
    cases stated
    exact ⟨rfl, enriched⟩
  · intro message range error enriched
    rw [enriched_diagnostic project enriched]
    exact translateDiagnostic_iff

end

/-! ### A missing identifier behind a blank -/

namespace Padding

def root : ProjectId := ["p"]

def layout : Layout where
  rows := [{ path := ["p", "A.v"], library := { parts := ["A"] }, buildTarget := ["A.vo"] }]
  petWorkspace := { root := ["p"], loadPaths := [] }
  byLibrary := by decide
  byFile := by decide

def missing : ProofDiagnostic where
  byteStart := 10
  byteEnd := 13

/-- A PET that knows no `foo`. -/
def answer : PetCall → RpcOutcome
  | .capabilities => .returned (.capabilities requiredCapabilities)
  | .documentDeclarations _ => .returned (.declarations [])
  | .insertionPoint _ _ => .returned (.offset 0)
  | .getStateAtPos _ _ => .returned (.run () false none)
  | .goals _ => .returned .null
  | .run _ _ => .remote (-32008) "foo" (some missing)
  | .releaseStates states => .returned (.released states.length 0)
  | _ => .returned .null

def environment : Environment where
  tick _ := { rpc := answer }
  sha256 bytes := bytes
  canonicalize project file := project ++ [file]
  duneBuildDir := none

def world : World :=
  { World.initial environment (fun path => if path = ["p", "A.v"] then some [] else none)
      fun _ => none with
    projects _ := .fresh { root, layout, probe := [] } }

def file : FileId where
  text := "A.v"

def sited : Except Error DeclarationSite × World := declarationSite root file "u" " foo" world

def site : DeclarationSite where
  identity := { file, qualifiedPath := ["A", "u"] }
  leaf := "u"
  statement := "foo"
  source := ["p", "A.v"]
  workspace := layout.petWorkspace
  petSource := .ofPath ["p", "A.v"]
  insertion := 0
  document := some []
  bytes := []

def declared : Except Error OpenedProof × World := declare root .lemma' file "u" " foo" world

def opened : Except Error (Except Error PetExecution) × World :=
  openHeader root site.workspace site.petSource site.insertion
    (declarationHeader .lemma' site.leaf site.statement) sited.2

def error : Error :=
  { missingReference "foo" missing with
    diagnostic := some { byteStart := 0, byteEnd := 3 }
    resolution := some
      { identifier := some "foo", suggestedImports := [], candidates := []
        statementByteRange := some { byteStart := 0, byteEnd := 3 } } }

theorem rejected : Rejected root .lemma' file "u" " foo" site "foo" missing error := by
  have sited_ok : sited.1 = .ok site := by decide +kernel
  have opened_ok : opened.1 = .ok (.error (missingReference "foo" missing)) := by decide +kernel
  have declared_ok : declared.1.map (fun _ => ()) = .error error := by decide +kernel
  refine ⟨world, sited.2, opened.2, declared.2, Prod.ext sited_ok rfl, Prod.ext opened_ok rfl,
    Prod.ext ?_ rfl⟩
  change declared.1 = .error error
  cases result : declared.1 with
  | ok value =>
    rw [result] at declared_ok
    cases declared_ok
  | error other =>
    rw [result] at declared_ok
    cases declared_ok
    rfl

end Padding

/-- The range that the caller gets for the identifier selects ` fo`. -/
theorem padded_misses : declaredStatement " foo" = .ok "foo" ∧
    Rejected Padding.root .lemma' Padding.file "u" " foo" Padding.site "foo" Padding.missing
      Padding.error ∧
    InStatement DeclarationKind.lemma' "u" "foo" Padding.missing ∧
    ¬ PointsInto DeclarationKind.lemma' "u" "foo" " foo" Padding.missing Padding.error := by
  refine ⟨by decide +kernel, Padding.rejected, by unfold InStatement; decide +kernel, ?_⟩
  rintro ⟨returned, text, given, selected, inHeader⟩
  have submitted : textSlice? " foo" 0 3 = some " fo" := by decide +kernel
  have header : textSlice? (declarationHeader DeclarationKind.lemma' "u" "foo") 10 13 = some "foo" := by
    decide +kernel
  cases given
  rw [show textSlice? " foo" 0 3 = some text from selected] at submitted
  rw [show textSlice? (declarationHeader DeclarationKind.lemma' "u" "foo") 10 13 = some text from
    inHeader] at header
  cases submitted
  exact absurd header (by decide)

theorem declareDiagnostics_iff_flush : declaredStatement "foo." = .ok "foo" ∧
    ∀ message range error, InStatement DeclarationKind.lemma' "u" "foo" range →
      Enriched Padding.root DeclarationKind.lemma' "u" "foo" message range error →
        PointsInto DeclarationKind.lemma' "u" "foo" "foo." range error := by
  have declared : declaredStatement "foo." = .ok "foo" := by decide +kernel
  have flush : ¬ Padded "foo." := by unfold Padded; decide
  exact ⟨declared, ((declareDiagnostics_iff Padding.root .lemma' Padding.file "u" declared).2
    "u").1.mpr flush⟩

end Engine

end RocqMcp
