import RocqMcp.Engine.Proof

/-! The trust audit: every dependency that PET reports is an explicit axiom of
the project. -/

namespace RocqMcp

open Library

/-- The unsafe switches of a theory, as the audit names them. -/
def PetTheoryAssumptions.unsafeFeatures (theory : PetTheoryAssumptions) : List String :=
  (if theory.rewriteRules then ["rewrite rules"] else []) ++
    (if theory.impredicativeSet then ["impredicative Set"] else []) ++
    (if theory.typeInType then ["type-in-type"] else [])

/-- What is wrong with a dependency that is not an ordinary declaration. -/
def PetAssumptionKind.concern : PetAssumptionKind → Option String
  | .axiomKind => none
  | .positive => some "unchecked positivity"
  | .guarded => some "unchecked guardedness"
  | .typeInType => some "unsafe universe hierarchy"
  | .uip => some "definitional UIP"
  | .sectionVariable => some "section variable"
  | .opaqueKind => some "opaque constant"
  | .transparent => some "transparent constant"

def PetAssumption.canonical (assumption : PetAssumption) : String :=
  joinStrings "." assumption.qualifiedPath

namespace Engine

section

variable (project : ProjectId)

/-- The unit that the layout attributes to an axiom declares it explicitly. -/
def auditAxiom (canonical : String) : EngineM Unit := do
  match ← DuneProject.sourceForConstant project canonical with
  | none =>
    .throw (.new .axiomDependencyOutOfScope
      ("axiom dependency is outside the Dune project: " ++ canonical))
  | some source =>
    let file ← Act.ofExcept (fileIdOf project source)
    let rows ← declarations project file
    match rows.find? fun candidate => candidate.identity.qualifiedName = canonical with
    | none =>
      .throw (.new .axiomDependencyOutOfScope
        ("could not classify axiom dependency: " ++ canonical))
    | some declaration =>
      Act.ensure declaration.explicitAxiom
        (.new .unfinishedDependency
          ("proof depends on unfinished declaration '" ++ canonical ++ "'"))

def auditAssumption (assumption : PetAssumption) : EngineM Unit :=
  match assumption.kind.concern with
  | some concern =>
    .throw (.new .axiomDependencyOutOfScope
      ("proof relies on " ++ concern ++ " '" ++ assumption.canonical ++ "'"))
  | none => auditAxiom project assumption.canonical

def auditReport (report : PetAssumptionReport) : EngineM Unit := do
  Act.ensure report.theory.unsafeFeatures.isEmpty
    (.new .axiomDependencyOutOfScope ("proof relies on unsafe Rocq theory features: " ++
      joinStrings ", " report.theory.unsafeFeatures))
  Act.each report.assumptions (auditAssumption project)

def auditState (target : DeclarationTarget) (state : PetStateId) : EngineM Unit := do
  let report ← Act.mapError queryPetError
    (PetActor.assumptions project state target.info.identity.qualifiedPath)
  auditReport project report

/-- Audit a target at the end of its document. -/
def auditTarget (target : DeclarationTarget) : EngineM Unit := do
  let workspace ← DuneProject.petWorkspace project target.anchor.source
  let bytes ← readOr target.anchor.source "audit source is unavailable"
  let petSource ← DuneProject.petSource project target.anchor.source
  let context ← Act.mapError queryPetError
    (PetActor.stateAt project workspace petSource bytes.length)
  let result ← Act.attempt (auditState project target context.state)
  let released ← Act.attempt (releaseState project queryPetError context.state)
  PetActor.recordInEpoch project
    (.audited target.info.identity (result.isOk && released.isOk))
  Act.ofExcept result
  Act.ofExcept released

end

end Engine

end RocqMcp
