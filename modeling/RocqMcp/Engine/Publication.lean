import RocqMcp.Engine.Audit
import RocqMcp.Writeback

/-! The two ways to a completed proof: publishing the fragments of a proof, and
validating a declaration that PET reports as finished. -/

namespace RocqMcp.Engine

open Library

section

variable (project : ProjectId)

/-- The target resolves to a finished proof declaration. -/
def resolveFinished (target : DeclarationTarget) (unfinished gone : String) :
    EngineM DeclarationTarget := do
  let resolved ← resolve project target.info.identity
  Act.ensure resolved.proofFinished (.new .invalidDeclaration unfinished)
  match resolved.target with
  | none => .throw (.new .invalidDeclaration gone)
  | some current => return current

/-- The validation of `publish_with_progress`. -/
def validateWritten (target : DeclarationTarget) : EngineM ProofState := do
  let current ← resolveFinished project target
    "written declaration is not a completed proof" "written declaration disappeared"
  Act.ensure (current.info.identity = target.info.identity && current.info.kind = target.info.kind)
    (.new .declarationChanged "written declaration identity changed")
  auditTarget project current
  return completedState current.info

/-- `publish_with_progress`: `beginEpoch` makes the caller forget its states. -/
def publish (target : DeclarationTarget) (fragments : List String)
    (beginEpoch : EngineM Unit) : EngineM ProofState := do
  validateTarget project target
  let publication ← Writeback.prepare project target fragments
  beginEpoch
  Writeback.publish project publication (validateWritten project target)

/-- The validation of `validate_published_with_progress`. -/
def validateBuilt (target : DeclarationTarget) : EngineM ProofState := do
  validateTarget project target
  let current ← resolveFinished project target
    "built declaration is not a completed proof" "built declaration disappeared"
  auditTarget project current
  return completedState current.info

/-- `validate_published_with_progress`: build, refresh, reopen and audit a
PET-finished target. The caller has forgotten all states of the project. -/
def validatePublished (target : DeclarationTarget) : EngineM ProofState := do
  noteOnError (.forgottenUnrefreshed project) (validateTarget project target)
  Writeback.buildAndRefresh project target.anchor.source (validateBuilt project target)

end

end RocqMcp.Engine
