import Mathlib.Logic.Relation

/-! Runs of an executable transition system. A step returns `none` where the
action is not enabled, and an admissibility predicate restricts the runs that
a conditional result is about. -/

namespace RocqMcp.Library

variable {State : Type u} {Action : Type v}

/-- States reached from `initial` by enabled and admissible actions. -/
inductive Reachable (step : State → Action → Option State)
    (admissible : State → Action → Prop) (initial : State) : State → Prop where
  | initial : Reachable step admissible initial initial
  | next (earlier : Reachable step admissible initial state)
      (allowed : admissible state action)
      (moved : step state action = some state') :
      Reachable step admissible initial state'

/-- An invariant of the initial state that every admissible action preserves
holds of every reachable state. -/
theorem Reachable.invariant {step : State → Action → Option State}
    {admissible : State → Action → Prop} {initial : State}
    (Inv : State → Prop) (base : Inv initial)
    (preserved : ∀ state action state', Inv state → admissible state action →
      step state action = some state' → Inv state')
    (reached : Reachable step admissible initial state) : Inv state := by
  induction reached with
  | initial => exact base
  | next _ allowed moved ih => exact preserved _ _ _ ih allowed moved

theorem Reachable.weaken {step : State → Action → Option State}
    {strong weak : State → Action → Prop} {initial : State}
    (implies : ∀ state action, strong state action → weak state action)
    (reached : Reachable step strong initial state) :
    Reachable step weak initial state := by
  induction reached with
  | initial => exact .initial
  | next _ allowed moved ih => exact .next ih (implies _ _ allowed) moved

/-- Execute a list of actions, stopping at one that is not enabled or not
admissible. -/
def execute (step : State → Action → Option State)
    (admissible : State → Action → Prop)
    [∀ state action, Decidable (admissible state action)] :
    State → List Action → Option State
  | state, [] => some state
  | state, action :: rest =>
    if admissible state action then
      match step state action with
      | some state' => execute step admissible state' rest
      | none => none
    else none

theorem Reachable.execute {step : State → Action → Option State}
    {admissible : State → Action → Prop} {initial : State}
    [∀ state action, Decidable (admissible state action)]
    (actions : List Action) (earlier : Reachable step admissible initial state)
    (ran : execute step admissible state actions = some final) :
    Reachable step admissible initial final := by
  induction actions generalizing state with
  | nil =>
    have same : state = final := Option.some.inj ran
    exact same ▸ earlier
  | cons action rest ih =>
    simp only [Library.execute] at ran
    split at ran
    · rename_i allowed
      split at ran
      · rename_i state' moved
        exact ih (.next earlier allowed moved) ran
      · cases ran
    · cases ran

/-- The final state of a list of actions that all went through. -/
theorem Reachable.executed {step : State → Action → Option State}
    {admissible : State → Action → Prop} {initial : State}
    [∀ state action, Decidable (admissible state action)] (actions : List Action)
    (ran : (Library.execute step admissible initial actions).isSome) :
    Reachable step admissible initial ((Library.execute step admissible initial actions).get ran) :=
  .execute actions .initial (Option.some_get ran).symm

/-- The final state of a list of actions, with what was computed of it. -/
def Reachable.run {step : State → Action → Option State}
    {admissible : State → Action → Prop} {initial : State}
    [∀ state action, Decidable (admissible state action)] (actions : List Action)
    (facts : State → Bool)
    (ran : (Library.execute step admissible initial actions).any facts = true) :
    { state : State // Reachable step admissible initial state ∧ facts state = true } :=
  ⟨(Library.execute step admissible initial actions).get (Option.isSome_of_any ran),
    .executed actions _, Option.get_of_any_eq_true facts _ ran⟩

theorem Reachable.foldlM {step : State → Action → Option State} {initial : State}
    (actions : List Action) (earlier : Reachable step (fun _ _ => True) initial state)
    (ran : actions.foldlM step state = some final) :
    Reachable step (fun _ _ => True) initial final := by
  induction actions generalizing state with
  | nil =>
    obtain rfl := Option.some.inj ran
    exact earlier
  | cons action rest ih =>
    obtain ⟨middle, moved, continued⟩ := Option.bind_eq_some_iff.mp ran
    exact ih (.next earlier trivial moved) continued

/-- A forward simulation: related states have related next states. -/
def Simulates {State' : Type w} (step : State → Action → Option State)
    (step' : State' → Action → Option State') (related : State → State' → Prop) : Prop :=
  ∀ state state' action after, related state state' → step state action = some after →
    ∃ after', step' state' action = some after' ∧ related after after'

theorem Simulates.foldlM {State' : Type w} {step : State → Action → Option State}
    {step' : State' → Action → Option State'} {related : State → State' → Prop}
    (simulates : Simulates step step' related) (actions : List Action) {state after : State}
    {state' : State'} (begun : related state state') (ran : actions.foldlM step state = some after) :
    ∃ after', actions.foldlM step' state' = some after' ∧ related after after' := by
  induction actions generalizing state state' with
  | nil =>
    obtain rfl := Option.some.inj ran
    exact ⟨state', rfl, begun⟩
  | cons action rest ih =>
    obtain ⟨middle, moved, continued⟩ := Option.bind_eq_some_iff.mp ran
    obtain ⟨middle', moved', related⟩ := simulates _ _ _ _ begun moved
    obtain ⟨after', continued', ended⟩ := ih related continued
    exact ⟨after', Option.bind_eq_some_iff.mpr ⟨middle', moved', continued'⟩, ended⟩

end RocqMcp.Library
