import Mathlib.Logic.Relation

/-! Stateful actions that may fail, with two judgements about them: a triple
relates the states before and after to the result, and `Stays` is a relation
between the two states that holds whatever the result is. -/

namespace RocqMcp.Library

variable {σ ε ε' α β γ : Type}

/-- A total action. A failure keeps the state reached when it happened. -/
def Act (σ ε α : Type) := σ → Except ε α × σ

namespace Act

protected def pure (value : α) : Act σ ε α := fun state => (.ok value, state)

protected def bind (action : Act σ ε α) (next : α → Act σ ε β) : Act σ ε β := fun state =>
  match action state with
  | (.ok value, state') => next value state'
  | (.error error, state') => (.error error, state')

instance : Monad (Act σ ε) where
  pure := Act.pure
  bind := Act.bind

def throw (error : ε) : Act σ ε α := fun state => (.error error, state)

def get : Act σ ε σ := fun state => (.ok state, state)

def gets (read : σ → α) : Act σ ε α := fun state => (.ok (read state), state)

def modify (update : σ → σ) : Act σ ε Unit := fun state => (.ok (), update state)

/-- Run an action and return its result, an error included. -/
def attempt (action : Act σ ε α) : Act σ ε' (Except ε α) := fun state =>
  let (result, state') := action state
  (.ok result, state')

def ofExcept (result : Except ε α) : Act σ ε α := fun state => (result, state)

def mapError (translate : ε → ε') (action : Act σ ε α) : Act σ ε' α := fun state =>
  match action state with
  | (.ok value, state') => (.ok value, state')
  | (.error error, state') => (.error (translate error), state')

/-- Fail unless the condition holds. -/
def ensure (condition : Bool) (error : ε) : Act σ ε Unit :=
  if condition then Act.pure () else Act.throw error

def when (condition : Bool) (action : Act σ ε Unit) : Act σ ε Unit :=
  if condition then action else Act.pure ()

/-- The elements of a list, one after the other. -/
def each (list : List α) (body : α → Act σ ε Unit) : Act σ ε Unit :=
  match list with
  | [] => Act.pure ()
  | head :: rest => Act.bind (body head) fun _ => each rest body

end Act

theorem Act.bind_assoc (action : Act σ ε α) (next : α → Act σ ε β) (last : β → Act σ ε γ) :
    action >>= next >>= last = action >>= fun value => next value >>= last := by
  funext state
  change Act.bind (Act.bind action next) last state =
    Act.bind action (fun value => Act.bind (next value) last) state
  unfold Act.bind
  rcases action state with ⟨value | error, state'⟩ <;> rfl

/-- A sequence returns a value where both of its parts do. -/
theorem Act.bind_ok {action : Act σ ε α} {next : α → Act σ ε β} {value : β} {state state' : σ}
    (ran : (action >>= next) state = (.ok value, state')) :
    ∃ middle between, action state = (.ok middle, between) ∧
      next middle between = (.ok value, state') := by
  change Act.bind action next state = _ at ran
  unfold Act.bind at ran
  rcases first : action state with ⟨middle | error, between⟩
  · rw [first] at ran
    cases ran
  · rw [first] at ran
    exact ⟨_, _, rfl, ran⟩

theorem Act.ofExcept_ok {result : Except ε α} {value : α} {state state' : σ}
    (ran : Act.ofExcept result state = (.ok value, state')) : result = .ok value ∧ state = state' :=
  ⟨congrArg Prod.fst ran, congrArg Prod.snd ran⟩

theorem Act.ensure_ok {condition : Bool} {error : ε} {value : Unit} {state state' : σ}
    (ran : Act.ensure condition error state = (.ok value, state')) :
    condition = true ∧ state = state' := by
  unfold Act.ensure at ran
  split at ran
  · rename_i holds
    exact ⟨holds, congrArg Prod.snd ran⟩
  · cases ran

/-- The same for results without a state. -/
theorem bind_ok {result : Except ε α} {next : α → Except ε β} {value : β}
    (ran : (result >>= next) = .ok value) :
    ∃ middle, result = .ok middle ∧ next middle = .ok value := by
  cases result with
  | error error => cases ran
  | ok middle => exact ⟨middle, rfl, ran⟩

/-- `Triple before action after failed`: started where `before` holds, the
action ends where `after` holds of its value, or `failed` of its error. -/
def Triple (before : σ → Prop) (action : Act σ ε α) (after : α → σ → Prop)
    (failed : ε → σ → Prop) : Prop :=
  ∀ state, before state →
    match action state with
    | (.ok value, state') => after value state'
    | (.error error, state') => failed error state'

namespace Triple

variable {before : σ → Prop} {after : α → σ → Prop} {failed : ε → σ → Prop}

theorem pure {value : α} (holds : ∀ state, before state → after value state) :
    Triple before (Pure.pure value : Act σ ε α) after failed :=
  holds

theorem throw {error : ε} (holds : ∀ state, before state → failed error state) :
    Triple before (Act.throw error : Act σ ε α) after failed :=
  holds

theorem bind {action : Act σ ε α} {next : α → Act σ ε β} {final : β → σ → Prop}
    (first : Triple before action after failed)
    (second : ∀ value, Triple (after value) (next value) final failed) :
    Triple before (action >>= next) final failed := by
  intro state holds
  have middle := first state holds
  change match (Act.bind action next) state with
    | (.ok value, state') => final value state'
    | (.error error, state') => failed error state'
  unfold Act.bind
  rcases ran : action state with ⟨result, state'⟩
  rw [ran] at middle
  cases result with
  | ok value => exact second value state' middle
  | error error => exact middle

/-- `bind`, by the assertion in the middle. -/
theorem through {action : Act σ ε α} {next : α → Act σ ε β} {final : β → σ → Prop}
    (after : α → σ → Prop) (first : Triple before action after failed)
    (second : ∀ value, Triple (after value) (next value) final failed) :
    Triple before (action >>= next) final failed :=
  .bind first second

theorem weaken {action : Act σ ε α} {before' : σ → Prop} {after' : α → σ → Prop}
    {failed' : ε → σ → Prop} (triple : Triple before action after failed)
    (stronger : ∀ state, before' state → before state)
    (weaker : ∀ value state, after value state → after' value state)
    (weakerError : ∀ error state, failed error state → failed' error state) :
    Triple before' action after' failed' := by
  intro state holds
  have ended := triple state (stronger state holds)
  rcases ran : action state with ⟨result, state'⟩
  rw [ran] at ended
  cases result with
  | ok value => exact weaker value state' ended
  | error error => exact weakerError error state' ended

theorem trivial {action : Act σ ε α} :
    Triple before action (fun _ _ => True) fun _ _ => True := by
  intro state _
  rcases action state with ⟨value | error, state'⟩ <;> exact True.intro

/-- A statement has no part in what the rest of the program settles in any state. -/
theorem last {action : Act σ ε α} {next : α → Act σ ε β} {final : β → σ → Prop}
    (rest : ∀ value, Triple (fun _ => True) (next value) final fun _ _ => True) :
    Triple before (action >>= next) final fun _ _ => True :=
  .bind .trivial rest

/-- Two triples about the same action. -/
theorem both {action : Act σ ε α} {before' : σ → Prop} {after' : α → σ → Prop}
    {failed' : ε → σ → Prop} (left : Triple before action after failed)
    (right : Triple before' action after' failed') :
    Triple (fun state => before state ∧ before' state) action
      (fun value state => after value state ∧ after' value state)
      fun error state => failed error state ∧ failed' error state := by
  intro state holds
  have first := left state holds.1
  have second := right state holds.2
  rcases ran : action state with ⟨result, state'⟩
  rw [ran] at first second
  cases result with
  | ok value => exact ⟨first, second⟩
  | error error => exact ⟨first, second⟩

/-- A triple, and what holds of the result wherever the action starts. -/
theorem also {action : Act σ ε α} {after' : α → σ → Prop}
    (triple : Triple before action after failed)
    (always : Triple (fun _ => True) action after' fun _ _ => True) :
    Triple before action (fun value state => after value state ∧ after' value state) failed :=
  (both triple always).weaken (fun _ holds => ⟨holds, True.intro⟩) (fun _ _ holds => holds)
    fun _ _ holds => holds.1

/-- The run itself. -/
theorem ran {action : Act σ ε α} :
    Triple before action (fun value state' => ∃ state, action state = (.ok value, state'))
      fun error state' => ∃ state, action state = (.error error, state') := by
  intro state _
  rcases same : action state with ⟨value | error, state'⟩ <;> exact ⟨state, same⟩

/-- Leave out a part of what is known after an error. -/
theorem forget {action : Act σ ε α} {also : ε → σ → Prop}
    (triple : Triple before action after fun error state => failed error state ∧ also error state) :
    Triple before action after failed :=
  triple.weaken (fun _ holds => holds) (fun _ _ holds => holds) fun _ _ holds => holds.1

/-- Leave out what is known after an error. -/
theorem lax {action : Act σ ε α} (triple : Triple before action after failed) :
    Triple before action after fun _ _ => True :=
  triple.weaken (fun _ holds => holds) (fun _ _ holds => holds) fun _ _ _ => True.intro

/-- What a triple says of a run that succeeds. -/
theorem of_ok {action : Act σ ε α} {value : α} (triple : Triple before action after failed)
    (holds : before state) (ran : (action state).1 = .ok value) : after value (action state).2 := by
  have ended := triple state holds
  rcases both : action state with ⟨result, state'⟩
  rw [both] at ended ran
  cases ran
  exact ended

/-- What a triple says of a run that fails. -/
theorem of_error {action : Act σ ε α} {error : ε} (triple : Triple before action after failed)
    (holds : before state) (ran : (action state).1 = .error error) :
    failed error (action state).2 := by
  have ended := triple state holds
  rcases both : action state with ⟨result, state'⟩
  rw [both] at ended ran
  cases ran
  exact ended

/-- What a triple says of the state that a run ends in, whatever its result. -/
theorem ends {action : Act σ ε α} {ended : σ → Prop} (triple : Triple before action after failed)
    (holds : before state) (ok : ∀ value state, after value state → ended state)
    (error : ∀ error state, failed error state → ended state) : ended (action state).2 := by
  cases ran : (action state).1 with
  | ok value => exact ok value _ (triple.of_ok holds ran)
  | error thrown => exact error thrown _ (triple.of_error holds ran)

/-- Start from one state at a time. -/
theorem each_state {action : Act σ ε α}
    (triples : ∀ state, before state → Triple (· = state) action after failed) :
    Triple before action after failed :=
  fun state holds => triples state holds state rfl

theorem cases {before' : σ → Prop} {action : Act σ ε α} (left : Triple before action after failed)
    (right : Triple before' action after failed) :
    Triple (fun state => before state ∨ before' state) action after failed :=
  fun state holds => holds.elim (left state) (right state)

/-- A fact about the value that does not depend on the state. -/
theorem assume {fact : Prop} {action : Act σ ε α}
    (triple : fact → Triple before action after failed) :
    Triple (fun state => before state ∧ fact) action after failed :=
  fun state holds => triple holds.2 state holds.1

theorem given {fact : Prop} {action : Act σ ε α}
    (triple : fact → Triple (fun _ => True) action after failed) :
    Triple (fun _ => fact) action after failed :=
  fun state holds => triple holds state True.intro

theorem ite {condition : Prop} [Decidable condition] {yes no : Act σ ε α}
    (positive : condition → Triple before yes after failed)
    (negative : ¬ condition → Triple before no after failed) :
    Triple before (if condition then yes else no) after failed := by
  split
  · exact positive ‹_›
  · exact negative ‹_›

theorem gets (read : σ → α) :
    Triple before (Act.gets read : Act σ ε α)
      (fun value state => before state ∧ value = read state) failed :=
  fun _ holds => ⟨holds, rfl⟩

theorem modify {update : σ → σ} {final : Unit → σ → Prop} :
    Triple (fun state => final () (update state)) (Act.modify update : Act σ ε Unit) final failed :=
  fun _ holds => holds

/-- `modify`, from one state. -/
theorem update (update : σ → σ) (state : σ) :
    Triple (· = state) (Act.modify update : Act σ ε Unit) (fun _ => (· = update state)) failed := by
  rintro _ rfl
  rfl

theorem attempt {action : Act σ ε α} {anyError : ε' → σ → Prop}
    (triple : Triple before action after failed) :
    Triple before (Act.attempt action : Act σ ε' (Except ε α))
      (fun result state =>
        match result with
        | .ok value => after value state
        | .error error => failed error state) anyError := by
  intro state holds
  have ended := triple state holds
  unfold Act.attempt
  rcases ran : action state with ⟨result, state'⟩
  rw [ran] at ended
  cases result with
  | ok value => exact ended
  | error error => exact ended

/-- `attempt` does not fail, and a fact that does not depend on the state stays one. -/
theorem attempt_fact {fact : Prop} {action : Act σ ε α} {anyError : ε' → σ → Prop} :
    Triple (fun _ => fact) (Act.attempt action : Act σ ε' (Except ε α)) (fun _ _ => fact)
      anyError :=
  fun _ holds => holds

theorem mapError {action : Act σ ε α} {translate : ε → ε'} {failed' : ε' → σ → Prop}
    (triple : Triple before action after fun error => failed' (translate error)) :
    Triple before (Act.mapError translate action) after failed' := by
  intro state holds
  have ended := triple state holds
  unfold Act.mapError
  rcases ran : action state with ⟨result, state'⟩
  rw [ran] at ended
  cases result with
  | ok value => exact ended
  | error error => exact ended

theorem ofExcept (result : Except ε α) :
    Triple before (Act.ofExcept result : Act σ ε α)
      (fun value state => before state ∧ result = .ok value)
      (fun error state => before state ∧ result = .error error) := by
  intro state holds
  cases result with
  | ok value => exact ⟨holds, rfl⟩
  | error error => exact ⟨holds, rfl⟩

theorem ensure {condition : Bool} {error : ε} {final : Unit → σ → Prop}
    (passed : condition = true → ∀ state, before state → final () state)
    (rejected : condition = false → ∀ state, before state → failed error state) :
    Triple before (Act.ensure condition error) final failed := by
  intro state holds
  cases condition with
  | true => exact passed rfl state holds
  | false => exact rejected rfl state holds

/-- An assertion that every iteration keeps holds after the loop. -/
theorem each {body : α → Act σ ε Unit} {invariant : σ → Prop} (list : List α)
    (kept : ∀ value ∈ list, Triple invariant (body value) (fun _ => invariant) failed) :
    Triple invariant (Act.each list body) (fun _ => invariant) failed := by
  induction list with
  | nil => exact fun _ holds => holds
  | cons head rest ih =>
    apply Triple.bind (kept head List.mem_cons_self)
    intro _
    exact ih fun value member => kept value (List.mem_cons_of_mem _ member)

end Triple

/-- Every error that the action can end with is an allowed one. -/
def Throws (allowed : ε → Prop) (action : Act σ ε α) : Prop :=
  ∀ state error, (action state).1 = .error error → allowed error

namespace Throws

variable {allowed : ε → Prop}

theorem pure (value : α) : Throws allowed (Pure.pure value : Act σ ε α) := nofun

theorem gets (read : σ → α) : Throws allowed (Act.gets read : Act σ ε α) := nofun

theorem modify (update : σ → σ) : Throws allowed (Act.modify update : Act σ ε Unit) := nofun

theorem attempt (action : Act σ ε α) :
    Throws allowed' (Act.attempt action : Act σ ε' (Except ε α)) := nofun

theorem throw {error : ε} (holds : allowed error) : Throws allowed (Act.throw error : Act σ ε α) := by
  rintro state _ ⟨⟩
  exact holds

theorem ofExcept {result : Except ε α} (holds : ∀ error, result = .error error → allowed error) :
    Throws allowed (Act.ofExcept result : Act σ ε α) :=
  fun _ => holds

theorem ensure {condition : Bool} {error : ε} (holds : allowed error) :
    Throws allowed (Act.ensure condition error : Act σ ε Unit) := by
  cases condition with
  | true => exact .pure ()
  | false => exact .throw holds

theorem when {action : Act σ ε Unit} (condition : Bool) (throws : Throws allowed action) :
    Throws allowed (Act.when condition action) := by
  cases condition with
  | true => exact throws
  | false => exact .pure ()

theorem ite {condition : Prop} [Decidable condition] {yes no : Act σ ε α}
    (positive : condition → Throws allowed yes) (negative : ¬ condition → Throws allowed no) :
    Throws allowed (if condition then yes else no) := by
  split
  · exact positive ‹_›
  · exact negative ‹_›

theorem bind {action : Act σ ε α} {next : α → Act σ ε β} (first : Throws allowed action)
    (second : ∀ value, Throws allowed (next value)) : Throws allowed (action >>= next) := by
  intro state error threw
  change (Act.bind action next state).1 = .error error at threw
  unfold Act.bind at threw
  rcases ran : action state with ⟨result, state'⟩
  rw [ran] at threw
  cases result with
  | ok value => exact second value state' error threw
  | error earlier =>
    cases threw
    exact first state _ (by rw [ran])

/-- What follows a check may rely on it. -/
theorem guard {condition : Bool} {error : ε} {next : Unit → Act σ ε β} (holds : allowed error)
    (second : condition = true → Throws allowed (next ())) :
    Throws allowed (Act.ensure condition error >>= next) := by
  cases condition with
  | true => exact second rfl
  | false =>
    rintro state _ ⟨⟩
    exact holds

/-- What handles an error may rely on its being an allowed one. -/
theorem recover {action : Act σ ε α} {next : Except ε α → Act σ ε' β} {allowed' : ε' → Prop}
    (first : Throws allowed action) (ok : ∀ value, Throws allowed' (next (.ok value)))
    (error : ∀ error, allowed error → Throws allowed' (next (.error error))) :
    Throws allowed' (Act.attempt action >>= next) := by
  intro state thrown threw
  change (next (action state).1 (action state).2).1 = .error thrown at threw
  cases ran : (action state).1 with
  | ok value =>
    rw [ran] at threw
    exact ok value _ thrown threw
  | error earlier =>
    rw [ran] at threw
    exact error earlier (first state earlier ran) _ thrown threw

theorem mapError {action : Act σ ε α} {translate : ε → ε'} {allowed' : ε' → Prop}
    (throws : Throws (fun error => allowed' (translate error)) action) :
    Throws allowed' (Act.mapError translate action) := by
  intro state error threw
  unfold Act.mapError at threw
  rcases ran : action state with ⟨result, state'⟩
  rw [ran] at threw
  cases result with
  | ok value => cases threw
  | error earlier =>
    cases threw
    exact throws state _ (by rw [ran])

theorem weaken {wider : ε → Prop} {action : Act σ ε α} (throws : Throws allowed action)
    (implied : ∀ error, allowed error → wider error) : Throws wider action :=
  fun state error threw => implied error (throws state error threw)

/-- A triple may use what is known of the errors. -/
theorem triple {action : Act σ ε α} {before : σ → Prop} {after : α → σ → Prop}
    {failed : ε → σ → Prop} (throws : Throws allowed action)
    (triple : Triple before action after failed) :
    Triple before action after fun error state => failed error state ∧ allowed error := by
  intro state holds
  have ended := triple state holds
  have known := throws state
  rcases ran : action state with ⟨result, state'⟩
  rw [ran] at ended known
  cases result with
  | ok value => exact ended
  | error error => exact ⟨ended, known error rfl⟩

/-- An action without errors returns a value. -/
theorem returns {action : Act σ ε α} (throws : Throws (fun _ => False) action) (state : σ) :
    ∃ value state', action state = (.ok value, state') := by
  have safe := throws state
  rcases ran : action state with ⟨result, state'⟩
  rw [ran] at safe
  cases result with
  | ok value => exact ⟨value, state', rfl⟩
  | error error => exact (safe error rfl).elim

/-- An action without errors. -/
theorem safe {action : Act σ ε α} {before : σ → Prop} {after : α → σ → Prop}
    {failed failed' : ε → σ → Prop} (throws : Throws (fun _ => False) action)
    (triple : Triple before action after failed) : Triple before action after failed' :=
  (throws.triple triple).weaken (fun _ holds => holds) (fun _ _ holds => holds)
    fun _ _ impossible => impossible.2.elim

end Throws

/-- The states before and after the action are related, whatever its result. -/
def Stays (relation : σ → σ → Prop) (action : Act σ ε α) : Prop :=
  ∀ state, relation state (action state).2

namespace Stays

variable {relation : σ → σ → Prop}

theorem modify {update : σ → σ} (related : ∀ state, relation state (update state)) :
    Stays relation (Act.modify update : Act σ ε Unit) :=
  related

theorem ite {condition : Prop} [Decidable condition] {yes no : Act σ ε α}
    (positive : condition → Stays relation yes) (negative : ¬ condition → Stays relation no) :
    Stays relation (if condition then yes else no) := by
  split
  · exact positive ‹_›
  · exact negative ‹_›

theorem attempt {action : Act σ ε α} (stays : Stays relation action) :
    Stays relation (Act.attempt action : Act σ ε' (Except ε α)) :=
  stays

theorem mapError {action : Act σ ε α} {translate : ε → ε'} (stays : Stays relation action) :
    Stays relation (Act.mapError translate action) := by
  intro state
  have near := stays state
  unfold Act.mapError
  rcases ran : action state with ⟨result, state'⟩
  rw [ran] at near
  cases result with
  | ok value => exact near
  | error error => exact near

theorem weaken {wider : σ → σ → Prop} {action : Act σ ε α} (stays : Stays relation action)
    (implied : ∀ state state', relation state state' → wider state state') : Stays wider action :=
  fun state => implied _ _ (stays state)

/-- What the relation keeps, the action keeps. -/
theorem keeps {action : Act σ ε α} {before after : σ → Prop} (stays : Stays relation action)
    (kept : ∀ state state', relation state state' → before state → after state') :
    Triple before action (fun _ => after) fun _ => after := by
  intro state holds
  have near := stays state
  rcases ran : action state with ⟨result, state'⟩
  rw [ran] at near
  cases result with
  | ok value => exact kept _ _ near holds
  | error error => exact kept _ _ near holds

/-- The same, where the state after an error does not matter. -/
theorem kept {action : Act σ ε α} {before after : σ → Prop} (stays : Stays relation action)
    (kept : ∀ state state', relation state state' → before state → after state') :
    Triple before action (fun _ => after) fun _ _ => True :=
  (stays.keeps kept).weaken (fun _ holds => holds) (fun _ _ holds => holds) fun _ _ _ => trivial

/-- Started in one state, the action ends in a related one. -/
theorem started {action : Act σ ε α} {start : σ} (stays : Stays relation action) :
    Triple (· = start) action (fun _ => relation start) fun _ => relation start :=
  stays.keeps fun _ _ near same => same ▸ near

variable [IsPreorder σ relation]

theorem pure (value : α) : Stays relation (Pure.pure value : Act σ ε α) :=
  fun state => refl_of relation state

theorem throw (error : ε) : Stays relation (Act.throw error : Act σ ε α) :=
  fun state => refl_of relation state

theorem gets (read : σ → α) : Stays relation (Act.gets read : Act σ ε α) :=
  fun state => refl_of relation state

theorem ofExcept (result : Except ε α) : Stays relation (Act.ofExcept result : Act σ ε α) :=
  fun state => refl_of relation state

theorem bind {action : Act σ ε α} {next : α → Act σ ε β}
    (first : Stays relation action) (second : ∀ value, Stays relation (next value)) :
    Stays relation (action >>= next) := by
  intro state
  have near := first state
  change relation state (Act.bind action next state).2
  unfold Act.bind
  rcases ran : action state with ⟨result, state'⟩
  rw [ran] at near
  cases result with
  | ok value => exact trans_of relation near (second value state')
  | error error => exact near

/-- A fact about the value that does not depend on the state. -/
theorem through {action : Act σ ε α} {next : α → Act σ ε β} {fact : α → Prop}
    (first : Stays relation action)
    (returns : Triple (fun _ => True) action (fun value _ => fact value) fun _ _ => True)
    (second : ∀ value, fact value → Stays relation (next value)) :
    Stays relation (action >>= next) := by
  intro state
  have near := first state
  change relation state (Act.bind action next state).2
  unfold Act.bind
  rcases ran : action state with ⟨result, state'⟩
  rw [ran] at near
  cases result with
  | ok value =>
    have holds := returns.of_ok True.intro (congrArg Prod.fst ran)
    exact trans_of relation near (second value holds state')
  | error error => exact near

theorem ensure (condition : Bool) (error : ε) :
    Stays relation (Act.ensure condition error : Act σ ε Unit) :=
  .ite (fun _ => .pure ()) fun _ => .throw error

theorem when {action : Act σ ε Unit} (condition : Bool) (stays : Stays relation action) :
    Stays relation (Act.when condition action) :=
  .ite (fun _ => stays) fun _ => .pure ()

theorem each {body : α → Act σ ε Unit} (list : List α)
    (kept : ∀ value, Stays relation (body value)) : Stays relation (Act.each list body) := by
  induction list with
  | nil => exact .pure ()
  | cons head rest ih => exact .bind (kept head) fun _ => ih

end Stays

end RocqMcp.Library
