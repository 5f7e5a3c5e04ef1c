import RocqMcp.Pet.Ownership

/-! Every call of `PetActor` keeps the account of exported states. -/

namespace RocqMcp

open Library

theorem exchange_idle (call : PetCall) (timeoutMs : Option Nat) :
    Stays Idle (exchange call timeoutMs) :=
  .bind tick_idle fun _ => .bind (.gets _) fun _ => .bind (.ensure _ _) fun _ => .ofExcept _

theorem PetReply.states_answer (reply : PetReply Unit) (state : PetStateId) :
    (reply.answer state).states = if reply.states.isEmpty then [] else [state] := by
  cases reply <;> rfl

namespace PetProcess

theorem serve_quiet (process : PetProcess) {call : PetCall} (quiet : call.mayExport = false)
    (kept : ∀ states, call ≠ .releaseStates states) (stale : call ≠ .refreshWorkspace)
    (reply : PetReply Unit) (now : Nat) : process.serve call reply now = process := by
  cases call with
  | releaseStates states => exact absurd rfl (kept states)
  | refreshWorkspace => exact absurd rfl stale
  | _ => cases reply <;> first | rfl | simp_all [PetCall.mayExport]

theorem serve_exporting (process : PetProcess) {call : PetCall} (exporting : call.mayExport = true)
    (reply : PetReply Unit) (now : Nat) :
    process.serve call reply now =
      if reply.states.isEmpty then process else process.exportState now := by
  cases call with
  | getStateAtPos | run | runTrace => cases reply <;> rfl
  | _ => simp [PetCall.mayExport] at exporting

/-- Releasing some of the exported states leaves the others. -/
theorem release_exported (process : PetProcess)
    (exported : process.exported.Perm (released ++ rest)) :
    (process.release released).exported.Perm rest := by
  have distinct := (exported.map PetStateId.value).nodup_iff.mp process.distinct
  rw [List.map_append, List.nodup_append] at distinct
  have kept : ∀ state ∈ rest, state.value ∉ released.map PetStateId.value := by
    intro state member used
    exact distinct.2.2 _ used _ (List.mem_map_of_mem member) rfl
  refine (exported.filter _).trans ?_
  rw [List.filter_append, List.filter_eq_nil_iff.mpr, List.nil_append, List.filter_eq_self.mpr]
  · intro state member
    simpa using kept state member
  · intro state member
    simpa using ⟨state, member, rfl⟩

end PetProcess

namespace PetActor

variable {project : ProjectId} {start : World} {live : Bool} {states : List PetStateId}
  {process : PetProcess}

/-- The installed process is the given one. -/
def Running (project : ProjectId) (process : PetProcess) (world : World) : Prop :=
  world.process project = some process

theorem discard_gone :
    Triple (Holding project start live states) (discard project : Act World ε Unit)
      (fun _ => Gone project start) failed :=
  fun _ holding => holding.discarded

theorem fail_fails (error : PetError) {after : α → World → Prop} :
    Triple (Holding project start live states) (fail project error) after
      (PetFails project start states) := by
  intro world holding
  cases invalidates : error.invalidatesProcess with
  | true =>
    have gone := holding.discarded
    simp only [fail, poisonIfInvalidated, invalidates, Act.when, if_true]
    exact .inr ⟨gone, invalidates⟩
  | false =>
    simp only [fail, poisonIfInvalidated, invalidates, Act.when]
    exact holding.fails invalidates

/-- A violation of the protocol always drops the process. -/
theorem violated_mourned {states' : List PetStateId} {mild ends : Prop} (message : String)
    {after : α → World → Prop} :
    Triple (Fails project start states' mild ends) (violated project message) after
      (PetFails project start states) := by
  rintro world (⟨holding, _⟩ | ⟨gone, _⟩)
  · exact .inr ⟨holding.discarded, rfl⟩
  · exact .inr ⟨gone.holding.discarded, rfl⟩

theorem violated_fails {states' : List PetStateId} (message : String) {after : α → World → Prop} :
    Triple (Holding project start live states') (violated project message) after
      (PetFails project start states) := by
  have mourned : Triple (Fails project start states' True True) (violated project message) after
      (PetFails project start states) := violated_mourned message
  exact fun world holding => mourned world (holding.fails trivial)

theorem orDiscard_fails {action : PetM α} {before : World → Prop} {after : α → World → Prop}
    (triple : Triple before action after fun _ => Holding project start live states) :
    Triple before (orDiscard project action) after (PetFails project start states) := by
  refine .bind (.attempt triple) fun result => ?_
  cases result with
  | ok value => exact .pure fun _ holds => holds
  | error error => exact fail_fails error

/-- A request to the installed process, by what it does to the table of states. -/
theorem rpc_holding {call : PetCall} {timeoutMs : Option Nat} (extra : World → Prop)
    {after : PetReply PetStateId → World → Prop}
    (kept : ∀ world world', Idle world world' → extra world → extra world')
    (served : ∀ world (reply : PetReply Unit), Holding project start live states world →
      Running project process world → extra world →
      after (reply.answer (process.fresh world.now))
        (world.setActor project { world.actor project with
          process := some (process.serve call reply world.now) })) :
    Triple (fun world => Holding project start live states world ∧ Running project process world ∧
      extra world) (rpc project process call timeoutMs) after
      fun _ => Holding project start live states := by
  let asked : World → Prop := fun world =>
    Holding project start live states world ∧ Running project process world ∧ extra world
  have exchanged : Triple asked (exchange call timeoutMs) (fun _ => asked) fun _ => asked :=
    (exchange_idle call timeoutMs).keeps fun _ _ idle ⟨holding, running, more⟩ =>
      ⟨holding.idle idle, (idle.process project).trans running, kept _ _ idle more⟩
  have recorded : ∀ world outcome, asked world → asked (world.recordTurn ⟨project, call, outcome⟩) :=
    fun world outcome ⟨holding, running, more⟩ =>
      have idle := world.recordTurn_idle ⟨project, call, outcome⟩
      ⟨holding.idle idle, running, kept _ _ idle more⟩
  refine .bind (.attempt exchanged) fun result => ?_
  cases result with
  | error error => exact fun world holds => (recorded world (.error error) holds).1
  | ok reply =>
    intro world holds
    obtain ⟨holding, running, more⟩ := recorded world (.ok (reply.answer (process.fresh world.now))) holds
    exact served _ reply holding running more

theorem rpc_quiet {call : PetCall} {timeoutMs : Option Nat} (quiet : call.mayExport = false)
    (kept : ∀ states, call ≠ .releaseStates states) (stale : call ≠ .refreshWorkspace) :
    Triple (fun world => Holding project start live states world ∧ Running project process world)
      (rpc project process call timeoutMs)
      (fun _ world => Holding project start live states world ∧ Running project process world)
      fun _ => Holding project start live states := by
  refine (rpc_holding (fun _ => True) (fun _ _ _ holds => holds)
    ?_).weaken (fun _ holds => ⟨holds.1, holds.2, trivial⟩) (fun _ _ holds => holds)
      (fun _ _ holds => holds)
  intro world reply holding running _
  rw [process.serve_quiet quiet kept stale]
  have same := holding.served states running rfl
    (fun spared exporting => holding.owned.settled spared
      (by rwa [World.exports_of_process running])) (fun _ exported => exported)
    fun _ member => .inl member
  exact ⟨same, by simp [Running]⟩

theorem rpc_exporting {call : PetCall} {timeoutMs : Option Nat}
    (exporting : call.mayExport = true) :
    Triple (fun world => Holding project start live states world ∧ Running project process world ∧
        (¬ world.Astray project → world.Ready project))
      (rpc project process call timeoutMs)
      (fun reply => Holding project start live (reply.states ++ states))
      fun _ => Holding project start live states := by
  refine rpc_holding _ (fun _ _ idle ready spared => ?_) ?_
  · have kept := ready fun astray => spared (astray.mono idle.mishaps)
    simpa only [World.Ready, World.actor, World.layout, idle.projects] using kept
  · intro world reply holding running ready
    rw [process.serve_exporting exporting, PetReply.states_answer]
    split
    · exact holding.served _ running rfl (fun spared _ => ready spared)
        (fun _ exported => exported) fun _ member => .inl member
    · refine holding.served _ running rfl (fun spared _ => ready spared) ?_ ?_
      · intro stray exported
        exact exported.cons _
      · intro state member
        rcases List.mem_cons.mp member with rfl | old
        · exact .inr rfl
        · exact .inl old

theorem rpc_releasing {timeoutMs : Option Nat} {released : List PetStateId} :
    Triple (fun world => Holding project start live (released ++ states) world ∧
        Running project process world)
      (rpc project process (.releaseStates released) timeoutMs)
      (fun _ => Holding project start live states)
      fun _ => Holding project start live (released ++ states) := by
  refine (rpc_holding (fun _ => True) (fun _ _ _ holds => holds)
    ?_).weaken (fun _ holds => ⟨holds.1, holds.2, trivial⟩) (fun _ _ holds => holds)
      (fun _ _ holds => holds)
  intro world reply holding running _
  refine holding.served states running rfl ?_ ?_ ?_
  · intro spared exporting
    refine holding.owned.settled spared ?_
    rw [World.exports_of_process running]
    intro none
    exact exporting (by simp [PetProcess.serve, PetProcess.release, none])
  · intro stray exported
    rw [List.append_assoc] at exported
    exact process.release_exported exported
  · exact fun state member => .inl (List.mem_append_right _ member)

theorem absent_fails (message : String) {after : α → World → Prop} :
    Triple (fun world => Holding project start live states world ∧ world.process project = none)
      (.throw (.processLost message)) after (PetFails project start states') :=
  fun _ ⟨holding, absent⟩ =>
    .inr ⟨⟨holding.calm, absent, holding.owned.stamped.subset (by simp)⟩, rfl⟩

/-- Every call to a live process, by what its request does. -/
theorem callLive_holding {call : PetCall} {timeoutMs : Option Nat} (extra : World → Prop)
    {after : PetReply PetStateId → World → Prop}
    (asked : ∀ process, Triple
      (fun world => Holding project start live states world ∧ Running project process world ∧
        extra world) (rpc project process call timeoutMs) after
      fun _ => Holding project start live states) :
    Triple (fun world => Holding project start live states world ∧ extra world)
      (callLive project call timeoutMs) after (PetFails project start states) := by
  refine .bind (.gets _) fun found => ?_
  cases found with
  | none =>
    exact (absent_fails _).weaken (fun _ ⟨⟨holding, _⟩, absent⟩ => ⟨holding, absent.symm⟩)
      (fun _ _ holds => holds) (fun _ _ holds => holds)
  | some process =>
    exact (orDiscard_fails (asked process)).weaken
      (fun _ ⟨⟨holding, more⟩, running⟩ => ⟨holding, running.symm, more⟩)
      (fun _ _ holds => holds) (fun _ _ holds => holds)

theorem callLive_quiet {call : PetCall} {timeoutMs : Option Nat} (quiet : call.mayExport = false)
    (kept : ∀ states, call ≠ .releaseStates states) (stale : call ≠ .refreshWorkspace) :
    Triple (Holding project start live states) (callLive project call timeoutMs)
      (fun _ => Holding project start live states) (PetFails project start states) := by
  refine (callLive_holding (fun _ => True) fun process => ?_).weaken
    (fun _ holds => ⟨holds, trivial⟩) (fun _ _ holds => holds) (fun _ _ holds => holds)
  exact (rpc_quiet quiet kept stale).weaken (fun _ holds => ⟨holds.1, holds.2.1⟩)
    (fun _ _ holds => holds.1) (fun _ _ holds => holds)

theorem callLive_exporting {call : PetCall} {timeoutMs : Option Nat}
    (exporting : call.mayExport = true) :
    Triple (fun world => Holding project start live states world ∧
        (¬ world.Astray project → world.Ready project))
      (callLive project call timeoutMs)
      (fun reply => Holding project start live (reply.states ++ states))
      (PetFails project start states) :=
  callLive_holding _ fun _ => rpc_exporting exporting

theorem callLive_releasing {released : List PetStateId} :
    Triple (Holding project start live (released ++ states))
      (callLive project (.releaseStates released))
      (fun _ => Holding project start live states) (PetFails project start (released ++ states)) := by
  refine (callLive_holding (fun _ => True) fun process => ?_).weaken
    (fun _ holds => ⟨holds, trivial⟩) (fun _ _ holds => holds) (fun _ _ holds => holds)
  exact rpc_releasing.weaken (fun _ holds => ⟨holds.1, holds.2.1⟩)
    (fun _ _ holds => holds) (fun _ _ holds => holds)

/-- Without a process, every call fails. -/
theorem callLive_gone {call : PetCall} {timeoutMs : Option Nat}
    (after : PetReply PetStateId → World → Prop) :
    Triple (Gone project start) (callLive project call timeoutMs) after
      fun error world => Gone project start world ∧ PetError.invalidatesProcess error = true := by
  refine .bind (.gets _) fun found => ?_
  intro world ⟨gone, read⟩
  subst read
  rw [gone.absent]
  exact ⟨gone, rfl⟩

end PetActor

end RocqMcp
