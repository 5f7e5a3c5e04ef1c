import RocqMcp.Adapter.Acceptance

/-! The end of a request: whatever its result, every project accounts for what
its sessions hold, and an error has changed nothing that a client can observe. -/

namespace RocqMcp

open Library

section

variable {project : ProjectId} {session : SessionId} {start world after : World}
  {temps : List PetStateId}

namespace Adapter

theorem restart_vacant (error : Error) {failed : ε → World → Prop} :
    Triple (Vacant project (Unseen project session start) [])
      (Act.when (error.kind = .requestCancelled) (PetActor.restart project))
      (fun _ => Vacant project (Unseen project session start) []) failed := by
  by_cases cancelled : error.kind = .requestCancelled
  · simp only [Act.when, cancelled, decide_true, if_true]
    intro world vacant
    have absent : (world.setActor project {}).process project = none := World.process_setActor ..
    have forgotten : (world.setActor project {}).Forgotten project :=
      vacant.forgotten.later (World.held_selections project rfl rfl) fun _ suffered => suffered
    exact ⟨vacant.toAdrift.discarded.serving absent forgotten, forgotten,
      vacant.framed.calm (world.setActor_calm {} (by simp))⟩
  · simp only [Act.when, cancelled, decide_false]
    exact fun _ vacant => vacant

/-- Where nothing is held, a failed request settles whatever its error is. -/
theorem settleVacant_clean (error : Error) :
    Triple (Vacant project (Unseen project session start) [])
      (settleRequest project session (.error error)) (fun _ _ => False)
      (fun thrown world => thrown = error ∧ Clean project session start [] world) := by
  refine .bind (restart_vacant error) fun _ => .through
    (fun _ => Clean project session start []) ?_ fun _ => .throw fun _ clean => ⟨rfl, clean⟩
  cases error.kind.invalidatesPetEpoch with
  | false => exact fun world vacant => vacant.clean
  | true =>
    intro world vacant
    have serving := vacant.toServing.invalidated vacant.framed.own.attached
    refine ⟨?_, vacant.framed.invalidated⟩
    rcases vacant.forgotten with nobody | missed
    · rwa [nobody] at serving
    · exact { toAdrift := serving.toAdrift
              owned := .missed (world.invalidate_mishaps project session _ missed) }

theorem settleEnded_clean (error : Error) :
    Triple (Ended project session start error) (settleRequest project session (.error error))
      (fun _ _ => False)
      (fun thrown world => thrown = error ∧ Clean project session start [] world) :=
  .cases (settleRequest_clean error) (settleVacant_clean error)

/-- A read-only step of a request: its error has touched nothing. -/
theorem Clean.idling {action : EngineM α} (stays : Stays Idle action) :
    Triple (Clean project session start []) action (fun _ => Clean project session start [])
      fun _ => Clean project session start [] :=
  stays.keeps fun _ _ idle clean => ⟨clean.toServing.idle idle, clean.toUnseen.calm (idle.calm project)⟩

/-- The section of a request over its project: a success accounts for all states
of the project, and an error has changed nothing else. -/
theorem dispatchProject_served (name : String) (args : Value) :
    Triple (Clean project session start []) (dispatchProject project session name args)
      (fun _ => Served project session start) fun _ => Clean project session start [] := by
  refine .bind (Clean.idling rejectCancelled_idle) fun _ => ?_
  refine .through (fun changed world => Refreshed project changed world ∧
    Unseen project session start world) ?_ fun changed => ?_
  · refine (refreshProject_refreshed fun _ _ unobserved unseen =>
      Unseen.unobserved unseen unobserved).weaken (fun _ clean => ⟨clean.toServing, clean.toUnseen⟩)
        (fun _ _ holds => holds) ?_
    exact fun _ _ failed => ⟨failed.1.1, failed.1.2⟩
  refine .bind (admitLayout_clean changed) fun _ => .bind (Clean.idling rejectCancelled_idle)
    fun _ => .bind (.attempt (dispatchAttached_served name args)) fun result => ?_
  cases result with
  | ok response => exact .pure fun _ served => served
  | error error =>
    exact (settleEnded_clean error).weaken (fun _ ended => ended) (fun _ _ impossible => impossible.elim)
      fun _ _ settled => settled.2

end Adapter

end

end RocqMcp
