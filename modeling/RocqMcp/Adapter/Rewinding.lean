import RocqMcp.Adapter.Events
import RocqMcp.Adapter.History

/-! Counting steps back agrees with the path to the selected checkpoint. -/

namespace RocqMcp

open Library

variable {id : CheckpointId} {book next : CheckpointBook} {proof : ProofSession}
  {path : List CheckpointId}

namespace ProofSession

theorem Chain.ne_nil (chain : proof.Chain id path) : path ≠ [] := by
  cases chain <;> simp

/-- Every checkpoint of a path has the path up to it. -/
theorem Chain.take (chain : proof.Chain id path) {index : Nat} {earlier : CheckpointId}
    (at' : path[index]? = some earlier) : proof.Chain earlier (path.take (index + 1)) := by
  induction chain generalizing index with
  | @root id node found isRoot =>
    have first : index = 0 := by
      have within := (List.getElem?_eq_some_iff.mp at').1
      simpa using within
    subst first
    obtain rfl : id = earlier := by simpa using at'
    exact .root found isRoot
  | @child id parent node path found link rest ih =>
    by_cases inside : index < path.length
    · rw [List.getElem?_append_left inside] at at'
      rw [List.take_append_of_le_length (by omega)]
      exact ih at'
    · have within := (List.getElem?_eq_some_iff.mp at').1
      simp only [List.length_append, List.length_cons, List.length_nil] at within
      have last : index = path.length := by omega
      subst last
      obtain rfl : id = earlier := by simpa using at'
      have whole : (path ++ [id]).take (path.length + 1) = path ++ [id] :=
        List.take_of_length_le (by simp)
      rw [whole]
      exact .child found link rest

/-- The counted walk is the index from the end of the path: both stop at the root. -/
theorem Chain.walkBack (chain : proof.Chain id path) (steps : Nat) :
    (∀ earlier, CheckpointBook.walkBack proof steps id = .ok earlier ↔
      steps < path.length ∧ path[path.length - 1 - steps]? = some earlier) ∧
    (path.length ≤ steps → CheckpointBook.walkBack proof steps id = .error .tooFar) := by
  induction chain generalizing steps with
  | @root id node found isRoot =>
    cases steps with
    | zero => simp [CheckpointBook.walkBack, eq_comm]
    | succ steps => simp [CheckpointBook.walkBack, found, isRoot]
  | @child id parent node path found link rest ih =>
    cases steps with
    | zero => simp [CheckpointBook.walkBack, eq_comm]
    | succ steps =>
      obtain ⟨walks, stops⟩ := ih steps
      simp only [CheckpointBook.walkBack, found, link, List.length_append, List.length_cons,
        List.length_nil]
      refine ⟨fun earlier => (walks earlier).trans ?_, fun beyond => stops (by omega)⟩
      have index : path.length + 1 - 1 - (steps + 1) = path.length - 1 - steps := by omega
      constructor
      · rintro ⟨inside, at'⟩
        refine ⟨by omega, ?_⟩
        rw [index, List.getElem?_append_left (by omega)]
        exact at'
      · rintro ⟨inside, at'⟩
        refine ⟨by omega, ?_⟩
        rw [index, List.getElem?_append_left (by omega)] at at'
        exact at'

/-- Edges are part of the topology. -/
theorem get?_topology {other : ProofSession} (same : proof.topology = other.topology)
    (id : CheckpointId) :
    (proof.get? id).map Checkpoint.edge = (other.get? id).map Checkpoint.edge := by
  have links (any : ProofSession) : (any.get? id).map Checkpoint.edge =
      ((any.topology.2.2.find? fun entry => entry.1 = id).map fun entry => entry.2.1) := by
    simp only [get?, topology, List.find?_map, Option.map_map, Function.comp_def]
  rw [links, links, same]

end ProofSession

namespace CheckpointBook

theorem walkBack_topology {other : ProofSession} (same : proof.topology = other.topology)
    (steps : Nat) : ∀ id, walkBack proof steps id = walkBack other steps id := by
  induction steps with
  | zero => exact fun _ => rfl
  | succ steps ih =>
    intro id
    have edges := ProofSession.get?_topology same id
    simp only [walkBack]
    cases found : proof.get? id with
    | none =>
      cases found' : other.get? id with
      | none => rfl
      | some node => simp [found, found'] at edges
    | some node =>
      cases found' : other.get? id with
      | none => simp [found, found'] at edges
      | some node' =>
        simp only [found, found', Option.map_some, Option.some.injEq, Checkpoint.edge,
          Prod.mk.injEq] at edges
        simp only [edges.1, ih]

theorem stepsBack_topology (same : book.topology = next.topology) (steps : Nat) :
    book.stepsBack steps = next.stepsBack steps := by
  simp only [topology] at same
  unfold stepsBack
  split
  · rfl
  · cases active : book.proof with
    | none =>
      rw [active] at same
      rw [Option.map_eq_none_iff.mp same.symm]
    | some proof =>
      rw [active] at same
      obtain ⟨other, active', same'⟩ := Option.map_eq_some_iff.mp same.symm
      have selected : proof.current = other.current := congrArg (fun shape => shape.2.1) same'.symm
      simp only [active', selected]
      exact walkBack_topology same'.symm steps other.current

/-- What `steps_back` reads off the path to the selected checkpoint. -/
structure CountsBack (book : CheckpointBook) (path : List CheckpointId) : Prop where
  found : ∀ steps id, book.stepsBack steps = .ok id ↔
    1 ≤ steps ∧ steps < path.length ∧ path[path.length - 1 - steps]? = some id
  tooFar : ∀ steps, ¬ (1 ≤ steps ∧ steps < path.length) → book.stepsBack steps = .error .tooFar
  shorter : ∀ steps id, book.stepsBack steps = .ok id →
    book.path id = .ok (path.take (path.length - steps))

theorem countsBack (active : book.proof = some proof) (read : book.path proof.current = .ok path) :
    book.CountsBack path := by
  obtain ⟨proof', active', chain⟩ := book.path_iff_chain.mp read
  obtain rfl := Option.some.inj (active.symm.trans active')
  have counted (steps : Nat) (positive : 1 ≤ steps) :
      book.stepsBack steps = walkBack proof steps proof.current := by
    rw [stepsBack, if_neg (by omega), active]
  have found (steps : Nat) (id : CheckpointId) : book.stepsBack steps = .ok id ↔
      1 ≤ steps ∧ steps < path.length ∧ path[path.length - 1 - steps]? = some id := by
    by_cases positive : 1 ≤ steps
    · rw [counted steps positive, (chain.walkBack steps).1]
      simp [positive]
    · have none : steps = 0 := by omega
      simp [stepsBack, none]
  refine ⟨found, fun steps beyond => ?_, fun steps id walked => ?_⟩
  · by_cases positive : 1 ≤ steps
    · rw [counted steps positive]
      exact (chain.walkBack steps).2 (by omega)
    · have none : steps = 0 := by omega
      simp [stepsBack, none]
  · obtain ⟨_, inside, at'⟩ := (found steps id).mp walked
    refine book.path_iff_chain.mpr ⟨proof, active, ?_⟩
    have length : path.length - 1 - steps + 1 = path.length - steps := by omega
    rw [← length]
    exact chain.take at'

theorem walkBack_add {middle : CheckpointId} (more steps : Nat) : ∀ id,
    walkBack proof steps id = .ok middle →
      walkBack proof (steps + more) id = walkBack proof more middle := by
  induction steps with
  | zero =>
    rintro id walked
    obtain rfl := Except.ok.inj walked
    rw [Nat.zero_add]
  | succ steps ih =>
    intro id walked
    rw [Nat.succ_add]
    simp only [walkBack] at walked ⊢
    split at walked
    · cases walked
    · split at walked
      · cases walked
      · exact ih _ walked

theorem walkBack_select (known : id ∈ proof.ids) (steps : Nat) :
    ∀ from', walkBack (proof.select id known) steps from' = walkBack proof steps from' := by
  have same (cursor : CheckpointId) : (proof.select id known).get? cursor = proof.get? cursor := rfl
  induction steps with
  | zero => exact fun _ => rfl
  | succ steps ih =>
    intro from'
    simp only [walkBack, same, ih]

/-- Two steps back are one of their sum. -/
theorem stepsBack_add {first second : CheckpointId} {steps more : Nat}
    (early : book.stepsBack steps = .ok first) (selected : book.select first = .ok next)
    (late : next.stepsBack more = .ok second) : book.stepsBack (steps + more) = .ok second := by
  obtain ⟨proof, known, active, active'⟩ := select_ok selected
  have moves (any : CheckpointBook) (count : Nat) (id : CheckpointId)
      (walked : any.stepsBack count = .ok id) : count ≠ 0 := by
    rintro rfl
    cases walked
  have positive := moves book steps first early
  have positive' := moves next more second late
  rw [stepsBack, if_neg positive, active] at early
  rw [stepsBack, if_neg positive', active'] at late
  rw [stepsBack, if_neg (by omega), active]
  simp only at early late ⊢
  rw [walkBack_add more steps _ early, ← walkBack_select known]
  exact late

theorem select_known (active : book.proof = some proof) (known : id ∈ proof.ids) :
    ∃ next, book.select id = .ok next := by
  unfold CheckpointBook.select
  split
  · rename_i idle
    rw [active] at idle
    cases idle
  · rename_i present
    obtain rfl := Option.some.inj (active.symm.trans present)
    rw [dif_pos known]
    exact ⟨_, rfl⟩

theorem select_topology {other : CheckpointBook} (same : book.topology = other.topology)
    (selected : book.select id = .ok next) :
    ∃ next', other.select id = .ok next' ∧ next.topology = next'.topology := by
  obtain ⟨proof, known, active, active'⟩ := select_ok selected
  simp only [topology, active, Option.map_some] at same
  obtain ⟨proof', present, alike⟩ := Option.map_eq_some_iff.mp same.symm
  have shape : proof.topology.2.2 = proof'.topology.2.2 := congrArg (fun shape => shape.2.2) alike.symm
  have ids (any : ProofSession) : any.ids = any.topology.2.2.map Prod.fst := by
    simp [ProofSession.ids, ProofSession.topology, Function.comp_def]
  have known' : id ∈ proof'.ids := by
    rw [ids, ← shape, ← ids]
    exact known
  obtain ⟨next', selected'⟩ := select_known present known'
  obtain ⟨proof'', known'', present', active''⟩ := select_ok selected'
  obtain rfl := Option.some.inj (present.symm.trans present')
  refine ⟨next', selected', ?_⟩
  have target : proof.target = proof'.target := congrArg (fun shape => shape.1) alike.symm
  simp only [topology, active', active'', Option.map_some]
  refine congrArg some (Prod.ext target (Prod.ext rfl ?_))
  exact shape

end CheckpointBook

/-- The session has gone back from the checkpoint that was selected in a book. -/
def Rewound (session : SessionId) (steps : Nat) (book : CheckpointBook) (world : World) : Prop :=
  ∃ target next, book.stepsBack steps = .ok target ∧ book.select target = .ok next ∧
    (world.selections session).checkpoints.topology = next.topology

section

variable {project : ProjectId} {session : SessionId} {start world : World} {steps : Nat}

theorem Rewound.congr {other : CheckpointBook} (rewound : Rewound session steps book world)
    (same : book.topology = other.topology) : Rewound session steps other world := by
  obtain ⟨target, next, back, selected, reached⟩ := rewound
  obtain ⟨next', selected', alike⟩ := CheckpointBook.select_topology same selected
  exact ⟨target, next', (CheckpointBook.stepsBack_topology same steps).symm.trans back, selected',
    reached.trans alike⟩

namespace Adapter

theorem asNat_number {count : Nat} (read : (Value.number steps).asNat = some count) :
    count = steps := by
  rw [Value.asNat] at read
  simp only [Option.ite_none_right_eq_some, Int.toNat_natCast, Option.some.injEq] at read
  exact read.2.symm

theorem require_ok {message : String} {found : Option α} {value : α}
    (read : require message found = .ok value) : found = some value := by
  cases found with
  | none => cases read
  | some other => exact congrArg some (Except.ok.inj read)

theorem positive_number {message : String} {count : Nat}
    (read : positive message (.number steps) = .ok count) : count = steps := by
  have found := require_ok read
  exact asNat_number (Option.filter_eq_some_iff.mp found).1

/-- The arguments ask for a rewind by a number of steps. -/
structure AsksSteps (args : Value) (steps : Nat) : Prop where
  absent : args.get? "checkpoint" = none
  present : args.get? "steps" = some (.number steps)

theorem rewindTarget_steps {args : Value} (asks : AsksSteps args steps) :
    Triple (Clean project session start []) (rewindTarget session args)
      (fun target world => Clean project session start [] world ∧
        (start.selections session).checkpoints.stepsBack steps = .ok target) fun _ _ => True := by
  refine .bind (.gets _) fun book => ?_
  simp only [asks.absent, asks.present]
  generalize counted : positive "steps must be a positive integer" (.number steps) = counting
  refine .each_state fun world ⟨clean, read⟩ => ?_
  have same : book.stepsBack steps = (start.selections session).checkpoints.stepsBack steps := by
    rw [read]
    exact CheckpointBook.stepsBack_topology (clean.untouched.topology session) steps
  cases counting with
  | error error => exact fun _ _ => trivial
  | ok count =>
    obtain rfl := positive_number counted
    cases back : book.stepsBack count with
    | error error =>
      rintro _ rfl
      simp only [Act.ofExcept, bind, Act.bind, back, ofBook, Act.throw]
    | ok target =>
      rintro _ rfl
      simp only [Act.ofExcept, bind, Act.bind, pure, Act.pure, back, ofBook]
      exact ⟨clean, same.symm.trans back⟩

/-- A rewind that succeeds has selected the checkpoint that many steps back. -/
theorem rewind_rewound {args : Value} (asks : AsksSteps args steps) :
    Triple (Clean project session start []) (rewind project session args)
      (fun _ => Rewound session steps (start.selections session).checkpoints) fun _ _ => True := by
  let known : World → Prop := Clean project session start []
  have quiet {α : Type} {action : EngineM α} {post : α → World → Prop}
      {failed : Error → World → Prop} (triple : Triple known action post failed) :
      Triple known action post fun _ _ => True :=
    triple.weaken (fun _ clean => clean) (fun _ _ holds => holds) fun _ _ _ => trivial
  refine .bind (quiet (Clean.check rejectUnknown_mild)) fun _ => .bind
    (quiet (Clean.ensure (.of_kind rfl))) fun _ => .bind (rewindTarget_steps asks) fun target =>
      .assume fun back => ?_
  refine .bind (quiet activeProof_clean) fun proof => .bind (quiet (validateTarget_clean _)) fun _ =>
    .bind (quiet (reconcileArtifact_clean _)) fun _ =>
      .bind (quiet (restoreCheckpoint_clean target)) fun _ =>
        .bind (quiet commitOrCancelled_failing) fun _ => .bind (.gets _) fun before => ?_
  rintro world ⟨clean, rfl⟩
  cases selected : (world.selections session).checkpoints.select target with
  | error error => simp only [bind, Act.bind, ofBook, Act.throw]
  | ok next =>
    obtain ⟨proof, found, _, active⟩ := CheckpointBook.select_ok selected
    obtain ⟨node, looked⟩ := CheckpointBook.lookup_active active found
    simp only [setBook, Act.modify, bind, Act.bind, ofBook, looked, pure, Act.pure]
    obtain ⟨next', selected', alike⟩ :=
      CheckpointBook.select_topology (clean.untouched.topology session) selected
    refine ⟨target, next', back, selected', ?_⟩
    rw [World.selections_setCheckpoints, if_pos rfl]
    exact alike

theorem dispatchAttached_rewound {args : Value} (asks : AsksSteps args steps) :
    Triple (Clean project session start []) (dispatchAttached project session "rewind" args)
      (fun _ => Rewound session steps (start.selections session).checkpoints) fun _ _ => True := by
  have tool : dispatchAttached project session "rewind" args = rewind project session args := by
    unfold dispatchAttached
    iterate 7 rw [if_neg (by decide)]
    rw [if_pos rfl]
  rw [tool]
  exact rewind_rewound asks

theorem dispatchProject_rewound {args : Value} (asks : AsksSteps args steps) :
    Triple (Clean project session start []) (dispatchProject project session "rewind" args)
      (fun _ => Rewound session steps (start.selections session).checkpoints) fun _ _ => True := by
  have loud {α : Type} {action : EngineM α} {before : World → Prop} {post : α → World → Prop}
      {failed : Error → World → Prop} (triple : Triple before action post failed) :
      Triple before action post fun _ _ => True :=
    triple.weaken (fun _ holds => holds) (fun _ _ holds => holds) fun _ _ _ => trivial
  refine .bind (loud (Clean.idling rejectCancelled_idle)) fun _ => ?_
  refine .through (fun changed world => Refreshed project changed world ∧
    Unseen project session start world) ?_ fun changed => ?_
  · exact loud ((refreshProject_refreshed fun _ _ unobserved unseen =>
      Unseen.unobserved unseen unobserved).weaken (fun _ clean => ⟨clean.toServing, clean.toUnseen⟩)
        (fun _ _ holds => holds) fun _ _ failed => failed)
  refine .bind (admitLayout_clean changed) fun _ => .bind
    (loud (Clean.idling rejectCancelled_idle)) fun _ =>
      .bind (.attempt (dispatchAttached_rewound asks)) fun result => ?_
  cases result with
  | ok response => exact .pure fun _ rewound => rewound
  | error error =>
    exact .through (fun _ _ => True) .trivial fun _ => .through (fun _ _ => True) .trivial fun _ =>
      .throw fun _ _ => trivial

theorem dispatch_rewound {args : Value} (asks : AsksSteps args steps)
    (arriving : Arriving (fun _ => True) session start start) :
    Triple (· = start) (dispatch session "rewind" args)
      (fun _ => Rewound session steps (start.selections session).checkpoints) fun _ _ => True := by
  refine .through (fun _ => Arriving (fun _ => True) session start) ?_ fun _ => ?_
  · refine (rejectCancelled_idle.keeps fun _ _ idle arriving => Arriving.idle arriving idle).weaken ?_
      (fun _ _ holds => holds) fun _ _ _ => trivial
    rintro _ rfl
    exact arriving
  rw [if_neg (by simp), if_neg (by decide)]
  refine .bind (.gets _) fun selected => .each_state fun world ⟨arriving, read⟩ => ?_
  cases selected with
  | none => exact .throw fun _ _ => trivial
  | some project =>
    have own : Own project session world := ⟨by simp [World.attachedTo, ← read], arriving.used⟩
    have served : Triple (Clean project session world [])
        (dispatchProject project session "rewind" args) _ _ := dispatchProject_rewound asks
    refine served.weaken ?_ ?_ fun _ _ _ => trivial
    · rintro _ rfl
      exact arriving.toOrderly.clean own
    · exact fun _ _ rewound => rewound.congr (arriving.untouched.topology session)

end Adapter

/-- The request to go back by a number of steps. -/
def World.rewind (world : World) (session : SessionId) (steps : Nat) :
    Except Error Adapter.Response × World :=
  world.request session "rewind" (.object [("steps", .number steps)])

/-- The checkpoint that is selected in a connection. -/
def World.selected (world : World) (session : SessionId) : Option CheckpointId :=
  (world.selections session).checkpoints.proof.map ProofSession.current

theorem World.rewind_rewound (lawful : Lawful world) (used : session < world.connections)
    {response : Adapter.Response} (served : (world.rewind session steps).1 = .ok response) :
    Rewound session steps (world.selections session).checkpoints (world.rewind session steps).2 := by
  have asks : Adapter.AsksSteps (.object [("steps", .number steps)]) steps := ⟨rfl, rfl⟩
  have arriving : Arriving (fun _ => True) session (world.begin .active) (world.begin .active) :=
    lawful.arriving used (fun _ _ => trivial) .active
  exact (Adapter.dispatch_rewound asks arriving).of_ok rfl served

theorem World.rewind_tooFar (lawful : Lawful world) (used : session < world.connections)
    (tooFar : (world.selections session).checkpoints.stepsBack steps = .error .tooFar) :
    ∃ error, (world.rewind session steps).1 = .error error ∧
      Untouched world (world.rewind session steps).2 := by
  cases ran : (world.rewind session steps).1 with
  | ok response =>
    obtain ⟨target, next, back, _⟩ := rewind_rewound lawful used ran
    rw [tooFar] at back
    cases back
  | error error => exact ⟨error, rfl, lawful.untouched used ran (.inl (by decide))⟩

theorem World.rewind_selected (lawful : Lawful world) (used : session < world.connections)
    {response : Adapter.Response} (served : (world.rewind session steps).1 = .ok response) :
    ∃ target, (world.selections session).checkpoints.stepsBack steps = .ok target ∧
      (world.rewind session steps).2.selected session = some target := by
  obtain ⟨target, next, back, selected, reached⟩ := rewind_rewound lawful used served
  obtain ⟨proof, known, _, active⟩ := CheckpointBook.select_ok selected
  have currents (book : CheckpointBook) : book.proof.map ProofSession.current =
      book.topology.map fun shape => shape.2.1 := by
    simp [CheckpointBook.topology, ProofSession.topology, Function.comp_def]
  refine ⟨target, back, ?_⟩
  rw [World.selected, currents, reached, ← currents, active]
  rfl

/-- Counting steps back is reading the path to the selected checkpoint from its
end, and going back twice selects what going back once by the sum selects. -/
theorem World.rewind_path (reached : World.Reached world) (used : session < world.connections)
    (active : (world.selections session).checkpoints.proof = some proof) :
    (∃ path, (world.selections session).checkpoints.path proof.current = .ok path ∧
      (world.selections session).checkpoints.CountsBack path) ∧
    (∀ steps, (world.selections session).checkpoints.stepsBack steps = .error .tooFar →
      ∃ error, (world.rewind session steps).1 = .error error ∧
        Untouched world (world.rewind session steps).2) ∧
    ∀ (steps more : Nat) (first second : Adapter.Response),
      (world.rewind session steps).1 = .ok first →
      ((world.rewind session steps).2.rewind session more).1 = .ok second →
      ∃ target, (world.selections session).checkpoints.stepsBack (steps + more) = .ok target ∧
        ((world.rewind session steps).2.rewind session more).2.selected session = some target ∧
        ∀ response, (world.rewind session (steps + more)).1 = .ok response →
          (world.rewind session (steps + more)).2.selected session = some target := by
  have lawful := reached.lawful
  refine ⟨?_, fun steps tooFar => World.rewind_tooFar lawful used tooFar, ?_⟩
  · obtain ⟨path, read⟩ := CheckpointBook.path_active active proof.selected
    exact ⟨path, read, CheckpointBook.countsBack active read⟩
  · intro steps more first second served served'
    obtain ⟨middle, next, back, selected, arrived⟩ := World.rewind_rewound lawful used served
    have ended : Lawful (world.rewind session steps).2 ∧
        Apart (world.Concerns session "rewind") session world (world.rewind session steps).2 :=
      (lawful.request used "rewind" _).lawful lawful used
    have used' : session < (world.rewind session steps).2.connections :=
      Nat.lt_of_lt_of_eq used ended.2.connections.symm
    obtain ⟨target, back', reached'⟩ := World.rewind_selected ended.1 used' served'
    rw [CheckpointBook.stepsBack_topology arrived] at back'
    have both := CheckpointBook.stepsBack_add back selected back'
    refine ⟨target, both, reached', fun response served => ?_⟩
    obtain ⟨target', back', reached''⟩ := World.rewind_selected lawful used served
    obtain rfl := Except.ok.inj (both.symm.trans back')
    exact reached''

end

theorem World.rewind_path_proved :
    ∃ proof, (Sample.proved.selections 0).checkpoints.proof = some proof ∧
      ∃ path, (Sample.proved.selections 0).checkpoints.path proof.current = .ok path ∧
        (Sample.proved.selections 0).checkpoints.CountsBack path := by
  have proving : (Sample.proved.selections 0).checkpoints.proof.isSome = true := by decide +kernel
  obtain ⟨proof, active⟩ := Option.isSome_iff_exists.mp proving
  exact ⟨proof, active, (World.rewind_path Sample.proved_reached (by decide +kernel) active).1⟩

end RocqMcp
