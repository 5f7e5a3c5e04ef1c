import Mathlib.Logic.Function.Basic
import RocqMcp.Library.Runs

/-! A registry of shared objects behind weak references. An object lives as long
as somebody holds it, and the registry finds a living object by its key. From
outside it is a table with one entry for every key that is held. -/

namespace RocqMcp.Library

variable {Holder : Type u} {Key : Type v} {Content : Type w}

/-- A strong reference, and the key for which it was acquired. -/
structure Reference (Holder : Type u) (Key : Type v) where
  holder : Holder
  key : Key
  handle : Nat

/-- A heap of objects, the weak references to them, and the strong ones. -/
structure Registry (Holder : Type u) (Key : Type v) (Content : Type w) where
  objects : List Content
  named : Key → Option Nat
  held : List (Reference Holder Key)

/-- One entry for every key that somebody holds. -/
structure SharedTable (Holder : Type u) (Key : Type v) (Content : Type w) where
  entries : Key → Option Content
  holds : List (Holder × Key)

/-- What can happen to a registry, in any order. A holder has one reference. -/
inductive Sharing (Holder : Type u) (Key : Type v) (Content : Type w) where
  /-- The weak references to dead objects are dropped. -/
  | sweep
  | acquire (holder : Holder) (key : Key) (fresh : Content)
  | copy (holder source : Holder)
  | update (holder : Holder) (change : Content → Content)
  | release (holder : Holder)

namespace Registry

def empty : Registry Holder Key Content where
  objects := []
  named _ := none
  held := []

def isLive (registry : Registry Holder Key Content) (handle : Nat) : Bool :=
  registry.held.any fun reference => reference.handle = handle

/-- The living object of a key. -/
def upgrade (registry : Registry Holder Key Content) (key : Key) : Option Nat :=
  (registry.named key).filter registry.isLive

variable [DecidableEq Holder]

def reference (registry : Registry Holder Key Content) (holder : Holder) :
    Option (Reference Holder Key) :=
  registry.held.find? fun reference => reference.holder = holder

def hold (registry : Registry Holder Key Content) (reference : Reference Holder Key) :
    Registry Holder Key Content :=
  { registry with held := reference :: registry.held }

/-- A new object, for a key that has none. -/
def create [DecidableEq Key] (registry : Registry Holder Key Content) (holder : Holder) (key : Key)
    (fresh : Content) : Registry Holder Key Content where
  objects := registry.objects ++ [fresh]
  named := Function.update registry.named key (some registry.objects.length)
  held := { holder, key, handle := registry.objects.length } :: registry.held

def write (registry : Registry Holder Key Content) (handle : Nat) (change : Content → Content) :
    Registry Holder Key Content :=
  { registry with objects := registry.objects.modify handle change }

def drop (registry : Registry Holder Key Content) (holder : Holder) : Registry Holder Key Content :=
  { registry with held := registry.held.filter fun reference => reference.holder ≠ holder }

def sweep (registry : Registry Holder Key Content) : Registry Holder Key Content :=
  { registry with named := registry.upgrade }

def acquire [DecidableEq Key] (registry : Registry Holder Key Content) (holder : Holder) (key : Key)
    (fresh : Content) : Registry Holder Key Content :=
  match registry.upgrade key with
  | some handle => registry.hold { holder, key, handle }
  | none => registry.create holder key fresh

def step [DecidableEq Key] (registry : Registry Holder Key Content) :
    Sharing Holder Key Content → Option (Registry Holder Key Content)
  | .sweep => some registry.sweep
  | .acquire holder key fresh =>
    if (registry.reference holder).isSome then none else some (registry.acquire holder key fresh)
  | .copy holder source =>
    if (registry.reference holder).isSome then none
    else (registry.reference source).map fun reference => registry.hold { reference with holder }
  | .update holder change =>
    (registry.reference holder).map fun reference => registry.write reference.handle change
  | .release holder => some (registry.drop holder)

end Registry

namespace SharedTable

def keyOf [DecidableEq Holder] (table : SharedTable Holder Key Content) (holder : Holder) :
    Option Key :=
  (table.holds.find? fun entry => entry.1 = holder).map Prod.snd

/-- The key is held by somebody. -/
def isHeld [DecidableEq Key] (table : SharedTable Holder Key Content) (key : Key) : Bool :=
  table.holds.any fun entry => entry.2 = key

def acquire [DecidableEq Key] (table : SharedTable Holder Key Content) (holder : Holder) (key : Key)
    (fresh : Content) : SharedTable Holder Key Content where
  entries := Function.update table.entries key (some ((table.entries key).getD fresh))
  holds := (holder, key) :: table.holds

def write [DecidableEq Key] (table : SharedTable Holder Key Content) (key : Key)
    (change : Content → Content) : SharedTable Holder Key Content :=
  { table with entries := Function.update table.entries key ((table.entries key).map change) }

variable [DecidableEq Holder] [DecidableEq Key]

/-- The entry of a key disappears with its last holder. -/
def drop (table : SharedTable Holder Key Content) (holder : Holder) :
    SharedTable Holder Key Content :=
  let left := { table with holds := table.holds.filter fun entry => entry.1 ≠ holder }
  { left with entries := fun key => if left.isHeld key then table.entries key else none }

def step (table : SharedTable Holder Key Content) :
    Sharing Holder Key Content → Option (SharedTable Holder Key Content)
  | .sweep => some table
  | .acquire holder key fresh =>
    if (table.keyOf holder).isSome then none else some (table.acquire holder key fresh)
  | .copy holder source =>
    if (table.keyOf holder).isSome then none
    else (table.keyOf source).map fun key => { table with holds := (holder, key) :: table.holds }
  | .update holder change => (table.keyOf holder).map fun key => table.write key change
  | .release holder => some (table.drop holder)

end SharedTable

theorem SharedTable.ext {left right : SharedTable Holder Key Content}
    (entries : ∀ key, left.entries key = right.entries key) (holds : left.holds = right.holds) :
    left = right := by
  cases left
  cases right
  simp only [SharedTable.mk.injEq]
  exact ⟨funext entries, holds⟩

theorem SharedTable.acquire_entries [DecidableEq Key] {table : SharedTable Holder Key Content}
    {holder : Holder} {key : Key} {fresh : Content} (other : Key) :
    (table.acquire holder key fresh).entries other =
      if other = key then some ((table.entries key).getD fresh) else table.entries other :=
  Function.update_apply ..

theorem SharedTable.write_entries [DecidableEq Key] {table : SharedTable Holder Key Content}
    {key : Key} {change : Content → Content} (other : Key) :
    (table.write key change).entries other =
      if other = key then (table.entries key).map change else table.entries other :=
  Function.update_apply ..

/-! ### Who holds what -/

section

variable [DecidableEq Holder] {table : SharedTable Holder Key Content} {holder : Holder} {key : Key}

theorem SharedTable.keyOf_cons (holds : List (Holder × Key)) (entries : Key → Option Content)
    (other : Holder) :
    ({ entries, holds := (holder, key) :: holds } : SharedTable Holder Key Content).keyOf other =
      if other = holder then some key
      else ({ entries, holds } : SharedTable Holder Key Content).keyOf other := by
  by_cases same : holder = other
  · simp [keyOf, same]
  · simp [keyOf, same, Ne.symm same]

variable [DecidableEq Key]

theorem SharedTable.acquire_keyOf {fresh : Content} (other : Holder) :
    (table.acquire holder key fresh).keyOf other =
      if other = holder then some key else table.keyOf other :=
  keyOf_cons ..

theorem SharedTable.drop_keyOf (other : Holder) :
    (table.drop holder).keyOf other = if other = holder then none else table.keyOf other := by
  simp only [keyOf, drop, List.find?_filter]
  by_cases same : other = holder
  · subst same
    simp
  · rw [if_neg same]
    congr 2
    funext entry
    by_cases found : entry.1 = other
    · simp [found, same]
    · simp [found]

theorem SharedTable.isHeld_of_keyOf (found : table.keyOf holder = some key) :
    table.isHeld key = true := by
  obtain ⟨entry, located, rfl⟩ := Option.map_eq_some_iff.mp found
  exact List.any_eq_true.mpr ⟨entry, List.mem_of_find?_eq_some located, decide_eq_true rfl⟩

theorem SharedTable.drop_entries_some {content : Content}
    (found : (table.drop holder).entries key = some content) : table.entries key = some content := by
  simp only [drop] at found
  split at found
  · exact found
  · cases found

/-- The entry of a key stays as long as another one holds it. -/
theorem SharedTable.drop_entries {other : Holder} (different : other ≠ holder)
    (holds : table.keyOf other = some key) : (table.drop holder).entries key = table.entries key := by
  have stays : (table.drop holder).keyOf other = some key := by
    rw [drop_keyOf, if_neg different, holds]
  exact if_pos (isHeld_of_keyOf stays)

end

namespace Registry

/-- A strong reference keeps its object under its key, and no object has two keys. -/
structure Sound (registry : Registry Holder Key Content) : Prop where
  kept : ∀ reference ∈ registry.held, registry.named reference.key = some reference.handle
  bounded : ∀ key, ∀ handle ∈ registry.named key, handle < registry.objects.length
  injective : ∀ key other handle, registry.named key = some handle →
    registry.named other = some handle → key = other

theorem Sound.empty : (Registry.empty : Registry Holder Key Content).Sound where
  kept _ := nofun
  bounded _ _ := nofun
  injective _ _ _ := nofun

section

variable {registry : Registry Holder Key Content}

/-- Two references share their object exactly if they have the same key. -/
theorem Sound.handle_iff (sound : registry.Sound) {left right : Reference Holder Key}
    (member : left ∈ registry.held) (member' : right ∈ registry.held) :
    left.handle = right.handle ↔ left.key = right.key := by
  have first := sound.kept left member
  have second := sound.kept right member'
  constructor
  · intro same
    exact sound.injective _ _ _ first (same ▸ second)
  · intro same
    rw [same, second] at first
    exact (Option.some.inj first).symm

/-- The object of a key is alive if somebody holds the key. -/
theorem Sound.live_iff (sound : registry.Sound) {key : Key} {handle : Nat}
    (found : registry.named key = some handle) :
    registry.isLive handle = true ↔ ∃ reference ∈ registry.held, reference.key = key := by
  simp only [isLive, List.any_eq_true, decide_eq_true_eq]
  constructor
  · intro ⟨reference, member, same⟩
    have kept := sound.kept reference member
    exact ⟨reference, member, sound.injective _ _ _ (same ▸ kept) found⟩
  · intro ⟨reference, member, same⟩
    have kept := sound.kept reference member
    rw [same, found] at kept
    exact ⟨reference, member, (Option.some.inj kept).symm⟩

theorem upgrade_some {key : Key} {handle : Nat} :
    registry.upgrade key = some handle ↔
      registry.named key = some handle ∧ registry.isLive handle = true := by
  simp [upgrade, Option.filter_eq_some_iff]

theorem Sound.upgrade_held (sound : registry.Sound) {reference : Reference Holder Key}
    (member : reference ∈ registry.held) : registry.upgrade reference.key = some reference.handle := by
  have found := sound.kept reference member
  exact upgrade_some.mpr ⟨found, (sound.live_iff found).mpr ⟨reference, member, rfl⟩⟩

/-- A key that nobody holds has no living object. -/
theorem Sound.upgrade_none (sound : registry.Sound) {key : Key}
    (absent : ∀ reference ∈ registry.held, reference.key ≠ key) : registry.upgrade key = none := by
  apply Option.eq_none_iff_forall_ne_some.mpr
  intro handle found
  obtain ⟨named, alive⟩ := upgrade_some.mp found
  obtain ⟨reference, member, same⟩ := (sound.live_iff named).mp alive
  exact absent reference member same

theorem Sound.upgrade_iff (sound : registry.Sound) {key : Key} :
    (registry.upgrade key).isSome = true ↔ ∃ reference ∈ registry.held, reference.key = key := by
  constructor
  · intro present
    obtain ⟨handle, found⟩ := Option.isSome_iff_exists.mp present
    obtain ⟨named, alive⟩ := upgrade_some.mp found
    exact (sound.live_iff named).mp alive
  · intro ⟨reference, member, same⟩
    rw [← same, sound.upgrade_held member]
    rfl

/-- What the registry is for. -/
def table (registry : Registry Holder Key Content) : SharedTable Holder Key Content where
  entries key := (registry.upgrade key).bind fun handle => registry.objects[handle]?
  holds := registry.held.map fun reference => (reference.holder, reference.key)

/-- A reference leads to the entry of its key. -/
theorem Sound.entry (sound : registry.Sound) {reference : Reference Holder Key}
    (member : reference ∈ registry.held) :
    registry.table.entries reference.key = registry.objects[reference.handle]? := by
  simp [table, sound.upgrade_held member]

section

variable [DecidableEq Holder]

theorem reference_mem {holder : Holder} {reference : Reference Holder Key}
    (found : registry.reference holder = some reference) :
    reference ∈ registry.held ∧ reference.holder = holder :=
  ⟨List.mem_of_find?_eq_some found, by simpa using List.find?_some found⟩

theorem keyOf_table (holder : Holder) :
    registry.table.keyOf holder = (registry.reference holder).map Reference.key := by
  simp only [SharedTable.keyOf, table, reference]
  rw [List.find?_map]
  simp [Function.comp_def]

end

theorem isHeld_table [DecidableEq Key] {key : Key} :
    registry.table.isHeld key = true ↔ ∃ reference ∈ registry.held, reference.key = key := by
  simp [SharedTable.isHeld, table]

/-- A reference to a living object changes nothing for the others. -/
theorem Sound.hold (sound : registry.Sound) {reference : Reference Holder Key}
    (found : registry.named reference.key = some reference.handle) :
    (registry.hold reference).Sound where
  kept other member := by
    cases member with
    | head => exact found
    | tail _ earlier => exact sound.kept other earlier
  bounded := sound.bounded
  injective := sound.injective

theorem Sound.sweep (sound : registry.Sound) : registry.sweep.Sound where
  kept _ member := sound.upgrade_held member
  bounded key handle found := sound.bounded key handle (upgrade_some.mp found).1
  injective key other handle found found' :=
    sound.injective key other handle (upgrade_some.mp found).1 (upgrade_some.mp found').1

theorem Sound.write (sound : registry.Sound) (handle : Nat) (change : Content → Content) :
    (registry.write handle change).Sound where
  kept := sound.kept
  bounded key other found := by
    change other < (registry.objects.modify handle change).length
    rw [List.length_modify]
    exact sound.bounded key other found
  injective := sound.injective

section

variable [DecidableEq Holder]

theorem mem_drop {holder : Holder} {reference : Reference Holder Key}
    (member : reference ∈ (registry.drop holder).held) : reference ∈ registry.held :=
  (List.mem_filter.mp member).1

theorem Sound.drop (sound : registry.Sound) (holder : Holder) : (registry.drop holder).Sound where
  kept reference member := sound.kept reference (mem_drop member)
  bounded := sound.bounded
  injective := sound.injective

end

section

variable [DecidableEq Key] {key : Key}

theorem create_named (holder : Holder) (fresh : Content) (other : Key) :
    (registry.create holder key fresh).named other =
      if other = key then some registry.objects.length else registry.named other := by
  exact Function.update_apply ..

/-- A key that nobody holds gets an object of its own. -/
theorem Sound.create (sound : registry.Sound) (absent : registry.upgrade key = none)
    (holder : Holder) (fresh : Content) : (registry.create holder key fresh).Sound where
  kept reference member := by
    rw [create_named]
    cases member with
    | head => exact if_pos rfl
    | tail _ earlier =>
      have different : reference.key ≠ key := by
        intro same
        rw [← same, sound.upgrade_held earlier] at absent
        cases absent
      rw [if_neg different]
      exact sound.kept reference earlier
  bounded other handle found := by
    rw [Option.mem_def, create_named] at found
    have grown : (registry.create holder key fresh).objects.length = registry.objects.length + 1 :=
      List.length_append
    rw [grown]
    by_cases same : other = key
    · rw [if_pos same] at found
      obtain rfl := Option.some.inj found
      exact Nat.lt_succ_self _
    · rw [if_neg same] at found
      exact Nat.lt_succ_of_lt (sound.bounded other handle found)
  injective left right handle found found' := by
    have unallocated : ∀ other, registry.named other ≠ some registry.objects.length :=
      fun other named => Nat.lt_irrefl _ (sound.bounded other _ named)
    rw [create_named] at found found'
    by_cases first : left = key
    · by_cases second : right = key
      · exact first.trans second.symm
      · rw [if_pos first] at found
        rw [if_neg second] at found'
        exact absurd (found'.trans found.symm) (unallocated right)
    · rw [if_neg first] at found
      by_cases second : right = key
      · rw [if_pos second] at found'
        exact absurd (found.trans found'.symm) (unallocated left)
      · rw [if_neg second] at found'
        exact sound.injective left right handle found found'

theorem Sound.acquire (sound : registry.Sound) (holder : Holder) (key : Key) (fresh : Content) :
    (registry.acquire holder key fresh).Sound := by
  unfold Registry.acquire
  cases found : registry.upgrade key with
  | some handle => exact sound.hold (upgrade_some.mp found).1
  | none => exact sound.create found holder fresh

theorem Sound.step [DecidableEq Holder] (sound : registry.Sound)
    {event : Sharing Holder Key Content} {after : Registry Holder Key Content}
    (stepped : registry.step event = some after) : after.Sound := by
  cases event with
  | sweep =>
    obtain rfl := Option.some.inj stepped
    exact sound.sweep
  | acquire holder key fresh =>
    simp only [Registry.step] at stepped
    split at stepped
    · cases stepped
    · obtain rfl := Option.some.inj stepped
      exact sound.acquire holder key fresh
  | copy holder source =>
    simp only [Registry.step] at stepped
    split at stepped
    · cases stepped
    · obtain ⟨reference, found, rfl⟩ := Option.map_eq_some_iff.mp stepped
      apply sound.hold
      exact sound.kept reference (reference_mem found).1
  | update holder change =>
    obtain ⟨reference, -, rfl⟩ := Option.map_eq_some_iff.mp stepped
    exact sound.write reference.handle change
  | release holder =>
    obtain rfl := Option.some.inj stepped
    exact sound.drop holder

end

/-! ### The registry implements the table -/

theorem table_sweep : registry.sweep.table = registry.table := by
  apply SharedTable.ext
  · intro key
    have swept : registry.sweep.upgrade key = registry.upgrade key := by
      change (Option.filter registry.isLive (registry.upgrade key)) = registry.upgrade key
      simp [upgrade, Option.filter_filter]
    simp only [table, swept]
    rfl
  · rfl

theorem hold_upgrade {reference : Reference Holder Key}
    (alive : registry.isLive reference.handle = true) (other : Key) :
    (registry.hold reference).upgrade other = registry.upgrade other := by
  have same : ∀ handle, (registry.hold reference).isLive handle = registry.isLive handle := by
    intro handle
    change (decide (reference.handle = handle) || registry.isLive handle) = registry.isLive handle
    by_cases equal : reference.handle = handle
    · subst equal
      simp [alive]
    · simp [equal]
  unfold upgrade
  rw [show (registry.hold reference).isLive = registry.isLive from funext same]
  rfl

theorem table_hold {reference : Reference Holder Key}
    (alive : registry.isLive reference.handle = true) :
    (registry.hold reference).table =
      { registry.table with holds := (reference.holder, reference.key) :: registry.table.holds } := by
  apply SharedTable.ext
  · intro key
    simp only [table, hold_upgrade alive]
    rfl
  · rfl

section

variable [DecidableEq Key] {key : Key}

theorem Sound.create_upgrade (sound : registry.Sound) (holder : Holder) (fresh : Content)
    {other : Key} (different : other ≠ key) :
    (registry.create holder key fresh).upgrade other = registry.upgrade other := by
  unfold upgrade
  rw [create_named, if_neg different]
  cases located : registry.named other with
  | none => rfl
  | some handle =>
    have older := sound.bounded other handle located
    have same : (registry.create holder key fresh).isLive handle = registry.isLive handle := by
      simp [isLive, Registry.create, Nat.ne_of_gt older]
    simp only [Option.filter, same]

theorem Sound.table_create (sound : registry.Sound) (absent : registry.upgrade key = none)
    (holder : Holder) (fresh : Content) :
    (registry.create holder key fresh).table = registry.table.acquire holder key fresh := by
  have blank : registry.table.entries key = none := by simp [table, absent]
  apply SharedTable.ext
  · intro other
    by_cases same : other = key
    · subst same
      have entry := (sound.create absent holder fresh).entry List.mem_cons_self
      rw [SharedTable.acquire_entries, if_pos rfl, blank, Option.getD_none]
      exact entry.trans List.getElem?_concat_length
    · rw [SharedTable.acquire_entries, if_neg same]
      simp only [table, sound.create_upgrade holder fresh same]
      cases located : registry.upgrade other with
      | none => rfl
      | some handle =>
        exact List.getElem?_append_left (sound.bounded other handle (upgrade_some.mp located).1)
  · rfl

theorem Sound.table_acquire (sound : registry.Sound) (holder : Holder) (key : Key)
    (fresh : Content) :
    (registry.acquire holder key fresh).table = registry.table.acquire holder key fresh := by
  unfold Registry.acquire
  cases found : registry.upgrade key with
  | none => exact sound.table_create found holder fresh
  | some handle =>
    obtain ⟨named, alive⟩ := upgrade_some.mp found
    have present := List.getElem?_eq_getElem (sound.bounded key handle named)
    have entry : registry.table.entries key = registry.objects[handle]? := by simp [table, found]
    rw [table_hold alive]
    apply SharedTable.ext
    · intro other
      rw [SharedTable.acquire_entries, entry, present, Option.getD_some]
      by_cases same : other = key
      · rw [if_pos same, same, ← present]
        exact entry
      · exact (if_neg same).symm
    · rfl

theorem Sound.table_write (sound : registry.Sound) {reference : Reference Holder Key}
    (member : reference ∈ registry.held) (change : Content → Content) :
    (registry.write reference.handle change).table = registry.table.write reference.key change := by
  have found := sound.upgrade_held member
  apply SharedTable.ext
  · intro other
    rw [SharedTable.write_entries]
    change (registry.upgrade other).bind _ = _
    by_cases same : other = reference.key
    · subst same
      rw [if_pos rfl, sound.entry member, found]
      exact List.getElem?_modify_eq change reference.handle registry.objects
    · rw [if_neg same]
      simp only [table]
      cases located : registry.upgrade other with
      | none => rfl
      | some handle =>
        have different : reference.handle ≠ handle := by
          intro equal
          have named := (upgrade_some.mp located).1
          exact same (sound.injective _ _ _ named (equal ▸ (upgrade_some.mp found).1))
        exact List.getElem?_modify_ne change registry.objects different
  · rfl

end

section

variable [DecidableEq Holder]

theorem holds_drop (holder : Holder) :
    (registry.drop holder).table.holds =
      registry.table.holds.filter fun entry => entry.1 ≠ holder := by
  simp only [table, List.filter_map]
  rfl

variable [DecidableEq Key]

theorem Sound.table_drop (sound : registry.Sound) (holder : Holder) :
    (registry.drop holder).table = registry.table.drop holder := by
  have dropped := sound.drop holder
  apply SharedTable.ext
  · intro key
    have isHeld : ({ registry.table with
        holds := registry.table.holds.filter fun entry => entry.1 ≠ holder } :
          SharedTable Holder Key Content).isHeld key = (registry.drop holder).table.isHeld key := by
      simp only [SharedTable.isHeld, holds_drop]
    simp only [SharedTable.drop, isHeld]
    split
    · rename_i stays
      obtain ⟨reference, member, rfl⟩ := isHeld_table.mp stays
      rw [dropped.entry member, sound.entry (mem_drop member)]
      rfl
    · rename_i gone
      have absent : (registry.drop holder).upgrade key = none := by
        apply dropped.upgrade_none
        intro reference member same
        exact gone (isHeld_table.mpr ⟨reference, member, same⟩)
      simp [table, absent]
  · exact holds_drop holder

/-- Every step of the registry is the step of its table. -/
theorem Sound.step_table (sound : registry.Sound) (event : Sharing Holder Key Content) :
    (registry.step event).map table = registry.table.step event := by
  cases event with
  | sweep => exact congrArg some table_sweep
  | acquire holder key fresh =>
    simp only [Registry.step, SharedTable.step, keyOf_table, Option.isSome_map]
    split
    · rfl
    · exact congrArg some (sound.table_acquire holder key fresh)
  | copy holder source =>
    simp only [Registry.step, SharedTable.step, keyOf_table, Option.isSome_map]
    split
    · rfl
    · cases found : registry.reference source with
      | none => rfl
      | some reference =>
        have member := (reference_mem found).1
        have alive := (upgrade_some.mp (sound.upgrade_held member)).2
        exact congrArg some (@table_hold _ _ _ registry { reference with holder } alive)
  | update holder change =>
    simp only [Registry.step, SharedTable.step, keyOf_table]
    cases found : registry.reference holder with
    | none => rfl
    | some reference => exact congrArg some (sound.table_write (reference_mem found).1 change)
  | release holder => exact congrArg some (sound.table_drop holder)

end

end

end Registry

/-- A table from which nothing is removed: the content of a key that nobody
holds is out of date, and its next holder replaces it. -/
structure LazyTable (Holder : Type u) (Key : Type v) (Content : Type w) where
  contents : Key → Content
  holds : List (Holder × Key)

namespace LazyTable

section

variable [DecidableEq Key] (table : LazyTable Holder Key Content)

def isHeld (key : Key) : Bool := table.holds.any fun entry => entry.2 = key

def acquire (holder : Holder) (key : Key) (fresh : Content) : LazyTable Holder Key Content where
  contents :=
    if table.isHeld key then table.contents else Function.update table.contents key fresh
  holds := (holder, key) :: table.holds

def write (key : Key) (change : Content → Content) : LazyTable Holder Key Content :=
  { table with contents := Function.update table.contents key (change (table.contents key)) }

/-- The contents that are up to date. -/
def shared : SharedTable Holder Key Content where
  entries key := if table.isHeld key then some (table.contents key) else none
  holds := table.holds

variable [DecidableEq Holder]

def keyOf (holder : Holder) : Option Key := table.shared.keyOf holder

def step : Sharing Holder Key Content → Option (LazyTable Holder Key Content)
  | .sweep => some table
  | .acquire holder key fresh =>
    if (table.keyOf holder).isSome then none else some (table.acquire holder key fresh)
  | .copy holder source =>
    if (table.keyOf holder).isSome then none
    else (table.keyOf source).map fun key => { table with holds := (holder, key) :: table.holds }
  | .update holder change => (table.keyOf holder).map fun key => table.write key change
  | .release holder =>
    some { table with holds := table.holds.filter fun entry => entry.1 ≠ holder }

end

section

variable [DecidableEq Key] {table : LazyTable Holder Key Content} {holder : Holder} {key : Key}

theorem acquire_contents {fresh : Content} (other : Key) :
    (table.acquire holder key fresh).contents other =
      if other = key ∧ table.isHeld key = false then fresh else table.contents other := by
  by_cases held : table.isHeld key = true
  · simp [acquire, held]
  · by_cases same : other = key
    · subst same
      simp [acquire, held]
    · simp [acquire, held, same]

theorem shared_acquire (fresh : Content) :
    (table.acquire holder key fresh).shared = table.shared.acquire holder key fresh := by
  apply SharedTable.ext
  · intro other
    have entry : (table.acquire holder key fresh).shared.entries other =
        if (decide (key = other) || table.isHeld other) = true then
          some ((table.acquire holder key fresh).contents other) else none := rfl
    rw [entry, acquire_contents, SharedTable.acquire_entries]
    by_cases same : other = key
    · subst same
      by_cases held : table.isHeld other = true
      · simp [shared, held]
      · simp [shared, held]
    · simp [shared, same, Ne.symm same]
  · rfl

theorem shared_hold (held : table.isHeld key = true) :
    ({ table with holds := (holder, key) :: table.holds } : LazyTable Holder Key Content).shared =
      { table.shared with holds := (holder, key) :: table.shared.holds } := by
  apply SharedTable.ext
  · intro other
    change (if (decide (key = other) || table.isHeld other) = true then _ else none) =
      if table.isHeld other = true then _ else none
    by_cases same : key = other
    · subst same
      simp [held]
    · simp [same]
  · rfl

theorem shared_write (change : Content → Content) :
    (table.write key change).shared = table.shared.write key change := by
  apply SharedTable.ext
  · intro other
    rw [SharedTable.write_entries]
    change (if table.isHeld other = true then _ else none) = _
    by_cases same : other = key
    · subst same
      by_cases held : table.isHeld other = true
      · simp [shared, write, held]
      · simp [shared, held]
    · simp [shared, write, same]
  · rfl

variable [DecidableEq Holder]

theorem shared_release (holder : Holder) :
    ({ table with holds := table.holds.filter fun entry => entry.1 ≠ holder } :
      LazyTable Holder Key Content).shared = table.shared.drop holder := by
  apply SharedTable.ext
  · intro key
    change (if (table.holds.filter fun entry => entry.1 ≠ holder).any _ = true then _ else none) =
      if (table.holds.filter fun entry => entry.1 ≠ holder).any _ = true then
        (if table.isHeld key = true then _ else none) else none
    split
    · rename_i stays
      have held : table.isHeld key = true := by
        obtain ⟨entry, member, same⟩ := List.any_eq_true.mp stays
        exact List.any_eq_true.mpr ⟨entry, (List.mem_filter.mp member).1, same⟩
      exact (if_pos held).symm
    · rfl
  · rfl

theorem shared_keyOf (table : LazyTable Holder Key Content) (holder : Holder) :
    table.shared.keyOf holder = table.keyOf holder :=
  rfl

/-- Up to date, the lazy table is the shared one. -/
theorem step_shared (table : LazyTable Holder Key Content) (event : Sharing Holder Key Content) :
    (table.step event).map shared = table.shared.step event := by
  cases event with
  | sweep => rfl
  | acquire holder key fresh =>
    cases busy : table.keyOf holder with
    | some _ => simp [LazyTable.step, SharedTable.step, shared_keyOf, busy]
    | none => simp [LazyTable.step, SharedTable.step, shared_keyOf, busy, shared_acquire]
  | copy holder source =>
    cases busy : table.keyOf holder with
    | some _ => simp [LazyTable.step, SharedTable.step, shared_keyOf, busy]
    | none =>
      cases found : table.keyOf source with
      | none => simp [LazyTable.step, SharedTable.step, shared_keyOf, busy, found]
      | some key =>
        have held := SharedTable.isHeld_of_keyOf found
        simp [LazyTable.step, SharedTable.step, shared_keyOf, busy, found, shared_hold held]
  | update holder change =>
    simp only [LazyTable.step, SharedTable.step, shared_keyOf]
    cases table.keyOf holder with
    | none => rfl
    | some key => exact congrArg some (shared_write change)
  | release holder => exact congrArg some (shared_release holder)

end

end LazyTable

/-- The objects of the registry, seen through the references, are the contents
of the lazy table. -/
structure Registry.Mirrors [DecidableEq Key] (registry : Registry Holder Key Content)
    (table : LazyTable Holder Key Content) : Prop where
  sound : registry.Sound
  same : registry.table = table.shared

section

variable [DecidableEq Key] {registry : Registry Holder Key Content}
  {table : LazyTable Holder Key Content}

/-- What a reference leads to. -/
theorem Registry.Mirrors.content (mirrors : registry.Mirrors table)
    {reference : Reference Holder Key} (member : reference ∈ registry.held) :
    registry.objects[reference.handle]? = some (table.contents reference.key) := by
  have held : table.isHeld reference.key = true := by
    have present : registry.table.isHeld reference.key = true :=
      isHeld_table.mpr ⟨reference, member, rfl⟩
    rw [mirrors.same] at present
    exact present
  rw [← mirrors.sound.entry member, mirrors.same]
  exact if_pos held

theorem Registry.simulates [DecidableEq Holder] :
    Simulates (fun (registry : Registry Holder Key Content) event => registry.step event)
      (fun table event => table.step event) Registry.Mirrors := by
  intro registry table event after mirrors stepped
  change registry.step event = some after at stepped
  have seen := mirrors.sound.step_table event
  rw [stepped, mirrors.same, ← table.step_shared event] at seen
  obtain ⟨after', stepped', same⟩ := Option.map_eq_some_iff.mp seen.symm
  exact ⟨after', stepped', mirrors.sound.step stepped, same.symm⟩

end

end RocqMcp.Library
