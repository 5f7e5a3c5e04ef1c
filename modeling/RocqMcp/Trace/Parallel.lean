import RocqMcp.Trace.Matching

/-! Two commands of a trace that run at the same time, and the unordered pair of
their outputs. -/

namespace RocqMcp

inductive TraceError where
  | parse (line : Nat) (message : String)
  | lifecycle (line : Nat) (message : String)
  | transport (line : Nat) (user message : String)
  | outputMismatch (line : Nat) (expected actual : Value)

def Value.asObject : Value → Option (List (String × Value))
  | .object fields => some fields
  | _ => none

/-- What `validate_event` checks of the expected output. -/
def validateExpected (line : Nat) (parallelGroup : Option String) (expected : Value) :
    Except TraceError Unit :=
  if expected.asObject.isNone then .error (.parse line "expected must be a JSON object")
  else if parallelGroup.any fun group => trim group = "" then
    .error (.parse line "parallel_group must be non-empty")
  else
    match expected.get? "$one_of" with
    | none => .ok ()
    | some alternatives =>
      let choices := alternatives.asArray.getD []
      if parallelGroup.isNone || expected.keys.length ≠ 1 || choices.isEmpty ||
          choices.any fun item => item.asObject.isNone then
        .error (.parse line
          "expected $one_of requires a parallel group and a non-empty array of objects")
      else .ok ()

/-- `assert_output`. -/
def assertOutput (decimals : Decimals) (line : Nat) (expected actual : Value) :
    Except TraceError Unit :=
  if outputMatches decimals expected actual then .ok ()
  else .error (.outputMismatch line expected actual)

/-- A JSON value in memory. -/
structure JsonValue where
  value : Value
  unique : value.KeysUnique
  fits : value.parts.length < 2 ^ 63

structure TraceCommand where
  line : Nat
  user : String
  expected : JsonValue
  parallelGroup : Option String
  valid : validateExpected line parallelGroup expected.value = .ok ()

/-- The array of alternatives. -/
def Value.oneOf? (expected : Value) : Option (List Value) :=
  (expected.get? "$one_of").bind Value.asArray

/-- The closure `matches` of `execute_parallel`. -/
def matchesParallel (decimals : Decimals) (expected actual : Value) : Bool :=
  match expected.oneOf? with
  | some choices => choices.any fun choice => choice.same decimals actual
  | none => expected.same decimals actual

/-- `execute_parallel`, with the results of both calls. -/
def executeParallel (decimals : Decimals) (connected : String → Bool)
    (first second : TraceCommand) (called called' : Except TraceError JsonValue) :
    Except TraceError Unit :=
  if first.user = second.user then
    .error (.lifecycle second.line "parallel commands require distinct users")
  else if !connected first.user then
    .error (.lifecycle first.line s!"user '{first.user}' is not connected")
  else if !connected second.user then
    .error (.lifecycle second.line s!"user '{second.user}' is not connected")
  else do
    let actual ← called
    let actual' ← called'
    let expected := first.expected.value
    let expected' := second.expected.value
    if (matchesParallel decimals expected actual.value &&
          matchesParallel decimals expected' actual'.value) ||
        (matchesParallel decimals expected actual'.value &&
          matchesParallel decimals expected' actual.value) then
      .ok ()
    else
      .error (.outputMismatch first.line (.array [expected, expected'])
        (.array [actual.value, actual'.value]))

/-- The sequential matcher accepts the output for the value or for one of its alternatives. -/
def Accepted (decimals : Decimals) (expected actual : Value) : Prop :=
  match expected.oneOf? with
  | some choices => ∃ choice ∈ choices, outputMatches decimals choice actual = true
  | none => outputMatches decimals expected actual = true

/-- Some assignment of the outputs to the commands is accepted. -/
def Assigned (decimals : Decimals) (first second : TraceCommand) (actual actual' : JsonValue) :
    Prop :=
  (Accepted decimals first.expected.value actual.value ∧
      Accepted decimals second.expected.value actual'.value) ∨
    (Accepted decimals first.expected.value actual'.value ∧
      Accepted decimals second.expected.value actual.value)

/-- A group of commands passes exactly on the outputs that the sequential matcher
accepts in some order. -/
def ParallelAgrees (decimals : Decimals) (first second : TraceCommand) : Prop :=
  ∀ connected : String → Bool, connected first.user = true → connected second.user = true →
    ∀ actual actual',
      executeParallel decimals connected first second (.ok actual) (.ok actual') = .ok () ↔
        Assigned decimals first second actual actual'

variable {decimals : Decimals}

section

variable {expected actual choice : Value} {choices : List Value}

theorem oneOf?_some (found : expected.oneOf? = some choices) :
    expected.get? "$one_of" = some (.array choices) := by
  obtain ⟨value, got, array⟩ := Option.bind_eq_some_iff.mp found
  cases value with
  | array items => rwa [← Option.some.inj array]
  | _ => cases array

theorem parts_choice (found : expected.oneOf? = some choices) (member : choice ∈ choices)
    {part : Value} (inside : part ∈ choice.parts) : part ∈ expected.parts := by
  have got := oneOf?_some found
  cases expected with
  | object fields =>
    exact Value.parts_field (Value.mem_of_get? got) (Value.parts_item member inside)
  | _ => cases got

theorem hasMarker_choice (plain : expected.hasMarker = false) (found : expected.oneOf? = some choices)
    (member : choice ∈ choices) : choice.hasMarker = false := by
  rw [Value.hasMarker, List.any_eq_false] at plain ⊢
  exact fun part inside => plain part (parts_choice found member inside)

/-- Without markers both comparisons are the same. -/
theorem matchesParallel_plain (plain : expected.hasMarker = false) :
    matchesParallel decimals expected actual = true ↔ Accepted decimals expected actual := by
  unfold matchesParallel Accepted
  cases found : expected.oneOf? with
  | none =>
    simp only
    rw [Value.outputMatches_plain plain]
  | some choices =>
    simp only [List.any_eq_true]
    refine exists_congr fun choice => and_congr_right fun member => ?_
    rw [Value.outputMatches_plain (hasMarker_choice plain found member)]

/-- An output with a number that the expected value does not have is no match. -/
theorem matchesParallel_fresh {expected actual : JsonValue} {number : Int}
    (fresh : Value.number number ∉ expected.value.parts)
    (member : Value.number number ∈ actual.value.parts) :
    matchesParallel decimals expected.value actual.value = false := by
  by_contra found
  have matched := eq_true_of_ne_false found
  unfold matchesParallel at matched
  split at matched
  · rename_i choices oneOf
    obtain ⟨choice, present, equal⟩ := List.any_eq_true.mp matched
    have unique : choice.KeysUnique := fun part inside =>
      expected.unique part (parts_choice oneOf present inside)
    exact fresh (parts_choice oneOf present
      (Value.same_numbers equal unique actual.unique member))
  · exact fresh (Value.same_numbers matched expected.unique actual.unique member)

end

/-- The parser accepts alternatives as the only field, and at least one of them. -/
theorem TraceCommand.oneOf_only (command : TraceCommand) {choices : List Value}
    (found : command.expected.value.oneOf? = some choices) :
    command.expected.value = .object [("$one_of", .array choices)] ∧ choices ≠ [] := by
  have got := oneOf?_some found
  have valid := command.valid
  rw [validateExpected, got] at valid
  cases whole : command.expected.value with
  | object fields =>
    rw [whole] at valid got
    have object : (Value.object fields).asObject = some fields := rfl
    have array : (Value.array choices).asArray = some choices := rfl
    simp only [object, array, Option.isNone_some, Option.getD_some, Bool.false_eq_true, if_false]
      at valid
    split at valid
    · cases valid
    · simp only [ite_eq_right_iff, reduceCtorEq, imp_false, Bool.or_eq_true, decide_eq_true_iff,
        not_or] at valid
      have single : fields.length = 1 := by simpa [Value.keys] using valid.1.1.2
      obtain ⟨field, rfl⟩ := List.length_eq_one_iff.mp single
      have only := List.mem_singleton.mp (Value.mem_of_get? got)
      exact ⟨by rw [only], by simpa using valid.1.2⟩
  | _ => rw [whole] at got; cases got

/-- An output for one value that the matcher accepts it for. -/
theorem exists_instance {expected : JsonValue} {choice : Value} {number : Nat} (positive : 0 < number)
    (bounded : number < 2 ^ 64) (inside : choice.parts.Sublist expected.value.parts) :
    ∃ actual : JsonValue, outputMatches decimals choice actual.value = true ∧
      (choice.hasMarker = true → Value.number number ∈ actual.value.parts) := by
  have unique : choice.KeysUnique := fun part member => expected.unique part (inside.subset member)
  have fits : (choice.instantiate number).parts.length < 2 ^ 63 :=
    Nat.lt_of_le_of_lt (Nat.le_trans Value.length_instantiate inside.length_le) expected.fits
  exact ⟨⟨choice.instantiate number, unique.instantiate, fits⟩,
    Value.outputMatches_instantiate positive bounded unique, Value.mem_instantiate⟩

/-- A valid expected value accepts some output: one with the number wherever it
has a marker. -/
theorem TraceCommand.exists_accepted (command : TraceCommand) (number : Nat) (positive : 0 < number)
    (bounded : number < 2 ^ 64) : ∃ actual : JsonValue,
      Accepted decimals command.expected.value actual.value ∧
        (command.expected.value.hasMarker = true → Value.number number ∈ actual.value.parts) := by
  unfold Accepted
  cases found : command.expected.value.oneOf? with
  | none => exact exists_instance positive bounded (List.Sublist.refl _)
  | some choices =>
    obtain ⟨whole, some⟩ := command.oneOf_only found
    have marked : command.expected.value.hasMarker = choices.any Value.hasMarker := by
      rw [whole, Value.hasMarker_object, List.any_cons, List.any_nil, Bool.or_false,
        Value.hasMarker_array]
      rfl
    have chosen : ∃ choice ∈ choices,
        choices.any Value.hasMarker = true → choice.hasMarker = true := by
      by_cases any : choices.any Value.hasMarker = true
      · obtain ⟨choice, member, marked⟩ := List.any_eq_true.mp any
        exact ⟨choice, member, fun _ => marked⟩
      · obtain ⟨choice, rest, rfl⟩ := List.exists_cons_of_ne_nil some
        exact ⟨choice, List.mem_cons_self, fun marked => absurd marked any⟩
    obtain ⟨choice, member, same⟩ := chosen
    have inside : choice.parts.Sublist command.expected.value.parts := by
      obtain ⟨early, late, rfl⟩ := List.append_of_mem member
      have flat : choice.parts.Sublist ((early ++ choice :: late).flatMap Value.parts) := by
        rw [List.flatMap_append, List.flatMap_cons]
        exact (List.sublist_append_left _ _).trans (List.sublist_append_right _ _)
      rw [whole, Value.parts_object, List.flatMap_cons, List.flatMap_nil, List.append_nil,
        Value.parts_array]
      exact (flat.cons _).cons _
    obtain ⟨actual, matched, has⟩ := exists_instance positive bounded inside
    exact ⟨actual, ⟨choice, member, matched⟩, fun any => has (same (marked ▸ any))⟩

theorem executeParallel_ok {first second : TraceCommand} {connected : String → Bool}
    {actual actual' : JsonValue} (distinct : first.user ≠ second.user)
    (here : connected first.user = true) (here' : connected second.user = true) :
    executeParallel decimals connected first second (.ok actual) (.ok actual') = .ok () ↔
      (matchesParallel decimals first.expected.value actual.value = true ∧
          matchesParallel decimals second.expected.value actual'.value = true) ∨
        (matchesParallel decimals first.expected.value actual'.value = true ∧
          matchesParallel decimals second.expected.value actual.value = true) := by
  rw [← Bool.and_eq_true_iff, ← Bool.and_eq_true_iff, ← Bool.or_eq_true_iff]
  rw [executeParallel, if_neg distinct, here, here']
  simp only [Bool.not_true, Bool.false_eq_true, if_false, bind, Except.bind]
  split <;> simp_all

/-- The group agrees with the sequential matcher exactly if it has no markers. -/
theorem parallelAgrees_iff (decimals : Decimals) (first second : TraceCommand)
    (distinct : first.user ≠ second.user) :
    ParallelAgrees decimals first second ↔
      first.expected.value.hasMarker = false ∧ second.expected.value.hasMarker = false := by
  constructor
  · intro agrees
    let values := first.expected.value.parts ++ second.expected.value.parts
    have short : values.length < 2 ^ 64 - 1 := by
      have fits := first.expected.fits
      have fits' := second.expected.fits
      rw [List.length_append]
      omega
    obtain ⟨number, positive, bounded, fresh⟩ := Value.exists_fresh values short
    rw [List.mem_append, not_or] at fresh
    obtain ⟨actual, accepted, has⟩ := first.exists_accepted number positive (by omega)
    obtain ⟨actual', accepted', has'⟩ := second.exists_accepted number positive (by omega)
    have passed := (executeParallel_ok distinct rfl rfl).mp
      ((agrees (fun _ => true) rfl rfl actual actual').mpr (.inl ⟨accepted, accepted'⟩))
    constructor
    · by_contra marked
      have inside := has (eq_true_of_ne_false marked)
      rw [matchesParallel_fresh fresh.1 inside, matchesParallel_fresh fresh.2 inside] at passed
      simp at passed
    · by_contra marked
      have inside := has' (eq_true_of_ne_false marked)
      rw [matchesParallel_fresh fresh.1 inside, matchesParallel_fresh fresh.2 inside] at passed
      simp at passed
  · rintro ⟨plain, plain'⟩ connected here here' actual actual'
    rw [executeParallel_ok distinct here here', Assigned]
    simp only [matchesParallel_plain plain, matchesParallel_plain plain']

/-- A command of the user in a group of two; `value` stands for the checkpoint of its output. -/
def sampleCommand (user : String) (value : Value)
    (unique : (Value.object [("checkpoint", value)]).parts.all
      (fun part => decide part.keys.Nodup) = true)
    (fits : (Value.object [("checkpoint", value)]).parts.length < 2 ^ 63) : TraceCommand where
  line := 1
  user := user
  expected :=
    { value := .object [("checkpoint", value)]
      unique := fun part inside => of_decide_eq_true (List.all_eq_true.mp unique part inside)
      fits }
  parallelGroup := some "race"
  valid := by
    have named : (some "race").any (fun group => decide (trim group = "")) = false := by
      decide +kernel
    rw [validateExpected, named]
    rfl

/-- The expected output has the marker for its checkpoint. -/
def expectsMarker (user : String) : TraceCommand :=
  sampleCommand user (.object [("$checkpoint", .bool true)]) (by decide) (by decide)

def expectsNumber (user : String) : TraceCommand :=
  sampleCommand user (.number 1) (by decide) (by decide)

/-- Numbers in place of the markers. -/
theorem parallelAgrees_iff_numbers :
    ParallelAgrees .written (expectsNumber "alice") (expectsNumber "bob") :=
  (parallelAgrees_iff .written (expectsNumber "alice") (expectsNumber "bob") (by decide)).mpr
    ⟨by decide, by decide⟩

/-- Two commands expect the marker, and both outputs have a checkpoint. -/
theorem parallel_marker_rejected :
    ¬ ParallelAgrees .written (expectsMarker "alice") (expectsMarker "bob") := by
  intro agrees
  let actual := (expectsNumber "alice").expected
  have accepted :
      outputMatches .written (expectsMarker "alice").expected.value actual.value = true := by
    decide
  have passed := (agrees (fun _ => true) rfl rfl actual actual).mpr (.inl ⟨accepted, accepted⟩)
  cases passed

end RocqMcp
