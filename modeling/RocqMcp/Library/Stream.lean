import RocqMcp.Library.Action

/-! A reader of a stream that arrives in pieces. What a bounded read returns
depends on the elements that arrive before the first fault, and not on how they
are cut into pieces. -/

namespace RocqMcp.Library

variable {α Signal ε : Type}

/-- What one wait for more input brings. An empty piece is the end. -/
inductive Delivery (α Signal : Type) where
  | piece (content : List α)
  | signal (signal : Signal)

def Delivery.content : Delivery α Signal → List α
  | .piece content => content
  | .signal _ => []

/-- The elements that arrive before the end or the first signal that stops the
reader. -/
def delivered (stops : Signal → Bool) : List (Delivery α Signal) → List α
  | [] => []
  | .piece [] :: _ => []
  | .piece (head :: tail) :: rest => (head :: tail) ++ delivered stops rest
  | .signal signal :: rest => if stops signal then [] else delivered stops rest

structure Reader (α Signal : Type) where
  buffer : List α
  deliveries : List (Delivery α Signal)

namespace Reader

/-- Everything that the reader has not handed out yet. -/
def unread (reader : Reader α Signal) : List α :=
  reader.buffer ++ reader.deliveries.flatMap Delivery.content

/-- The part of it that no fault precedes. -/
def prompt (stops : Signal → Bool) (reader : Reader α Signal) : List α :=
  reader.buffer ++ delivered stops reader.deliveries

/-- From one reader to the other exactly these elements were handed out. -/
structure Consumes (stops : Signal → Bool) (taken : List α) (reader reader' : Reader α Signal) :
    Prop where
  unread : reader.unread = taken ++ reader'.unread
  prompt : reader.prompt stops = taken ++ reader'.prompt stops

namespace Consumes

variable {stops : Signal → Bool} {first second : List α} {a b c : Reader α Signal}

theorem refl : Consumes stops [] a a := ⟨rfl, rfl⟩

theorem trans (left : Consumes stops first a b) (right : Consumes stops second b c) :
    Consumes stops (first ++ second) a c where
  unread := by rw [left.unread, right.unread, List.append_assoc]
  prompt := by rw [left.prompt, right.prompt, List.append_assoc]

end Consumes

/-- Move what is buffered to the output, then wait for the next piece. -/
def fill (heed : Signal → Option ε) (ended : ε)
    (deliveries : List (Delivery α Signal)) (needed : Nat) (output buffer : List α) :
    Except ε (List α) × Reader α Signal :=
  if needed ≤ buffer.length then
    (.ok (output ++ buffer.take needed), { buffer := buffer.drop needed, deliveries })
  else
    match deliveries with
    | [] => (.error ended, { buffer := [], deliveries := [] })
    | .piece [] :: rest => (.error ended, { buffer := [], deliveries := rest })
    | .piece (head :: tail) :: rest =>
      fill heed ended rest (needed - buffer.length) (output ++ buffer) (head :: tail)
    | .signal signal :: rest =>
      match heed signal with
      | some error => (.error error, { buffer := [], deliveries := rest })
      | none => fill heed ended rest (needed - buffer.length) (output ++ buffer) []

/-- Read a block of the given length. -/
def read (heed : Signal → Option ε) (ended : ε) (length : Nat) :
    Act (Reader α Signal) ε (List α) := fun reader =>
  fill heed ended reader.deliveries length [] reader.buffer

/-- Read up to an element, one at a time; `fuel` bounds how many are read. -/
def readUntil [DecidableEq α] (heed : Signal → Option ε) (ended overflow : ε) (last : α) :
    Nat → List α → Act (Reader α Signal) ε (List α)
  | 0, _ => .throw overflow
  | fuel + 1, line => do
    let block ← read heed ended 1
    if block = [last] then return line ++ block
    else readUntil heed ended overflow last fuel (line ++ block)

/-- The outcome of filling a block: exactly the next elements, or fewer than
needed arrive. -/
def Filled (stops : Signal → Bool) (bad : ε → Prop) (needed : Nat) (output : List α)
    (reader : Reader α Signal) : Except ε (List α) × Reader α Signal → Prop
  | (.ok block, reader') => ∃ taken, block = output ++ taken ∧ taken.length = needed ∧
      Consumes stops taken reader reader'
  | (.error error, _) => (reader.prompt stops).length < needed ∧ bad error

section

variable {stops : Signal → Bool} {heed : Signal → Option ε} {ended : ε} {bad : ε → Prop}
  {deliveries : List (Delivery α Signal)} {needed : Nat} {output buffer : List α}

theorem Filled.buffered (fits : needed ≤ buffer.length) :
    Filled stops bad needed output { buffer, deliveries }
      (.ok (output ++ buffer.take needed), { buffer := buffer.drop needed, deliveries }) := by
  refine ⟨buffer.take needed, rfl, List.length_take_of_le fits, ?_, ?_⟩
  · simp only [Reader.unread, ← List.append_assoc, List.take_append_drop]
  · simp only [Reader.prompt, ← List.append_assoc, List.take_append_drop]

/-- The buffer is handed out, and filling goes on with what arrives. -/
theorem Filled.later {delivery : Delivery α Signal} {result : Except ε (List α) × Reader α Signal}
    (short : ¬ needed ≤ buffer.length)
    (flows : delivered stops (delivery :: deliveries) = delivery.content ++ delivered stops deliveries)
    (rest : Filled stops bad (needed - buffer.length) (output ++ buffer)
      { buffer := delivery.content, deliveries } result) :
    Filled stops bad needed output { buffer, deliveries := delivery :: deliveries } result := by
  have moved : Consumes stops buffer { buffer, deliveries := delivery :: deliveries }
      { buffer := delivery.content, deliveries } := by
    constructor
    · simp [Reader.unread]
    · simp only [Reader.prompt, flows]
  rcases result with ⟨block | error, reader'⟩
  · obtain ⟨few, wrong⟩ := rest
    refine ⟨?_, wrong⟩
    rw [moved.prompt, List.length_append]
    omega
  · obtain ⟨taken, rfl, length, consumed⟩ := rest
    refine ⟨buffer ++ taken, List.append_assoc .., ?_, moved.trans consumed⟩
    rw [List.length_append]
    omega

theorem Filled.starved {error : ε} {reader reader' : Reader α Signal}
    (short : ¬ needed ≤ buffer.length) (empty : delivered stops reader.deliveries = [])
    (same : reader.buffer = buffer) (wrong : bad error) :
    Filled stops bad needed output reader (.error error, reader') := by
  refine ⟨?_, wrong⟩
  rw [Reader.prompt, empty, List.append_nil, same]
  omega

variable (heeds : ∀ signal, stops signal = (heed signal).isSome) (atEnd : bad ended)
  (atFault : ∀ signal error, heed signal = some error → bad error)

include heeds atEnd atFault

theorem fill_filled (deliveries : List (Delivery α Signal)) (needed : Nat) (output buffer : List α) :
    Filled stops bad needed output { buffer, deliveries }
      (fill heed ended deliveries needed output buffer) := by
  induction deliveries generalizing needed output buffer with
  | nil =>
    unfold fill
    split
    case isTrue fits => exact .buffered fits
    case isFalse short => exact .starved short rfl rfl atEnd
  | cons delivery rest ih =>
    unfold fill
    split
    case isTrue fits => exact .buffered fits
    case isFalse short =>
      match delivery with
      | .piece [] => exact .starved short rfl rfl atEnd
      | .piece (head :: tail) => exact .later short rfl (ih ..)
      | .signal signal =>
        dsimp only
        cases heeded : heed signal with
        | some error =>
          refine .starved short ?_ rfl (atFault signal error heeded)
          simp only [delivered, heeds, heeded, Option.isSome_some, if_true]
        | none =>
          refine .later short ?_ (ih ..)
          simp only [delivered, heeds, heeded, Delivery.content, List.nil_append]
          rfl

variable (bad)

theorem read_triple (length : Nat) (reader : Reader α Signal) :
    Triple (· = reader) (read heed ended length)
      (fun block reader' => block.length = length ∧ Consumes stops block reader reader')
      (fun error _ => (reader.prompt stops).length < length ∧ bad error) := by
  rintro start rfl
  have filled := fill_filled heeds atEnd atFault start.deliveries length [] start.buffer
  unfold read
  rcases ran : fill heed ended start.deliveries length [] start.buffer with
    ⟨error | block, reader'⟩
  · rw [ran] at filled
    exact filled
  · rw [ran] at filled
    obtain ⟨taken, rfl, length, consumed⟩ := filled
    exact ⟨length, consumed⟩

/-- The next elements up to the first `last`, unless fewer than `fuel` of them
arrive without one. -/
theorem readUntil_triple [DecidableEq α] {overflow : ε} (tooLong : bad overflow) (last : α)
    (fuel : Nat) (line : List α) (reader : Reader α Signal) :
    Triple (· = reader) (readUntil heed ended overflow last fuel line)
      (fun line' reader' => ∃ body, last ∉ body ∧ line' = line ++ (body ++ [last]) ∧
        Consumes stops (body ++ [last]) reader reader')
      (fun error _ => (∀ body rest, last ∉ body → body.length < fuel →
        reader.prompt stops ≠ body ++ last :: rest) ∧ bad error) := by
  induction fuel generalizing line reader with
  | zero => exact .throw fun _ _ => ⟨fun _ _ _ few => absurd few (Nat.not_lt_zero _), tooLong⟩
  | succ fuel ih =>
    unfold readUntil
    refine .bind (.weaken (read_triple bad heeds atEnd atFault 1 reader) (fun _ => id) (fun _ _ => id) ?_) ?_
    · rintro error state ⟨few, wrong⟩
      refine ⟨fun body rest _ _ same => ?_, wrong⟩
      rw [same, List.length_append, List.length_cons] at few
      omega
    · intro block
      refine .each_state fun middle ⟨single, consumed⟩ => .ite (fun isLast => ?_) fun other => ?_
      · subst isLast
        refine .pure ?_
        rintro _ rfl
        exact ⟨[], List.not_mem_nil, rfl, consumed⟩
      · obtain ⟨head, rfl⟩ := List.length_eq_one_iff.mp single
        have different : last ≠ head := fun same => other (same ▸ rfl)
        refine .weaken (ih (line ++ [head]) middle) (fun _ => id) ?_ ?_
        · rintro line' after ⟨body, absent, rfl, later⟩
          refine ⟨head :: body, ?_, List.append_assoc .., consumed.trans later⟩
          exact List.not_mem_cons_of_ne_of_not_mem different absent
        · rintro error _ ⟨missing, wrong⟩
          refine ⟨fun body rest absent short same => ?_, wrong⟩
          rw [consumed.prompt] at same
          cases body with
          | nil => exact different (List.cons.inj same).1.symm
          | cons first body =>
            obtain ⟨rfl, tails⟩ := List.cons.inj same
            refine missing body rest (fun member => absent (List.mem_cons_of_mem _ member)) ?_ tails
            exact Nat.lt_of_succ_lt_succ short

end

section

variable {stops : Signal → Bool} {heed : Signal → Option ε} {ended : ε}
  (heeds : ∀ signal, stops signal = (heed signal).isSome)

include heeds

end

end Reader

end RocqMcp.Library
