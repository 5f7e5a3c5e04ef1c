import RocqMcp.Pet.Framing

/-! Reading a response: whatever arrives and however it is cut, the reader takes
exactly one frame, or the epoch of the child ends. -/

namespace RocqMcp

open Library

theorem PetWatch.heeds (watch : PetWatch) (operation : String) (signal : PetSignal) :
    watch.stops signal = (watch.heed operation signal).isSome := by
  cases signal with
  | cancelled | expired | interrupted | broken => rfl
  | unready =>
    unfold PetWatch.stops PetWatch.heed
    split <;> rfl

/-- The errors of a read that end the epoch. -/
def PetWatch.Ends (watch : PetWatch) (error : PetError) : Prop :=
  error.isTransportLoss = true ∨ error = .cancelled ∨
    ∃ timeoutMs, watch.timeoutMs = some timeoutMs ∧ error = .timedOut timeoutMs

theorem PetWatch.Ends.invalidates {watch : PetWatch} {error : PetError} (ends : watch.Ends error) :
    error.invalidatesProcess = true := by
  rcases ends with lost | rfl | ⟨_, _, rfl⟩
  · exact Bool.or_eq_true_iff.mpr (.inl lost)
  · rfl
  · rfl

theorem PetWatch.heed_ends {watch : PetWatch} {operation : String} {signal : PetSignal}
    {error : PetError} (heeded : watch.heed operation signal = some error) :
    watch.Ends error := by
  cases signal with
  | cancelled =>
    dsimp only [PetWatch.heed] at heeded
    split at heeded <;> cases heeded
    exact .inr (.inl rfl)
  | unready =>
    dsimp only [PetWatch.heed] at heeded
    split at heeded <;> cases heeded
    exact .inl rfl
  | expired =>
    obtain ⟨timeoutMs, timed, rfl⟩ := Option.map_eq_some_iff.mp heeded
    exact .inr (.inr ⟨timeoutMs, timed, rfl⟩)
  | interrupted => cases heeded
  | broken =>
    cases heeded
    exact .inl rfl

section

variable {watch : PetWatch}

theorem readLineBounded_triple (reader : PetReader) :
    Triple (· = reader) (readLineBounded watch)
      (fun line reader' => IsLine line ∧ Reader.Consumes watch.stops line reader reader')
      (fun error _ => watch.Ends error) := by
  refine .weaken (Reader.readUntil_triple watch.Ends
    (watch.heeds _) (.inl rfl) (fun _ _ => PetWatch.heed_ends) (.inl rfl) lineFeed _ [] reader)
    (fun _ => id) ?_ (fun _ _ => And.right)
  rintro _ reader' ⟨text, absent, rfl, consumed⟩
  exact ⟨⟨text, absent, rfl⟩, consumed⟩

/-- The header lines that were read after `header`, and the blank lines around
them. -/
structure HeaderRead (header found : Bytes) (blanks lines : List Bytes) (ending : Bytes) :
    Prop where
  started : header ≠ [] → blanks = []
  blank : ∀ line ∈ blanks, isBlank line = true
  nonblank : ∀ line ∈ lines, isBlank line = false
  single : ∀ line ∈ lines, IsLine line
  ended : isBlank ending = true
  whole : found = header ++ lines.flatten
  headed : found ≠ []

theorem readHeader_triple (fuel : Nat) (header : Bytes) (reader : PetReader) :
    Triple (· = reader) (readHeader watch fuel header)
      (fun found reader' => ∃ blanks lines ending, HeaderRead header found blanks lines ending ∧
        Reader.Consumes watch.stops (blanks.flatten ++ (lines.flatten ++ ending)) reader reader')
      (fun error _ => watch.Ends error) := by
  induction fuel generalizing header reader with
  | zero => exact .throw fun _ _ => .inl rfl
  | succ fuel ih =>
    unfold readHeader
    refine .bind (readLineBounded_triple reader) fun line => ?_
    refine .each_state fun middle ⟨isLine, consumed⟩ => ?_
    refine .ite (fun blank => .ite (fun empty => ?_) fun nonempty => ?_) fun nonblank => ?_
    · refine .weaken (ih header middle) (fun _ => id) ?_ fun _ _ => id
      rintro found reader' ⟨blanks, lines, ending, read, later⟩
      refine ⟨line :: blanks, lines, ending, ?_, ?_⟩
      · exact { read with
          started := fun started => absurd (List.isEmpty_iff.mp empty) started
          blank := List.forall_mem_cons.mpr ⟨blank, read.blank⟩ }
      · rw [List.flatten_cons, List.append_assoc]
        exact consumed.trans later
    · refine .pure ?_
      rintro _ rfl
      exact ⟨[], [], line, ⟨fun _ => rfl, nofun, nofun, nofun, blank, (List.append_nil _).symm,
        fun empty => nonempty (List.isEmpty_iff.mpr empty)⟩, consumed⟩
    · refine .through (fun _ => (· = middle)) (.ensure (fun _ _ same => same) fun _ _ _ => .inl rfl)
        fun _ => ?_
      refine .weaken (ih (header ++ line) middle) (fun _ => id) ?_ fun _ _ => id
      rintro found reader' ⟨blanks, lines, ending, read, later⟩
      obtain rfl := read.started fun empty => isLine.ne_nil (List.append_eq_nil_iff.mp empty).2
      refine ⟨[], line :: lines, ending, ?_, ?_⟩
      · exact { read with
          started := fun _ => rfl
          nonblank := List.forall_mem_cons.mpr ⟨Bool.not_eq_true _ ▸ nonblank, read.nonblank⟩
          single := List.forall_mem_cons.mpr ⟨isLine, read.single⟩
          whole := by rw [read.whole, List.flatten_cons, List.append_assoc] }
      · rw [List.flatten_cons, List.append_assoc line]
        exact consumed.trans later

/-- A header never needs more fuel than there are bytes left. -/
theorem readHeader_fuel {fuel : Nat} (header : Bytes) (reader : PetReader)
    (fuelled : reader.unread.length < fuel) :
    readHeader watch fuel header reader = readHeader watch (fuel + 1) header reader := by
  induction fuel generalizing header reader with
  | zero => cases fuelled
  | succ fuel ih =>
    have reading : Triple _ (readLineBounded watch) _ _ := readLineBounded_triple reader
    have read := reading reader rfl
    rw [readHeader.eq_def watch (fuel + 1), readHeader.eq_def watch (fuel + 1 + 1)]
    change Act.bind _ _ reader = Act.bind _ _ reader
    unfold Act.bind
    rcases ran : readLineBounded watch reader with ⟨error | line, reader'⟩
    · rfl
    · rw [ran] at read
      obtain ⟨isLine, consumed⟩ := read
      have fewer : reader'.unread.length < fuel := by
        have taken := List.length_pos_iff.mpr isLine.ne_nil
        rw [consumed.unread, List.length_append] at fuelled
        omega
      dsimp only
      split
      · split
        · exact ih header reader' fewer
        · rfl
      · cases small : decide ((header ++ line).length ≤ maxHeaderBytes) with
        | true => exact ih (header ++ line) reader' fewer
        | false => rfl

/-- What a response of the child states, or the loss of the child. A frame was
read whole, unless the error ends the epoch. -/
structure FrameRead (json : JsonCodec) (watch : PetWatch) (requestId : Nat) (frame : PetFrame)
    (outcome : Except PetError Value) (reader reader' : PetReader) : Prop where
  consumed : Reader.Consumes watch.stops frame.bytes reader reader'
  answered : ∃ response, json.fromSlice frame.body = .ok response ∧
    Answers requestId response outcome

theorem readResponse_triple (json : JsonCodec) (requestId : Nat) (reader : PetReader) :
    Triple (· = reader) (readResponse json watch requestId)
      (fun value reader' =>
        ∃ frame, FrameRead json watch requestId frame (.ok value) reader reader')
      (fun error reader' => watch.Ends error ∨
        ∃ frame, FrameRead json watch requestId frame (.error error) reader reader') := by
  unfold readResponse
  refine .through (fun _ => (· = reader)) (fun _ same => same) fun unread => ?_
  refine .bind (.weaken (readHeader_triple (unread.length + 1) [] reader) (fun _ => id)
    (fun _ _ => id) fun _ _ => .inl) fun header => ?_
  refine .each_state fun middle ⟨blanks, lines, ending, read, consumed⟩ => ?_
  obtain rfl : header = lines.flatten := read.whole
  refine .bind (.weaken (.ofExcept (contentLength lines.flatten)) (fun _ => id) (fun _ _ => id) ?_)
    fun length => ?_
  · exact fun error _ failed => .inl (.inl (contentLength_lost failed.2))
  refine .assume fun announced => .bind (.weaken (Reader.read_triple
    watch.Ends (watch.heeds _) (.inl rfl)
    (fun _ _ => PetWatch.heed_ends) length middle) (fun _ => id) (fun _ _ => id)
    fun _ _ lost => .inl lost.2) fun body => ?_
  refine .each_state fun final ⟨whole, taken⟩ => ?_
  subst whole
  let frame : PetFrame :=
    { blanks, lines, ending, body, blank := read.blank, nonblank := read.nonblank
      single := read.single, ended := read.ended, announced
      headed := fun empty => read.headed (by rw [empty]; rfl) }
  have framed : Reader.Consumes watch.stops frame.bytes reader final := consumed.trans taken
  split
  · exact .throw fun _ _ => .inl (.inl rfl)
  · rename_i response decoded
    rcases responseOf_answers requestId response with ⟨error, failed, lost⟩ | answers
    · rw [failed]
      exact .weaken (.ofExcept _) (fun _ => id) nofun fun _ _ threw => by
        obtain rfl := Except.error.inj threw.2
        exact .inl (.inl lost)
    · refine .weaken (.ofExcept _) (fun _ => id) ?_ ?_
      · rintro value _ ⟨rfl, stated⟩
        exact ⟨frame, framed, response, decoded, stated ▸ answers⟩
      · rintro error _ ⟨rfl, stated⟩
        exact .inr ⟨frame, framed, response, decoded, stated ▸ answers⟩

end

end RocqMcp
