import RocqMcp.Pet.Response
import RocqMcp.Library.Stream

/-! The framing of PET's standard output: a block of header lines, a blank line,
and a body of the announced length. -/

namespace RocqMcp

open Library

def maxResponseBytes : Nat := 8 * 1024 * 1024

def maxHeaderBytes : Nat := 8192

/-- What interrupts a read of PET's standard output. -/
inductive PetSignal where
  | cancelled
  | expired
  | unready (message : String)
  | interrupted
  | broken (message : String)

abbrev PetReader := Reader UInt8 PetSignal

/-- What a read is watched for: the cancellation of the request in scope, and
the deadline of the call. -/
structure PetWatch where
  inScope : Bool
  timeoutMs : Option Nat

/-- The error that ends the read, if any. -/
def PetWatch.heed (watch : PetWatch) (operation : String) : PetSignal → Option PetError
  | .cancelled => if watch.inScope then some .cancelled else none
  | .expired => watch.timeoutMs.map .timedOut
  | .unready message =>
    if watch.inScope || watch.timeoutMs.isSome then
      some (.processLost s!"output readiness wait failed: {message}")
    else none
  | .interrupted => none
  | .broken message => some (.processLost s!"{operation}: {message}")

def PetWatch.stops (watch : PetWatch) (signal : PetSignal) : Bool := (watch.heed "" signal).isSome

def lineFeed : UInt8 := 10

def carriageReturn : UInt8 := 13

def isBlank (line : Bytes) : Bool := line = [lineFeed] || line = [carriageReturn, lineFeed]

section

variable (watch : PetWatch)

def readExactInterruptible (length : Nat) (operation : String) : Act PetReader PetError Bytes :=
  Reader.read (watch.heed operation) (.processLost s!"{operation}: failed to fill whole buffer")
    length

def readLineBounded : Act PetReader PetError Bytes :=
  Reader.readUntil (watch.heed "output header read failed")
    (.processLost "output header read failed: failed to fill whole buffer") .outputOverflow
    lineFeed (maxHeaderBytes + 1) []

/-- The lines before the blank line that ends the header; blank lines before
the first of them are skipped. `fuel` exceeds the number of bytes left. -/
def readHeader : Nat → Bytes → Act PetReader PetError Bytes
  | 0, _ => .throw (.processLost "output header read failed: failed to fill whole buffer")
  | fuel + 1, header => do
    let line ← readLineBounded watch
    if isBlank line then
      if header.isEmpty then readHeader fuel header
      else return header
    else do
      let header := header ++ line
      Act.ensure (header.length ≤ maxHeaderBytes) PetError.outputOverflow
      readHeader fuel header

end

def isAsciiSpace (byte : UInt8) : Bool := byte = 32 || byte = 9

def trimAsciiSpace (value : Bytes) : Bytes :=
  ((value.dropWhile isAsciiSpace).reverse.dropWhile isAsciiSpace).reverse

/-- `u8::to_ascii_lowercase`. -/
def asciiLower (byte : UInt8) : UInt8 := if 65 ≤ byte && byte ≤ 90 then byte + 32 else byte

/-- `eq_ignore_ascii_case`. -/
def eqIgnoreAsciiCase (left right : Bytes) : Bool := left.map asciiLower = right.map asciiLower

/-- `str::parse::<usize>`: an optional sign, and digits that fit 64 bits. -/
def parseUsize (text : Bytes) : Option Nat :=
  let digits := if text.head? = some 43 then text.tail else text
  if digits = [] || digits.any (fun byte => byte < 48 || 57 < byte) then none
  else
    let value := digits.foldl (fun value byte => value * 10 + (byte.toNat - 48)) 0
    if value < 2 ^ 64 then some value else none

def colon : UInt8 := 58

def isLineBreak (byte : UInt8) : Bool := byte = lineFeed || byte = carriageReturn

/-- The name and the value of a header line. -/
def headerField (line : Bytes) : Option (Bytes × Bytes) :=
  if colon ∈ line then
    some (trimAsciiSpace (line.takeWhile (· ≠ colon)),
      trimAsciiSpace (line.dropWhile (· ≠ colon)).tail)
  else none

def isContentLength (name : Bytes) : Bool := eqIgnoreAsciiCase name (textBytes "Content-Length")

/-- One line of the search for the content length. -/
def contentLengthStep (found : Option Nat) (line : Bytes) : Except PetError (Option Nat) :=
  match headerField line with
  | none => .ok found
  | some (name, value) =>
    if !isContentLength name then .ok found
    else
      match parseUsize value with
      | none => .error (.protocol "PET Content-Length is invalid")
      | some value =>
        if found.any (· ≠ value) then
          .error (.protocol "PET response has conflicting Content-Length headers")
        else .ok (some value)

def contentLength (header : Bytes) : Except PetError Nat := do
  match ← (header.splitOnP isLineBreak).foldlM contentLengthStep none with
  | none => .error (.protocol "PET response has no Content-Length")
  | some length =>
    if maxResponseBytes < length then .error .outputOverflow else .ok length

/-- The JSON library. -/
structure JsonCodec where
  toVec : Value → Option Bytes
  fromSlice : Bytes → Except String Value

def readResponse (json : JsonCodec) (watch : PetWatch) (requestId : Nat) :
    Act PetReader PetError Value := do
  let unread ← Act.gets Reader.unread
  let header ← readHeader watch (unread.length + 1) []
  let length ← Act.ofExcept (contentLength header)
  let body ← readExactInterruptible watch length
    s!"output body read failed after Content-Length {length}"
  match json.fromSlice body with
  | .error message => .throw (.protocol s!"PET response JSON is invalid: {message}")
  | .ok value => Act.ofExcept (responseOf requestId value)

theorem contentLengthStep_lost {found : Option Nat} {line : Bytes} {error : PetError}
    (failed : contentLengthStep found line = .error error) : error.isTransportLoss = true := by
  unfold contentLengthStep at failed
  split at failed
  · cases failed
  · split at failed
    · cases failed
    · split at failed
      · cases failed
        rfl
      · split at failed
        · cases failed
          rfl
        · cases failed

theorem contentLengths_lost {lines : List Bytes} {found : Option Nat} {error : PetError}
    (failed : lines.foldlM contentLengthStep found = .error error) :
    error.isTransportLoss = true := by
  induction lines generalizing found with
  | nil => cases failed
  | cons line rest ih =>
    rw [List.foldlM_cons] at failed
    cases step : contentLengthStep found line with
    | error earlier =>
      rw [step] at failed
      cases failed
      exact contentLengthStep_lost step
    | ok next =>
      rw [step] at failed
      exact ih failed

theorem contentLength_lost {header : Bytes} {error : PetError}
    (failed : contentLength header = .error error) : error.isTransportLoss = true := by
  unfold contentLength at failed
  cases lengths : (header.splitOnP isLineBreak).foldlM contentLengthStep none with
  | error earlier =>
    rw [lengths] at failed
    cases failed
    exact contentLengths_lost lengths
  | ok length =>
    rw [lengths] at failed
    cases length with
    | none =>
      cases failed
      rfl
    | some length =>
      change (if maxResponseBytes < length then _ else _) = _ at failed
      split at failed
      · cases failed
        rfl
      · cases failed

/-- A line with its line feed. -/
def IsLine (line : Bytes) : Prop := ∃ text, lineFeed ∉ text ∧ line = text ++ [lineFeed]

theorem IsLine.ne_nil {line : Bytes} (isLine : IsLine line) : line ≠ [] := by
  rintro rfl
  obtain ⟨text, -, same⟩ := isLine
  cases text with
  | nil => cases same
  | cons => cases same

/-- One frame: blank lines, the header and its blank line, and a body of the
length that the header announces. -/
structure PetFrame where
  blanks : List Bytes
  lines : List Bytes
  ending : Bytes
  body : Bytes
  blank : ∀ line ∈ blanks, isBlank line = true
  nonblank : ∀ line ∈ lines, isBlank line = false
  single : ∀ line ∈ lines, IsLine line
  headed : lines ≠ []
  ended : isBlank ending = true
  announced : contentLength lines.flatten = .ok body.length

namespace PetFrame

def header (frame : PetFrame) : Bytes := frame.lines.flatten

def bytes (frame : PetFrame) : Bytes :=
  frame.blanks.flatten ++ (frame.header ++ frame.ending) ++ frame.body

end PetFrame

/-- A header field and the break after it. -/
structure HeaderField where
  name : Bytes
  value : Bytes
  lineBreak : Bytes
  named : ∀ byte ∈ name, byte ≠ colon ∧ isLineBreak byte = false
  valued : ∀ byte ∈ value, isLineBreak byte = false
  broken : isBlank lineBreak = true

namespace HeaderField

def text (field : HeaderField) : Bytes := field.name ++ colon :: field.value

def line (field : HeaderField) : Bytes := field.text ++ field.lineBreak

def isLength (field : HeaderField) : Bool := isContentLength (trimAsciiSpace field.name)

theorem text_unbroken (field : HeaderField) : ∀ byte ∈ field.text, isLineBreak byte = false := by
  intro byte member
  rcases List.mem_append.mp member with inName | inValue
  · exact (field.named byte inName).2
  · rcases List.mem_cons.mp inValue with rfl | inValue
    · decide
    · exact field.valued byte inValue

theorem headerField_text (field : HeaderField) : headerField field.text =
    some (trimAsciiSpace field.name, trimAsciiSpace field.value) := by
  have distinct : ∀ byte ∈ field.name, decide (byte ≠ colon) = true :=
    fun byte member => decide_eq_true (field.named byte member).1
  have present : colon ∈ field.text := List.mem_append_right _ List.mem_cons_self
  rw [headerField, if_pos present]
  unfold text
  rw [List.takeWhile_append_of_pos distinct, List.dropWhile_append_of_pos distinct]
  simp

/-- The lines of a header are searched one after the other. -/
theorem contentLengths_line (field : HeaderField) (rest : Bytes) (found : Option Nat) :
    ((field.line ++ rest).splitOnP isLineBreak).foldlM contentLengthStep found =
      (contentLengthStep found field.text).bind fun found =>
        (rest.splitOnP isLineBreak).foldlM contentLengthStep found := by
  have first (sep : UInt8) (hsep : isLineBreak sep = true) (rest : Bytes) :
      (field.text ++ sep :: rest).splitOnP isLineBreak = field.text :: rest.splitOnP isLineBreak :=
    List.splitOnP_append_cons_of_forall_mem field.text_unbroken sep hsep rest
  rcases Bool.or_eq_true_iff.mp field.broken with plain | returned
  · rw [line, of_decide_eq_true plain, List.append_assoc]
    exact congrArg (List.foldlM contentLengthStep found) (first lineFeed (by decide) rest)
  · -- the empty text between the two bytes of the break has no field
    have blank : ∀ byte ∈ ([] : Bytes), isLineBreak byte = false := nofun
    have breaks : isLineBreak lineFeed = true := by decide
    have empty : (lineFeed :: rest).splitOnP isLineBreak = [] :: rest.splitOnP isLineBreak :=
      List.splitOnP_append_cons_of_forall_mem blank lineFeed breaks rest
    rw [line, of_decide_eq_true returned, List.append_assoc]
    change ((field.text ++ carriageReturn :: lineFeed :: rest).splitOnP isLineBreak).foldlM _ _ = _
    rw [first carriageReturn (by decide), empty]
    rfl

theorem contentLengths_fields {length : Nat} (fields : List HeaderField)
    (agree : ∀ field ∈ fields, field.isLength = true →
      parseUsize (trimAsciiSpace field.value) = some length)
    (found : Option Nat) (same : ∀ earlier ∈ found, earlier = length)
    (present : found.isSome ∨ ∃ field ∈ fields, field.isLength = true) :
    ((fields.map line).flatten.splitOnP isLineBreak).foldlM contentLengthStep found =
      .ok (some length) := by
  induction fields generalizing found with
  | nil =>
    rcases present with known | ⟨_, member, _⟩
    · obtain ⟨earlier, rfl⟩ := Option.isSome_iff_exists.mp known
      rw [same earlier rfl]
      rfl
    · cases member
  | cons field rest ih =>
    have later := ih fun other member => agree other (List.mem_cons_of_mem _ member)
    rw [List.map_cons, List.flatten_cons, contentLengths_line, contentLengthStep,
      field.headerField_text]
    dsimp only
    split
    case isTrue other =>
      refine later found same (present.imp id ?_)
      rintro ⟨announcing, member, announces⟩
      rcases List.mem_cons.mp member with rfl | member
      · rw [Bool.not_eq_true', ← HeaderField.isLength, announces] at other
        cases other
      · exact ⟨announcing, member, announces⟩
    case isFalse announces =>
      rw [Bool.not_eq_true', Bool.not_eq_false] at announces
      rw [agree field List.mem_cons_self announces]
      have agreed : found.any (fun value => decide (value ≠ length)) = false := by
        cases found with
        | none => rfl
        | some earlier => simp [same earlier rfl]
      dsimp only
      rw [agreed]
      exact later (some length) (fun _ known => (Option.mem_some.mp known).symm) (.inl rfl)

theorem line_nonblank (field : HeaderField) : isBlank field.line = false := by
  have present : colon ∈ field.line :=
    List.mem_append_left _ (List.mem_append_right _ List.mem_cons_self)
  rw [← Bool.not_eq_true]
  intro blank
  rcases Bool.or_eq_true_iff.mp blank with plain | returned
  · rw [of_decide_eq_true plain] at present
    exact absurd present (by decide)
  · rw [of_decide_eq_true returned] at present
    exact absurd present (by decide)

theorem isLine_line (field : HeaderField) : IsLine field.line := by
  have absent : lineFeed ∉ field.text := fun member =>
    absurd (field.text_unbroken _ member) (by decide)
  rcases Bool.or_eq_true_iff.mp field.broken with plain | returned
  · exact ⟨field.text, absent, congrArg (field.text ++ ·) (of_decide_eq_true plain)⟩
  · refine ⟨field.text ++ [carriageReturn], ?_, ?_⟩
    · intro member
      rcases List.mem_append.mp member with inText | inBreak
      · exact absent inText
      · exact absurd inBreak (by decide)
    · rw [line, of_decide_eq_true returned, List.append_assoc]
      rfl

end HeaderField

/-- A message as PET writes it: header fields, one of which announces the
length of the body, in Rust's syntax of numbers. -/
structure PetMessage where
  blanks : List Bytes
  fields : List HeaderField
  ending : Bytes
  body : Bytes
  blank : ∀ line ∈ blanks, isBlank line = true
  ended : isBlank ending = true
  present : ∃ field ∈ fields, field.isLength = true
  agree : ∀ field ∈ fields, field.isLength = true →
    parseUsize (trimAsciiSpace field.value) = some body.length

namespace PetMessage

def header (message : PetMessage) : Bytes := (message.fields.map HeaderField.line).flatten

def bytes (message : PetMessage) : Bytes :=
  message.blanks.flatten ++ (message.header ++ message.ending) ++ message.body

theorem contentLength_header (message : PetMessage)
    (small : message.body.length ≤ maxResponseBytes) :
    contentLength message.header = .ok message.body.length := by
  have announced := HeaderField.contentLengths_fields message.fields message.agree none nofun
    (.inr message.present)
  rw [contentLength, header, announced]
  exact if_neg (Nat.not_lt.mpr small)

/-- A message that is not oversized is one frame. -/
def frame (message : PetMessage) (small : message.body.length ≤ maxResponseBytes) : PetFrame where
  blanks := message.blanks
  lines := message.fields.map HeaderField.line
  ending := message.ending
  body := message.body
  blank := message.blank
  nonblank := List.forall_mem_map.mpr fun field _ => field.line_nonblank
  single := List.forall_mem_map.mpr fun field _ => field.isLine_line
  headed := by
    obtain ⟨field, member, _⟩ := message.present
    exact List.ne_nil_of_mem (List.mem_map_of_mem member)
  ended := message.ended
  announced := message.contentLength_header small

end PetMessage

end RocqMcp
