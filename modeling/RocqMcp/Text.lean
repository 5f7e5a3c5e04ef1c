import RocqMcp.Types

/-! Texts and their UTF-8 bytes, and the text of bytes that need not be UTF-8. -/

namespace RocqMcp

theorem byteArray_toList (bytes : ByteArray) : bytes.toList = bytes.data.toList := by
  have loop (count : Nat) : ∀ index collected, bytes.size - index = count →
      ByteArray.toList.loop bytes index collected =
        collected.reverse ++ bytes.data.toList.drop index := by
    induction count with
    | zero =>
      intro index collected rest
      have beyond : ¬ index < bytes.size := by omega
      have empty : bytes.data.toList.drop index = [] :=
        List.drop_eq_nil_of_le (by simpa using Nat.le_of_not_lt beyond)
      rw [ByteArray.toList.loop, if_neg beyond, empty, List.append_nil]
    | succ count ih =>
      intro index collected rest
      have within : index < bytes.size := by omega
      have split : bytes.data.toList.drop index =
          bytes.get! index :: bytes.data.toList.drop (index + 1) := by
        rw [List.drop_eq_getElem_cons (by simpa using within)]
        simp [ByteArray.get!, within]
      rw [ByteArray.toList.loop, if_pos within, ih _ _ (by omega), split]
      simp
  have whole := loop bytes.size 0 [] (by omega)
  simpa [ByteArray.toList] using whole

theorem textBytes_append (front back : String) :
    textBytes (front ++ back) = textBytes front ++ textBytes back := by
  simp [textBytes, byteArray_toList]

@[simp] theorem length_textBytes (text : String) : (textBytes text).length = text.utf8ByteSize := by
  simp [textBytes, byteArray_toList]

@[simp] theorem bytesText_textBytes (text : String) : bytesText? (textBytes text) = some text := by
  have bytes : (textBytes text).toByteArray = text.toByteArray := by
    apply ByteArray.ext
    simp [textBytes, byteArray_toList]
  rw [bytesText?, String.fromUTF8?, bytes, dif_pos text.isValidUTF8]
  rfl

theorem textBytes_eq_flatMap (text : String) :
    textBytes text = text.toList.flatMap String.utf8EncodeChar := by
  have encoded : text.toByteArray = text.toList.utf8Encode := String.utf8Encode_toList.symm
  simp [textBytes, byteArray_toList, encoded, List.utf8Encode]

theorem textBytes_inj {first second : String} (same : textBytes first = textBytes second) :
    first = second := by
  have texts := congrArg bytesText? same
  rw [bytesText_textBytes, bytesText_textBytes] at texts
  exact Option.some.inj texts

theorem textBytes_of_bytesText {bytes : Bytes} {text : String} (decoded : bytesText? bytes = some text) :
    textBytes text = bytes := by
  unfold bytesText? String.fromUTF8? at decoded
  split at decoded
  · obtain rfl := Option.some.inj decoded
    simp [textBytes, byteArray_toList, String.fromUTF8]
  · cases decoded

/-! ### Bytes that are not UTF-8 -/

/-- The character encoded at the start. -/
def decodeChar (bytes : Bytes) : Option Char := bytes.toByteArray.utf8DecodeChar? 0

def isContinuation (byte : UInt8) : Bool := 0x80 ≤ byte && byte ≤ 0xbf

/-- The two bytes can begin an encoding of three or four bytes. -/
def beginsLong (first second : UInt8) : Bool :=
  if first = 0xe0 then 0xa0 ≤ second && second ≤ 0xbf
  else if first = 0xed then 0x80 ≤ second && second ≤ 0x9f
  else if first = 0xf0 then 0x90 ≤ second && second ≤ 0xbf
  else if first = 0xf4 then 0x80 ≤ second && second ≤ 0x8f
  else 0xe1 ≤ first && first ≤ 0xf3 && isContinuation second

/-- The length of the ill-formed sequence at the start: the longest beginning of
an encoding is one sequence. -/
def invalidLength : Bytes → Nat
  | first :: second :: rest =>
    if beginsLong first second then
      if 0xf0 ≤ first && rest.head?.any isContinuation then 3 else 2
    else 1
  | _ => 1

def lossyFrom : Nat → Bytes → List Char
  | 0, _ => []
  | _ + 1, [] => []
  | fuel + 1, head :: tail =>
    match decodeChar (head :: tail) with
    | some character => character :: lossyFrom fuel ((head :: tail).drop character.utf8Size)
    | none => '\uFFFD' :: lossyFrom fuel ((head :: tail).drop (invalidLength (head :: tail)))

/-- `String::from_utf8_lossy`. -/
def lossyText (bytes : Bytes) : String := String.ofList (lossyFrom bytes.length bytes)

theorem decodeChar_append (character : Char) (rest : Bytes) :
    decodeChar (String.utf8EncodeChar character ++ rest) = some character := by
  rw [decodeChar, List.toByteArray_append]
  exact ByteArray.utf8DecodeChar?_utf8EncodeChar_append

theorem decodeChar_some {bytes : Bytes} {character : Char}
    (decoded : decodeChar bytes = some character) :
    ∃ rest, bytes = String.utf8EncodeChar character ++ rest := by
  obtain ⟨rest, split⟩ := ByteArray.exists_of_utf8DecodeChar?_eq_some decoded
  refine ⟨rest.data.toList, ?_⟩
  have lists := congrArg (fun array => array.data.toList) split
  simpa using lists

/-- A text whose bytes begin with those of other characters begins with these. -/
theorem encoded_split {front text : List Char} {rest : Bytes}
    (split : front.flatMap String.utf8EncodeChar ++ rest = text.flatMap String.utf8EncodeChar) :
    ∃ back, text = front ++ back ∧ rest = back.flatMap String.utf8EncodeChar := by
  induction front generalizing text with
  | nil => exact ⟨text, rfl, split⟩
  | cons character front ih =>
    rw [List.flatMap_cons, List.append_assoc] at split
    have first : decodeChar (text.flatMap String.utf8EncodeChar) = some character :=
      split ▸ decodeChar_append character _
    cases text with
    | nil => cases first
    | cons head text =>
      rw [List.flatMap_cons, decodeChar_append] at first
      obtain rfl := Option.some.inj first
      rw [List.flatMap_cons] at split
      obtain ⟨back, rfl, rest'⟩ := ih (List.append_cancel_left split)
      exact ⟨back, rfl, rest'⟩

theorem textBytes_split {front text : String} {rest : Bytes}
    (split : textBytes front ++ rest = textBytes text) :
    ∃ back, text = front ++ back ∧ rest = textBytes back := by
  rw [textBytes_eq_flatMap, textBytes_eq_flatMap] at split
  obtain ⟨back, characters, rest'⟩ := encoded_split split
  refine ⟨String.ofList back, String.toList_injective ?_, ?_⟩
  · rw [characters, String.toList_append, String.toList_ofList]
  · rw [rest', textBytes_eq_flatMap, String.toList_ofList]

theorem utf8EncodeChar_ne_nil (character : Char) : String.utf8EncodeChar character ≠ [] := by
  intro empty
  have size := String.length_utf8EncodeChar character
  rw [empty] at size
  exact absurd character.utf8Size_pos (by simp [← size])

/-- Of two ways to split a text, the shorter front begins the longer one. -/
theorem append_split {first second third fourth : String} (same : first ++ second = third ++ fourth)
    (shorter : first.utf8ByteSize ≤ third.utf8ByteSize) :
    ∃ middle, third = first ++ middle ∧ second = middle ++ fourth := by
  have bytes : textBytes first ++ (textBytes third).drop first.utf8ByteSize = textBytes third := by
    have fronts := congrArg (List.take first.utf8ByteSize ∘ textBytes) same
    have within : first.utf8ByteSize ≤ (textBytes third).length := by rwa [length_textBytes]
    simp only [Function.comp_apply, textBytes_append] at fronts
    rw [← length_textBytes first, List.take_left, length_textBytes,
      List.take_append_of_le_length within] at fronts
    rw [fronts, List.take_append_drop]
  obtain ⟨middle, rfl, _⟩ := textBytes_split bytes
  rw [String.append_assoc] at same
  exact ⟨middle, rfl, (String.append_right_inj first).mp same⟩

/-- `&text[offset..]`: none where the offset is inside a character. -/
def textFrom? (text : String) (offset : Nat) : Option String :=
  if offset ≤ text.utf8ByteSize then bytesText? ((textBytes text).drop offset) else none

/-- `&text[..offset]`. -/
def textUpTo? (text : String) (offset : Nat) : Option String :=
  if offset ≤ text.utf8ByteSize then bytesText? ((textBytes text).take offset) else none

/-- The offset of the first occurrence. -/
def findBytes (needle : Bytes) : Bytes → Option Nat
  | [] => if needle.isEmpty then some 0 else none
  | byte :: rest =>
    if needle.isPrefixOf (byte :: rest) then some 0 else (findBytes needle rest).map (· + 1)

/-- `str::find`. -/
def findText (text needle : String) : Option Nat := findBytes (textBytes needle) (textBytes text)

section

variable (front back : String)

theorem textFrom_append : textFrom? (front ++ back) front.utf8ByteSize = some back := by
  have bytes : (textBytes (front ++ back)).drop front.utf8ByteSize = textBytes back := by
    rw [textBytes_append, ← length_textBytes, List.drop_left]
  rw [textFrom?, bytes, bytesText_textBytes]
  simp

theorem textUpTo_append : textUpTo? (front ++ back) front.utf8ByteSize = some front := by
  have bytes : (textBytes (front ++ back)).take front.utf8ByteSize = textBytes front := by
    rw [textBytes_append, ← length_textBytes, List.take_left]
  rw [textUpTo?, bytes, bytesText_textBytes]
  simp

end

theorem findBytes_some {needle bytes : Bytes} {index : Nat}
    (found : findBytes needle bytes = some index) : ∃ front back,
      bytes = front ++ (needle ++ back) ∧ front.length = index ∧
        ∀ early late, front = early ++ late → late ≠ [] → ¬ needle <+: late ++ (needle ++ back) := by
  induction bytes generalizing index with
  | nil =>
    rw [findBytes] at found
    split at found
    · rename_i empty
      obtain rfl := Option.some.inj found
      obtain rfl := List.isEmpty_iff.mp empty
      refine ⟨[], [], rfl, rfl, ?_⟩
      intro early late none some
      exact absurd (List.append_eq_nil_iff.mp none.symm).2 some
    · cases found
  | cons byte rest ih =>
    rw [findBytes] at found
    split at found
    · rename_i here
      obtain rfl := Option.some.inj found
      obtain ⟨back, split'⟩ := List.isPrefixOf_iff_prefix.mp here
      refine ⟨[], back, split'.symm, rfl, ?_⟩
      intro early late none some
      exact absurd (List.append_eq_nil_iff.mp none.symm).2 some
    · rename_i other
      obtain ⟨position, later, rfl⟩ := Option.map_eq_some_iff.mp found
      obtain ⟨front, back, rfl, rfl, first⟩ := ih later
      refine ⟨byte :: front, back, rfl, rfl, ?_⟩
      intro early late whole some
      cases early with
      | nil =>
        obtain rfl : byte :: front = late := whole
        rwa [List.isPrefixOf_iff_prefix] at other
      | cons head early =>
        obtain ⟨rfl, rfl⟩ := List.cons.inj whole
        exact first early late rfl some

theorem findBytes_none {needle bytes : Bytes} (missing : findBytes needle bytes = none) :
    ∀ early late, bytes = early ++ late → ¬ needle <+: late := by
  induction bytes with
  | nil =>
    intro early late whole within
    obtain rfl := (List.append_eq_nil_iff.mp whole.symm).2
    rw [List.prefix_nil.mp within] at missing
    cases missing
  | cons byte rest ih =>
    rw [findBytes] at missing
    split at missing
    · cases missing
    · rename_i other
      intro early late whole
      cases early with
      | nil =>
        obtain rfl : byte :: rest = late := whole
        rwa [List.isPrefixOf_iff_prefix] at other
      | cons head early =>
        obtain ⟨rfl, rfl⟩ := List.cons.inj whole
        exact ih (Option.map_eq_none_iff.mp missing) early late rfl

/-- UTF-8 synchronizes itself: where a character may begin, one does. -/
theorem encoded_boundary {characters : List Char} {front : Bytes} {byte : UInt8} {back : Bytes}
    (first : byte.IsUTF8FirstByte)
    (bytes : characters.flatMap String.utf8EncodeChar = front ++ byte :: back) :
    ∃ early late, characters = early ++ late ∧ early.flatMap String.utf8EncodeChar = front := by
  induction characters generalizing front with
  | nil => simp at bytes
  | cons character characters ih =>
    rw [List.flatMap_cons, List.append_eq_append_iff] at bytes
    rcases bytes with ⟨rest, rfl, later⟩ | ⟨rest, whole, inside⟩
    · obtain ⟨early, late, rfl, rfl⟩ := ih later
      exact ⟨character :: early, late, rfl, by rw [List.flatMap_cons]⟩
    · cases rest with
      | nil =>
        rw [List.append_nil] at whole
        exact ⟨[character], characters, rfl, by simpa using whole⟩
      | cons head rest =>
        obtain ⟨rfl, rfl⟩ := List.cons.inj inside
        have within : front.length < (String.utf8EncodeChar character).length := by simp [whole]
        have starts : ((String.utf8EncodeChar character)[front.length]).IsUTF8FirstByte := by
          simpa [whole] using first
        have none := UInt8.isUTF8FirstByte_getElem_utf8EncodeChar.mp starts
        obtain rfl := List.eq_nil_of_length_eq_zero none
        exact ⟨[], character :: characters, rfl, rfl⟩

/-- The first byte of a text begins a character. -/
theorem textBytes_first {text : String} (some : text ≠ "") :
    ∃ byte rest, textBytes text = byte :: rest ∧ byte.IsUTF8FirstByte := by
  rw [textBytes_eq_flatMap]
  cases characters : text.toList with
  | nil => exact absurd (String.toList_injective characters) some
  | cons head late =>
    have length : 0 < (String.utf8EncodeChar head).length := by
      rw [String.length_utf8EncodeChar]
      exact head.utf8Size_pos
    obtain ⟨byte, rest, bytes⟩ := List.exists_cons_of_length_pos length
    refine ⟨byte, rest ++ late.flatMap String.utf8EncodeChar, ?_, ?_⟩
    · rw [List.flatMap_cons, bytes, List.cons_append]
    · have first : ((String.utf8EncodeChar head)[0]).IsUTF8FirstByte :=
        UInt8.isUTF8FirstByte_getElem_utf8EncodeChar.mpr rfl
      simpa [bytes] using first

/-- An occurrence in the bytes is one in the text. -/
theorem textBytes_occurrence {text needle : String} {front back : Bytes} (some : needle ≠ "")
    (bytes : textBytes text = front ++ (textBytes needle ++ back)) :
    ∃ early late, text = early ++ (needle ++ late) ∧ textBytes early = front := by
  obtain ⟨byte, rest, starts, first⟩ := textBytes_first some
  have split := bytes
  rw [starts, textBytes_eq_flatMap, List.cons_append] at split
  obtain ⟨characters, _, whole, rfl⟩ := encoded_boundary first split
  have parts : textBytes (String.ofList characters) ++ (textBytes needle ++ back) = textBytes text := by
    rw [bytes, textBytes_eq_flatMap (String.ofList characters), String.toList_ofList]
  obtain ⟨behind, rfl, tail⟩ := textBytes_split parts
  obtain ⟨late, rfl, _⟩ := textBytes_split tail
  refine ⟨String.ofList characters, late, rfl, ?_⟩
  rw [textBytes_eq_flatMap, String.toList_ofList]

/-- `find` gives the offset of the first occurrence, on character boundaries. -/
theorem findText_some {text needle : String} {offset : Nat} (some : needle ≠ "")
    (found : findText text needle = .some offset) : ∃ early late,
      text = early ++ (needle ++ late) ∧ early.utf8ByteSize = offset ∧
        ∀ first second, early.toList = first ++ second → second ≠ [] →
          ¬ needle.toList <+: second ++ (needle ++ late).toList := by
  obtain ⟨front, back, bytes, rfl, first⟩ := findBytes_some found
  obtain ⟨early, late, rfl, rfl⟩ := textBytes_occurrence some bytes
  refine ⟨early, late, rfl, (length_textBytes early).symm, ?_⟩
  rintro front second whole more ⟨rest, within⟩
  have encoded : textBytes early =
      front.flatMap String.utf8EncodeChar ++ second.flatMap String.utf8EncodeChar := by
    rw [textBytes_eq_flatMap, whole, List.flatMap_append]
  refine first _ _ encoded ?_ ?_
  · obtain ⟨head, tail, rfl⟩ := List.exists_cons_of_ne_nil more
    simp
  · have behind : textBytes needle ++ back = textBytes (needle ++ late) := by
      rw [textBytes_append, List.append_cancel_left_eq] at bytes
      exact bytes.symm
    refine ⟨rest.flatMap String.utf8EncodeChar, ?_⟩
    rw [behind, textBytes_eq_flatMap, textBytes_eq_flatMap, ← List.flatMap_append,
      ← List.flatMap_append, within]

theorem findText_none {text needle : String} (missing : findText text needle = none) :
    ∀ first second, text.toList = first ++ second → ¬ needle.toList <+: second := by
  rintro first second whole ⟨rest, rfl⟩
  refine findBytes_none missing (first.flatMap String.utf8EncodeChar)
    ((needle.toList ++ rest).flatMap String.utf8EncodeChar) ?_ ?_
  · rw [textBytes_eq_flatMap, whole, List.flatMap_append]
  · rw [textBytes_eq_flatMap, List.flatMap_append]
    exact List.prefix_append _ _

theorem length_le_encoded (characters : List Char) :
    characters.length ≤ (characters.flatMap String.utf8EncodeChar).length := by
  induction characters with
  | nil => exact Nat.le_refl _
  | cons head rest ih =>
    have first := head.utf8Size_pos
    rw [List.flatMap_cons, List.length_append, String.length_utf8EncodeChar, List.length_cons]
    omega

/-- The text of UTF-8 bytes is exact. -/
theorem lossyText_textBytes (text : String) : lossyText (textBytes text) = text := by
  have exact' (characters : List Char) : ∀ fuel, characters.length ≤ fuel →
      lossyFrom fuel (characters.flatMap String.utf8EncodeChar) = characters := by
    induction characters with
    | nil =>
      intro fuel _
      cases fuel <;> rfl
    | cons head rest ih =>
      intro fuel enough
      cases fuel with
      | zero => cases enough
      | succ fuel =>
        have decoded := decodeChar_append head (rest.flatMap String.utf8EncodeChar)
        rw [List.flatMap_cons]
        cases bytes : String.utf8EncodeChar head with
        | nil => exact absurd bytes (utf8EncodeChar_ne_nil head)
        | cons byte others =>
          have dropped : ((byte :: others) ++ rest.flatMap String.utf8EncodeChar).drop head.utf8Size =
              rest.flatMap String.utf8EncodeChar := by
            rw [← bytes, ← String.length_utf8EncodeChar, List.drop_left]
          rw [bytes] at decoded
          rw [List.cons_append] at decoded dropped ⊢
          simp only [lossyFrom, decoded, dropped]
          rw [ih fuel (Nat.le_of_succ_le_succ enough)]
  rw [lossyText, textBytes_eq_flatMap, exact' _ _ (length_le_encoded text.toList), String.ofList_toList]

/-! ### The NUL byte -/

theorem nul_of_mem_encode {character : Char} (member : 0 ∈ String.utf8EncodeChar character) :
    character = '\x00' := by
  have marked (byte mark : UInt8) (set : mark ≠ 0) : 0 ≠ byte ||| mark := by
    intro zero
    exact set (UInt8.or_eq_zero_iff.mp zero.symm).2
  rcases character.utf8Size_eq with size | size | size | size
  · rw [String.utf8EncodeChar_eq_singleton size, List.mem_singleton] at member
    have small : character.val ≤ 127 := Char.utf8Size_eq_one_iff.mp size
    have zero := congrArg UInt8.toNat member
    rw [UInt32.toNat_toUInt8] at zero
    have below : character.val.toNat ≤ 127 := small
    apply Char.ext
    apply UInt32.toNat_inj.mp
    have none : character.val.toNat = 0 := by
      have empty : (0 : UInt8).toNat = 0 := rfl
      omega
    exact none
  · rw [String.utf8EncodeChar_eq_cons_cons size] at member
    simp [marked] at member
  · rw [String.utf8EncodeChar_eq_cons_cons_cons size] at member
    simp [marked] at member
  · rw [String.utf8EncodeChar_eq_cons_cons_cons_cons size] at member
    simp [marked] at member

/-- Text without NUL has no zero byte. -/
theorem zero_not_mem_textBytes {text : String} (plain : '\x00' ∉ text.toList) :
    0 ∉ textBytes text := by
  rw [textBytes_eq_flatMap, List.mem_flatMap]
  rintro ⟨character, present, member⟩
  exact plain (nul_of_mem_encode member ▸ present)

theorem nul_not_mem_lossyText {bytes : Bytes} (plain : 0 ∉ bytes) :
    '\x00' ∉ (lossyText bytes).toList := by
  have from' (fuel : Nat) : ∀ bytes : Bytes, 0 ∉ bytes → '\x00' ∉ lossyFrom fuel bytes := by
    induction fuel with
    | zero => simp [lossyFrom]
    | succ fuel ih =>
      intro bytes plain
      cases bytes with
      | nil => simp [lossyFrom]
      | cons head tail =>
        have later {count : Nat} : '\x00' ∉ lossyFrom fuel ((head :: tail).drop count) :=
          ih _ fun member => plain (List.mem_of_mem_drop member)
        simp only [lossyFrom]
        split
        · rename_i character decoded
          obtain ⟨rest, split⟩ := decodeChar_some decoded
          rw [List.mem_cons]
          rintro (rfl | member)
          · exact plain (by rw [split]; exact List.mem_append_left _ (by decide))
          · exact later member
        · rw [List.mem_cons]
          rintro (same | member)
          · exact absurd same (by decide)
          · exact later member
  rw [lossyText, String.toList_ofList]
  exact from' _ _ plain

/-! ### Texts split at a separator -/

section

variable {separator : Char} {text : String} {parts : List String}

theorem splitText_single (absent : separator ∉ text.toList) : splitText separator text = [text] := by
  simp [splitText, List.splitOn_eq_singleton absent]

theorem splitText_append (front back : String) :
    splitText separator (front ++ String.singleton separator ++ back) =
      splitText separator front ++ splitText separator back := by
  simp [splitText, List.splitOn_append_cons_self]

theorem joinStrings_splitText :
    joinStrings (String.singleton separator) (splitText separator text) = text := by
  apply String.toList_injective
  simp [joinStrings, splitText, Function.comp_def, List.intercalate_splitOn]

theorem splitText_joinStrings (some : parts ≠ [])
    (absent : ∀ part ∈ parts, separator ∉ part.toList) :
    splitText separator (joinStrings (String.singleton separator) parts) = parts := by
  have apart : ∀ characters ∈ parts.map String.toList, separator ∉ characters := by
    intro characters member
    obtain ⟨part, present, rfl⟩ := List.mem_map.mp member
    exact absent part present
  simp [splitText, joinStrings, List.splitOn_intercalate separator apart (by simpa using some),
    Function.comp_def]

/-- No part has the separator. -/
theorem not_mem_splitText : ∀ part ∈ splitText separator text, separator ∉ part.toList := by
  have lists (characters : List Char) :
      ∀ part ∈ characters.splitOn separator, separator ∉ part := by
    induction characters with
    | nil => simp
    | cons head rest ih =>
      rw [List.splitOn_cons_eq_if_modifyHead]
      split
      · rw [List.forall_mem_cons]
        exact ⟨List.not_mem_nil, ih⟩
      · rename_i other
        cases parts : rest.splitOn separator with
        | nil => exact absurd parts (List.splitOn_ne_nil separator rest)
        | cons first others =>
          rw [parts, List.forall_mem_cons] at ih
          rw [List.modifyHead_cons, List.forall_mem_cons, List.mem_cons, not_or]
          exact ⟨⟨fun same => other (by simp [same]), ih.1⟩, ih.2⟩
  intro part member
  obtain ⟨characters, present, rfl⟩ := List.mem_map.mp member
  rw [String.toList_ofList]
  exact lists text.toList characters present

/-- A text with the separator parts before it. -/
theorem exists_append_of_mem (present : separator ∈ text.toList) :
    ∃ front back, text = front ++ String.singleton separator ++ back := by
  obtain ⟨front, back, split⟩ := List.append_of_mem present
  refine ⟨String.ofList front, String.ofList back, String.toList_injective ?_⟩
  simp [split]

end

section

variable {before after : Char} {text : String}

@[simp] theorem toList_replaceChar : (replaceChar before after text).toList =
    text.toList.map fun character => if character = before then after else character :=
  String.toList_ofList

theorem replaceChar_absent (absent : before ∉ text.toList) : replaceChar before after text = text := by
  apply String.toList_injective
  rw [toList_replaceChar]
  refine (List.map_congr_left fun character member => ?_).trans (List.map_id _)
  rw [if_neg (fun same : character = before => absent (same ▸ member)), id]

end

/-! ### Trimming -/

theorem trimEndWhile_split (matched : Char → Bool) (text : String) :
    ∃ tail, text = trimEndWhile matched text ++ tail := by
  refine ⟨String.ofList (text.toList.reverse.takeWhile matched).reverse, String.toList_injective ?_⟩
  rw [String.toList_append, trimEndWhile, String.toList_ofList, String.toList_ofList,
    ← List.reverse_append, List.takeWhile_append_dropWhile, List.reverse_reverse]

theorem trim_split (text : String) : ∃ lead tail, text = lead ++ trim text ++ tail ∧
    lead.toList.all isWhitespace = true ∧ (trim text).toList.head?.any isWhitespace = false := by
  obtain ⟨tail, split⟩ := trimEndWhile_split isWhitespace text
  refine ⟨String.ofList ((trimEnd text).toList.takeWhile isWhitespace), tail,
    String.toList_injective ?_, ?_, ?_⟩
  · have parts := congrArg String.toList split
    rw [String.toList_append] at parts
    rw [String.toList_append, String.toList_append, trim, String.toList_ofList,
      String.toList_ofList, List.takeWhile_append_dropWhile]
    exact parts
  · rw [String.toList_ofList]
    exact List.all_takeWhile
  · rw [trim, String.toList_ofList]
    cases rest : (trimEnd text).toList.dropWhile isWhitespace with
    | nil => rfl
    | cons head _ =>
      have stopped := List.head_dropWhile_not isWhitespace (l := (trimEnd text).toList) (by simp [rest])
      simpa [rest] using stopped

end RocqMcp
