import RocqMcp.Pet.Transport
import RocqMcp.Text

/-! How `serde_json` writes a request, and how many bytes it needs for it. -/

namespace RocqMcp

/-! ### The JSON library -/

def hexByte (value : UInt8) : UInt8 := if value < 10 then 0x30 + value else 0x57 + value

/-- What stands for a byte inside a JSON string. -/
def escapeByte (byte : UInt8) : Bytes :=
  if byte = 0x22 || byte = 0x5C then [0x5C, byte]
  else if byte = 0x08 then [0x5C, 0x62]
  else if byte = 0x09 then [0x5C, 0x74]
  else if byte = 0x0A then [0x5C, 0x6E]
  else if byte = 0x0C then [0x5C, 0x66]
  else if byte = 0x0D then [0x5C, 0x72]
  else if byte < 0x20 then [0x5C, 0x75, 0x30, 0x30, hexByte (byte / 16), hexByte (byte % 16)]
  else [byte]

/-- The content of a JSON string. -/
def escapeText (text : String) : Bytes := (textBytes text).flatMap escapeByte

section

variable (escape : String → Bytes)

def stringBytes (text : String) : Bytes := 0x22 :: (escape text ++ [0x22])

def joinBytes (parts : List Bytes) : Bytes := List.intercalate [0x2C] parts

def memberBytes (member : String × Bytes) : Bytes := stringBytes escape member.1 ++ 0x3A :: member.2

/-- The members of an object, in the order of their names. -/
def objectBytes (members : List (String × Bytes)) : Bytes :=
  let sorted := members.mergeSort fun left right => left.1 ≤ right.1
  0x7B :: (joinBytes (sorted.map (memberBytes escape)) ++ [0x7D])

mutual

/-- `serde_json::to_vec`, with the given content of strings. -/
def Value.encode : Value → Bytes
  | .null => textBytes "null"
  | .bool value => textBytes (if value then "true" else "false")
  | .number value => textBytes (toString value)
  | .decimal text => textBytes text
  | .string text => stringBytes escape text
  | .array values => 0x5B :: (joinBytes (Value.encodeItems values) ++ [0x5D])
  | .object fields => objectBytes escape (Value.encodeFields fields)

def Value.encodeItems : List Value → List Bytes
  | [] => []
  | value :: rest => value.encode :: Value.encodeItems rest

def Value.encodeFields : List (String × Value) → List (String × Bytes)
  | [] => []
  | (field, value) :: rest => (field, value.encode) :: Value.encodeFields rest

end

end

/-! ### The requests for a fragment -/

/-- The parameters of `petanque/run`. -/
def runParams (state : UInt64) (fragment : String) : Value :=
  .object [("st", .number state.toNat), ("tac", .string fragment)]

/-- The parameters of `petanque/run_trace`. -/
def runTraceParams (state : UInt64) (fragment : String) (includeTrace : Bool) : Value :=
  .object [("st", .number state.toNat), ("tac", .string fragment),
    ("include_trace", .bool includeTrace)]

namespace PetLink

open Library

section

variable (json : JsonCodec) (surroundings : PetSurroundings)

def fitsHalf (fragment : String) : Act PetLink PetError Unit :=
  Act.ensure (fragment.utf8ByteSize ≤ maxRequestBytes / 2) (.invalid "proof fragment is oversized")

/-- `run_with_timeout`, up to the reply. -/
def runWithTimeout (state : UInt64) (fragment : String) (timeout : Option Nat) :
    Act PetLink PetError Value := do
  fitsHalf fragment
  callLiveWithTimeout json surroundings "petanque/run" (runParams state fragment) timeout

/-- `run_traced_with_timeout`, up to the reply. -/
def runTracedWithTimeout (state : UInt64) (fragment : String) (includeTrace : Bool)
    (timeout : Option Nat) : Act PetLink PetError Value := do
  fitsHalf fragment
  callLiveWithTimeout json surroundings "petanque/run_trace"
    (runTraceParams state fragment includeTrace) timeout

end

end PetLink

/-! ### Sizes -/

theorem length_escapeByte (byte : UInt8) : (escapeByte byte).length ≤ 6 := by
  unfold escapeByte
  repeat' split
  all_goals simp

theorem length_escapeText (text : String) :
    (escapeText text).length ≤ 6 * text.utf8ByteSize := by
  rw [← length_textBytes, escapeText]
  induction textBytes text with
  | nil => exact Nat.le_refl 0
  | cons byte rest ih =>
    have first := length_escapeByte byte
    rw [List.flatMap_cons, List.length_append, List.length_cons]
    omega

theorem length_joinBytes (parts : List Bytes) :
    (joinBytes parts).length ≤ (parts.map fun part => part.length + 1).sum := by
  unfold joinBytes
  induction parts with
  | nil => simp
  | cons part rest ih =>
    cases rest with
    | nil => simp
    | cons next later =>
      rw [List.intercalate_cons_cons, List.length_append, List.length_append, List.map_cons,
        List.sum_cons, List.length_singleton]
      omega

section

variable {escape : String → Bytes}

theorem length_stringBytes (text : String) :
    (stringBytes escape text).length = (escape text).length + 2 := by
  simp [stringBytes]

/-- The order of the members does not matter for the size. -/
theorem length_objectBytes (members : List (String × Bytes)) :
    (objectBytes escape members).length ≤
      2 + (members.map fun member => (escape member.1).length + member.2.length + 4).sum := by
  let sorted := members.mergeSort fun left right => left.1 ≤ right.1
  have joined := length_joinBytes (sorted.map (memberBytes escape))
  have sizes : (sorted.map (memberBytes escape)).map (fun part => part.length + 1) =
      sorted.map fun member => (escape member.1).length + member.2.length + 4 := by
    rw [List.map_map]
    refine List.map_congr_left fun member _ => ?_
    simp only [Function.comp_apply, memberBytes, List.length_append, length_stringBytes,
      List.length_cons]
    omega
  have same : (sorted.map fun member => (escape member.1).length + member.2.length + 4).sum =
      (members.map fun member => (escape member.1).length + member.2.length + 4).sum :=
    ((List.mergeSort_perm members _).map _).sum_nat
  rw [sizes, same] at joined
  have whole : (objectBytes escape members).length =
      2 + (joinBytes (sorted.map (memberBytes escape))).length := by
    simp only [objectBytes, List.length_cons, List.length_append, List.length_nil, sorted]
    omega
  omega

theorem utf8Size_of_isDigit {character : Char} (digit : character.isDigit = true) :
    character.utf8Size = 1 := by
  simp only [Char.isDigit, Bool.and_eq_true, decide_eq_true_eq] at digit
  have bound := digit.2
  rw [UInt32.le_iff_toNat_le] at bound
  rw [Char.utf8Size_eq_one_iff, UInt32.le_iff_toNat_le]
  have width : '9'.val.toNat = 57 := rfl
  have limit : (127 : UInt32).toNat = 127 := rfl
  omega

theorem length_digits (number : Nat) :
    (textBytes number.repr).length = (Nat.toDigits 10 number).length := by
  rw [textBytes_eq_flatMap, Nat.toList_repr, List.length_flatMap]
  have single : ∀ digit ∈ Nat.toDigits 10 number, (String.utf8EncodeChar digit).length = 1 := by
    intro digit member
    rw [String.length_utf8EncodeChar]
    exact utf8Size_of_isDigit (Nat.isDigit_of_mem_toDigits (by decide) (by decide) member)
  rw [List.map_congr_left single]
  simp

/-- A number of 64 bits has at most twenty digits. -/
theorem length_number (number : UInt64) :
    ((Value.number number.toNat).encode escape).length ≤ 20 := by
  have shown : toString (number.toNat : Int) = number.toNat.repr := rfl
  have small : number.toNat < 10 ^ 20 := Nat.lt_trans number.toNat_lt (by decide)
  rw [Value.encode, shown, length_digits]
  exact (Nat.length_toDigits_le_iff (by decide) (by decide)).mpr small

section

variable (escapes : ∀ text, (escape text).length ≤ 6 * text.utf8ByteSize)
include escapes

theorem length_string (text : String) :
    ((Value.string text).encode escape).length ≤ 6 * text.utf8ByteSize + 2 := by
  rw [Value.encode, length_stringBytes]
  exact Nat.add_le_add_right (escapes text) 2

/-- The envelope of a request. -/
theorem length_requestValue (id : UInt64) (method : String) (params : Value) :
    ((requestValue id.toNat method params).encode escape).length ≤
      200 + 6 * method.utf8ByteSize + (params.encode escape).length := by
  have version := escapes "jsonrpc"
  have number := escapes "id"
  have name := escapes "method"
  have arguments := escapes "params"
  have text := length_string escapes "2.0"
  have digits := @length_number escape id
  have called := length_string escapes method
  have sizes : "jsonrpc".utf8ByteSize = 7 ∧ "id".utf8ByteSize = 2 ∧ "method".utf8ByteSize = 6 ∧
      "params".utf8ByteSize = 6 ∧ "2.0".utf8ByteSize = 3 := by decide
  have whole := @length_objectBytes escape [("jsonrpc", (Value.string "2.0").encode escape),
    ("id", (Value.number id.toNat).encode escape), ("method", (Value.string method).encode escape),
    ("params", params.encode escape)]
  simp only [List.map_cons, List.map_nil, List.sum_cons, List.sum_nil] at whole
  simp only [requestValue, Value.encode, Value.encodeFields] at whole digits text called ⊢
  omega

theorem length_runParams (state : UInt64) (fragment : String) :
    ((runParams state fragment).encode escape).length ≤ 100 + 6 * fragment.utf8ByteSize := by
  have key := escapes "st"
  have key' := escapes "tac"
  have digits := @length_number escape state
  have text := length_string escapes fragment
  have sizes : "st".utf8ByteSize = 2 ∧ "tac".utf8ByteSize = 3 := by decide
  have whole := @length_objectBytes escape
    [("st", (Value.number state.toNat).encode escape), ("tac", (Value.string fragment).encode escape)]
  simp only [List.map_cons, List.map_nil, List.sum_cons, List.sum_nil] at whole
  simp only [runParams, Value.encode, Value.encodeFields] at whole digits text ⊢
  omega

theorem length_runTraceParams (state : UInt64) (fragment : String) (includeTrace : Bool) :
    ((runTraceParams state fragment includeTrace).encode escape).length ≤
      200 + 6 * fragment.utf8ByteSize := by
  have key := escapes "st"
  have key' := escapes "tac"
  have key'' := escapes "include_trace"
  have digits := @length_number escape state
  have text := length_string escapes fragment
  have flag : ((Value.bool includeTrace).encode escape).length ≤ 5 := by
    rw [Value.encode, length_textBytes]
    cases includeTrace <;> decide
  have sizes : "st".utf8ByteSize = 2 ∧ "tac".utf8ByteSize = 3 ∧ "include_trace".utf8ByteSize = 13 := by
    decide
  have whole := @length_objectBytes escape
    [("st", (Value.number state.toNat).encode escape), ("tac", (Value.string fragment).encode escape),
      ("include_trace", (Value.bool includeTrace).encode escape)]
  simp only [List.map_cons, List.map_nil, List.sum_cons, List.sum_nil] at whole
  simp only [runTraceParams, Value.encode, Value.encodeFields] at whole digits text flag ⊢
  omega

end

end

end RocqMcp
