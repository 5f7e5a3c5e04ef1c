import RocqMcp.Library.Positions
import RocqMcp.Pet.Boundaries

/-! Byte anchors as LSP positions. A position determines its anchor, and offsets
inside a character have none. -/

namespace RocqMcp

open Library

/-- UTF-16 columns of UTF-8 text, in lines that end with `'\n'`. -/
def utf16 : Ruler Char where
  breaks character := character = '\n'
  columns character := if character.toNat < 0x10000 then 1 else 2
  width := Char.utf8Size
  positive character := by split <;> decide

/-- The byte offset of an LSP position. -/
def decodePosition (text : String) (position : SourcePosition) : Option Nat :=
  utf16.locate text.toList position.line position.character

def SourcePosition.place (position : SourcePosition) : Place where
  line := position.line
  column := position.character

section

variable (front back text : String) {offset : Nat}

theorem offset_utf16 : utf16.offset text.toList = text.utf8ByteSize := by
  rw [← length_textBytes, textBytes_eq_flatMap, List.length_flatMap]
  simp [Ruler.offset, utf16]

/-- A character before the last line does not count in its columns. -/
theorem lastLine_cons {character : Char} {rest : List Char} (more : '\n' ∈ rest) :
    ((character :: rest).splitOn '\n').getLastD [] = (rest.splitOn '\n').getLastD [] := by
  obtain ⟨early, late, rfl⟩ := List.append_of_mem more
  rw [← List.cons_append, List.splitOn_append_cons_self, List.splitOn_append_cons_self]
  simp [List.getLast?_eq_some_getLast (List.splitOn_ne_nil '\n' late)]

theorem placeAfter_lines (characters : List Char) : utf16.placeAfter characters =
    { line := characters.count '\n'
      column := (((characters.splitOn '\n').getLastD []).map utf16.columns).sum } := by
  induction characters with
  | nil => rfl
  | cons character rest ih =>
    rw [Ruler.placeAfter_cons, ih]
    by_cases ends : character = '\n'
    · have lines : (character :: rest).splitOn '\n' = [] :: rest.splitOn '\n' := by
        rw [List.splitOn_cons_eq_if_modifyHead, ends, if_pos (beq_self_eq_true _)]
      rw [lines, List.getLastD_cons]
      simp [utf16, ends]
    · by_cases more : '\n' ∈ rest
      · rw [lastLine_cons more]
        simp [utf16, ends, List.count_eq_zero.not_left.mpr more]
      · have line : (character :: rest).splitOn '\n' = [character :: rest] :=
          List.splitOn_eq_singleton (by simp [Ne.symm ends, more])
        rw [line, List.splitOn_eq_singleton more]
        simp [utf16, ends, List.count_eq_zero.mpr more]

theorem sourcePosition_append : sourcePosition (front ++ back) front.utf8ByteSize =
    .ok { line := (utf16.placeAfter front.toList).line
          character := (utf16.placeAfter front.toList).column } := by
  rw [placeAfter_lines]
  simp [sourcePosition, take_textBytes, utf16]

theorem decodePosition_append : decodePosition (front ++ back)
    { line := (utf16.placeAfter front.toList).line
      character := (utf16.placeAfter front.toList).column } = some front.utf8ByteSize := by
  rw [decodePosition, String.toList_append, Ruler.locate_placeAfter, offset_utf16]

theorem sourcePosition_inside (inside : isCharBoundary text offset = false) :
    sourcePosition text offset = .error (.invalid "source position is no longer valid") := by
  unfold sourcePosition
  unfold isCharBoundary at inside
  cases decoded : bytesText? ((textBytes text).take offset) with
  | none => rfl
  | some before => simpa [decoded] using inside

end

/-- On a character boundary the position decodes to the anchor, and later anchors
have later positions. Every other offset is rejected. -/
theorem sourcePosition_exact (text : String) (offset : Nat) :
    (isCharBoundary text offset = true →
      ∃ position, sourcePosition text offset = .ok position ∧
        decodePosition text position = some offset ∧
        ∀ later, offset < later → isCharBoundary text later = true →
          ∃ position', sourcePosition text later = .ok position' ∧
            position.place.Before position'.place) ∧
    (isCharBoundary text offset = false → sourcePosition text offset =
      .error (.invalid "source position is no longer valid")) := by
  refine ⟨?_, sourcePosition_inside text⟩
  intro boundary
  obtain ⟨front, back, rfl, rfl⟩ := isCharBoundary_iff.mp boundary
  refine ⟨_, sourcePosition_append front back, decodePosition_append front back, ?_⟩
  intro later order boundary'
  obtain ⟨middle, rest, rfl, rfl, some⟩ := split_later front back order boundary'
  refine ⟨_, String.append_assoc .. ▸ sourcePosition_append (front ++ middle) rest, ?_⟩
  rw [String.toList_append]
  exact Ruler.placeAfter_before some

end RocqMcp
