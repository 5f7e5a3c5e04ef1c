import RocqMcp.Engine.Symbols

/-! `contains_identifier` on byte offsets. No slice leaves a character boundary, and
the verdict is that of the search on characters. -/

namespace RocqMcp

open Library

section

variable (isAlphanumeric : Char → Bool) (source needle : String)

/-- The loop from a byte offset: none where a slice panics, or without fuel. -/
def searchIdentifier : Nat → Nat → Option Bool
  | 0, _ => none
  | fuel + 1, offset => do
    let rest ← textFrom? source offset
    match findText rest needle with
    | none => return false
    | some relative =>
      let start := offset + relative
      let stop := start + needle.utf8ByteSize
      let before := (← textUpTo? source start).toList.getLast?
      let behind := (← textFrom? source stop).toList.head?
      let identifier := Option.any (isIdentifierChar isAlphanumeric)
      if !identifier before && !identifier behind then return true
      else if source.utf8ByteSize ≤ stop then return false
      else searchIdentifier fuel stop

/-- `contains_identifier`, with its panics. -/
def containsIdentifier? : Option Bool :=
  if needle = "" then some false
  else searchIdentifier isAlphanumeric source needle (source.utf8ByteSize + 1) 0

end

variable {isAlphanumeric : Char → Bool} {needle : String}

/-- One round: the characters around the first occurrence decide, or the search
goes on behind it. -/
theorem searchIdentifier_found {fuel : Nat} {front early late : String}
    (found : findText (early ++ (needle ++ late)) needle = some early.utf8ByteSize) :
    searchIdentifier isAlphanumeric (front ++ (early ++ (needle ++ late))) needle (fuel + 1)
        front.utf8ByteSize =
      if !(front ++ early).toList.getLast?.any (isIdentifierChar isAlphanumeric) &&
          !late.toList.head?.any (isIdentifierChar isAlphanumeric) then some true
      else if late.utf8ByteSize = 0 then some false
      else searchIdentifier isAlphanumeric (front ++ early ++ needle ++ late) needle fuel
        (front ++ early ++ needle).utf8ByteSize := by
  have start : front.utf8ByteSize + early.utf8ByteSize = (front ++ early).utf8ByteSize := by simp
  have stop : (front ++ early).utf8ByteSize + needle.utf8ByteSize =
      (front ++ early ++ needle).utf8ByteSize := by simp
  have whole : front ++ early ++ needle ++ late = front ++ (early ++ (needle ++ late)) := by
    simp only [String.append_assoc]
  have upTo : textUpTo? (front ++ (early ++ (needle ++ late))) (front ++ early).utf8ByteSize =
      some (front ++ early) := by
    rw [← whole, String.append_assoc, textUpTo_append]
  have from' : textFrom? (front ++ (early ++ (needle ++ late)))
      (front ++ early ++ needle).utf8ByteSize = some late := by
    rw [← whole, textFrom_append]
  have ends : (front ++ (early ++ (needle ++ late))).utf8ByteSize ≤
      (front ++ early ++ needle).utf8ByteSize ↔ late.utf8ByteSize = 0 := by
    rw [← whole, String.utf8ByteSize_append]
    omega
  rw [searchIdentifier, textFrom_append, whole]
  simp only [Option.bind_eq_bind, Option.bind_some, found, start, stop, upTo, from', ends]
  rfl

theorem searchIdentifier_eq {fuel : Nat} {front back : String} (nonempty : needle ≠ "")
    (enough : back.utf8ByteSize < fuel) :
    searchIdentifier isAlphanumeric (front ++ back) needle fuel front.utf8ByteSize =
      some (searchFrom (isIdentifierChar isAlphanumeric) needle.toList 0 front.toList.getLast?
        back.toList) := by
  induction fuel generalizing front back with
  | zero => exact absurd enough (Nat.not_lt_zero _)
  | succ fuel ih =>
    cases found : findText back needle with
    | none =>
      rw [searchIdentifier, textFrom_append, searchFrom_none (findText_none found)]
      simp [found]
    | some relative =>
      obtain ⟨early, late, rfl, rfl, first⟩ := findText_some nonempty found
      have some : needle.toList ≠ [] := by simpa using nonempty
      have longer : 0 < needle.utf8ByteSize := by
        rw [← length_textBytes]
        obtain ⟨byte, rest, bytes, _⟩ := textBytes_first nonempty
        simp [bytes]
      have last : (front ++ early).toList.getLast? =
          early.toList.getLast?.or front.toList.getLast? := by
        rw [String.toList_append, List.getLast?_append]
      have last' : (front ++ early ++ needle).toList.getLast? =
          needle.toList.getLast?.or (front ++ early).toList.getLast? := by
        rw [String.toList_append, List.getLast?_append]
      have text : (early ++ (needle ++ late)).toList = early.toList ++ (needle ++ late).toList :=
        String.toList_append
      have text' : (needle ++ late).toList = needle.toList ++ late.toList := String.toList_append
      rw [searchIdentifier_found found, text, searchFrom_gap first, ← last, text',
        searchFrom_found some, ← last']
      split
      · rename_i free
        rw [free, Bool.true_or]
      · rename_i crowded
        rw [eq_false_of_ne_true crowded, Bool.false_or]
        split
        · rename_i none
          have empty : late = "" := String.utf8ByteSize_eq_zero_iff.mp none
          rw [empty]
          rfl
        · rw [String.utf8ByteSize_append, String.utf8ByteSize_append] at enough
          exact ih (by omega)

/-- The search on bytes neither panics nor runs out of fuel. -/
theorem containsIdentifier_eq (source needle : String) :
    containsIdentifier? isAlphanumeric source needle =
      some (containsIdentifier isAlphanumeric source needle) := by
  rw [containsIdentifier?, containsIdentifier]
  split
  · rename_i empty
    simp [empty]
  · rename_i nonempty
    have searched : searchIdentifier isAlphanumeric ("" ++ source) needle (source.utf8ByteSize + 1)
        "".utf8ByteSize = some (searchFrom (isIdentifierChar isAlphanumeric) needle.toList 0
          "".toList.getLast? source.toList) :=
      searchIdentifier_eq nonempty (Nat.lt_succ_self _)
    simpa [nonempty, containsWord] using searched

/-- A needle of identifier characters is found exactly where it stands with no
identifier character before or behind it. -/
theorem containsIdentifier_exact (isAlphanumeric : Char → Bool) (source needle : String)
    (nonempty : needle ≠ "")
    (identifier : ∀ character ∈ needle.toList, isIdentifierChar isAlphanumeric character = true) :
    ∃ verdict, containsIdentifier? isAlphanumeric source needle = some verdict ∧
      (verdict = true ↔
        Delimited (isIdentifierChar isAlphanumeric) needle.toList source.toList) := by
  refine ⟨_, containsIdentifier_eq source needle, ?_⟩
  have some : needle.toList ≠ [] := by simpa using nonempty
  rw [containsIdentifier, Bool.and_eq_true_iff, decide_eq_true_iff]
  constructor
  · intro found
    exact (containsWord_iff some identifier).mp found.2
  · intro delimited
    exact ⟨nonempty, (containsWord_iff some identifier).mpr delimited⟩

/-- The first occurrence ends in a longer name, and the next one stands alone. -/
theorem containsIdentifier_exact_later :
    ∃ verdict, containsIdentifier? Char.isAlphanum "ab_x ab" "ab" = some verdict ∧
      (verdict = true ↔
        Delimited (isIdentifierChar Char.isAlphanum) "ab".toList "ab_x ab".toList) :=
  containsIdentifier_exact Char.isAlphanum "ab_x ab" "ab" (by decide)
    (by simp [isIdentifierChar])

end RocqMcp
