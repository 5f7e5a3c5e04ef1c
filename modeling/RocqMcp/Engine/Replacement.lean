import RocqMcp.Library.Splice
import RocqMcp.Engine.Publication

/-! Publishing one declaration leaves the bytes of all others alone. -/

namespace RocqMcp

open Library

/-- The target was built from this row. -/
def DeclarationTarget.AnchoredAt (target : DeclarationTarget) (row : PetDeclaration) : Prop :=
  target.anchor.header = row.range ∧ target.anchor.declaration = row.declarationRange

section

variable {rows : List PetDeclaration} {row other : PetDeclaration} {index position : Nat}
  {length : Nat} {original output : Bytes} {target : DeclarationTarget} {fragments : List String}

theorem PetDeclaration.consistent_range (consistent : row.consistent length = true) :
    row.declarationRange.start < row.declarationRange.stop ∧ row.declarationRange.stop ≤ length := by
  simp only [PetDeclaration.consistent, Bool.and_eq_true, decide_eq_true_eq] at consistent
  omega

/-- No other row meets a replaceable one. -/
theorem replaceable_disjoint (at' : rows[index]? = some row)
    (replaceable : (replaceableDeclarationRanges rows)[index]? = some true)
    (elsewhere : position ≠ index) (another : rows[position]? = some other) :
    row.declarationRange.intersects other.declarationRange = false := by
  simp only [replaceableDeclarationRanges, List.getElem?_map, List.getElem?_zipIdx, at',
    Option.map_some, Nat.zero_add, Option.some.injEq, Bool.not_eq_true', List.any_eq_false] at replaceable
  have member : (other, position) ∈ rows.zipIdx := by
    simpa [List.mem_zipIdx_iff_getElem?] using another
  have separate := replaceable _ member
  simpa [Ne.symm elsewhere] using separate

theorem PetRange.intersects_false {range another : PetRange} (disjoint : range.intersects another = false) :
    another.stop ≤ range.start ∨ range.stop ≤ another.start := by
  simp only [PetRange.intersects, Bool.and_eq_false_iff, decide_eq_false_iff_not] at disjoint
  omega

/-- A replacement is a splice at the declaration of its target. -/
theorem Writeback.replacement_splice
    (replaced : Writeback.replacement original target fragments = .ok output) :
    ∃ body, output = splice original target.anchor.declaration.start target.anchor.declaration.stop body := by
  simp only [Writeback.replacement] at replaced
  split at replaced
  · cases replaced
  · cases text : Writeback.headerText original target with
    | error error =>
      rw [text] at replaced
      cases replaced
    | ok header =>
      rw [text] at replaced
      cases replaced
      exact ⟨_, rfl⟩

theorem DocumentContext.target_anchoredAt (context : DocumentContext) (row : PetDeclaration)
    (replaceable : Bool) (kind : DeclarationKind) :
    (context.target row replaceable kind).AnchoredAt row := ⟨rfl, rfl⟩

/-- Outside the row of its target a replacement changes no byte, and the bytes of
every other row stay where they are or move by the change of length. -/
theorem Writeback.replacement_frames (original output : Bytes) (rows : List PetDeclaration)
    (row : PetDeclaration) (index : Nat) (target : DeclarationTarget) (fragments : List String)
    (consistent : rows.all fun row => row.consistent original.length)
    (at' : rows[index]? = some row)
    (replaceable : (replaceableDeclarationRanges rows)[index]? = some true)
    (anchored : target.AnchoredAt row)
    (replaced : Writeback.replacement original target fragments = .ok output) :
    (∃ body, output = original.take row.declarationRange.start ++ body ++
      original.drop row.declarationRange.stop) ∧
    ∀ (position : Nat) (other : PetDeclaration), position ≠ index → rows[position]? = some other →
      let range := other.declarationRange
      (range.stop ≤ row.declarationRange.start ∧
        slice output range.start range.stop = slice original range.start range.stop) ∨
      (row.declarationRange.stop ≤ range.start ∧
        ∃ start stop, start + original.length = range.start + output.length ∧
          stop + original.length = range.stop + output.length ∧
          slice output start stop = slice original range.start range.stop) := by
  have fits (any : PetDeclaration) (position : Nat) (present : rows[position]? = some any) :
      any.declarationRange.start < any.declarationRange.stop ∧
        any.declarationRange.stop ≤ original.length :=
    PetDeclaration.consistent_range (List.all_eq_true.mp consistent _ (List.mem_of_getElem? present))
  obtain ⟨body, spliced⟩ := Writeback.replacement_splice replaced
  rw [anchored.2] at spliced
  have own := fits row index at'
  have size : output.length + (row.declarationRange.stop - row.declarationRange.start) =
      original.length + body.length := by
    rw [spliced]
    exact length_splice (by omega) own.2
  refine ⟨⟨body, spliced⟩, fun position other elsewhere another => ?_⟩
  have others := fits other position another
  rcases PetRange.intersects_false (replaceable_disjoint at' replaceable elsewhere another) with before | behind
  · left
    refine ⟨before, ?_⟩
    rw [spliced]
    exact slice_splice_before before (by omega)
  · right
    refine ⟨behind, _, _, ?_, ?_, spliced ▸ slice_splice_after (by omega) own.2 behind⟩ <;> omega

end

def sampleSource : Bytes := textBytes "Definition a : A.\nDefinition b : B.\n"

def sampleRow (name : String) (start : Nat) : PetDeclaration where
  qualifiedPath := ["M", name]
  kind := "Definition"
  range := { start, stop := start + 17 }
  declarationRange := { start, stop := start + 18 }
  proofFinished := false
  statement := ""

def sampleContext : DocumentContext where
  file := { text := "M.v" }
  library := { parts := ["M"] }
  source := ["M.v"]
  digest := []
  document := sampleSource

/-- Publishing the first definition moves the second one. -/
theorem Writeback.replacement_frames_next :
    ∃ output, Writeback.replacement sampleSource
        (sampleContext.target (sampleRow "a" 0) true .definition) ["exact x."] = .ok output ∧
      ∃ start stop, start + 36 = 18 + output.length ∧ stop + 36 = 36 + output.length ∧
        slice output start stop = slice sampleSource 18 36 := by
  have published : (Writeback.replacement sampleSource
      (sampleContext.target (sampleRow "a" 0) true .definition) ["exact x."]).toOption.isSome = true := by
    decide +kernel
  cases replaced : Writeback.replacement sampleSource
      (sampleContext.target (sampleRow "a" 0) true .definition) ["exact x."] with
  | error error => simp [replaced, Except.toOption] at published
  | ok output =>
    have frames := Writeback.replacement_frames sampleSource output
      [sampleRow "a" 0, sampleRow "b" 18] (sampleRow "a" 0) 0 _ ["exact x."] (by decide +kernel) rfl
      (by decide) (sampleContext.target_anchoredAt _ _ _) replaced
    refine ⟨output, rfl, ?_⟩
    rcases frames.2 1 (sampleRow "b" 18) (by decide) rfl with ⟨before, _⟩ | ⟨_, shifted⟩
    · exact absurd before (by decide)
    · have length : sampleSource.length = 36 := by decide +kernel
      rw [length] at shifted
      exact shifted

end RocqMcp
