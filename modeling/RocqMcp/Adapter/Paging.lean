import RocqMcp.Adapter.Arguments
import RocqMcp.Pet.Boundaries

/-! Paging a text by byte offsets loses nothing, and a retained proof view is
the first page of its full rendering. -/

namespace RocqMcp

section

variable {text : String} {start stop offset : Nat}

theorem sliceText_middle (front middle back : String) :
    sliceText (front ++ middle ++ back) front.utf8ByteSize (front ++ middle).utf8ByteSize = middle := by
  have taken : (textBytes (front ++ middle ++ back)).take (front ++ middle).utf8ByteSize =
      textBytes (front ++ middle) := by
    rw [textBytes_append _ back, ← length_textBytes, List.take_left]
  have dropped : (textBytes (front ++ middle)).drop front.utf8ByteSize = textBytes middle := by
    rw [textBytes_append, ← length_textBytes, List.drop_left]
  rw [sliceText, taken, dropped, bytesText_textBytes, Option.getD_some]

/-- No character is longer than four bytes. -/
theorem exists_boundary (characters : List Char) :
    ∀ offset, offset ≤ (String.ofList characters).utf8ByteSize →
      ∃ front back, characters = front ++ back ∧
        (String.ofList front).utf8ByteSize ≤ offset ∧
        offset < (String.ofList front).utf8ByteSize + 4 := by
  induction characters with
  | nil =>
    intro offset within
    refine ⟨[], [], rfl, by simp, ?_⟩
    simp at within
    simp [within]
  | cons character rest ih =>
    intro offset within
    have size : (String.ofList (character :: rest)).utf8ByteSize =
        character.utf8Size + (String.ofList rest).utf8ByteSize := by
      simp
    have short := character.utf8Size_le_four
    by_cases inside : offset < character.utf8Size
    · exact ⟨[], character :: rest, rfl, by simp, by simp; omega⟩
    · obtain ⟨front, back, rfl, below, near⟩ := ih (offset - character.utf8Size) (by omega)
      have grown : (String.ofList (character :: front)).utf8ByteSize =
          character.utf8Size + (String.ofList front).utf8ByteSize := by
        simp
      exact ⟨character :: front, back, rfl, by omega, by omega⟩

theorem boundary_near (within : offset ≤ text.utf8ByteSize) :
    ∃ boundary, isCharBoundary text boundary = true ∧ boundary ≤ offset ∧ offset < boundary + 4 := by
  obtain ⟨front, back, split, below, near⟩ :=
    exists_boundary text.toList offset (by simpa using within)
  refine ⟨_, isCharBoundary_iff.mpr ⟨String.ofList front, String.ofList back, ?_, rfl⟩, below, near⟩
  rw [← String.ofList_append, ← split, String.ofList_toList]

theorem string_eq_empty (empty : text.utf8ByteSize = 0) : text = "" := by
  simpa using empty

namespace Adapter

/-- The last boundary in reach: at most the position, and past every other one. -/
theorem floorBoundary_spec (boundary : isCharBoundary text start = true) (ordered : start ≤ stop) :
    start ≤ floorBoundary text start stop ∧ floorBoundary text start stop ≤ stop ∧
      isCharBoundary text (floorBoundary text start stop) = true ∧
      ∀ other, isCharBoundary text other = true → other ≤ stop →
        other ≤ floorBoundary text start stop := by
  induction stop with
  | zero =>
    obtain rfl : start = 0 := by omega
    exact ⟨Nat.le_refl _, Nat.le_refl _, boundary, fun _ _ below => below⟩
  | succ stop ih =>
    unfold floorBoundary
    split
    · rename_i walks
      simp only [Bool.and_eq_true, decide_eq_true_eq, Bool.not_eq_true'] at walks
      obtain ⟨above, below, at', greatest⟩ := ih (by omega)
      refine ⟨above, by omega, at', fun other otherAt reach => greatest other otherAt ?_⟩
      have different : other ≠ stop + 1 := by
        rintro rfl
        simp [walks.2] at otherAt
      omega
    · rename_i stays
      refine ⟨ordered, Nat.le_refl _, ?_, fun _ _ below => below⟩
      by_cases strict : start < stop + 1
      · simpa [strict] using stays
      · rwa [show stop + 1 = start by omega]

/-- A page of an unfinished text is not empty: no character is as long as a page. -/
theorem floorBoundary_advances (boundary : isCharBoundary text offset = true)
    (inside : offset < text.utf8ByteSize) :
    offset < floorBoundary text offset (min (offset + queryPageBytes) text.utf8ByteSize) := by
  have room : 4 ≤ queryPageBytes := by decide
  have ordered : offset ≤ min (offset + queryPageBytes) text.utf8ByteSize := by omega
  obtain ⟨_, _, _, greatest⟩ := floorBoundary_spec boundary ordered
  by_cases last : text.utf8ByteSize ≤ offset + queryPageBytes
  · have whole : isCharBoundary text text.utf8ByteSize = true :=
      isCharBoundary_iff.mpr ⟨text, "", by simp, rfl⟩
    have reached := greatest _ whole (by omega)
    omega
  · have reach : offset + queryPageBytes ≤ text.utf8ByteSize := by omega
    obtain ⟨near, nearAt, below, close⟩ := boundary_near reach
    have reached := greatest near nearAt (by omega)
    omega

/-- What one page of the text after `front` shows. -/
structure PageOf (front rest : String) (page : TextPage) : Prop where
  bounded : page.text.utf8ByteSize ≤ queryPageBytes
  shown : ∃ back, rest = page.text ++ back ∧
    (back = "" ∧ page.nextOffset = none ∨
      back ≠ "" ∧ page.text ≠ "" ∧ page.nextOffset = some (front ++ page.text).utf8ByteSize)

theorem textResult_page (front rest : String) (begun : rest ≠ "" ∨ front = "") :
    ∃ page, textResult (front ++ rest) front.utf8ByteSize = .ok page ∧ PageOf front rest page := by
  have boundary : isCharBoundary (front ++ rest) front.utf8ByteSize = true :=
    isCharBoundary_iff.mpr ⟨front, rest, rfl, rfl⟩
  have size : (front ++ rest).utf8ByteSize = front.utf8ByteSize + rest.utf8ByteSize :=
    String.utf8ByteSize_append
  have accepted : ¬ (front.utf8ByteSize = (front ++ rest).utf8ByteSize ∧ front ++ rest ≠ "") := by
    rintro ⟨ended, nonempty⟩
    have empty : rest = "" := string_eq_empty (by omega)
    rcases begun with more | first
    · exact more empty
    · exact nonempty (by rw [empty, first]; rfl)
  simp only [textResult]
  rw [if_neg (by simpa [boundary, size] using accepted)]
  by_cases small : front.utf8ByteSize = 0 ∧ (front ++ rest).utf8ByteSize ≤ queryPageBytes
  · have none : front = "" := string_eq_empty small.1
    rw [if_pos (by simpa using small)]
    refine ⟨_, rfl, small.2, "", ?_, .inl ⟨rfl, rfl⟩⟩
    simp [none]
  · rw [if_neg (by simpa using small)]
    have more : rest ≠ "" := by
      rintro rfl
      have first : front = "" := begun.resolve_left (fun absurd => absurd rfl)
      exact small (by simp [first])
    have nonempty : rest.utf8ByteSize ≠ 0 := fun empty => more (string_eq_empty empty)
    have advances := floorBoundary_advances boundary (by omega)
    have ordered : front.utf8ByteSize ≤
        min (front.utf8ByteSize + queryPageBytes) (front ++ rest).utf8ByteSize := by omega
    obtain ⟨_, below, stopAt, _⟩ := floorBoundary_spec boundary ordered
    set stop := floorBoundary (front ++ rest) front.utf8ByteSize
      (min (front.utf8ByteSize + queryPageBytes) (front ++ rest).utf8ByteSize) with reached
    obtain ⟨shown, back, split, position⟩ := isCharBoundary_iff.mp stopAt
    obtain ⟨page, rfl, rfl⟩ := append_split split (by omega)
    have slice : sliceText (front ++ (page ++ back)) front.utf8ByteSize stop = page := by
      rw [← position, ← String.append_assoc, sliceText_middle]
    have pageSize : (front ++ page).utf8ByteSize = front.utf8ByteSize + page.utf8ByteSize :=
      String.utf8ByteSize_append
    have backSize : (page ++ back).utf8ByteSize = page.utf8ByteSize + back.utf8ByteSize :=
      String.utf8ByteSize_append
    refine ⟨_, rfl, ?_, back, ?_, ?_⟩
    · simp only [slice]
      omega
    · simp only [slice]
    · simp only [slice]
      by_cases ended : back = ""
      · refine .inl ⟨ended, if_neg ?_⟩
        have none : back.utf8ByteSize = 0 := by simp [ended]
        omega
      · refine .inr ⟨ended, ?_, ?_⟩
        · intro empty
          have none : page.utf8ByteSize = 0 := by simp [empty]
          omega
        · have some : back.utf8ByteSize ≠ 0 := fun empty => ended (string_eq_empty empty)
          rw [if_pos (by omega), position]

/-- The pages that a client reads from an offset on, following each `next_offset`. -/
inductive Pages (text : String) : Nat → List TextPage → Prop where
  | last {offset : Nat} {page : TextPage} (read : textResult text offset = .ok page)
      (ended : page.nextOffset = none) : Pages text offset [page]
  | more {offset next : Nat} {page : TextPage} {rest : List TextPage}
      (read : textResult text offset = .ok page) (continues : page.nextOffset = some next)
      (following : Pages text next rest) : Pages text offset (page :: rest)

/-- Pages that show a text from an offset to its end. -/
structure Shows (text : String) (offset : Nat) (shown : String) (pages : List TextPage) : Prop where
  joined : String.join (pages.map TextPage.text) = shown
  bounded : ∀ page ∈ pages, page.text.utf8ByteSize ≤ queryPageBytes
  boundaries : ∀ next ∈ pages.filterMap TextPage.nextOffset, isCharBoundary text next = true
  increasing : (offset :: pages.filterMap TextPage.nextOffset).Pairwise (· < ·)

theorem Shows.cons {shown : String} {next : Nat} {page : TextPage} {pages : List TextPage}
    (shows : Shows text next shown pages) (bounded : page.text.utf8ByteSize ≤ queryPageBytes)
    (continues : page.nextOffset = some next) (boundary : isCharBoundary text next = true)
    (advances : offset < next) : Shows text offset (page.text ++ shown) (page :: pages) where
  joined := by simp [String.join_cons, shows.joined]
  bounded := by
    intro other member
    rcases List.mem_cons.mp member with rfl | later
    · exact bounded
    · exact shows.bounded other later
  boundaries := by
    intro other member
    rw [List.filterMap_cons_some continues] at member
    rcases List.mem_cons.mp member with rfl | later
    · exact boundary
    · exact shows.boundaries other later
  increasing := by
    rw [List.filterMap_cons_some continues]
    refine List.pairwise_cons.mpr ⟨fun other member => ?_, shows.increasing⟩
    rcases List.mem_cons.mp member with rfl | later
    · exact advances
    · exact Nat.lt_trans advances ((List.pairwise_cons.mp shows.increasing).1 other later)

/-- The pages after a boundary, by induction on the length of the rest. -/
theorem pages_show (size : Nat) : ∀ front rest : String, rest.utf8ByteSize = size →
    (rest ≠ "" ∨ front = "") →
    ∃ pages, Pages (front ++ rest) front.utf8ByteSize pages ∧
      Shows (front ++ rest) front.utf8ByteSize rest pages := by
  induction size using Nat.strongRecOn with
  | ind size ih =>
    intro front rest measured begun
    obtain ⟨page, read, bounded, back, rfl, ended | ⟨more, shown, continues⟩⟩ :=
      textResult_page front rest begun
    · obtain ⟨rfl, last⟩ := ended
      refine ⟨[page], .last read last, ?_, ?_, ?_, ?_⟩
      · simp
      · simpa using bounded
      · simp [last]
      · simp [last]
    · have split : front ++ (page.text ++ back) = (front ++ page.text) ++ back :=
        (String.append_assoc ..).symm
      have shorter : back.utf8ByteSize < size := by
        have grown : page.text.utf8ByteSize ≠ 0 := fun empty => shown (string_eq_empty empty)
        rw [String.utf8ByteSize_append] at measured
        omega
      obtain ⟨pages, following, shows⟩ := ih _ shorter (front ++ page.text) back rfl (.inl more)
      rw [← split] at following shows
      refine ⟨page :: pages, .more read continues following, shows.cons bounded continues ?_ ?_⟩
      · exact isCharBoundary_iff.mpr ⟨_, back, split, rfl⟩
      · have grown : page.text.utf8ByteSize ≠ 0 := fun empty => shown (string_eq_empty empty)
        rw [String.utf8ByteSize_append]
        omega

theorem textResult_accepts (text : String) (offset : Nat) :
    (∃ page, textResult text offset = .ok page) ↔
      offset = 0 ∨ isCharBoundary text offset = true ∧ offset < text.utf8ByteSize := by
  constructor
  · rintro ⟨page, read⟩
    by_contra refused
    simp only [not_or, not_and] at refused
    have rejected : (text.utf8ByteSize < offset || !isCharBoundary text offset ||
        (offset = text.utf8ByteSize && text ≠ "")) = true := by
      by_cases boundary : isCharBoundary text offset = true
      · have beyond := refused.2 boundary
        by_cases ended : offset = text.utf8ByteSize
        · have nonempty : text ≠ "" := by
            rintro rfl
            exact refused.1 (by simpa using ended)
          simp [ended, nonempty]
        · simp [show text.utf8ByteSize < offset by omega]
      · simp [boundary]
    rw [textResult, if_pos rejected] at read
    cases read
  · rintro (rfl | ⟨boundary, inside⟩)
    · obtain ⟨page, read, _⟩ := textResult_page "" text (.inr rfl)
      exact ⟨page, by simpa using read⟩
    · obtain ⟨front, rest, rfl, rfl⟩ := isCharBoundary_iff.mp boundary
      have more : rest ≠ "" := by
        rintro rfl
        simp at inside
      obtain ⟨page, read, _⟩ := textResult_page front rest (.inl more)
      exact ⟨page, read⟩

/-- The view that a checkpoint retains is the first page of the full rendering. -/
theorem boundedCheckpointView_firstPage (state : ProofState) :
    textResult state.goals 0 = .ok
      { text := (boundedCheckpointView state).1.goals
        nextOffset := (boundedCheckpointView state).2 } := by
  have boundary : isCharBoundary state.goals 0 = true :=
    isCharBoundary_iff.mpr ⟨"", state.goals, by simp, rfl⟩
  have accepted : ¬ (0 = state.goals.utf8ByteSize ∧ state.goals ≠ "") := by
    rintro ⟨ended, nonempty⟩
    exact nonempty (string_eq_empty ended.symm)
  simp only [textResult]
  rw [if_neg (by simpa [boundary] using accepted)]
  by_cases small : state.goals.utf8ByteSize ≤ queryPageBytes
  · simp [boundedCheckpointView, small]
  · have large : queryPageBytes < state.goals.utf8ByteSize := by omega
    obtain ⟨_, below, _⟩ := floorBoundary_spec boundary (Nat.zero_le queryPageBytes)
    have continues : floorBoundary state.goals 0 queryPageBytes < state.goals.utf8ByteSize := by
      omega
    simp [boundedCheckpointView, small, Nat.min_eq_left (Nat.le_of_lt large), continues]

/-- The page of goals that `state_json_with_options` renders of an open proof. -/
def StateView.goalsPage (view : StateView) : Except Error TextPage :=
  match view.retainedNextOffset with
  | some next => .ok { text := view.state.goals, nextOffset := some next }
  | none => textResult view.state.goals 0

theorem StateView.goalsPage_retained (state : ProofState) (checkpoint : Option CheckpointId)
    (structured : Bool) :
    StateView.goalsPage
      { state := (boundedCheckpointView state).1
        checkpoint
        retainedNextOffset := (boundedCheckpointView state).2
        structured } = textResult state.goals 0 := by
  have first := boundedCheckpointView_firstPage state
  by_cases small : state.goals.utf8ByteSize ≤ queryPageBytes
  · simp [StateView.goalsPage, boundedCheckpointView, small]
  · rw [first]
    simp [StateView.goalsPage, boundedCheckpointView, small]

/-- Paging reconstructs the text, and a truncated response followed by the pages
of a goal query reconstructs the full rendering. -/
theorem paging_reconstructs (text : String) (state : ProofState)
    (checkpoint : Option CheckpointId) (structured : Bool) (info : DeclarationInfo)
    (goals : PetGoals) :
    (∃ pages, Pages text 0 pages ∧ Shows text 0 text pages) ∧
      (∀ offset, (∃ page, textResult text offset = .ok page) ↔
        offset = 0 ∨ isCharBoundary text offset = true ∧ offset < text.utf8ByteSize) ∧
      textResult state.goals 0 = .ok
        { text := (boundedCheckpointView state).1.goals
          nextOffset := (boundedCheckpointView state).2 } ∧
      (∃ page rest, StateView.goalsPage
          { state := (boundedCheckpointView state).1
            checkpoint
            retainedNextOffset := (boundedCheckpointView state).2
            structured } = .ok page ∧
        (page.nextOffset = none ∧ rest = [] ∨
          ∃ next, page.nextOffset = some next ∧ Pages state.goals next rest) ∧
        page.text ++ String.join (rest.map TextPage.text) = state.goals) ∧
      renderGoals goals .focused none = some (proofStateStructured info goals).goals := by
  have reconstructs (whole : String) : ∃ pages, Pages whole 0 pages ∧ Shows whole 0 whole pages := by
    simpa using pages_show _ "" whole rfl (.inr rfl)
  refine ⟨reconstructs text, textResult_accepts text, boundedCheckpointView_firstPage state, ?_, rfl⟩
  obtain ⟨pages, followed, shows⟩ := reconstructs state.goals
  rw [StateView.goalsPage_retained]
  cases followed with
  | last read ended =>
    exact ⟨_, [], read, .inl ⟨ended, rfl⟩, by simpa using shows.joined⟩
  | more read continues following =>
    exact ⟨_, _, read, .inr ⟨_, continues, following⟩, by simpa [String.join_cons] using shows.joined⟩

end Adapter

end

end RocqMcp
