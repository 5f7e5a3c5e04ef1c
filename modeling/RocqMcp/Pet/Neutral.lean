import RocqMcp.Library.Patterns
import RocqMcp.Pet.Protocol
import Mathlib.Data.List.Basic

/-! The public message of a failure that is not a rejection by Rocq names neither
the product nor its protocol, and no error code. -/

namespace RocqMcp

open Library

/-- The tests for the characters of a word. -/
def literal (word : List Char) : List (Char → Bool) := word.map fun expected item => item == expected

/-- A hyphen with five ASCII digits. -/
def codePattern : List (Char → Bool) := (· == '-') :: List.replicate 5 Char.isDigit

theorem fits_literal (word text : List Char) :
    fits (literal word) text = word.isPrefixOf text := by
  induction word generalizing text with
  | nil => simp [literal, fits]
  | cons expected word ih =>
    cases text with
    | nil => rfl
    | cons item items =>
      rw [List.isPrefixOf, ← ih, Bool.beq_comm]
      rfl

theorem replaceAll_eq (needle replacement : List Char) (fuel : Nat) (text : List Char) :
    replaceAll needle replacement fuel text =
      rewriteAll (literal needle) replacement fuel text := by
  induction fuel generalizing text with
  | zero => rfl
  | succ fuel ih =>
    cases text with
    | nil => rfl
    | cons item items =>
      have length : (literal needle).length = needle.length := List.length_map _
      rw [replaceAll, rewriteAll, fits_literal, length, ih, ih]

/-- Where the scan finds no hyphen with five characters behind, no code begins. -/
theorem fits_codePattern_none {head : Char} {rest : List Char}
    (other : ∀ a b c d e late, head = '-' → rest = a :: b :: c :: d :: e :: late → False) :
    fits codePattern (head :: rest) = false := by
  by_contra found
  have matched := eq_true_of_ne_false found
  have length := length_of_fits matched
  have hyphen : head = '-' := by
    rw [codePattern, fits, Bool.and_eq_true_iff] at matched
    exact beq_iff_eq.mp matched.1
  rcases rest with _ | ⟨a, _ | ⟨b, _ | ⟨c, _ | ⟨d, _ | ⟨e, late⟩⟩⟩⟩⟩
  case cons.cons.cons.cons.cons => exact other a b c d e late hyphen rfl
  all_goals simp [codePattern] at length

theorem redactCodes_eq {text : List Char} {fuel : Nat} (enough : text.length ≤ fuel) :
    redactCodes text = rewriteAll codePattern "(internal error code)".toList fuel text := by
  fun_induction redactCodes text generalizing fuel with
  | case1 => cases fuel <;> rfl
  | case2 a b c d e rest digits ih =>
    cases fuel with
    | zero => simp at enough
    | succ fuel =>
      have matched : fits codePattern ('-' :: a :: b :: c :: d :: e :: rest) = true := by
        simpa [codePattern, fits, List.replicate] using digits
      have shorter : rest.length ≤ fuel := by
        simp only [List.length_cons] at enough
        omega
      rw [rewriteAll, if_pos matched, ih shorter]
      rfl
  | case3 a b c d e rest digits ih =>
    cases fuel with
    | zero => simp at enough
    | succ fuel =>
      have unmatched : ¬ fits codePattern ('-' :: a :: b :: c :: d :: e :: rest) = true := by
        simpa [codePattern, fits, List.replicate] using digits
      rw [rewriteAll, if_neg unmatched, ih (by simpa using enough)]
  | case4 head rest other ih =>
    cases fuel with
    | zero => simp at enough
    | succ fuel =>
      rw [rewriteAll, fits_codePattern_none other, ih (by simpa using enough)]
      rfl

/-- The text of a public message outside Rocq's own diagnostics. -/
structure BackendNeutral (message : String) : Prop where
  product : ¬ "PET".toList <:+: message.toList
  protocol : ¬ "petanque".toList <:+: message.toList
  codes : ∀ front digits back, message.toList = front ++ '-' :: (digits ++ back) →
    digits.length = 5 → ¬ digits.all Char.isDigit = true

theorem not_isInfix_of_occurs {word text : List Char} (some : word ≠ [])
    (absent : occurs (literal word) text = false) : ¬ word <:+: text := by
  rintro ⟨front, back, rfl⟩
  have here : fits (literal word) (word ++ back) = true := by
    rw [fits_literal, List.isPrefixOf_iff_prefix]
    exact List.prefix_append word back
  have found := occurs_append front here (by simpa [literal] using some)
  rw [← List.append_assoc, absent] at found
  cases found

theorem fits_digits {digits back : List Char} (digital : digits.all Char.isDigit = true) :
    fits (List.replicate digits.length Char.isDigit) (digits ++ back) = true := by
  induction digits with
  | nil => rfl
  | cons digit digits ih =>
    rw [List.all_cons, Bool.and_eq_true_iff] at digital
    rw [List.length_cons, List.replicate_succ, List.cons_append, fits, Bool.and_eq_true_iff]
    exact ⟨digital.1, ih digital.2⟩

theorem BackendNeutral.of_occurs {message : String}
    (product : occurs (literal "PET".toList) message.toList = false)
    (protocol : occurs (literal "petanque".toList) message.toList = false)
    (codes : occurs codePattern message.toList = false) : BackendNeutral message where
  product := not_isInfix_of_occurs (by decide) product
  protocol := not_isInfix_of_occurs (by decide) protocol
  codes front digits back split five digital := by
    have here : fits codePattern ('-' :: (digits ++ back)) = true := by
      rw [codePattern, fits, ← five, fits_digits digital]
      rfl
    have found := occurs_append front here (by simp [codePattern])
    rw [← split, codes] at found
    cases found

/-- Each stage removes its own pattern, and brings back none of the earlier ones. -/
theorem neutralizeTransportDetail_neutral (message : String) :
    BackendNeutral (neutralizeTransportDetail message) := by
  let renamed := replaceAll "petanque".toList "prover protocol".toList message.toList.length
    message.toList
  let neutral := replaceAll "PET".toList "prover".toList renamed.length renamed
  have protocol : occurs (literal "petanque".toList) renamed = false := by
    rw [show renamed = _ from replaceAll_eq _ _ _ _]
    exact rewriteAll_removes (by decide) (by decide) (Nat.le_refl _)
  have product : occurs (literal "PET".toList) neutral = false := by
    rw [show neutral = _ from replaceAll_eq _ _ _ _]
    exact rewriteAll_removes (by decide) (by decide) (Nat.le_refl _)
  have protocol' : occurs (literal "petanque".toList) neutral = false := by
    rw [show neutral = _ from replaceAll_eq _ _ _ _]
    exact rewriteAll_introduces _ (by decide) protocol
  have redacted : (neutralizeTransportDetail message).toList =
      rewriteAll codePattern "(internal error code)".toList neutral.length neutral := by
    rw [neutralizeTransportDetail, String.toList_ofList, ← redactCodes_eq (Nat.le_refl _)]
  apply BackendNeutral.of_occurs
  · rw [redacted]
    exact rewriteAll_introduces _ (by decide) product
  · rw [redacted]
    exact rewriteAll_introduces _ (by decide) protocol'
  · rw [redacted]
    exact rewriteAll_removes (by decide) (by decide) (Nat.le_refl _)

/-- A message that does not depend on the error. -/
theorem BackendNeutral.fixed (message : String)
    (checked : (occurs (literal "PET".toList) message.toList ||
      occurs (literal "petanque".toList) message.toList ||
      occurs codePattern message.toList) = false) : BackendNeutral message := by
  rw [Bool.or_eq_false_iff, Bool.or_eq_false_iff] at checked
  exact .of_occurs checked.1.1 checked.1.2 checked.2

/-- The deadline of a fragment is written in digits. -/
theorem timedOut_neutral (timeoutMs : Nat) :
    BackendNeutral (PetError.timedOut timeoutMs).publicMessage := by
  have split : (PetError.timedOut timeoutMs).publicMessage.toList =
      "proof fragment exceeded ".toList ++ Nat.toDigits 10 timeoutMs ++ " ms".toList := by
    change (toString "proof fragment exceeded " ++ toString timeoutMs ++ toString " ms").toList = _
    rw [String.toList_append, String.toList_append, Nat.toString_eq_repr, Nat.toList_repr]
    rfl
  have plain : ∀ letter : Char, letter.isDigit = false →
      ("proof fragment exceeded ".toList ++ " ms".toList).all (fun item => item != letter) = true →
      ∀ item ∈ (PetError.timedOut timeoutMs).publicMessage.toList, (item == letter) = false := by
    intro letter other fixed item member
    rw [List.all_append, Bool.and_eq_true_iff, List.all_eq_true, List.all_eq_true] at fixed
    rw [split, List.mem_append, List.mem_append] at member
    rcases member with (early | digit) | late
    · simpa using fixed.1 item early
    · have digital := Nat.isDigit_of_mem_toDigits (by decide) (by decide) digit
      refine beq_eq_false_iff_ne.mpr fun same => ?_
      rw [same, other] at digital
      cases digital
    · simpa using fixed.2 item late
  have product := plain 'P' (by decide) (by decide)
  have protocol := plain 'q' (by decide) (by decide)
  have codes := plain '-' (by decide) (by decide)
  apply BackendNeutral.of_occurs
  · exact occurs_none (· == 'P') (by simp [literal]) product
  · exact occurs_none (· == 'q') (by simp [literal]) protocol
  · exact occurs_none (· == '-') (by simp [codePattern]) codes

/-- The message of a failure is neutral, unless it is a rejection by Rocq, whose
own message is kept. -/
theorem publicMessage_neutral (error : PetError) :
    (error.isSemantic = false → BackendNeutral error.publicMessage) ∧
      (error.isSemantic = true → ∃ code kind message diagnostic,
        error = .remote code kind message diagnostic ∧ error.publicMessage = message) := by
  constructor
  · intro local'
    cases error with
    | invalid message => exact neutralizeTransportDetail_neutral message
    | environment message => exact neutralizeTransportDetail_neutral message
    | processLost message => exact neutralizeTransportDetail_neutral message
    | timedOut timeoutMs => exact timedOut_neutral timeoutMs
    | cancelled => exact .fixed "request cancelled" (by decide +kernel)
    | protocol message => exact .fixed "received an invalid response" (by decide +kernel)
    | outputOverflow => exact .fixed "response exceeded the output limit" (by decide +kernel)
    | remote code kind message diagnostic =>
      cases kind with
      | methodNotFound =>
        exact .fixed "a required operation is not supported" (by decide +kernel)
      | anomaly => exact .fixed "internal proof execution anomaly" (by decide +kernel)
      | system => exact .fixed "proof execution system failure" (by decide +kernel)
      | unknown code => exact .fixed "unrecognized proof execution failure" (by decide +kernel)
      | _ => cases local'
  · intro semantic
    cases error with
    | remote code kind message diagnostic =>
      refine ⟨code, kind, message, diagnostic, rfl, ?_⟩
      cases kind
      case methodNotFound | anomaly | system | unknown => cases semantic
      all_goals rfl
    | _ => cases semantic

end RocqMcp
