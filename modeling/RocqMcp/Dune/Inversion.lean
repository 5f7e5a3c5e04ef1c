import RocqMcp.Dune.Lexing
import Mathlib.Algebra.Order.BigOperators.Group.List
import Mathlib.Algebra.Order.Group.Nat

/-! The lexer on printed S-expressions whose atoms it keeps, and the exact
condition under which it inverts the printer. -/

namespace RocqMcp

variable {lexer final : Lexer} {entries : List Printed}

/-- Dune prints the atom so that the lexer keeps its content. -/
structure SexpToken.Legible (token : SexpToken) : Prop where
  quotes : '"' ∉ token.text.toList
  numbers : token.isAtom → '#' ∈ token.text.toList → needsQuotes token.text = true

/-- The backslashes that Dune prints of a token. -/
def SexpToken.backslashes : SexpToken → Nat
  | opening | closing => 0
  | atom text => (atomContent text).count '\\'

/-! ### Parentheses -/

/-- The nesting depth after the tokens, unless one closes nothing. -/
def depthAfter : Nat → List SexpToken → Option Nat
  | depth, [] => some depth
  | depth, .opening :: rest => depthAfter (depth + 1) rest
  | 0, .closing :: _ => none
  | depth + 1, .closing :: rest => depthAfter depth rest
  | depth, .atom _ :: rest => depthAfter depth rest

mutual

theorem depthAfter_tokens (item : Sexp) (rest : List SexpToken) (depth : Nat) :
    depthAfter depth (item.tokens ++ rest) = depthAfter depth rest := by
  match item with
  | .atom text => rfl
  | .list items =>
    have inner := depthAfter_tokensOf items (.closing :: rest) (depth + 1)
    simpa [Sexp.tokens, depthAfter] using inner

theorem depthAfter_tokensOf (items : List Sexp) (rest : List SexpToken) (depth : Nat) :
    depthAfter depth (Sexp.tokensOf items ++ rest) = depthAfter depth rest := by
  match items with
  | [] => rfl
  | item :: others =>
    rw [Sexp.tokensOf, List.append_assoc, depthAfter_tokens item, depthAfter_tokensOf others]

end

theorem Printing.depthAfter_balanced (printing : Printing) :
    depthAfter 0 printing.tokens = some 0 := by
  have balanced := depthAfter_tokensOf printing.items [] 0
  rw [List.append_nil] at balanced
  rw [tokens, printing.shows, balanced]
  rfl

/-! ### What one token and one gap do -/

namespace Lexer

/-- Between tokens, outside quotes and comments. -/
structure Idle (lexer : Lexer) : Prop where
  unquoted : lexer.quote = false
  active : lexer.comment = false

/-- The lexer after a token. -/
def feed (lexer : Lexer) : SexpToken → Lexer
  | .opening => { lexer.flush with out := lexer.flush.out ++ ["("], depth := lexer.depth + 1 }
  | .closing => { lexer.flush with out := lexer.flush.out ++ [")"], depth := lexer.depth - 1 }
  | .atom text => { lexer with token := lexer.token ++ String.ofList (atomContent text) }

/-- The lexer after a gap: only white space ends a token. -/
def pause (lexer : Lexer) (gap : List Blank) : Lexer :=
  if gap.any Blank.isSpace then lexer.flush else lexer

def feedAll (lexer : Lexer) (entries : List Printed) : Lexer :=
  entries.foldl (fun lexer entry => (lexer.feed entry.1).pause entry.2) lexer

theorem flush_comment (lexer : Lexer) : lexer.flush.comment = lexer.comment := by
  unfold flush
  split <;> rfl

@[simp] theorem flush_depth (lexer : Lexer) : lexer.flush.depth = lexer.depth := by
  unfold flush
  split <;> rfl

@[simp] theorem flush_flush (lexer : Lexer) : lexer.flush.flush = lexer.flush := by
  rw [flush, if_pos (flush_token lexer)]

@[simp] theorem pause_flush (lexer : Lexer) (gap : List Blank) :
    (lexer.pause gap).flush = lexer.flush := by
  unfold pause
  split
  · exact flush_flush lexer
  · rfl

theorem pause_depth (lexer : Lexer) (gap : List Blank) :
    (lexer.pause gap).depth = lexer.depth := by
  unfold pause
  split <;> simp

theorem Idle.flush (idle : lexer.Idle) : lexer.flush.Idle :=
  ⟨(flush_quote lexer).trans idle.unquoted, (flush_comment lexer).trans idle.active⟩

theorem Idle.pause (idle : lexer.Idle) (gap : List Blank) : (lexer.pause gap).Idle := by
  unfold Lexer.pause
  split
  · exact idle.flush
  · exact idle

theorem Idle.feed (idle : lexer.Idle) (token : SexpToken) : (lexer.feed token).Idle := by
  cases token with
  | opening => exact ⟨idle.flush.unquoted, idle.flush.active⟩
  | closing => exact ⟨idle.flush.unquoted, idle.flush.active⟩
  | atom text => exact ⟨idle.unquoted, idle.active⟩

/-- Outside quotes, the characters of a bare atom belong to the token. -/
theorem run_bare {characters : List Char} (idle : lexer.Idle)
    (plain : ∀ character ∈ characters, isWhitespace character = false ∧ character ≠ '(' ∧
      character ≠ ')' ∧ character ≠ '"' ∧ character ≠ ';' ∧ character ≠ '#') :
    lexer.run characters = .ok { lexer with token := lexer.token ++ String.ofList characters } := by
  induction characters generalizing lexer with
  | nil => simp [run]
  | cons head rest ih =>
    obtain ⟨white, opening, closing, quote, comment, number⟩ := plain head List.mem_cons_self
    have stepped : lexer.step head = .ok { lexer with token := lexer.token.push head } := by
      simp [step, idle.active, idle.unquoted, white, opening, closing, quote, comment, number]
    have pushed := @ih { lexer with token := lexer.token.push head } ⟨idle.unquoted, idle.active⟩
      fun character member => plain character (List.mem_cons_of_mem _ member)
    simp only [run, stepped, pushed, String.append_ofList_cons]

theorem run_gap (idle : lexer.Idle) (gap : List Blank) :
    lexer.run (gapCharacters gap) = .ok (lexer.pause gap) := by
  induction gap generalizing lexer with
  | nil => rfl
  | cons blank rest ih =>
    rw [gapCharacters, List.flatMap_cons, ← gapCharacters]
    cases blank with
    | space character white =>
      have other : character ≠ '"' ∧ character ≠ '(' ∧ character ≠ ')' ∧ character ≠ ';' ∧
          character ≠ '#' := by
        refine ⟨?_, ?_, ?_, ?_, ?_⟩ <;> rintro rfl <;> exact absurd white (by decide)
      have stepped : lexer.step character = .ok lexer.flush := by
        simp [step, idle.active, idle.unquoted, white, other]
      simp only [Blank.characters, List.singleton_append, run, stepped, ih idle.flush]
      simp only [pause, List.any_cons, Blank.isSpace, Bool.true_or, if_true, flush_flush, ite_self]
    | comment text line =>
      have same : { lexer with comment := false } = lexer := by
        cases lexer
        simpa using idle.active.symm
      rw [Blank.characters, run_append _ _ (run_comment idle.unquoted line), same, ih idle]
      simp [pause, Blank.isSpace]

/-- A token whose atom Dune prints legibly. A parenthesis that closes nothing is an error. -/
theorem run_token (idle : lexer.Idle) {token : SexpToken} (legible : token.Legible)
    (nested : token = .closing → lexer.depth ≠ 0) :
    lexer.run token.characters = .ok (lexer.feed token) := by
  cases token with
  | opening =>
    have stepped : lexer.step '(' = .ok (lexer.feed .opening) := by
      simp [step, idle.active, idle.unquoted, parenthesis, feed]
    simp [SexpToken.characters, run, stepped]
  | closing =>
    have stepped : lexer.step ')' = .ok (lexer.feed .closing) := by
      simp [step, idle.active, idle.unquoted, parenthesis, feed, nested rfl]
    simp [SexpToken.characters, run, stepped]
  | atom text =>
    have quotes : '"' ∉ text.toList := legible.quotes
    have content : '"' ∉ atomContent text :=
      fun member => (atomContent_harmless quotes _ member).1 rfl
    simp only [SexpToken.characters]
    split
    · exact run_quoted idle.active idle.unquoted content
    · rename_i bare
      have bare : needsQuotes text = false := by simpa using bare
      apply run_bare idle
      intro character member
      have same : atomContent text = text.toList := by simp [atomContent, bare]
      rw [same] at member
      obtain ⟨white, opening, closing, quote, comment, _⟩ := (bare_characters bare).2 character member
      refine ⟨white, opening, closing, quote, comment, ?_⟩
      rintro rfl
      have quoted := legible.numbers rfl member
      exact absurd (bare.symm.trans quoted) (by simp)

theorem run_entries {depth : Nat} (idle : lexer.Idle)
    (legible : ∀ entry ∈ entries, entry.1.Legible)
    (nested : depthAfter lexer.depth (entries.map Prod.fst) = some depth) :
    lexer.run (entryCharacters entries) = .ok (lexer.feedAll entries) ∧
      (lexer.feedAll entries).Idle ∧ (lexer.feedAll entries).depth = depth := by
  induction entries generalizing lexer with
  | nil => exact ⟨rfl, idle, Option.some.inj nested⟩
  | cons entry rest ih =>
    obtain ⟨token, gap⟩ := entry
    have open' : token = .closing → lexer.depth ≠ 0 := by
      rintro rfl none
      simp [none, depthAfter] at nested
    have deeper : depthAfter ((lexer.feed token).pause gap).depth (rest.map Prod.fst) = some depth := by
      rw [pause_depth]
      cases token with
      | opening => exact nested
      | atom text => exact nested
      | closing =>
        cases level : lexer.depth with
        | zero => exact absurd level (open' rfl)
        | succ depth => simpa [feed, level, depthAfter] using nested
    have fed := run_token idle (legible (token, gap) List.mem_cons_self) open'
    have paused := run_gap (idle.feed token) gap
    obtain ⟨ran, idle', ended⟩ := ih ((idle.feed token).pause gap)
      (fun other member => legible other (List.mem_cons_of_mem _ member)) deeper
    refine ⟨?_, idle', ended⟩
    rw [entryCharacters, List.flatMap_cons, ← entryCharacters, List.append_assoc,
      run_append _ _ fed, run_append _ _ paused, ran]
    rfl

/-! ### The tokens of a plain printing -/

theorem pause_token (lexer : Lexer) (gap : List Blank) (space : gap.any Blank.isSpace = true) :
    (lexer.pause gap).token = "" := by
  rw [pause, if_pos space, flush_token]

theorem flush_settled (settled : lexer.token = "") : lexer.flush = lexer := if_pos settled

/-- A parenthesis ends the pending token, and is one. -/
theorem feed_parenthesis {token : SexpToken} (structural : token.isAtom = false) :
    (lexer.feed token).token = "" ∧
      (lexer.feed token).flush.out = lexer.flush.out ++ [token.text] := by
  have settled : (lexer.feed token).token = "" := by
    cases token with
    | opening => exact flush_token lexer
    | closing => exact flush_token lexer
    | atom text => cases structural
  refine ⟨settled, ?_⟩
  rw [flush_settled settled]
  cases token with
  | opening => rfl
  | closing => rfl
  | atom text => cases structural

/-- A token of text on its own. -/
theorem feed_alone {token : SexpToken} (nonempty : token.text ≠ "")
    (content : ∀ text, token = .atom text → atomContent text = text.toList)
    (fresh : token.isAtom → lexer.token = "") :
    (lexer.feed token).flush.out = lexer.flush.out ++ [token.text] ∧
      (token.isAtom = false → (lexer.feed token).token = "") := by
  cases token with
  | opening => exact ⟨(feed_parenthesis rfl).2, fun _ => (feed_parenthesis rfl).1⟩
  | closing => exact ⟨(feed_parenthesis rfl).2, fun _ => (feed_parenthesis rfl).1⟩
  | atom text =>
    have nonempty : text ≠ "" := nonempty
    have empty : lexer.token = "" := fresh rfl
    have printed := content text rfl
    simp [feed, flush, empty, printed, nonempty, SexpToken.text, SexpToken.isAtom]

theorem feedAll_plain (nonempty : ∀ entry ∈ entries, entry.1.text ≠ "")
    (content : ∀ text, .atom text ∈ entries.map Prod.fst → atomContent text = text.toList)
    (gaps : entries.IsChain fun left right =>
      left.1.isAtom → right.1.isAtom → left.2.any Blank.isSpace = true)
    (fresh : ∀ entry ∈ entries.head?, entry.1.isAtom → lexer.token = "") :
    (lexer.feedAll entries).flush.out =
      lexer.flush.out ++ (entries.map fun entry => entry.1.text) := by
  induction entries generalizing lexer with
  | nil => simp [feedAll]
  | cons entry rest ih =>
    obtain ⟨token, gap⟩ := entry
    obtain ⟨pushed, ended⟩ : (lexer.feed token).flush.out = lexer.flush.out ++ [token.text] ∧ _ :=
      feed_alone (nonempty (token, gap) List.mem_cons_self)
        (fun text same => content text (same ▸ List.mem_cons_self)) (fresh (token, gap) rfl)
    have next : ∀ entry ∈ rest.head?, entry.1.isAtom → ((lexer.feed token).pause gap).token = "" := by
      intro entry first atom
      cases rest with
      | nil => cases first
      | cons right others =>
        obtain rfl := Option.some.inj first
        obtain ⟨apart, _⟩ := List.isChain_cons_cons.mp gaps
        cases kind : token.isAtom with
        | true => exact pause_token _ gap (apart kind atom)
        | false =>
          have empty := ended kind
          unfold pause
          split
          · exact flush_token _
          · exact empty
    have others : (((lexer.feed token).pause gap).feedAll rest).flush.out = _ := ih
      (fun entry member => nonempty entry (List.mem_cons_of_mem _ member))
      (fun text member => content text (List.mem_cons_of_mem _ member)) gaps.of_cons next
    rw [feedAll, List.foldl_cons, ← feedAll, others, pause_flush, pushed]
    simp

/-! ### What an inverted printing must be -/

theorem feed_backslashes (lexer : Lexer) (token : SexpToken) :
    (lexer.feed token).kept '\\' = lexer.kept '\\' + token.backslashes := by
  rw [← kept_flush '\\' lexer]
  cases token with
  | opening => simp [feed, kept, SexpToken.backslashes]
  | closing => simp [feed, kept, SexpToken.backslashes]
  | atom text =>
    rw [kept_flush]
    simp [feed, kept, SexpToken.backslashes, Nat.add_assoc]

theorem pause_kept (character : Char) (lexer : Lexer) (gap : List Blank) :
    (lexer.pause gap).kept character = lexer.kept character := by
  unfold pause
  split
  · exact kept_flush character lexer
  · rfl

theorem feedAll_backslashes (lexer : Lexer) (entries : List Printed) :
    (lexer.feedAll entries).kept '\\' =
      lexer.kept '\\' + (entries.map fun entry => entry.1.backslashes).sum := by
  induction entries generalizing lexer with
  | nil => rfl
  | cons entry rest ih =>
    rw [feedAll, List.foldl_cons, ← feedAll, ih, pause_kept, feed_backslashes, List.map_cons,
      List.sum_cons, Nat.add_assoc]

/-- One token lengthens the output by at most one, and an atom that follows a
pending token not at all. -/
theorem feed_length (lexer : Lexer) (token : SexpToken) :
    (lexer.feed token).flush.out.length ≤ lexer.flush.out.length + 1 ∧
      (token.isAtom → lexer.token ≠ "" →
        (lexer.feed token).flush.out.length = lexer.flush.out.length) := by
  cases token with
  | opening =>
    have output : (lexer.feed .opening).flush.out = _ := (feed_parenthesis rfl).2
    simp [output, SexpToken.isAtom]
  | closing =>
    have output : (lexer.feed .closing).flush.out = _ := (feed_parenthesis rfl).2
    simp [output, SexpToken.isAtom]
  | atom text =>
    simp only [feed, flush]
    by_cases pending : lexer.token = ""
    · simp only [pending, if_true, ne_eq, not_true_eq_false, false_implies, implies_true, and_true]
      split <;> simp
    · simp [pending]

theorem feedAll_length (lexer : Lexer) (entries : List Printed) :
    (lexer.feedAll entries).flush.out.length ≤ lexer.flush.out.length + entries.length := by
  induction entries generalizing lexer with
  | nil => exact Nat.le_refl _
  | cons entry rest ih =>
    have others := ih ((lexer.feed entry.1).pause entry.2)
    have first := (feed_length lexer entry.1).1
    rw [pause_flush] at others
    rw [feedAll, List.foldl_cons, ← feedAll, List.length_cons]
    omega

/-- If no two atoms merge, white space parts every two neighbours. -/
theorem feedAll_gaps (content : ∀ text, .atom text ∈ entries.map Prod.fst → atomContent text ≠ [])
    (all : (lexer.feedAll entries).flush.out.length = lexer.flush.out.length + entries.length) :
    (entries.IsChain fun left right =>
      left.1.isAtom → right.1.isAtom → left.2.any Blank.isSpace = true) ∧
    ∀ entry ∈ entries.head?, entry.1.isAtom → lexer.token = "" := by
  induction entries generalizing lexer with
  | nil => exact ⟨.nil, nofun⟩
  | cons entry rest ih =>
    obtain ⟨token, gap⟩ := entry
    have all : (((lexer.feed token).pause gap).feedAll rest).flush.out.length =
        lexer.flush.out.length + (rest.length + 1) := all
    have others := feedAll_length ((lexer.feed token).pause gap) rest
    obtain ⟨first, merged⟩ := feed_length lexer token
    rw [pause_flush] at others
    obtain ⟨apart, fresh⟩ := @ih ((lexer.feed token).pause gap)
      (fun text member => content text (List.mem_cons_of_mem _ member)) (by
        rw [pause_flush]
        omega)
    constructor
    · cases rest with
      | nil => exact .singleton _
      | cons right rest =>
        refine List.isChain_cons_cons.mpr ⟨fun left atom => ?_, apart⟩
        have ended := fresh right rfl atom
        cases token with
        | opening => cases left
        | closing => cases left
        | atom text =>
          have nonempty := content text List.mem_cons_self
          by_contra tight
          rw [pause, if_neg tight] at ended
          simp [feed, nonempty] at ended
    · intro entry member atom
      obtain rfl := Option.some.inj member
      by_contra pending
      have same := merged atom pending
      omega

/-- The lexer never has an empty token, nor a quote in one. -/
structure Tidy (lexer : Lexer) : Prop where
  out : ∀ token ∈ lexer.out, token ≠ "" ∧ '"' ∉ token.toList
  token : '"' ∉ lexer.token.toList

theorem Tidy.flush (tidy : lexer.Tidy) : lexer.flush.Tidy := by
  unfold Lexer.flush
  split
  · exact tidy
  · rename_i pending
    constructor
    · intro token member
      rcases List.mem_append.mp member with early | last
      · exact tidy.out token early
      · obtain rfl := List.mem_singleton.mp last
        exact ⟨pending, tidy.token⟩
    · simp

theorem Tidy.step {character : Char} {next : Lexer} (tidy : lexer.Tidy)
    (stepped : lexer.step character = .ok next) : next.Tidy := by
  rcases step_cases stepped with ⟨_, rfl⟩ | ⟨_, _, _, rfl⟩ | ⟨_, _, rfl⟩ |
    ⟨_, _, structural, _, rfl⟩ | ⟨_, _, _, rfl⟩ | ⟨_, other, _, rfl⟩
  · exact ⟨tidy.out, tidy.token⟩
  · exact ⟨tidy.out, tidy.token⟩
  · exact ⟨tidy.out, tidy.token⟩
  · refine ⟨fun token member => ?_, tidy.flush.token⟩
    rcases List.mem_append.mp member with early | last
    · exact tidy.flush.out token early
    · obtain rfl := List.mem_singleton.mp last
      rcases structural with rfl | rfl <;> decide
  · exact tidy.flush
  · refine ⟨tidy.out, ?_⟩
    simp only [String.toList_push, List.mem_append, List.mem_singleton, not_or]
    exact ⟨tidy.token, Ne.symm other⟩

end Lexer

/-- A sum of parts that are all at most their bounds reaches the bounds only if each part does. -/
theorem List.parts_equal {α : Type} {items : List α} {part bound : α → Nat}
    (within : ∀ item ∈ items, part item ≤ bound item)
    (reached : (items.map bound).sum ≤ (items.map part).sum) :
    ∀ item ∈ items, part item = bound item := by
  induction items with
  | nil => exact nofun
  | cons head rest ih =>
    have first := within head List.mem_cons_self
    have others : ∀ item ∈ rest, part item ≤ bound item :=
      fun item member => within item (List.mem_cons_of_mem _ member)
    have total : (rest.map part).sum ≤ (rest.map bound).sum := List.sum_le_sum others
    simp only [List.map_cons, List.sum_cons] at reached
    intro item member
    rcases List.mem_cons.mp member with rfl | later
    · omega
    · exact ih others (by omega) item later

theorem sexpTokens_ok {source : String} {tokens : List String}
    (lexed : sexpTokens source = .ok tokens) :
    ∃ final, ({} : Lexer).run source.toList = .ok final ∧ final.flush.out = tokens := by
  unfold sexpTokens at lexed
  split at lexed
  · cases lexed
  · rename_i final ran
    split at lexed
    · cases lexed
    · exact ⟨final, ran, Except.ok.inj lexed⟩

namespace Printing

variable {printing : Printing}

theorem Inverted.tidy (inverted : printing.Inverted) :
    ∀ token ∈ printing.tokens, token.text ≠ "" ∧ '"' ∉ token.text.toList := by
  obtain ⟨final, ran, out⟩ := sexpTokens_ok inverted.1
  have initial : ({} : Lexer).Tidy := ⟨nofun, by simp⟩
  have tidy := Lexer.run_invariant Lexer.Tidy (fun _ _ _ tidy stepped => tidy.step stepped) initial ran
  intro token member
  apply tidy.flush.out
  rw [out]
  exact List.mem_map_of_mem member

/-- The lexer keeps only the number signs of quoted atoms, so an inverted
printing has no others. -/
theorem Inverted.legible (inverted : printing.Inverted) :
    ∀ entry ∈ printing.entries, entry.1.Legible := by
  obtain ⟨final, ran, out⟩ := sexpTokens_ok inverted.1
  have quotes : ∀ entry ∈ printing.entries, '"' ∉ entry.1.text.toList :=
    fun entry member => (inverted.tidy entry.1 (List.mem_map_of_mem member)).2
  rw [Printing.text, String.toList_ofList,
    Lexer.run_append _ _ (Lexer.run_gap ⟨rfl, rfl⟩ printing.lead)] at ran
  have idle : (({} : Lexer).pause printing.lead).Idle := Lexer.Idle.pause ⟨rfl, rfl⟩ _
  have bounded := Lexer.run_entries_unquoted printing.entries quotes idle.unquoted ran
  have none : (({} : Lexer).pause printing.lead).kept '#' = 0 := by
    rw [Lexer.pause_kept]
    rfl
  have total : final.kept '#' =
      (printing.entries.map fun entry => entry.1.text.toList.count '#').sum := by
    rw [← Lexer.kept_flush, Lexer.kept, Lexer.flush_token, out, tokens, List.map_map, List.map_map]
    rfl
  have within : ∀ entry ∈ printing.entries,
      entry.1.quotedNumbers ≤ entry.1.text.toList.count '#' := by
    intro entry _
    cases entry.1 with
    | opening => exact Nat.zero_le _
    | closing => exact Nat.zero_le _
    | atom text =>
      simp only [SexpToken.quotedNumbers, SexpToken.text]
      split <;> omega
  have equal := List.parts_equal within (by omega)
  intro entry member
  refine ⟨quotes entry member, fun atom number => ?_⟩
  have same := equal entry member
  have some : 0 < entry.1.text.toList.count '#' := List.count_pos_iff.mpr number
  cases kind : entry.1 with
  | opening => simp [kind, SexpToken.isAtom] at atom
  | closing => simp [kind, SexpToken.isAtom] at atom
  | atom text =>
    rw [kind] at same some
    by_contra bare
    simp only [SexpToken.text] at bare some
    simp only [SexpToken.quotedNumbers, bare, SexpToken.text, if_false] at same
    omega

/-- What the lexer makes of a legible printing. -/
theorem lexed (legible : ∀ entry ∈ printing.entries, entry.1.Legible) :
    sexpTokens printing.text =
      .ok ((({} : Lexer).pause printing.lead).feedAll printing.entries).flush.out := by
  have idle : (({} : Lexer).pause printing.lead).Idle := Lexer.Idle.pause ⟨rfl, rfl⟩ _
  have nested : depthAfter (({} : Lexer).pause printing.lead).depth
      (printing.entries.map Prod.fst) = some 0 := by
    rw [Lexer.pause_depth]
    exact printing.depthAfter_balanced
  obtain ⟨ran, ended, depth⟩ := Lexer.run_entries idle legible nested
  have whole : ({} : Lexer).run printing.text.toList =
      .ok ((({} : Lexer).pause printing.lead).feedAll printing.entries) := by
    rw [Printing.text, String.toList_ofList,
      Lexer.run_append _ _ (Lexer.run_gap ⟨rfl, rfl⟩ printing.lead), ran]
  simp [sexpTokens, whole, ended.unquoted, depth]

theorem Plain.legible (plain : printing.Plain) :
    ∀ entry ∈ printing.entries, entry.1.Legible := by
  intro entry member
  have present : entry.1 ∈ printing.tokens := List.mem_map_of_mem member
  cases kind : entry.1 with
  | opening => exact ⟨by decide, nofun⟩
  | closing => exact ⟨by decide, nofun⟩
  | atom text =>
    rw [kind] at present
    have atom := plain.atoms text present
    exact ⟨atom.quotes, fun _ number => atom.numbers number⟩

theorem Plain.inverted (plain : printing.Plain) : printing.Inverted := by
  have nonempty : ∀ entry ∈ printing.entries, entry.1.text ≠ "" := by
    intro entry member
    have present : entry.1 ∈ printing.tokens := List.mem_map_of_mem member
    cases kind : entry.1 with
    | opening => decide
    | closing => decide
    | atom text =>
      rw [kind] at present
      exact (plain.atoms text present).nonempty
  have lexed := lexed plain.legible
  have fresh : (({} : Lexer).pause printing.lead).token = "" := by
    unfold Lexer.pause
    split <;> rfl
  rw [Lexer.feedAll_plain nonempty (fun text member => (plain.atoms text member).content) plain.gaps
    fun _ _ _ => fresh, Lexer.pause_flush] at lexed
  constructor
  · rw [lexed, tokens, List.map_map]
    rfl
  · intro token member
    cases token with
    | opening => decide
    | closing => decide
    | atom text =>
      have atom := plain.atoms text member
      simp [SexpToken.text, atom.opening, atom.closing]

/-- The lexer keeps the escapes of quoted atoms, so an inverted printing has none. -/
theorem Inverted.contents (inverted : printing.Inverted) : ∀ text, .atom text ∈ printing.tokens →
    (atomContent text).count '\\' = text.toList.count '\\' := by
  have lexed := lexed inverted.legible
  have out := Except.ok.inj (lexed.symm.trans inverted.1)
  have none : (({} : Lexer).pause printing.lead).kept '\\' = 0 := by
    rw [Lexer.pause_kept]
    rfl
  have total := Lexer.feedAll_backslashes (({} : Lexer).pause printing.lead) printing.entries
  rw [none, Nat.zero_add, ← Lexer.kept_flush, Lexer.kept, Lexer.flush_token, out, tokens,
    List.map_map, List.map_map] at total
  have within : ∀ entry ∈ printing.entries,
      entry.1.text.toList.count '\\' ≤ entry.1.backslashes := by
    intro entry member
    have quotes := (inverted.legible entry member).quotes
    cases kind : entry.1 with
    | opening => decide
    | closing => decide
    | atom text =>
      rw [kind] at quotes
      exact (atomContent_backslashes quotes).1
  have equal := List.parts_equal within (Nat.le_of_eq total.symm)
  intro text member
  obtain ⟨entry, present, kind⟩ := List.mem_map.mp member
  have same := equal entry present
  rw [kind] at same
  exact same.symm

theorem Inverted.atoms (inverted : printing.Inverted) :
    ∀ text, .atom text ∈ printing.tokens → PlainAtom text := by
  intro text member
  obtain ⟨nonempty, quotes⟩ := inverted.tidy _ member
  obtain ⟨opening, closing⟩ := inverted.2 _ member
  have escaped := (atomContent_backslashes quotes).2 (inverted.contents text member)
  obtain ⟨entry, present, kind⟩ := List.mem_map.mp member
  have legible := inverted.legible entry present
  rw [kind] at legible
  refine ⟨nonempty, fun same => ?_, fun same => ?_, quotes, fun character inside => ?_,
    legible.numbers rfl, fun backslash => ?_⟩
  · cases opening.mp same
  · cases closing.mp same
  · cases quoted : needsQuotes text with
    | true => exact (escaped quoted character inside).2
    | false => exact ((bare_characters quoted).2 character inside).2.2.2.2.2
  · cases quoted : needsQuotes text with
    | true => exact absurd rfl (escaped quoted '\\' backslash).1
    | false => rfl

theorem Inverted.plain (inverted : printing.Inverted) : printing.Plain := by
  have atoms := inverted.atoms
  have lexed := lexed inverted.legible
  have out := Except.ok.inj (lexed.symm.trans inverted.1)
  have content : ∀ text, .atom text ∈ printing.entries.map Prod.fst → atomContent text ≠ [] := by
    intro text member
    rw [(atoms text member).content]
    simpa using (atoms text member).nonempty
  have fresh : (({} : Lexer).pause printing.lead).flush.out = [] := by
    rw [Lexer.pause_flush]
    rfl
  have all : ((({} : Lexer).pause printing.lead).feedAll printing.entries).flush.out.length =
      (({} : Lexer).pause printing.lead).flush.out.length + printing.entries.length := by
    rw [out, fresh, tokens]
    simp
  exact ⟨atoms, (Lexer.feedAll_gaps content all).1⟩

/-- The lexer inverts the printer exactly on plain atoms kept apart by white space. -/
theorem inverted_iff_plain : printing.Inverted ↔ printing.Plain :=
  ⟨Inverted.plain, Plain.inverted⟩

/-- A quote in an atom is printed as an escape, which ends the quotes here. -/
def quotedQuote : Printing where
  items := [.atom "a\"b"]
  lead := []
  entries := [(.atom "a\"b", [])]
  shows := rfl
  separated := .singleton _

theorem quotedQuote_unterminated : quotedQuote.text = "\"a\\\"b\"" ∧
    sexpTokens quotedQuote.text =
      .error (.new .invalidConfiguration "unterminated project expression") ∧
    ¬ quotedQuote.Inverted := by
  have lexed : sexpTokens quotedQuote.text =
      .error (.new .invalidConfiguration "unterminated project expression") := by
    decide +kernel
  refine ⟨by decide +kernel, lexed, fun inverted => ?_⟩
  have ok := inverted.1
  rw [lexed] at ok
  cases ok

end Printing

end RocqMcp
