import RocqMcp.Dune.Sexp

/-! When the lexer inverts Dune's printer. Outside quotes it drops what follows
a number sign, and inside it decodes no escape: the proofs count what is kept. -/

namespace RocqMcp

variable {lexer final : Lexer} {characters : List Char} {character : Char}

theorem String.append_ofList_cons (text : String) (head : Char) (rest : List Char) :
    text ++ String.ofList (head :: rest) = text.push head ++ String.ofList rest := by
  apply String.toList_inj.mp
  simp

namespace Lexer

@[simp] theorem flush_token (lexer : Lexer) : lexer.flush.token = "" := by
  unfold flush
  split
  · assumption
  · rfl

theorem run_append (early late : List Char) (ran : lexer.run early = .ok final) :
    lexer.run (early ++ late) = final.run late := by
  induction early generalizing lexer with
  | nil =>
    obtain rfl := Except.ok.inj ran
    rfl
  | cons head rest ih =>
    simp only [run, List.cons_append] at ran ⊢
    cases stepped : lexer.step head with
    | error error =>
      rw [stepped] at ran
      cases ran
    | ok next =>
      rw [stepped] at ran
      exact ih ran

/-- A run that succeeds has succeeded on every prefix. -/
theorem run_split (early late : List Char) (ran : lexer.run (early ++ late) = .ok final) :
    ∃ middle, lexer.run early = .ok middle ∧ middle.run late = .ok final := by
  induction early generalizing lexer with
  | nil => exact ⟨lexer, rfl, ran⟩
  | cons head rest ih =>
    simp only [run, List.cons_append] at ran ⊢
    cases stepped : lexer.step head with
    | error error =>
      rw [stepped] at ran
      cases ran
    | ok next =>
      rw [stepped] at ran
      exact ih ran

/-- An invariant of the steps is one of the runs. -/
theorem run_invariant (inv : Lexer → Prop)
    (kept : ∀ lexer character next, inv lexer → lexer.step character = .ok next → inv next)
    (holds : inv lexer) (ran : lexer.run characters = .ok final) : inv final := by
  induction characters generalizing lexer with
  | nil =>
    obtain rfl := Except.ok.inj ran
    exact holds
  | cons head rest ih =>
    simp only [run] at ran
    cases stepped : lexer.step head with
    | error error =>
      rw [stepped] at ran
      cases ran
    | ok next =>
      rw [stepped] at ran
      exact ih (kept lexer head next holds stepped) ran

/-- What one step does, by the mode of the lexer. -/
theorem step_cases {next : Lexer} (stepped : lexer.step character = .ok next) :
    (lexer.comment = true ∧ next = { lexer with comment := character ≠ '\n' }) ∨
    (lexer.comment = false ∧ lexer.quote = false ∧ (character = ';' ∨ character = '#') ∧
      next = { lexer with comment := true }) ∨
    (lexer.comment = false ∧ character = '"' ∧ next = { lexer with quote := !lexer.quote }) ∨
    (lexer.comment = false ∧ lexer.quote = false ∧ (character = '(' ∨ character = ')') ∧
      ∃ depth, next = { lexer.flush with
        out := lexer.flush.out ++ [String.singleton character], depth }) ∨
    (lexer.comment = false ∧ lexer.quote = false ∧ isWhitespace character = true ∧
      next = lexer.flush) ∨
    (lexer.comment = false ∧ character ≠ '"' ∧ (lexer.quote = true ∨ character ≠ '#') ∧
      next = { lexer with token := lexer.token.push character }) := by
  unfold step at stepped
  split at stepped
  · obtain rfl := Except.ok.inj stepped
    exact .inl ⟨‹_›, rfl⟩
  rename_i active
  have active : lexer.comment = false := by simpa using active
  split at stepped
  · rename_i starts
    obtain rfl := Except.ok.inj stepped
    simp only [Bool.and_eq_true, Bool.not_eq_true', Bool.or_eq_true, decide_eq_true_eq] at starts
    exact .inr (.inl ⟨active, starts.1, starts.2, rfl⟩)
  rename_i plain
  split at stepped
  · obtain rfl := Except.ok.inj stepped
    exact .inr (.inr (.inl ⟨active, ‹_›, rfl⟩))
  rename_i unquoted
  split at stepped
  · rename_i structural
    simp only [Bool.and_eq_true, Bool.not_eq_true', Bool.or_eq_true, decide_eq_true_eq] at structural
    refine .inr (.inr (.inr (.inl ⟨active, structural.1, structural.2, ?_⟩)))
    simp only [parenthesis] at stepped
    split at stepped
    · exact ⟨_, (Except.ok.inj stepped).symm⟩
    · split at stepped
      · cases stepped
      · exact ⟨_, (Except.ok.inj stepped).symm⟩
  split at stepped
  · rename_i white
    obtain rfl := Except.ok.inj stepped
    simp only [Bool.and_eq_true, Bool.not_eq_true'] at white
    exact .inr (.inr (.inr (.inr (.inl ⟨active, white.1, white.2, rfl⟩))))
  · obtain rfl := Except.ok.inj stepped
    refine .inr (.inr (.inr (.inr (.inr ⟨active, unquoted, ?_, rfl⟩))))
    cases quoting : lexer.quote with
    | true => exact .inl rfl
    | false =>
      right
      rintro rfl
      simp [quoting] at plain

/-- A comment swallows everything up to the end of its line. -/
theorem run_swallowed (swallows : lexer.comment = true) (line : '\n' ∉ characters) :
    lexer.run characters = .ok lexer := by
  induction characters with
  | nil => rfl
  | cons head rest ih =>
    have inside : head ≠ '\n' := fun same => line (by simp [same])
    have stepped : lexer.step head = .ok lexer := by
      rw [step, if_pos swallows]
      cases lexer
      simp_all
    simp only [run, stepped]
    exact ih fun later => line (List.mem_cons_of_mem _ later)

theorem run_comment (unquoted : lexer.quote = false) (line : '\n' ∉ characters) :
    lexer.run (';' :: (characters ++ ['\n'])) = .ok { lexer with comment := false } := by
  have started : lexer.step ';' = .ok { lexer with comment := true } := by
    cases swallows : lexer.comment with
    | true => simp [step, swallows]
    | false => simp [step, swallows, unquoted]
  have swallowed : { lexer with comment := true }.run characters = _ := run_swallowed rfl line
  simp only [run, started]
  rw [run_append _ _ swallowed]
  simp [run, step]

/-- Inside quotes, all characters but a quote belong to the token. -/
theorem run_content (active : lexer.comment = false) (quoted : lexer.quote = true)
    (content : '"' ∉ characters) :
    lexer.run characters = .ok { lexer with token := lexer.token ++ String.ofList characters } := by
  induction characters generalizing lexer with
  | nil => simp [run]
  | cons head rest ih =>
    have inside : head ≠ '"' := fun same => content (by simp [same])
    have stepped : lexer.step head = .ok { lexer with token := lexer.token.push head } := by
      simp [step, active, quoted, inside]
    have pushed := @ih { lexer with token := lexer.token.push head } active quoted
      fun later => content (List.mem_cons_of_mem _ later)
    simp only [run, stepped, pushed, String.append_ofList_cons]

/-! ### What the lexer keeps -/

/-- The occurrences of a character in the tokens so far. -/
def kept (character : Char) (lexer : Lexer) : Nat :=
  (lexer.out.map fun token => token.toList.count character).sum + lexer.token.toList.count character

theorem kept_flush (character : Char) (lexer : Lexer) :
    lexer.flush.kept character = lexer.kept character := by
  unfold flush
  split
  · rfl
  · simp [kept]

theorem flush_quote (lexer : Lexer) : lexer.flush.quote = lexer.quote := by
  unfold flush
  split <;> rfl

/-- Outside quotes, no number sign is kept. -/
theorem step_unquoted {next : Lexer} (unquoted : lexer.quote = false) (other : character ≠ '"')
    (stepped : lexer.step character = .ok next) :
    next.quote = false ∧ next.kept '#' = lexer.kept '#' := by
  rcases step_cases stepped with ⟨_, rfl⟩ | ⟨_, _, _, rfl⟩ | ⟨_, same, _⟩ |
    ⟨_, _, structural, _, rfl⟩ | ⟨_, _, _, rfl⟩ | ⟨_, _, pushed, rfl⟩
  · exact ⟨unquoted, rfl⟩
  · exact ⟨unquoted, rfl⟩
  · exact absurd same other
  · refine ⟨(flush_quote lexer).trans unquoted, ?_⟩
    rw [← kept_flush '#' lexer]
    have silent : [character].count '#' = 0 := by
      rcases structural with rfl | rfl <;> decide
    simp [kept, silent]
  · exact ⟨(flush_quote lexer).trans unquoted, kept_flush '#' lexer⟩
  · have different : character ≠ '#' := pushed.resolve_left (by simp [unquoted])
    refine ⟨unquoted, ?_⟩
    simp [kept, different]

theorem run_unquoted (unquoted : lexer.quote = false) (other : '"' ∉ characters)
    (ran : lexer.run characters = .ok final) :
    final.quote = false ∧ final.kept '#' = lexer.kept '#' := by
  induction characters generalizing lexer with
  | nil =>
    obtain rfl := Except.ok.inj ran
    exact ⟨unquoted, rfl⟩
  | cons head rest ih =>
    simp only [run] at ran
    cases stepped : lexer.step head with
    | error error =>
      rw [stepped] at ran
      cases ran
    | ok next =>
      rw [stepped] at ran
      have inside : head ≠ '"' := fun same => other (by simp [same])
      obtain ⟨unquoted', same⟩ := step_unquoted unquoted inside stepped
      obtain ⟨quiet, rest⟩ := ih unquoted' (fun later => other (List.mem_cons_of_mem _ later)) ran
      exact ⟨quiet, rest.trans same⟩

end Lexer

theorem isControl_not {character : Char} (control : isControl character = false) :
    character ≠ '\n' := by
  rintro rfl
  exact absurd control (by decide)

theorem decimalEscape_digits {code : Nat} : ∀ digit ∈ decimalEscape code,
    digit ≠ '"' ∧ digit ≠ '\n' ∧ digit ≠ '#' ∧ digit ≠ '\\' := by
  have digits : ∀ value < 10, Char.ofNat (48 + value) ≠ '"' ∧ Char.ofNat (48 + value) ≠ '\n' ∧
      Char.ofNat (48 + value) ≠ '#' ∧ Char.ofNat (48 + value) ≠ '\\' := by
    decide
  intro digit member
  simp only [decimalEscape, List.mem_cons, List.not_mem_nil, or_false] at member
  rcases member with rfl | rfl | rfl <;> exact digits _ (Nat.mod_lt _ (by decide))

/-- The escape of a character: itself, or a backslash and harmless characters. -/
theorem escapeCharacter_cases (character : Char) (other : character ≠ '"') :
    (escapeCharacter character = [character] ∧ character ≠ '\\' ∧ isControl character = false) ∨
    ((character = '\\' ∨ isControl character = true) ∧ ∃ tail, escapeCharacter character = '\\' :: tail ∧
      tail ≠ [] ∧ (character = '\\' → tail = ['\\']) ∧
      ∀ later ∈ tail, later ≠ '"' ∧ later ≠ '\n' ∧ later ≠ '#') := by
  unfold escapeCharacter
  by_cases backslash : character = '\\'
  · subst backslash
    exact .inr ⟨.inl rfl, ['\\'], by simp, by simp, fun _ => rfl, by simp⟩
  have plain : ¬ ((decide (character = '"') || decide (character = '\\')) = true) := by
    simp [other, backslash]
  rw [if_neg plain]
  split
  · subst character
    exact .inr ⟨.inr (by decide), ['n'], rfl, by simp, by simp, by simp⟩
  split
  · subst character
    exact .inr ⟨.inr (by decide), ['t'], rfl, by simp, by simp, by simp⟩
  split
  · subst character
    exact .inr ⟨.inr (by decide), ['r'], rfl, by simp, by simp, by simp⟩
  split
  · subst character
    exact .inr ⟨.inr (by decide), ['b'], rfl, by simp, by simp, by simp⟩
  split
  · rename_i control
    refine .inr ⟨.inr control, _, rfl, by simp [decimalEscape], fun same => absurd same backslash, ?_⟩
    intro digit member
    have harmless := decimalEscape_digits digit member
    exact ⟨harmless.1, harmless.2.1, harmless.2.2.1⟩
  · rename_i printable
    exact .inl ⟨rfl, backslash, by simpa using printable⟩

section

variable {text : String}

theorem escaped_harmless (quotes : '"' ∉ characters) :
    ∀ escaped ∈ characters.flatMap escapeCharacter, escaped ≠ '"' ∧ escaped ≠ '\n' := by
  intro escaped member
  obtain ⟨character, present, produced⟩ := List.mem_flatMap.mp member
  have other : character ≠ '"' := fun same => quotes (same ▸ present)
  rcases escapeCharacter_cases character other with ⟨same, _, printable⟩ | ⟨_, tail, same, _, _, harmless⟩
  · rw [same] at produced
    obtain rfl := List.mem_singleton.mp produced
    exact ⟨other, isControl_not printable⟩
  · rw [same] at produced
    rcases List.mem_cons.mp produced with rfl | later
    · decide
    · exact ⟨(harmless escaped later).1, (harmless escaped later).2.1⟩

/-- Escapes add no number sign. -/
theorem escaped_numbers (quotes : '"' ∉ characters) :
    (characters.flatMap escapeCharacter).count '#' = characters.count '#' := by
  induction characters with
  | nil => rfl
  | cons head rest ih =>
    have other : head ≠ '"' := fun same => quotes (by simp [same])
    rw [List.flatMap_cons, List.count_append, ih fun later => quotes (List.mem_cons_of_mem _ later)]
    rcases escapeCharacter_cases head other with ⟨same, _⟩ | ⟨origin, tail, same, _, _, harmless⟩
    · rw [same, List.count_cons, List.count_cons, List.count_nil]
      omega
    · have silent : tail.count '#' = 0 :=
        List.count_eq_zero_of_not_mem fun member => (harmless '#' member).2.2 rfl
      have different : head ≠ '#' := by
        rintro rfl
        rcases origin with same | control
        · exact absurd same (by decide)
        · exact absurd control (by decide)
      rw [same]
      simp [silent, different]

/-- Escapes add backslashes, unless there is nothing to escape. -/
theorem escaped_backslashes (quotes : '"' ∉ characters) :
    characters.count '\\' ≤ (characters.flatMap escapeCharacter).count '\\' ∧
      ((characters.flatMap escapeCharacter).count '\\' = characters.count '\\' →
        ∀ character ∈ characters, character ≠ '\\' ∧ isControl character = false) := by
  induction characters with
  | nil => exact ⟨Nat.le_refl _, nofun⟩
  | cons head rest ih =>
    have other : head ≠ '"' := fun same => quotes (by simp [same])
    obtain ⟨more, exact'⟩ := ih fun later => quotes (List.mem_cons_of_mem _ later)
    rw [List.flatMap_cons, List.count_append, List.count_cons]
    rcases escapeCharacter_cases head other with
      ⟨same, different, printable⟩ | ⟨origin, tail, same, _, doubled, _⟩
    · have none : (escapeCharacter head).count '\\' = 0 := by simp [same, different]
      have zero : (if head == '\\' then 1 else 0) = 0 := by simp [different]
      rw [none, zero]
      refine ⟨by omega, fun equal character member => ?_⟩
      rcases List.mem_cons.mp member with rfl | later
      · exact ⟨different, printable⟩
      · exact exact' (by omega) character later
    · have some : (if head == '\\' then 1 else 0) < (escapeCharacter head).count '\\' := by
        rcases origin with rfl | control
        · rw [same, doubled rfl]
          decide
        · have different : head ≠ '\\' := by
            rintro rfl
            exact absurd control (by decide)
          simp [same, different]
      exact ⟨by omega, fun equal => absurd equal (by omega)⟩

theorem escaped_plain (quotes : '"' ∉ characters)
    (plain : ∀ character ∈ characters, character ≠ '\\' ∧ isControl character = false) :
    characters.flatMap escapeCharacter = characters := by
  induction characters with
  | nil => rfl
  | cons head rest ih =>
    have other : head ≠ '"' := fun same => quotes (by simp [same])
    obtain ⟨different, printable⟩ := plain head List.mem_cons_self
    rw [List.flatMap_cons, ih (fun later => quotes (List.mem_cons_of_mem _ later))
      fun character member => plain character (List.mem_cons_of_mem _ member)]
    rcases escapeCharacter_cases head other with ⟨same, _⟩ | ⟨origin, _⟩
    · rw [same]
      rfl
    · rcases origin with same | control
      · exact absurd same different
      · rw [printable] at control
        cases control

/-- What Dune prints bare. -/
theorem bare_characters (bare : needsQuotes text = false) : text ≠ "" ∧
    ∀ character ∈ text.toList, isWhitespace character = false ∧ character ≠ '(' ∧ character ≠ ')' ∧
      character ≠ '"' ∧ character ≠ ';' ∧ isControl character = false := by
  simp only [needsQuotes, Bool.or_eq_false_iff, decide_eq_false_iff_not, List.any_eq_false,
    List.mem_cons, List.not_mem_nil, or_false, not_or, Bool.not_eq_true] at bare
  refine ⟨bare.1, fun character member => ?_⟩
  obtain ⟨⟨white, opening, closing, quote, comment⟩, control⟩ := bare.2 character member
  exact ⟨white, opening, closing, quote, comment, control⟩

theorem atomContent_harmless (quotes : '"' ∉ text.toList) :
    ∀ character ∈ atomContent text, character ≠ '"' ∧ character ≠ '\n' := by
  unfold atomContent
  split
  · exact escaped_harmless quotes
  · rename_i bare
    intro character member
    obtain ⟨_, _, _, quote, _, control⟩ :=
      (bare_characters (by simpa using bare)).2 character member
    exact ⟨quote, isControl_not control⟩

theorem atomContent_numbers (quotes : '"' ∉ text.toList) :
    (atomContent text).count '#' = text.toList.count '#' := by
  unfold atomContent
  split
  · exact escaped_numbers quotes
  · rfl

theorem atomContent_backslashes (quotes : '"' ∉ text.toList) :
    text.toList.count '\\' ≤ (atomContent text).count '\\' ∧
      ((atomContent text).count '\\' = text.toList.count '\\' → needsQuotes text = true →
        ∀ character ∈ text.toList, character ≠ '\\' ∧ isControl character = false) := by
  unfold atomContent
  split
  · obtain ⟨more, exact'⟩ := escaped_backslashes quotes
    exact ⟨more, fun equal _ => exact' equal⟩
  · rename_i bare
    exact ⟨Nat.le_refl _, fun _ quoted => absurd quoted bare⟩

theorem PlainAtom.content (plain : PlainAtom text) : atomContent text = text.toList := by
  unfold atomContent
  split
  · rename_i quoted
    refine escaped_plain plain.quotes fun character member => ⟨?_, plain.controls character member⟩
    rintro rfl
    rw [plain.backslashes member] at quoted
    cases quoted
  · rfl

end

/-- The number signs of a quoted atom. -/
def SexpToken.quotedNumbers : SexpToken → Nat
  | opening | closing => 0
  | atom text => if needsQuotes text then text.toList.count '#' else 0

namespace Lexer

theorem run_gap_unquoted (gap : List Blank) (unquoted : lexer.quote = false)
    (ran : lexer.run (gapCharacters gap) = .ok final) :
    final.quote = false ∧ final.kept '#' = lexer.kept '#' := by
  induction gap generalizing lexer with
  | nil =>
    obtain rfl := Except.ok.inj ran
    exact ⟨unquoted, rfl⟩
  | cons blank rest ih =>
    rw [gapCharacters, List.flatMap_cons, ← gapCharacters] at ran
    obtain ⟨middle, early, late⟩ := run_split _ _ ran
    have passed : middle.quote = false ∧ middle.kept '#' = lexer.kept '#' := by
      cases blank with
      | space character white =>
        refine run_unquoted unquoted ?_ early
        simp only [Blank.characters, List.mem_singleton]
        rintro rfl
        exact absurd white (by decide)
      | comment text line =>
        simp only [Blank.characters, run_comment unquoted line] at early
        obtain rfl := Except.ok.inj early
        exact ⟨unquoted, rfl⟩
    obtain ⟨unquoted', same⟩ := ih passed.1 late
    exact ⟨unquoted', same.trans passed.2⟩

theorem run_quoted (active : lexer.comment = false) (unquoted : lexer.quote = false)
    (content : '"' ∉ characters) : lexer.run ('"' :: (characters ++ ['"'])) =
      .ok { lexer with token := lexer.token ++ String.ofList characters } := by
  have opened : lexer.step '"' = .ok { lexer with quote := true } := by
    simp [step, active, unquoted]
  have read : { lexer with quote := true }.run characters = _ := run_content active rfl content
  simp only [run, opened]
  rw [run_append _ _ read]
  simp [run, step, active, unquoted]

/-- Between tokens the lexer is never inside quotes, and it keeps at most the
number signs of quoted atoms. -/
theorem run_token_unquoted (token : SexpToken) (quotes : '"' ∉ token.text.toList)
    (unquoted : lexer.quote = false) (ran : lexer.run token.characters = .ok final) :
    final.quote = false ∧ final.kept '#' ≤ lexer.kept '#' + token.quotedNumbers := by
  have parenthesis {character : Char} (other : character ≠ '"')
      (ran : lexer.run [character] = .ok final) :
      final.quote = false ∧ final.kept '#' ≤ lexer.kept '#' + 0 := by
    obtain ⟨unquoted', same⟩ := run_unquoted unquoted (by simpa using Ne.symm other) ran
    exact ⟨unquoted', Nat.le_of_eq same⟩
  cases token with
  | opening => exact parenthesis (by decide) ran
  | closing => exact parenthesis (by decide) ran
  | atom text =>
    have quotes : '"' ∉ text.toList := quotes
    have harmless := atomContent_harmless quotes
    have numbers := atomContent_numbers quotes
    have content : '"' ∉ atomContent text := fun member => (harmless _ member).1 rfl
    simp only [SexpToken.characters] at ran
    split at ran
    · rename_i quoted
      cases swallows : lexer.comment with
      | true =>
        have line : '\n' ∉ '"' :: (atomContent text ++ ['"']) := by
          simp only [List.mem_cons, List.mem_append, List.not_mem_nil, or_false, not_or]
          exact ⟨by decide, fun member => (harmless _ member).2 rfl, by decide⟩
        rw [run_swallowed swallows line] at ran
        obtain rfl := Except.ok.inj ran
        exact ⟨unquoted, Nat.le_add_right _ _⟩
      | false =>
        rw [run_quoted swallows unquoted content] at ran
        obtain rfl := Except.ok.inj ran
        refine ⟨unquoted, Nat.le_of_eq ?_⟩
        simp only [kept, SexpToken.quotedNumbers, quoted, if_true, String.toList_append,
          String.toList_ofList, List.count_append, numbers, Nat.add_assoc]
    · obtain ⟨unquoted', same⟩ := run_unquoted unquoted content ran
      exact ⟨unquoted', Nat.le_trans (Nat.le_of_eq same) (Nat.le_add_right _ _)⟩

theorem run_entries_unquoted (entries : List Printed)
    (quotes : ∀ entry ∈ entries, '"' ∉ entry.1.text.toList) (unquoted : lexer.quote = false)
    (ran : lexer.run (entryCharacters entries) = .ok final) :
    final.kept '#' ≤ lexer.kept '#' + (entries.map fun entry => entry.1.quotedNumbers).sum := by
  induction entries generalizing lexer with
  | nil =>
    obtain rfl := Except.ok.inj ran
    exact Nat.le_add_right _ _
  | cons entry rest ih =>
    rw [entryCharacters, List.flatMap_cons, ← entryCharacters] at ran
    obtain ⟨middle, early, late⟩ := run_split _ _ ran
    obtain ⟨after, token, gap⟩ := run_split _ _ early
    obtain ⟨unquoted', more⟩ := run_token_unquoted entry.1 (quotes entry List.mem_cons_self)
      unquoted token
    obtain ⟨unquoted'', same⟩ := run_gap_unquoted entry.2 unquoted' gap
    have others := ih (fun other member => quotes other (List.mem_cons_of_mem _ member))
      unquoted'' late
    rw [List.map_cons, List.sum_cons]
    omega

end Lexer

end RocqMcp
