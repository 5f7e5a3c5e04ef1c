import RocqMcp.Dune.Lexing
import RocqMcp.Dune.Targets
import RocqMcp.Text

/-! The rules of a Dune description: consecutive slices of its tokens, each of
them one list. -/

namespace RocqMcp

open Library

/-! ### The source -/

/-- The counter of `dune_sources` after a token. -/
def ruleDepth (depth : Int) (token : String) : Int :=
  let opened := if token = "(" then depth + 1 else depth
  if token = ")" then opened - 1 else opened

/-- The number of tokens up to the one after which the counter is zero. -/
def ruleEnd (depth : Int) : List String → Option Nat
  | [] => none
  | token :: rest =>
    let depth := ruleDepth depth token
    if depth = 0 then some 1 else (ruleEnd depth rest).map (· + 1)

theorem ruleEnd_pos {depth : Int} {tokens : List String} {stop : Nat}
    (ended : ruleEnd depth tokens = some stop) : 0 < stop := by
  cases tokens with
  | nil => cases ended
  | cons token rest =>
    rw [ruleEnd] at ended
    split at ended
    · obtain rfl := Option.some.inj ended
      exact Nat.one_pos
    · obtain ⟨later, _, rfl⟩ := Option.map_eq_some_iff.mp ended
      exact Nat.succ_pos later

/-- The loop of `dune_sources` over the rules; `visit` is its body. -/
def visitRules (visit : σ → List String → Except Error σ) (state : σ) :
    List String → Except Error σ
  | [] => .ok state
  | token :: rest =>
    if token ≠ "(" then .error (.new .invalidConfiguration "invalid Dune rule")
    else
      match _ended : ruleEnd 0 (token :: rest) with
      | none => .error (.new .invalidConfiguration "unterminated Dune rule")
      | some stop =>
        match visit state ((token :: rest).take stop) with
        | .error error => .error error
        | .ok state => visitRules visit state ((token :: rest).drop stop)
termination_by tokens => tokens.length
decreasing_by
  have positive := ruleEnd_pos _ended
  simp only [List.length_drop, List.length_cons]
  omega

/-- The slices that the loop visits. -/
def ruleSlices (tokens : List String) : Except Error (List (List String)) :=
  visitRules (fun slices rule => .ok (slices ++ [rule])) [] tokens

/-! ### Well nested tokens -/

/-- Every item that is in no list is one. -/
def TopLists (tokens : List String) : Prop :=
  ∀ front token back, tokens = front ++ token :: back → Balanced "(" ")" front → token = "("

/-- One complete list. -/
def CompleteList (slice : List String) : Prop :=
  ∃ inner, slice = "(" :: (inner ++ [")"]) ∧ Balanced "(" ")" inner

/-- The parenthesis at `start` is closed by the one at `stop`. -/
def Matching (tokens : List String) (start stop : Nat) : Prop :=
  ∃ front inner back, tokens = front ++ "(" :: (inner ++ ")" :: back) ∧ Balanced "(" ")" inner ∧
    start = front.length ∧ stop = start + (inner.length + 1)

section

variable {tokens inner rest : List String} {depth : Int}

/-! ### The end of a rule -/

theorem ruleEnd_opening (positive : 0 ≤ depth) :
    ruleEnd depth ("(" :: rest) = (ruleEnd (depth + 1) rest).map (· + 1) := by
  have after' : ruleDepth depth "(" = depth + 1 := by simp [ruleDepth]
  rw [ruleEnd, after', if_neg (by omega)]

theorem ruleEnd_closing (positive : 0 < depth) :
    ruleEnd (depth + 1) (")" :: rest) = (ruleEnd depth rest).map (· + 1) := by
  have after' : ruleDepth (depth + 1) ")" = depth := by simp [ruleDepth]
  rw [ruleEnd, after', if_neg (by omega)]

theorem ruleEnd_last : ruleEnd 1 (")" :: rest) = some 1 := by
  have after' : ruleDepth 1 ")" = 0 := by simp [ruleDepth]
  rw [ruleEnd, after', if_pos rfl]

theorem ruleEnd_other {token : String} (starts : token ≠ "(") (ends : token ≠ ")")
    (positive : 0 < depth) :
    ruleEnd depth (token :: rest) = (ruleEnd depth rest).map (· + 1) := by
  have after' : ruleDepth depth token = depth := by simp [ruleDepth, starts, ends]
  rw [ruleEnd, after', if_neg (by omega)]

/-- Inside a rule the counter passes balanced tokens and is what it was before. -/
theorem ruleEnd_append (balanced : Balanced "(" ")" tokens) (positive : 0 < depth)
    (rest : List String) :
    ruleEnd depth (tokens ++ rest) = (ruleEnd depth rest).map (· + tokens.length) := by
  induction balanced generalizing depth rest with
  | nil => simp
  | other token starts ends _ ih =>
    rw [List.cons_append, ruleEnd_other starts ends positive, ih positive, Option.map_map]
    rfl
  | @group inner later _ _ insideIh restIh =>
    have shape : "(" :: (inner ++ ")" :: later) ++ rest =
        "(" :: (inner ++ ")" :: (later ++ rest)) := by simp
    have deeper : 0 < depth + 1 := by omega
    rw [shape, ruleEnd_opening (by omega), insideIh deeper, ruleEnd_closing positive,
      restIh positive, Option.map_map, Option.map_map, Option.map_map]
    congr 1
    funext position
    simp only [Function.comp_apply, List.length_cons, List.length_append]
    omega

theorem ruleEnd_group (inside : Balanced "(" ")" inner) :
    ruleEnd 0 ("(" :: (inner ++ ")" :: rest)) = some (inner.length + 2) := by
  rw [ruleEnd_opening (Int.le_refl 0), Int.zero_add, ruleEnd_append inside Int.one_pos, ruleEnd_last,
    Option.map_some, Option.map_some]
  congr 1
  omega

/-! ### The slices -/

variable {σ : Type} {visit : σ → List String → Except Error σ} {state : σ}

theorem visitRules_nil : visitRules visit state [] = .ok state := by
  rw [visitRules]

/-- The loop visits a complete list, and goes on behind it. -/
theorem visitRules_group (inside : Balanced "(" ")" inner) :
    visitRules visit state ("(" :: (inner ++ ")" :: rest)) =
      (visit state ("(" :: (inner ++ [")"]))).bind fun state => visitRules visit state rest := by
  have whole : "(" :: (inner ++ ")" :: rest) = ("(" :: (inner ++ [")"])) ++ rest := by simp
  have length : ("(" :: (inner ++ [")"])).length = inner.length + 2 := by simp
  have slice : ("(" :: (inner ++ ")" :: rest)).take (inner.length + 2) = "(" :: (inner ++ [")"]) := by
    rw [whole, ← length, List.take_left]
  have later : ("(" :: (inner ++ ")" :: rest)).drop (inner.length + 2) = rest := by
    rw [whole, ← length, List.drop_left]
  rw [visitRules, if_neg (not_not.mpr rfl)]
  split
  · rename_i open'
    rw [ruleEnd_group inside] at open'
    cases open'
  · rename_i stop ended
    rw [ruleEnd_group inside] at ended
    obtain rfl := Option.some.inj ended
    rw [slice, later]
    cases visit state ("(" :: (inner ++ [")"])) <;> rfl

/-- What stands behind a list is at the top level too. -/
theorem TopLists.behind (lists : TopLists ("(" :: (inner ++ ")" :: rest)))
    (inside : Balanced "(" ")" inner) : TopLists rest := by
  intro front token back split balanced
  refine lists ("(" :: (inner ++ ")" :: front)) token back ?_ (.group inside balanced)
  rw [split]
  simp

theorem TopLists.nil : TopLists [] := by
  intro front token back split
  simp at split

theorem TopLists.cons (lists : TopLists rest) (inside : Balanced "(" ")" inner) :
    TopLists ("(" :: (inner ++ ")" :: rest)) := by
  intro front token back split balanced
  cases balanced with
  | nil => exact (List.cons.inj split).1.symm
  | other head starts => exact absurd (List.cons.inj split).1.symm starts
  | @group inner' later inside' balanced' =>
    -- Both lists end where the search ends.
    have shape : "(" :: (inner' ++ ")" :: later) ++ token :: back =
        "(" :: (inner' ++ ")" :: (later ++ token :: back)) := by simp
    rw [shape] at split
    have found := inside.closeFrom_group (by decide) rest
    rw [split, inside'.closeFrom_group (by decide)] at found
    have length : inner.length = inner'.length := by
      have same := Option.some.inj found
      omega
    obtain ⟨rfl, behind⟩ := List.append_inj (List.cons.inj split).2 length
    exact lists later token back (List.cons.inj behind).2 balanced'

/-- The loop visits the lists at the top level one after the other. -/
theorem visitRules_slices (nested : Balanced "(" ")" tokens) (lists : TopLists tokens) :
    ∃ slices : List (List String), slices.flatten = tokens ∧
      (∀ slice ∈ slices, CompleteList slice) ∧
      ∀ {σ : Type} (visit : σ → List String → Except Error σ) (state : σ),
        visitRules visit state tokens = slices.foldlM visit state := by
  induction nested with
  | nil => exact ⟨[], rfl, List.forall_mem_nil _, fun visit state => visitRules_nil⟩
  | other token starts _ _ _ => exact absurd (lists [] token _ rfl .nil) starts
  | @group inner rest inside _ _ ih =>
    obtain ⟨slices, whole, each, visited⟩ := ih (lists.behind inside)
    refine ⟨("(" :: (inner ++ [")"])) :: slices, ?_, ?_, fun visit state => ?_⟩
    · rw [List.flatten_cons, whole]
      simp
    · exact List.forall_mem_cons.mpr ⟨⟨inner, rfl, inside⟩, each⟩
    · rw [visitRules_group inside, List.foldlM_cons]
      exact congrArg _ (funext fun state => visited visit state)

theorem foldlM_slices (slices earlier : List (List String)) :
    slices.foldlM (fun slices rule => .ok (slices ++ [rule])) earlier =
      (.ok (earlier ++ slices) : Except Error _) := by
  induction slices generalizing earlier with
  | nil => simp [pure, Except.pure]
  | cons slice rest ih =>
    rw [List.foldlM_cons]
    exact (ih (earlier ++ [slice])).trans (by simp)

/-! ### The end of a list -/

theorem Matching.opening {start stop : Nat} (matched : Matching tokens start stop) :
    tokens[start]? = some "(" := by
  obtain ⟨front, inner, back, rfl, _, rfl, _⟩ := matched
  simp

theorem Matching.found {start stop : Nat} (matched : Matching tokens start stop) :
    balancedEnd tokens start = some stop := by
  obtain ⟨front, inner, back, rfl, inside, rfl, rfl⟩ := matched
  exact balancedEnd_group inside

/-- In well nested tokens every opening parenthesis is matched. -/
theorem matching_of_opening (nested : Balanced "(" ")" tokens) {start : Nat}
    (opens : tokens[start]? = some "(") : ∃ stop, Matching tokens start stop := by
  obtain ⟨within, opens⟩ := List.getElem?_eq_some_iff.mp opens
  have split : tokens = tokens.take start ++ "(" :: tokens.drop (start + 1) := by
    rw [← opens, List.getElem_cons_drop, List.take_append_drop]
  rw [split] at nested
  obtain ⟨inner, back, behind, inside⟩ := nested.split_opening (by decide)
  refine ⟨_, tokens.take start, inner, back, ?_, inside, ?_, rfl⟩
  · rw [← behind]
    exact split
  · rw [List.length_take]
    omega

theorem balancedEnd_other {start : Nat} (other : tokens[start]? ≠ some "(") :
    balancedEnd tokens start = none := by
  rw [balancedEnd, if_neg other]

theorem balancedEnd_iff (nested : Balanced "(" ")" tokens) (start stop : Nat) :
    balancedEnd tokens start = some stop ↔ Matching tokens start stop := by
  refine ⟨fun found => ?_, Matching.found⟩
  by_cases opens : tokens[start]? = some "("
  · obtain ⟨stop', matched⟩ := matching_of_opening nested opens
    obtain rfl := Option.some.inj (matched.found.symm.trans found)
    exact matched
  · rw [balancedEnd_other opens] at found
    cases found

/-- Over well nested lists the splitting loop visits exactly these lists, and the
search for the end of a list finds the matching parenthesis. -/
theorem rules_exact (nested : Balanced "(" ")" tokens) (lists : TopLists tokens) :
    (∃ slices, ruleSlices tokens = .ok slices ∧ slices.flatten = tokens ∧
      (∀ slice ∈ slices, CompleteList slice) ∧
      ∀ {σ : Type} (visit : σ → List String → Except Error σ) (state : σ),
        visitRules visit state tokens = slices.foldlM visit state) ∧
    ∀ start,
      (∀ stop, balancedEnd tokens start = some stop ↔ Matching tokens start stop) ∧
      (tokens[start]? = some "(" → ∃ stop, Matching tokens start stop) ∧
      (tokens[start]? ≠ some "(" → balancedEnd tokens start = none) := by
  obtain ⟨slices, whole, each, visited⟩ := visitRules_slices nested lists
  refine ⟨⟨slices, ?_, whole, each, visited⟩, fun start => ?_⟩
  · exact (visited _ _).trans (foldlM_slices slices [])
  · exact ⟨balancedEnd_iff nested start, matching_of_opening nested, balancedEnd_other⟩

end

/-- Two rules, the first one with a list in it. -/
def twoRules : List String := ["(", "rule", "(", ")", ")", "(", ")"]

theorem rules_exact_twoRules :
    ∃ slices, ruleSlices twoRules = .ok slices ∧ slices.flatten = twoRules := by
  have inside : Balanced "(" ")" ["rule", "(", ")"] :=
    .other "rule" (by decide) (by decide) (.group .nil .nil)
  have nested : Balanced "(" ")" twoRules := .group inside (.group .nil .nil)
  have lists : TopLists twoRules := .cons (.cons .nil .nil) inside
  obtain ⟨slices, visited, whole, _⟩ := (rules_exact nested lists).1
  exact ⟨slices, visited, whole⟩

/-! ### The width of the counter -/

/-- The limit on the output of Dune. -/
def duneOutputLimit : Nat := 64 * 1024 * 1024

section

variable {lexer next : Lexer} {character : Char} {text : String} {tokens : List String}

namespace Lexer

theorem length_flush (lexer : Lexer) :
    lexer.flush.out.length = lexer.out.length + if lexer.token = "" then 0 else 1 := by
  by_cases empty : lexer.token = "" <;> simp [flush, empty]

/-- A character ends at most one token. -/
theorem step_near (stepped : lexer.step character = .ok next) :
    next.flush.out.length ≤ lexer.flush.out.length + 1 := by
  have flushed := lexer.length_flush
  rw [next.length_flush]
  rcases step_cases stepped with ⟨_, rfl⟩ | ⟨_, _, _, rfl⟩ | ⟨_, _, rfl⟩ | ⟨_, _, _, depth, rfl⟩ |
    ⟨_, _, _, rfl⟩ | ⟨_, _, _, rfl⟩
  · exact Nat.le_succ_of_le (Nat.le_of_eq flushed.symm)
  · exact Nat.le_succ_of_le (Nat.le_of_eq flushed.symm)
  · exact Nat.le_succ_of_le (Nat.le_of_eq flushed.symm)
  · rw [if_pos lexer.flush_token, List.length_append]
    exact Nat.le_refl _
  · rw [if_pos lexer.flush_token]
    exact Nat.le_succ _
  · dsimp only
    split <;> omega

theorem run_near (characters : List Char) (ran : lexer.run characters = .ok next) :
    next.flush.out.length ≤ lexer.flush.out.length + characters.length := by
  induction characters generalizing lexer with
  | nil =>
    obtain rfl := Except.ok.inj ran
    exact Nat.le_refl _
  | cons head rest ih =>
    rw [run] at ran
    split at ran
    · rename_i middle stepped
      have first := step_near stepped
      have later := ih ran
      rw [List.length_cons]
      omega
    · cases ran

end Lexer

/-- There are no more tokens than characters. -/
theorem sexpTokens_length (lexed : sexpTokens text = .ok tokens) :
    tokens.length ≤ text.toList.length := by
  unfold sexpTokens at lexed
  split at lexed
  · cases lexed
  · rename_i final ran
    split at lexed
    · cases lexed
    · obtain rfl := Except.ok.inj lexed
      have near := Lexer.run_near text.toList ran
      have empty : ({} : Lexer).flush.out.length = 0 := rfl
      omega

theorem length_toList_le (text : String) : text.toList.length ≤ text.utf8ByteSize := by
  rw [← length_textBytes, textBytes_eq_flatMap]
  induction text.toList with
  | nil => exact Nat.le_refl 0
  | cons head rest ih =>
    have positive := head.utf8Size_pos
    rw [List.flatMap_cons, List.length_append, String.length_utf8EncodeChar, List.length_cons]
    omega

theorem ruleDepth_near (depth : Int) (token : String) :
    depth - 1 ≤ ruleDepth depth token ∧ ruleDepth depth token ≤ depth + 1 := by
  simp only [ruleDepth]
  split <;> split <;> omega

theorem foldl_ruleDepth_near (seen : List String) (depth : Int) :
    depth - seen.length ≤ seen.foldl ruleDepth depth ∧
      seen.foldl ruleDepth depth ≤ depth + seen.length := by
  induction seen generalizing depth with
  | nil => simp
  | cons token rest ih =>
    have first := ruleDepth_near depth token
    have later := ih (ruleDepth depth token)
    rw [List.foldl_cons, List.length_cons]
    omega

/-- The counter of the loop is an `i32`: the output limit keeps it in range. -/
theorem ruleDepth_fits (lexed : sexpTokens text = .ok tokens)
    (limited : text.utf8ByteSize ≤ duneOutputLimit) {seen : List String} (part : seen <:+: tokens) :
    -(2 ^ 31 : Int) ≤ seen.foldl ruleDepth 0 ∧ seen.foldl ruleDepth 0 < 2 ^ 31 := by
  have near := foldl_ruleDepth_near seen 0
  have shorter := part.length_le
  have few := sexpTokens_length lexed
  have bytes := length_toList_le text
  have limit : duneOutputLimit = 2 ^ 26 := rfl
  omega

end

end RocqMcp
