import RocqMcp.Dune.Sexp
import RocqMcp.Library.Balanced
import RocqMcp.Types

/-! The build target of a Dune rule, found by two searches in its tokens. -/

namespace RocqMcp

open Library

/-! ### The source -/

/-- `balanced_end`: the position of the parenthesis that closes the list at `start`. -/
def balancedEnd (tokens : List String) (start : Nat) : Option Nat :=
  if tokens[start]? = some "(" then
    (closeFrom "(" ")" 0 (tokens.drop start)).map (start + ·)
  else none

def endsWithVo (token : String) : Bool := ".vo".toList.isSuffixOf token.toList

/-- The components of a path below some directory. -/
def pathComponents (token : String) : Path :=
  (splitText '/' token).filter fun component => component ≠ "" && component ≠ "."

/-- A target made absolute, unless it lies outside the build root. -/
def targetPath (buildRoot : Path) (token : String) : Option Path :=
  if token.toList.head? = some '/' then
    if buildRoot.isPrefixOf (pathComponents token) then some (pathComponents token) else none
  else some (buildRoot ++ pathComponents token)

/-- The first `.vo` that is relative or below the build root. -/
def firstTarget (buildRoot : Path) (tokens : List String) : Option Path :=
  ((tokens.filter endsWithVo).filterMap (targetPath buildRoot)).head?

/-- The target in the list behind the first `files` between two positions. -/
def filesTarget (rule : List String) (buildRoot : Path) (start stop : Nat) : Option Path := do
  let files ← ((rule.take stop).drop start).findIdx? (· = "files")
  let filesStart := start + files + 1
  let filesEnd ← balancedEnd rule filesStart
  firstTarget buildRoot ((rule.take filesEnd).drop filesStart)

/-- `rule_target_vo`. -/
def ruleTargetVo (rule : List String) (buildRoot : Path) : Option Path := do
  let targets ← rule.findIdx? (· = "targets")
  let targetsStart := targets + 1
  let targetsEnd ← balancedEnd rule targetsStart
  filesTarget rule buildRoot targetsStart targetsEnd

/-! ### Rules -/

def textsOf (items : List Sexp) : List String := (Sexp.tokensOf items).map SexpToken.text

/-- No atom is spelled like a parenthesis. -/
def Spelled (items : List Sexp) : Prop :=
  ∀ text, .atom text ∈ Sexp.tokensOf items → text ≠ "(" ∧ text ≠ ")"

/-- A rule without the entries of its `files` list: the forms around the
`targets` form, and the other fields of that form. -/
structure RuleFrame where
  before : List (List Sexp)
  fields : List (List Sexp)
  fieldsAfter : List (List Sexp)
  after : List (List Sexp)

namespace RuleFrame

variable (frame : RuleFrame)

def targets (entries : List String) : Sexp :=
  .list [.atom "targets", .list (frame.fields.map .list ++
    .list [.atom "files", .list (entries.map .atom)] :: frame.fieldsAfter.map .list)]

def rule (entries : List String) : Sexp :=
  .list (frame.before.map .list ++ frame.targets entries :: frame.after.map .list)

def tokens (entries : List String) : List String := textsOf [frame.rule entries]

/-- The result is the first listed target, whatever else the rule holds. -/
def Exact : Prop :=
  ∀ entries buildRoot, (∀ entry ∈ entries, entry ≠ "(" ∧ entry ≠ ")") →
    ruleTargetVo (frame.tokens entries) buildRoot = firstTarget buildRoot entries

end RuleFrame

/-! ### The tokens of a list -/

mutual

theorem texts_balanced_item (item : Sexp) (spelled : Spelled [item]) :
    Balanced "(" ")" (item.tokens.map SexpToken.text) := by
  match item with
  | .atom text =>
    obtain ⟨starts, ends⟩ := spelled text (by simp [Sexp.tokensOf, Sexp.tokens])
    exact .other text starts ends .nil
  | .list items =>
    have inner : Spelled items := by
      intro text member
      exact spelled text (by simp [Sexp.tokensOf, Sexp.tokens, member])
    have behind : Balanced "(" ")" [] := .nil
    have grouped := Balanced.group (texts_balanced items inner) behind
    simpa [Sexp.tokens, textsOf, SexpToken.text] using grouped

theorem texts_balanced (items : List Sexp) (spelled : Spelled items) :
    Balanced "(" ")" (textsOf items) := by
  match items with
  | [] => exact .nil
  | item :: rest =>
    have first : Spelled [item] := by
      intro text member
      refine spelled text ?_
      simp only [Sexp.tokensOf, List.append_nil] at member
      simp [Sexp.tokensOf, member]
    have later : Spelled rest := by
      intro text member
      exact spelled text (by simp [Sexp.tokensOf, member])
    have whole := (texts_balanced_item item first).append (texts_balanced rest later)
    simpa [textsOf, Sexp.tokensOf] using whole

end

/-! ### The two searches -/

section

variable {front inner rest : List String} {buildRoot : Path}

theorem balancedEnd_group (inside : Balanced "(" ")" inner) :
    balancedEnd (front ++ "(" :: (inner ++ ")" :: rest)) front.length =
      some (front.length + (inner.length + 1)) := by
  have first : (front ++ "(" :: (inner ++ ")" :: rest))[front.length]? = some "(" := by simp
  rw [balancedEnd, if_pos first, List.drop_left, inside.closeFrom_group (by decide)]
  rfl

theorem balancedEnd_none (other : rest.head? ≠ some "(") :
    balancedEnd (front ++ rest) front.length = none := by
  rw [balancedEnd, if_neg]
  rwa [List.getElem?_append_right (Nat.le_refl _), Nat.sub_self, ← List.head?_eq_getElem?]

theorem findIdx_key {key : String} {back : List String} (fresh : key ∉ front) :
    (front ++ key :: back).findIdx? (· = key) = some front.length := by
  have skipped : front.findIdx? (· = key) = none := by
    rw [List.findIdx?_eq_none_iff]
    intro token member
    simpa using fun same : token = key => fresh (same ▸ member)
  rw [List.findIdx?_append, skipped, List.findIdx?_cons]
  simp

theorem findIdx_missing {key : String} (missing : key ∉ inner) :
    inner.findIdx? (· = key) = none := by
  rw [List.findIdx?_eq_none_iff]
  intro token member
  simpa using fun same : token = key => missing (same ▸ member)

/-- The tokens of the group at `front`, without its closing parenthesis. -/
theorem take_drop_group :
    ((front ++ "(" :: (inner ++ ")" :: rest)).take (front.length + (inner.length + 1))).drop
      front.length = "(" :: inner := by
  rw [List.take_length_add_append, List.drop_left, List.take_succ_cons, List.take_left]

theorem filesTarget_missing (missing : "files" ∉ inner) :
    filesTarget (front ++ "(" :: (inner ++ ")" :: rest)) buildRoot front.length
      (front.length + (inner.length + 1)) = none := by
  have absent : "files" ∉ "(" :: inner := by simpa using missing
  rw [filesTarget, take_drop_group, findIdx_missing absent]
  rfl

/-- What the second search reads, by the tokens behind the first `files`. -/
theorem filesTarget_found {early late : List String} (fresh : "files" ∉ early) :
    filesTarget (front ++ "(" :: ((early ++ "files" :: late) ++ ")" :: rest)) buildRoot front.length
      (front.length + ((early ++ "files" :: late).length + 1)) =
    (balancedEnd ((front ++ "(" :: (early ++ ["files"])) ++ (late ++ ")" :: rest))
      (front ++ "(" :: (early ++ ["files"])).length).bind fun filesEnd =>
        firstTarget buildRoot ((((front ++ "(" :: (early ++ ["files"])) ++ (late ++ ")" :: rest)).take
          filesEnd).drop (front ++ "(" :: (early ++ ["files"])).length) := by
  have first : ("(" :: (early ++ "files" :: late)).findIdx? (· = "files") =
      some (early.length + 1) := by
    have fresh' : "files" ∉ "(" :: early := by simpa using fresh
    have found : (("(" :: early) ++ "files" :: late).findIdx? (· = "files") =
        some ("(" :: early).length := findIdx_key fresh'
    exact found
  have shape : front ++ "(" :: ((early ++ "files" :: late) ++ ")" :: rest) =
      (front ++ "(" :: (early ++ ["files"])) ++ (late ++ ")" :: rest) := by simp
  have position : front.length + (early.length + 1) + 1 =
      (front ++ "(" :: (early ++ ["files"])).length := by simp; omega
  rw [filesTarget, take_drop_group, first, ← shape, ← position]
  rfl

theorem filesTarget_none {early late : List String} (fresh : "files" ∉ early)
    (other : late.head? ≠ some "(") :
    filesTarget (front ++ "(" :: ((early ++ "files" :: late) ++ ")" :: rest)) buildRoot front.length
      (front.length + ((early ++ "files" :: late).length + 1)) = none := by
  have next : (late ++ ")" :: rest).head? ≠ some "(" := by
    cases late with
    | nil => simp
    | cons head later => simpa using other
  rw [filesTarget_found fresh, balancedEnd_none next]
  rfl

theorem firstTarget_opening (tokens : List String) :
    firstTarget buildRoot ("(" :: tokens) = firstTarget buildRoot tokens := by
  have skipped : endsWithVo "(" = false := by decide
  rw [firstTarget, List.filter_cons_of_neg (by rw [skipped]; exact Bool.false_ne_true)]
  rfl

theorem filesTarget_group {early listed behind : List String} (fresh : "files" ∉ early)
    (inside : Balanced "(" ")" listed) :
    filesTarget (front ++ "(" :: ((early ++ "files" :: "(" :: (listed ++ ")" :: behind)) ++
        ")" :: rest)) buildRoot front.length
      (front.length + ((early ++ "files" :: "(" :: (listed ++ ")" :: behind)).length + 1)) =
      firstTarget buildRoot listed := by
  have shape : "(" :: (listed ++ ")" :: behind) ++ ")" :: rest =
      "(" :: (listed ++ ")" :: (behind ++ ")" :: rest)) := by simp
  rw [filesTarget_found fresh, shape, balancedEnd_group inside, Option.bind_some, take_drop_group,
    firstTarget_opening]

/-- A target list of its own decides the second search. -/
theorem filesTarget_settled (buildRoot : Path) (inside : Balanced "(" ")" inner) :
    ∃ result, ∀ front rest, filesTarget (front ++ "(" :: (inner ++ ")" :: rest)) buildRoot
      front.length (front.length + (inner.length + 1)) = result := by
  by_cases member : "files" ∈ inner
  · obtain ⟨early, late, rfl, fresh, ⟨listed, behind, rfl, balanced⟩ | other⟩ :=
      inside.split_key (by decide) member
    · exact ⟨_, fun front rest => filesTarget_group fresh balanced⟩
    · exact ⟨none, fun front rest => filesTarget_none fresh other⟩
  · exact ⟨none, fun front rest => filesTarget_missing member⟩

theorem ruleTargetVo_found {back : List String} (fresh : "targets" ∉ front) :
    ruleTargetVo (front ++ "targets" :: back) buildRoot =
      (balancedEnd ((front ++ ["targets"]) ++ back) (front ++ ["targets"]).length).bind
        (filesTarget ((front ++ ["targets"]) ++ back) buildRoot (front ++ ["targets"]).length) := by
  have shape : front ++ "targets" :: back = (front ++ ["targets"]) ++ back := by simp
  have position : front.length + 1 = (front ++ ["targets"]).length := by simp
  rw [ruleTargetVo, findIdx_key fresh, ← shape, ← position]
  rfl

theorem ruleTargetVo_none {back : List String} (fresh : "targets" ∉ front)
    (other : back.head? ≠ some "(") :
    ruleTargetVo (front ++ "targets" :: back) buildRoot = none := by
  rw [ruleTargetVo_found fresh, balancedEnd_none other]
  rfl

theorem ruleTargetVo_group (fresh : "targets" ∉ front) (inside : Balanced "(" ")" inner) :
    ruleTargetVo (front ++ "targets" :: "(" :: (inner ++ ")" :: rest)) buildRoot =
      filesTarget ((front ++ ["targets"]) ++ "(" :: (inner ++ ")" :: rest)) buildRoot
        (front ++ ["targets"]).length ((front ++ ["targets"]).length + (inner.length + 1)) := by
  rw [ruleTargetVo_found fresh, balancedEnd_group inside]
  rfl

end

/-! ### The forms of a rule -/

@[simp] theorem textsOf_nil : textsOf [] = [] := rfl

@[simp] theorem textsOf_atom (text : String) (rest : List Sexp) :
    textsOf (.atom text :: rest) = text :: textsOf rest := rfl

@[simp] theorem textsOf_list (items rest : List Sexp) :
    textsOf (.list items :: rest) = "(" :: (textsOf items ++ ")" :: textsOf rest) := by
  simp [textsOf, Sexp.tokensOf, Sexp.tokens, SexpToken.text]

@[simp] theorem textsOf_append (left right : List Sexp) :
    textsOf (left ++ right) = textsOf left ++ textsOf right := by
  induction left with
  | nil => rfl
  | cons item rest ih =>
    cases item with
    | atom text => simp [ih]
    | list items => simp [ih]

@[simp] theorem textsOf_atoms (texts : List String) : textsOf (texts.map .atom) = texts := by
  induction texts with
  | nil => rfl
  | cons text rest ih => simp [ih]

/-- Forms end with a parenthesis. -/
theorem textsOf_forms_last (forms : List (List Sexp)) {front : List String} {key : String}
    (other : key ≠ ")") : textsOf (forms.map .list) ≠ front ++ [key] := by
  intro same
  rcases List.eq_nil_or_concat forms with rfl | ⟨earlier, last, rfl⟩
  · simp at same
  · rw [List.concat_eq_append, List.map_append, textsOf_append, List.map_singleton, textsOf_list,
      textsOf_nil] at same
    rw [← List.cons_append, ← List.append_assoc] at same
    have ends := (List.append_inj' same rfl).2
    exact other (List.cons.inj ends).1.symm

/-- In forms, a key is followed by a list that closes before their end, or by
no list. -/
theorem forms_key (forms : List (List Sexp)) {key : String} (other : key ≠ ")")
    (spelled : Spelled (forms.map .list)) (member : key ∈ textsOf (forms.map .list)) :
    ∃ early, key ∉ early ∧
      ((∃ inside outside, Balanced "(" ")" inside ∧
        textsOf (forms.map .list) = early ++ key :: "(" :: (inside ++ ")" :: outside)) ∨
      ∃ late, (∀ rest, (late ++ rest).head? ≠ some "(") ∧
        textsOf (forms.map .list) = early ++ key :: late) := by
  obtain ⟨early, late, whole, fresh, ⟨inside, outside, rfl, balanced⟩ | closed⟩ :=
    (texts_balanced _ spelled).split_key (by decide) member
  · exact ⟨early, fresh, .inl ⟨inside, outside, balanced, whole⟩⟩
  · refine ⟨early, fresh, .inr ⟨late, ?_, whole⟩⟩
    intro rest
    cases late with
    | nil => exact absurd whole (textsOf_forms_last forms other)
    | cons head later => simpa using closed

namespace RuleFrame

variable (frame : RuleFrame)

/-- The tokens of the fields of the `targets` form. -/
def inner (entries : List String) : List String :=
  textsOf (frame.fields.map .list) ++
    "(" :: "files" :: "(" :: (entries ++ ")" :: ")" :: textsOf (frame.fieldsAfter.map .list))

theorem tokens_eq (entries : List String) : frame.tokens entries =
    ("(" :: (textsOf (frame.before.map .list) ++ ["("])) ++ "targets" :: "(" ::
      (frame.inner entries ++ ")" :: ")" :: (textsOf (frame.after.map .list) ++ [")"])) := by
  simp [tokens, rule, targets, inner]

/-- No other atom in front of the two keywords is spelled like one of them, and no
field is spelled with a parenthesis. -/
structure Clear : Prop where
  targets : "targets" ∉ textsOf (frame.before.map .list)
  files : "files" ∉ textsOf (frame.fields.map .list)
  spelled : Spelled (frame.fields.map .list)
  spelledAfter : Spelled (frame.fieldsAfter.map .list)

variable {frame} {entries : List String}

theorem listed_balanced (spelled : ∀ entry ∈ entries, entry ≠ "(" ∧ entry ≠ ")") :
    Balanced "(" ")" entries := by
  have atoms : Spelled (entries.map .atom) := by
    intro text member
    have listed : text ∈ textsOf (entries.map .atom) := List.mem_map.mpr ⟨_, member, rfl⟩
    rw [textsOf_atoms] at listed
    exact spelled text listed
  simpa using texts_balanced _ atoms

theorem inner_balanced (fields : Spelled (frame.fields.map .list))
    (fieldsAfter : Spelled (frame.fieldsAfter.map .list))
    (spelled : ∀ entry ∈ entries, entry ≠ "(" ∧ entry ≠ ")") :
    Balanced "(" ")" (frame.inner entries) := by
  have listing : Balanced "(" ")" ("files" :: "(" :: (entries ++ [")"])) :=
    .other "files" (by decide) (by decide) (.group (listed_balanced spelled) .nil)
  have grouped := Balanced.group listing (texts_balanced _ fieldsAfter)
  have whole := (texts_balanced _ fields).append grouped
  simpa [inner] using whole

theorem Clear.exact (clear : frame.Clear) : frame.Exact := by
  intro entries buildRoot spelled
  have fresh : "targets" ∉ "(" :: (textsOf (frame.before.map .list) ++ ["("]) := by
    simpa using clear.targets
  have fresh' : "files" ∉ textsOf (frame.fields.map .list) ++ ["("] := by
    simpa using clear.files
  have fieldsShape : frame.inner entries = (textsOf (frame.fields.map .list) ++ ["("]) ++ "files" ::
      "(" :: (entries ++ ")" :: ")" :: textsOf (frame.fieldsAfter.map .list)) := by
    simp [inner]
  rw [tokens_eq, ruleTargetVo_group fresh (inner_balanced clear.spelled clear.spelledAfter spelled),
    fieldsShape]
  exact filesTarget_group fresh' (listed_balanced spelled)

/-- A result that does not depend on the entries is not exact. -/
theorem not_exact_of_settled {result : Option Path}
    (settled : ∀ entries, (∀ entry ∈ entries, entry ≠ "(" ∧ entry ≠ ")") →
      ruleTargetVo (frame.tokens entries) [] = result) : ¬ frame.Exact := by
  intro exact
  have plain : ∀ name : String, name ≠ "(" → name ≠ ")" →
      ∀ entry ∈ [name], entry ≠ "(" ∧ entry ≠ ")" := by
    intro name starts ends entry member
    rw [List.mem_singleton.mp member]
    exact ⟨starts, ends⟩
  have first := plain "a.vo" (by decide) (by decide)
  have second := plain "b.vo" (by decide) (by decide)
  have same := (settled _ first).trans (settled _ second).symm
  rw [exact _ [] first, exact _ [] second] at same
  exact absurd same (by decide +kernel)

theorem not_exact_of_targets (spelled : Spelled (frame.before.map .list))
    (member : "targets" ∈ textsOf (frame.before.map .list)) : ¬ frame.Exact := by
  obtain ⟨early, fresh, ⟨inside, outside, balanced, whole⟩ | ⟨late, closed, whole⟩⟩ :=
    forms_key frame.before (by decide) spelled member
  all_goals have fresh' : "targets" ∉ "(" :: early := by simpa using fresh
  · obtain ⟨result, settled⟩ := filesTarget_settled [] balanced
    apply not_exact_of_settled
    intro entries _
    have shape : frame.tokens entries = ("(" :: early) ++ "targets" :: "(" :: (inside ++ ")" ::
        (outside ++ "(" :: "targets" :: "(" :: (frame.inner entries ++ ")" :: ")" ::
          (textsOf (frame.after.map .list) ++ [")"])))) := by
      rw [tokens_eq, whole]
      simp
    rw [shape, ruleTargetVo_group fresh' balanced]
    exact settled _ _
  · apply not_exact_of_settled
    intro entries _
    have shape : frame.tokens entries = ("(" :: early) ++ "targets" :: (late ++ "(" :: "targets" ::
        "(" :: (frame.inner entries ++ ")" :: ")" ::
          (textsOf (frame.after.map .list) ++ [")"]))) := by
      rw [tokens_eq, whole]
      simp
    rw [shape]
    exact ruleTargetVo_none fresh' (closed _)

theorem not_exact_of_files (unmentioned : "targets" ∉ textsOf (frame.before.map .list))
    (spelled : Spelled (frame.fields.map .list)) (spelledAfter : Spelled (frame.fieldsAfter.map .list))
    (member : "files" ∈ textsOf (frame.fields.map .list)) : ¬ frame.Exact := by
  have fresh : "targets" ∉ "(" :: (textsOf (frame.before.map .list) ++ ["("]) := by
    simpa using unmentioned
  obtain ⟨early, fresh', ⟨inside, outside, balanced, whole⟩ | ⟨late, closed, whole⟩⟩ :=
    forms_key frame.fields (by decide) spelled member
  · apply not_exact_of_settled
    intro entries plain
    have shape : frame.inner entries = early ++ "files" :: "(" :: (inside ++ ")" ::
        (outside ++ "(" :: "files" :: "(" :: (entries ++ ")" :: ")" ::
          textsOf (frame.fieldsAfter.map .list)))) := by
      rw [inner, whole]
      simp
    rw [tokens_eq, ruleTargetVo_group fresh (inner_balanced spelled spelledAfter plain), shape]
    exact filesTarget_group fresh' balanced
  · apply not_exact_of_settled
    intro entries plain
    have shape : frame.inner entries = early ++ "files" :: (late ++ "(" :: "files" :: "(" ::
        (entries ++ ")" :: ")" :: textsOf (frame.fieldsAfter.map .list))) := by
      rw [inner, whole]
      simp
    rw [tokens_eq, ruleTargetVo_group fresh (inner_balanced spelled spelledAfter plain), shape]
    exact filesTarget_none fresh' (closed _)

/-- A rule is read exactly if no other atom in front of the two keywords is
spelled like one of them. -/
theorem targetExact_iff : (frame.Clear → frame.Exact) ∧
    (Spelled (frame.before.map .list) → Spelled (frame.fields.map .list) →
      Spelled (frame.fieldsAfter.map .list) → (frame.Exact ↔ frame.Clear)) := by
  refine ⟨Clear.exact, fun spelledBefore spelled spelledAfter => ⟨?_, Clear.exact⟩⟩
  intro exact
  have unmentioned : "targets" ∉ textsOf (frame.before.map .list) :=
    fun member => not_exact_of_targets spelledBefore member exact
  have unlisted : "files" ∉ textsOf (frame.fields.map .list) :=
    fun member => not_exact_of_files unmentioned spelled spelledAfter member exact
  exact ⟨unmentioned, unlisted, spelled, spelledAfter⟩

/-- A dependency list, the targets, and the action. -/
def compiling (dependency : String) : RuleFrame where
  before := [[.atom "deps", .list [.list [.atom "File", .list [.atom "In_build_dir",
    .atom dependency]]]]]
  fields := []
  fieldsAfter := [[.atom "directories", .list []]]
  after := [[.atom "action", .list [.atom "run", .atom "rocq", .atom "compile", .atom "Source.v"]]]

theorem compiling_spelled :
    Spelled ((compiling "Other.vo").before.map .list) ∧
      Spelled ((compiling "Other.vo").fields.map .list) ∧
        Spelled ((compiling "Other.vo").fieldsAfter.map .list) := by
  refine ⟨?_, ?_, ?_⟩ <;> intro text member <;>
    simp [compiling, Sexp.tokensOf, Sexp.tokens] at member
  · rcases member with rfl | rfl | rfl | rfl <;> decide
  · rw [member]
    decide

/-- A dependency in the build directory does not disturb the search. -/
theorem targetExact_iff_compiling : (compiling "Other.vo").Exact ∧ (compiling "Other.vo").Clear := by
  obtain ⟨spelled, spelledFields, spelledAfter⟩ := compiling_spelled
  have clear : (compiling "Other.vo").Clear := by
    refine ⟨?_, ?_, spelledFields, spelledAfter⟩ <;> simp [compiling]
  have exact := targetExact_iff.1 clear
  exact ⟨exact, (targetExact_iff.2 spelled spelledFields spelledAfter).mp exact⟩

/-- A dependency that is called `targets` hides the targets, and moving it behind
them makes them visible. -/
theorem dependency_hides :
    ruleTargetVo ((compiling "targets").tokens ["Source.vo"]) ["b"] = none ∧
      firstTarget ["b"] ["Source.vo"] = some ["b", "Source.vo"] ∧
        ruleTargetVo (({ compiling "targets" with
          before := []
          after := (compiling "targets").before ++ (compiling "targets").after } :
            RuleFrame).tokens ["Source.vo"]) ["b"] = some ["b", "Source.vo"] := by
  decide +kernel

end RuleFrame

end RocqMcp
