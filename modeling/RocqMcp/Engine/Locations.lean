import RocqMcp.Engine.Declarations
import RocqMcp.Library.Sorting
import Mathlib.Data.List.Nodup

/-! What `locate_symbol` reports, by the declarations that PET lists for the
candidate documents. -/

namespace RocqMcp

open Library

/-- The declarations of one document. -/
structure DocumentListing (file : FileId) where
  library : LogicalLibrary
  declarations : List DeclarationInfo
  own : ∀ declaration ∈ declarations, declaration.identity.file = file
  distinct : (declarations.map DeclarationInfo.identity).Nodup

/-- The declarations of a document that match the symbol. -/
def DocumentListing.matching {file : FileId} (listing : DocumentListing file) (symbol : String) :
    List SymbolLocation :=
  listing.declarations.filterMap (SymbolLocation.of? listing.library (trim symbol))

variable (lists : (file : FileId) → DocumentListing file) (symbol : String)

def matching (files : List FileId) : List SymbolLocation :=
  files.flatMap fun file => (lists file).matching symbol

/-- The rows and the truncation that the lists give for a limit. -/
def symbolReport (limit : Nat) (files : List FileId) : List SymbolLocation × Bool :=
  let locations := ((matching lists symbol files).take (limit + 1)).mergeSort SymbolLocation.precedes
  (locations.take limit, limit < locations.length)

/-- The rows say what the listed documents hold. -/
structure Honest (limit : Nat) (files : List FileId) (rows : List SymbolLocation)
    (truncated : Bool) : Prop where
  bounded : rows.length ≤ limit
  distinct : rows.Nodup
  classified : ∀ row ∈ rows, ∃ file ∈ files, ∃ declaration ∈ (lists file).declarations,
    row.identity = declaration.identity ∧ symbolMatchKind declaration.identity.qualifiedName
      (declaration.identity.qualifiedPath.getLastD "") (trim symbol) = some row.matchKind
  sorted : rows.Pairwise fun left right => left.precedes right = true
  truncated_iff : truncated = true ↔ limit < (matching lists symbol files).length
  complete : truncated = false → rows.Perm (matching lists symbol files)
  steady : truncated = false → ∀ others, others.Perm files →
    symbolReport lists symbol limit others = (rows, false)

/-! ### The order of the rows -/

theorem SymbolLocation.precedes_iff {left right : SymbolLocation} : left.precedes right = true ↔
    matchRank left.matchKind < matchRank right.matchKind ∨
      matchRank left.matchKind = matchRank right.matchKind ∧
        (left.qualifiedName < right.qualifiedName ∨
          left.qualifiedName = right.qualifiedName ∧
            left.identity.file.text ≤ right.identity.file.text) := by
  unfold precedes
  by_cases ranks : matchRank left.matchKind = matchRank right.matchKind
  · by_cases names : left.qualifiedName = right.qualifiedName
    · simp [ranks, names]
    · simp [ranks, names]
  · simp [ranks]

theorem SymbolLocation.precedes_trans (first second third : SymbolLocation)
    (left : first.precedes second = true) (right : second.precedes third = true) :
    first.precedes third = true := by
  rw [precedes_iff] at *
  rcases left with rank | ⟨rank, name | ⟨name, file⟩⟩
  · left
    rcases right with rank' | ⟨rank', _⟩ <;> omega
  · rcases right with rank' | ⟨rank', name' | ⟨name', _⟩⟩
    · left
      omega
    · exact .inr ⟨rank.trans rank', .inl (String.lt_trans name name')⟩
    · exact .inr ⟨rank.trans rank', .inl (name' ▸ name)⟩
  · rcases right with rank' | ⟨rank', name' | ⟨name', file'⟩⟩
    · left
      omega
    · exact .inr ⟨rank.trans rank', .inl (name ▸ name')⟩
    · exact .inr ⟨rank.trans rank', .inr ⟨name.trans name', String.le_trans file file'⟩⟩

theorem SymbolLocation.precedes_total (left right : SymbolLocation) :
    (left.precedes right || right.precedes left) = true := by
  rw [Bool.or_eq_true, precedes_iff, precedes_iff]
  by_cases ranks : matchRank left.matchKind = matchRank right.matchKind
  · by_cases names : left.qualifiedName = right.qualifiedName
    · rcases String.le_total left.identity.file.text right.identity.file.text with file | file
      · exact .inl (.inr ⟨ranks, .inr ⟨names, file⟩⟩)
      · exact .inr (.inr ⟨ranks.symm, .inr ⟨names.symm, file⟩⟩)
    · rcases String.le_total left.qualifiedName right.qualifiedName with before | before
      · have strict : left.qualifiedName < right.qualifiedName :=
          String.not_le.mp fun back => names (String.le_antisymm before back)
        exact .inl (.inr ⟨ranks, .inl strict⟩)
      · have strict : right.qualifiedName < left.qualifiedName :=
          String.not_le.mp fun back => names (String.le_antisymm back before)
        exact .inr (.inr ⟨ranks.symm, .inl strict⟩)
  · rcases Nat.lt_or_gt_of_ne ranks with lower | higher
    · exact .inl (.inl lower)
    · exact .inr (.inl higher)

/-- Rows that compare equal are of one document. -/
theorem SymbolLocation.precedes_tie {left right : SymbolLocation}
    (forward : left.precedes right = true) (backward : right.precedes left = true) :
    left.identity.file = right.identity.file := by
  rw [precedes_iff] at *
  have files : left.identity.file.text = right.identity.file.text := by
    rcases forward with rank | ⟨rank, name | ⟨name, file⟩⟩ <;>
      rcases backward with rank' | ⟨rank', name' | ⟨name', file'⟩⟩
    · omega
    · omega
    · omega
    · omega
    · exact absurd name' (String.lt_asymm name)
    · exact absurd name (by rw [name']; exact String.lt_irrefl _)
    · omega
    · exact absurd name' (by rw [name]; exact String.lt_irrefl _)
    · exact String.le_antisymm file file'
  have extended : ∀ file file' : FileId, file.text = file'.text → file = file' := by
    rintro ⟨_⟩ ⟨_⟩ rfl
    rfl
  exact extended _ _ files

/-! ### The report -/

theorem SymbolLocation.of_identity {library : LogicalLibrary} {declaration : DeclarationInfo}
    {row : SymbolLocation} (made : SymbolLocation.of? library symbol declaration = some row) :
    row.identity = declaration.identity ∧ symbolMatchKind declaration.identity.qualifiedName
      (declaration.identity.qualifiedPath.getLastD "") symbol = some row.matchKind := by
  obtain ⟨matchKind, matched, rfl⟩ := Option.map_eq_some_iff.mp made
  exact ⟨rfl, matched⟩

variable {lists symbol} {files others : List FileId} {limit : Nat}

theorem DocumentListing.matching_own {file : FileId} {listing : DocumentListing file} {row : SymbolLocation}
    (member : row ∈ listing.matching symbol) : row.identity.file = file := by
  obtain ⟨declaration, declared, made⟩ := List.mem_filterMap.mp member
  rw [(SymbolLocation.of_identity _ made).1]
  exact listing.own declaration declared

theorem DocumentListing.matching_nodup {file : FileId} (listing : DocumentListing file) :
    (listing.matching symbol).Nodup := by
  have identities : ((listing.matching symbol).map SymbolLocation.identity).Sublist
      (listing.declarations.map DeclarationInfo.identity) :=
    map_filterMap_sublist fun _ _ _ made => (SymbolLocation.of_identity _ made).1
  exact (listing.distinct.sublist identities).of_map _

theorem matching_nodup (distinct : files.Nodup) : (matching lists symbol files).Nodup := by
  refine List.nodup_flatMap.mpr ⟨fun file _ => (lists file).matching_nodup, ?_⟩
  refine distinct.imp fun different => ?_
  intro row inLeft inRight
  exact different ((DocumentListing.matching_own inLeft).symm.trans (DocumentListing.matching_own inRight))

/-- The sorted matches do not depend on the order of the documents. -/
theorem matching_sorted_perm (distinct : files.Nodup) (permuted : others.Perm files) :
    (matching lists symbol others).mergeSort SymbolLocation.precedes =
      (matching lists symbol files).mergeSort SymbolLocation.precedes := by
  refine mergeSort_flatMap_perm SymbolLocation.precedes_trans SymbolLocation.precedes_total
    (matching_nodup distinct) permuted ?_
  intro left right inLeft inRight forward backward
  obtain ⟨file, member, found⟩ := List.mem_flatMap.mp inLeft
  obtain ⟨file', _, found'⟩ := List.mem_flatMap.mp inRight
  have same := SymbolLocation.precedes_tie forward backward
  rw [DocumentListing.matching_own found, DocumentListing.matching_own found'] at same
  subst same
  exact ⟨file, member, found, found'⟩

theorem symbolReport_all (few : (matching lists symbol files).length ≤ limit) :
    symbolReport lists symbol limit files =
      ((matching lists symbol files).mergeSort SymbolLocation.precedes, false) := by
  have whole : (matching lists symbol files).take (limit + 1) = matching lists symbol files :=
    List.take_of_length_le (by omega)
  rw [symbolReport, whole, List.length_mergeSort, List.take_of_length_le (by
    rw [List.length_mergeSort]
    exact few)]
  simpa using few

theorem symbolReport_truncated :
    (symbolReport lists symbol limit files).2 = true ↔
      limit < (matching lists symbol files).length := by
  rw [symbolReport, decide_eq_true_iff, List.length_mergeSort, List.length_take]
  omega

/-- The report of distinct documents. -/
theorem symbolReport_honest (distinct : files.Nodup) :
    Honest lists symbol limit files (symbolReport lists symbol limit files).1
      (symbolReport lists symbol limit files).2 := by
  have taken : ((matching lists symbol files).take (limit + 1)).Sublist
      (matching lists symbol files) := List.take_sublist ..
  have sorting : (((matching lists symbol files).take (limit + 1)).mergeSort
      SymbolLocation.precedes).Perm ((matching lists symbol files).take (limit + 1)) :=
    List.mergeSort_perm ..
  have shown : (symbolReport lists symbol limit files).1.Sublist
      (((matching lists symbol files).take (limit + 1)).mergeSort SymbolLocation.precedes) :=
    List.take_sublist ..
  have few : (symbolReport lists symbol limit files).2 = false →
      (matching lists symbol files).length ≤ limit := by
    intro whole
    rw [← Nat.not_lt, ← symbolReport_truncated, whole]
    exact Bool.false_ne_true
  refine ⟨List.length_take_le .., ?_, ?_, ?_, symbolReport_truncated, ?_, ?_⟩
  · exact (sorting.nodup_iff.mpr ((matching_nodup distinct).sublist taken)).sublist shown
  · intro row member
    have found := taken.subset (sorting.subset (shown.subset member))
    obtain ⟨file, listed, matched⟩ := List.mem_flatMap.mp found
    obtain ⟨declaration, declared, made⟩ := List.mem_filterMap.mp matched
    exact ⟨file, listed, declaration, declared, SymbolLocation.of_identity _ made⟩
  · exact (List.pairwise_mergeSort SymbolLocation.precedes_trans SymbolLocation.precedes_total
      _).sublist shown
  · intro whole
    rw [symbolReport_all (few whole)]
    exact List.mergeSort_perm ..
  · intro whole others permuted
    have length : (matching lists symbol others).length = (matching lists symbol files).length :=
      (permuted.flatMap_right _).length_eq
    rw [symbolReport_all (few whole), symbolReport_all (by rw [length]; exact few whole),
      matching_sorted_perm distinct permuted]

/-! ### The run -/

/-- What PET lists for a document, and the library of its compilation unit. -/
structure Answer where
  file : FileId
  library : LogicalLibrary
  declarations : List DeclarationInfo

/-- The lists give what PET has answered. -/
def Agrees (lists : (file : FileId) → DocumentListing file) (answers : List Answer) : Prop :=
  ∀ answer ∈ answers, (lists answer.file).library = answer.library ∧
    (lists answer.file).declarations = answer.declarations

namespace Engine

variable (project : ProjectId)

/-- One candidate document. -/
def consult (file : FileId) : EngineM Answer := do
  let cancelled ← requestCancelled
  Act.ensure (!cancelled) (.new .requestCancelled "symbol lookup cancelled")
  let source ← DuneProject.source project file
  let library ← DuneProject.library project source
  let declarations ← listDecls project file
  return { file, library, declarations }

/-- The documents that a run has asked PET about, one after the other. -/
inductive Consulted : World → List Answer → World → Prop where
  | none : Consulted world [] world
  | next (ran : consult project file before = (.ok answer, between))
      (rest : Consulted between answers after) : Consulted before (answer :: answers) after

theorem resolveFiles_cons (limit : Nat) (found : List SymbolLocation) (file : FileId)
    (rest : List FileId) :
    resolveFiles project symbol limit found (file :: rest) = consult project file >>= fun answer =>
      let found := appendMatches symbol limit answer.library answer.declarations found
      if limit ≤ found.length then return found
      else resolveFiles project symbol limit found rest := by
  rw [resolveFiles, consult]
  simp only [Act.bind_assoc]
  rfl

/-- The loop over the declarations stops at the limit. -/
theorem appendMatches_eq (library : LogicalLibrary) (declarations : List DeclarationInfo)
    {found : List SymbolLocation} (room : found.length < limit) :
    appendMatches symbol limit library declarations found =
      (found ++ declarations.filterMap (SymbolLocation.of? library (trim symbol))).take limit := by
  induction declarations generalizing found with
  | nil =>
    rw [appendMatches, List.filterMap_nil, List.append_nil, List.take_of_length_le (by omega)]
  | cons head rest ih =>
    rw [appendMatches]
    cases made : SymbolLocation.of? library (trim symbol) head with
    | none => rw [List.filterMap_cons_none made, ih room]
    | some location =>
      rw [List.filterMap_cons_some made, List.append_cons]
      dsimp only
      have longer : (found ++ [location]).length = found.length + 1 := by simp
      by_cases full : limit ≤ found.length + 1
      · have exactly : (found ++ [location]).length = limit := by omega
        rw [if_pos full, List.take_append_of_le_length (by omega), ← exactly, List.take_length]
      · rw [if_neg full, ih (by omega)]

variable {project}

theorem consult_file (file : FileId) :
    Triple (fun _ => True) (consult project file) (fun answer _ => answer.file = file)
      fun _ _ => True := by
  unfold consult
  repeat refine .last fun _ => ?_
  exact .pure fun _ _ => rfl

/-- The loop over the documents: what comes after the limit is not asked for. -/
theorem resolveFiles_consulted {found result : List SymbolLocation} {world world' : World}
    (ran : resolveFiles project symbol limit found files world = (.ok result, world'))
    (room : found.length < limit) :
    ∃ answers rest, files = answers.map Answer.file ++ rest ∧
      Consulted project world answers world' ∧
      ∀ lists, Agrees lists answers →
        result = (found ++ matching lists symbol files).take limit := by
  induction files generalizing found world with
  | nil =>
    cases ran
    refine ⟨[], [], rfl, .none, fun lists _ => ?_⟩
    rw [matching, List.flatMap_nil, List.append_nil, List.take_of_length_le (by omega)]
  | cons file others ih =>
    rw [resolveFiles_cons] at ran
    obtain ⟨answer, between, asked, continued⟩ := Act.bind_ok ran
    have own : answer.file = file :=
      (consult_file file).of_ok trivial (congrArg Prod.fst asked)
    have grown : appendMatches symbol limit answer.library answer.declarations found = _ :=
      appendMatches_eq answer.library answer.declarations room
    have step : ∀ lists, Agrees lists [answer] → matching lists symbol (file :: others) =
        answer.declarations.filterMap (SymbolLocation.of? answer.library (trim symbol)) ++
          matching lists symbol others := by
      intro lists agrees
      obtain ⟨library, declarations⟩ := agrees answer List.mem_cons_self
      rw [own] at library declarations
      rw [matching, List.flatMap_cons, DocumentListing.matching, library, declarations]
      rfl
    dsimp only at continued
    rw [grown] at continued
    split at continued
    · rename_i full
      rw [List.length_take] at full
      cases continued
      refine ⟨[answer], others, by simp [own], .next asked .none, fun lists agrees => ?_⟩
      rw [step lists agrees, ← List.append_assoc]
      exact (List.take_append_of_le_length (by omega)).symm
    · rename_i space
      rw [List.length_take] at space
      rw [List.take_of_length_le (by omega)] at continued
      obtain ⟨answers, rest, split, consulted, collected⟩ := ih continued (by omega)
      refine ⟨answer :: answers, rest, by simp [own, split], .next asked consulted,
        fun lists agrees => ?_⟩
      have first : Agrees lists [answer] := fun other member =>
        agrees other (List.mem_cons.mpr (.inl (List.mem_singleton.mp member)))
      rw [step lists first, ← List.append_assoc]
      exact collected lists fun other member => agrees other (List.mem_cons_of_mem _ member)

/-- The engine returns what the lists give that agree with PET's answers. -/
theorem resolveSymbolCandidates_consulted {locations : List SymbolLocation} {world world' : World}
    (least : 1 ≤ limit) (most : limit ≤ 100)
    (ran : resolveSymbolCandidates project symbol (limit + 1) files world = (.ok locations, world')) :
    ∃ answers rest, files = answers.map Answer.file ++ rest ∧
      Consulted project world answers world' ∧
      ∀ lists, Agrees lists answers →
        symbolReport lists symbol limit files =
          (locations.take limit, decide (limit < locations.length)) := by
  have clamped : min (max (limit + 1) 1) 101 = limit + 1 := by omega
  rw [resolveSymbolCandidates, clamped] at ran
  obtain ⟨_, between, checked, continued⟩ := Act.bind_ok ran
  obtain ⟨-, rfl⟩ := Act.ensure_ok checked
  obtain ⟨found, after, collected, returned⟩ := Act.bind_ok continued
  cases returned
  obtain ⟨answers, rest, split, consulted, result⟩ :=
    resolveFiles_consulted collected (Nat.succ_pos limit)
  refine ⟨answers, rest, split, consulted, fun lists agrees => ?_⟩
  have short : (found.mergeSort SymbolLocation.precedes).length ≤ limit + 1 := by
    rw [List.length_mergeSort, result lists agrees]
    exact List.length_take_le ..
  rw [List.take_of_length_le short, symbolReport, result lists agrees, List.nil_append]

theorem resolveSymbolCandidates_length {locations found : List SymbolLocation}
    {world after after' : World} (most : limit ≤ 100)
    (ran : resolveSymbolCandidates project symbol (limit + 1) files world = (.ok locations, after))
    (collected : resolveFiles project symbol (limit + 1) [] files world = (.ok found, after')) :
    locations.length = min (limit + 1) found.length := by
  have clamped : min (max (limit + 1) 1) 101 = limit + 1 := by omega
  rw [resolveSymbolCandidates, clamped] at ran
  obtain ⟨_, _, checked, continued⟩ := Act.bind_ok ran
  obtain ⟨-, rfl⟩ := Act.ensure_ok checked
  obtain ⟨found', _, collected', returned⟩ := Act.bind_ok continued
  cases returned
  obtain rfl := Except.ok.inj (congrArg Prod.fst (collected.symm.trans collected'))
  rw [List.length_take, List.length_mergeSort]

/-- The declarations of one document are its own, and distinct. -/
theorem listDecls_listing (file : FileId) :
    Triple (fun _ => True) (listDecls project file)
      (fun declarations _ => (∀ declaration ∈ declarations, declaration.identity.file = file) ∧
        (declarations.map DeclarationInfo.identity).Nodup) fun _ _ => True := by
  have listed : Triple (fun _ => True) (declarations project file) (fun rows _ =>
      (∀ row ∈ rows, row.identity.file = file ∧ ∀ target ∈ row.target,
        target.info.identity = row.identity) ∧
      (rows.map ResolvedDeclaration.identity).Nodup) fun _ _ => True := by
    refine (declarations_resolved project file).weaken (fun _ holds => holds) ?_
      fun _ _ _ => trivial
    rintro resolved world ⟨context, rows, length, rfl, accepted⟩
    obtain ⟨rows, distinct⟩ := DocumentContext.resolveDocument_ok _ accepted
    refine ⟨fun row member => ?_, distinct⟩
    obtain ⟨read, replaceable, rfl⟩ := rows row member
    refine ⟨rfl, fun target found => ?_⟩
    simp only [DocumentContext.resolveRow, Option.mem_def, Option.map_eq_some_iff] at found
    obtain ⟨kind, _, rfl⟩ := found
    rfl
  refine .bind listed fun rows => .pure ?_
  rintro world ⟨own, distinct⟩
  constructor
  · intro declaration member
    obtain ⟨row, resolved, made⟩ := List.mem_filterMap.mp member
    obtain ⟨target, found, rfl⟩ := Option.map_eq_some_iff.mp made
    rw [(own row resolved).2 target found]
    exact (own row resolved).1
  · have kept : ((rows.filterMap fun row => row.target.map DeclarationTarget.info).map
        DeclarationInfo.identity).Sublist (rows.map ResolvedDeclaration.identity) := by
      refine map_filterMap_sublist fun row resolved declaration made => ?_
      obtain ⟨target, found, rfl⟩ := Option.map_eq_some_iff.mp made
      exact (own row resolved).2 target found
    exact distinct.sublist kept

theorem consult_listing (file : FileId) :
    Triple (fun _ => True) (consult project file)
      (fun answer _ => ∃ listing : DocumentListing answer.file,
        listing.library = answer.library ∧ listing.declarations = answer.declarations)
      fun _ _ => True := by
  refine .bind .trivial fun _ => .bind .trivial fun _ => .bind .trivial fun source =>
    .bind .trivial fun library => .bind (listDecls_listing file) fun declarations => .pure ?_
  rintro world ⟨own, distinct⟩
  exact ⟨⟨library, declarations, own, distinct⟩, rfl, rfl⟩

/-- Lists that agree with PET's answers about distinct documents. -/
theorem Consulted.agrees {answers : List Answer} {before after : World}
    (consulted : Consulted project before answers after)
    (distinct : (answers.map Answer.file).Nodup) : ∃ lists, Agrees lists answers := by
  have listed : ∀ answer ∈ answers, ∃ listing : DocumentListing answer.file,
      listing.library = answer.library ∧ listing.declarations = answer.declarations := by
    clear distinct
    induction consulted with
    | none => exact fun _ member => absurd member List.not_mem_nil
    | next ran _ ih =>
      intro answer member
      rcases List.mem_cons.mp member with rfl | later
      · exact (consult_listing _).of_ok trivial (congrArg Prod.fst ran)
      · exact ih answer later
  have chosen : ∀ file, ∃ listing : DocumentListing file, ∀ answer ∈ answers, answer.file = file →
      listing.library = answer.library ∧ listing.declarations = answer.declarations := by
    intro file
    by_cases asked : ∃ answer ∈ answers, answer.file = file
    · obtain ⟨answer, member, rfl⟩ := asked
      obtain ⟨listing, same⟩ := listed answer member
      refine ⟨listing, fun other member' file => ?_⟩
      rwa [List.inj_on_of_nodup_map distinct member' member file]
    · exact ⟨⟨{ parts := [] }, [], by simp, by simp⟩,
        fun answer member file => absurd ⟨answer, member, file⟩ asked⟩
  choose lists agree using chosen
  exact ⟨lists, fun answer member => agree answer.file answer member rfl⟩

end Engine

end RocqMcp
