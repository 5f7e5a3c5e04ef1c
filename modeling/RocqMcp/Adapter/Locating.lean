import RocqMcp.Adapter.Events
import RocqMcp.Engine.Locations

/-! The answer of `query` to `locate_symbol`. -/

namespace RocqMcp.Adapter

open Library

section

variable {project : ProjectId} {session : SessionId} {args : Value} {start built after : World}
  {response : Response} {symbol : String} {limit : Nat} {files : List FileId}
  {locations : List SymbolLocation}

/-- How the response to the arguments comes about: the candidates of the trimmed
symbol have been built, and one location more than the limit is asked for. -/
structure Located (project : ProjectId) (session : SessionId) (args : Value) (start : World)
    (symbol : String) (limit : Nat) (files : List FileId) (built : World)
    (locations : List SymbolLocation) (response : Response) (after : World) : Prop where
  asked : ∃ text, requiredString args "symbol" = .ok text ∧ symbol = trim text
  bounded : symbolLimit args = .ok limit
  candidates : ∃ found, Engine.locateSymbolCandidates project symbol start = (.ok files, found) ∧
    reconcileArtifacts project session files found = (.ok (), built)
  resolved : Engine.resolveSymbolCandidates project symbol (limit + 1) files built =
    (.ok locations, after)
  answer : response = .symbols symbol (locations.take limit) (limit < locations.length)

theorem symbolLimit_bounds {args : Value} {limit : Nat} (parsed : symbolLimit args = .ok limit) :
    1 ≤ limit ∧ limit ≤ 100 := by
  unfold symbolLimit optional at parsed
  cases given : args.get? "limit" with
  | none =>
    rw [given] at parsed
    cases parsed
    decide
  | some value =>
    rw [given] at parsed
    cases accepted : value.asNat.filter fun limit => 1 ≤ limit && limit ≤ 100 with
    | none =>
      simp only [accepted] at parsed
      cases parsed
    | some number =>
      simp only [accepted] at parsed
      cases parsed
      have bounds := (Option.filter_eq_some_iff.mp accepted).2
      simpa using bounds

theorem locateSymbol_located (answered : locateSymbol project session args start = (.ok response, after)) :
    ∃ symbol limit files built locations,
      Located project session args start symbol limit files built locations response after := by
  obtain ⟨_, _, known, answered⟩ := Act.bind_ok answered
  obtain ⟨-, rfl⟩ := Act.ofExcept_ok known
  obtain ⟨text, _, given, answered⟩ := Act.bind_ok answered
  obtain ⟨asked, rfl⟩ := Act.ofExcept_ok given
  obtain ⟨_, _, nonempty, answered⟩ := Act.bind_ok answered
  obtain ⟨-, rfl⟩ := Act.ensure_ok nonempty
  obtain ⟨limit, _, parsed, answered⟩ := Act.bind_ok answered
  obtain ⟨bounded, rfl⟩ := Act.ofExcept_ok parsed
  obtain ⟨files, found, named, answered⟩ := Act.bind_ok answered
  obtain ⟨_, built, reconciled, answered⟩ := Act.bind_ok answered
  obtain ⟨locations, _, resolved, answered⟩ := Act.bind_ok answered
  cases answered
  exact ⟨_, limit, files, built, locations, ⟨text, asked, rfl⟩, bounded, ⟨found, named, reconciled⟩,
    resolved, rfl⟩

theorem query_located (kind : (args.get? "kind").bind Value.asString = some "locate_symbol")
    (answered : query project session args start = (.ok response, after)) :
    ∃ symbol limit files built locations,
      Located project session args start symbol limit files built locations response after := by
  obtain ⟨name, _, chosen, answered⟩ := Act.bind_ok answered
  obtain ⟨named, rfl⟩ := Act.ofExcept_ok chosen
  rw [kind] at named
  obtain rfl := Except.ok.inj named
  exact locateSymbol_located answered

/-- The rows up to the limit are what the documents hold that have been asked for. -/
def ResolvedHonestly (project : ProjectId) (symbol : String) (limit : Nat) (files : List FileId)
    (built : World) (locations : List SymbolLocation) (after : World) : Prop :=
  ∃ answers, (∃ unasked, files = answers.map Answer.file ++ unasked) ∧
    Engine.Consulted project built answers after ∧ (∃ lists, Agrees lists answers) ∧
    ∀ lists, Agrees lists answers → Honest lists symbol limit files (locations.take limit)
      (limit < locations.length)

theorem resolveSymbolCandidates_honest (least : 1 ≤ limit) (most : limit ≤ 100)
    (distinct : files.Nodup)
    (resolved : Engine.resolveSymbolCandidates project symbol (limit + 1) files built =
      (.ok locations, after)) :
    ResolvedHonestly project symbol limit files built locations after := by
  obtain ⟨answers, unasked, split, consulted, reported⟩ :=
    Engine.resolveSymbolCandidates_consulted least most resolved
  refine ⟨answers, ⟨unasked, split⟩, consulted, ?_, fun lists agrees => ?_⟩
  · rw [split] at distinct
    exact consulted.agrees (List.nodup_append.mp distinct).1
  · have honest := @symbolReport_honest lists symbol _ limit distinct
    rwa [reported lists agrees] at honest

/-- What `locate_symbol` reports of the candidates of the trimmed symbol, up to the
requested limit, is what the documents hold that it has asked for; and so it is
for all lists of candidates. -/
theorem locateSymbol_honest :
    (∀ session args start response after,
      (args.get? "kind").bind Value.asString = some "locate_symbol" →
      query project session args start = (.ok response, after) →
      ∃ symbol limit files built locations,
        Located project session args start symbol limit files built locations response after ∧
        1 ≤ limit ∧ limit ≤ 100 ∧
        (files.Nodup → ResolvedHonestly project symbol limit files built locations after)) ∧
    ∀ symbol limit (files : List FileId) built locations after, 1 ≤ limit → limit ≤ 100 →
      files.Nodup →
      Engine.resolveSymbolCandidates project symbol (limit + 1) files built =
        (.ok locations, after) →
      ResolvedHonestly project symbol limit files built locations after := by
  refine ⟨fun session args start response after kind answered => ?_,
    fun symbol limit files built locations after => resolveSymbolCandidates_honest⟩
  obtain ⟨symbol, limit, files, built, locations, located⟩ := query_located kind answered
  obtain ⟨least, most⟩ := symbolLimit_bounds located.bounded
  exact ⟨symbol, limit, files, built, locations, located, least, most, fun distinct =>
    resolveSymbolCandidates_honest least most distinct located.resolved⟩

end

namespace Locating

/-- Each document declares the lemma twice, the second time in a module. -/
def listing (library : String) : List PetDeclaration :=
  [{ Sample.row with qualifiedPath := [library, "t"] },
    { Sample.row with qualifiedPath := [library, "M", "t"], range := { start := 0, stop := 16 } }]

def answer : PetCall → PetReply Unit
  | .documentDeclarations source =>
    .declarations (listing (if source.getLast? = some "A.v" then "A" else "B"))
  | call => Sample.answer call

def environment : Environment :=
  { Sample.environment with
    tick := fun _ =>
      { Sample.tick with
        rpc := fun call => .returned (answer call)
        layout := .loaded Sample.root Sample.twoFiles
        outputs := ["A.v", "B.v"].map fun file =>
          (["p", "_build", "default", file], some (textBytes Sample.text))
        candidate := true } }

def sources (path : Path) : Option Bytes :=
  if path = ["p", "B.v"] then some (textBytes Sample.text) else Sample.sources path

def args : Value :=
  .object [("kind", .string "locate_symbol"), ("symbol", .string " t"), ("limit", .number 2)]

def candidates : List FileId := [{ text := "A.v" }, { text := "B.v" }]

/-- Both files are candidates, and three of their declarations are found. -/
def crowded (world : World) : Bool :=
  let named := Engine.locateSymbolCandidates Sample.root "t" world
  let built := (reconcileArtifacts Sample.root 0 candidates named.2).2
  named.1.toOption = some candidates &&
    (query Sample.root 0 args world).1.toOption.isSome &&
    (Engine.resolveFiles Sample.root "t" 3 [] candidates built).1.toOption.any
      fun found => found.length = 3

@[irreducible]
def crowdedRun : { world : World // World.Reached world ∧ crowded world = true } :=
  World.reaching environment sources [.connect, Sample.attach] _ (by decide +kernel)

def world : World := crowdedRun.val

end Locating

theorem locateSymbol_honest_crowded : ∃ (response : Response) (after built : World)
      (answers : List Answer) (locations : List SymbolLocation),
    query Sample.root 0 Locating.args Locating.world = (.ok response, after) ∧
      response = .symbols "t" (locations.take 2) true ∧ locations.length = 3 ∧
      Engine.Consulted Sample.root built answers after ∧
      ∀ lists, Agrees lists answers →
        Honest lists "t" 2 Locating.candidates (locations.take 2) true := by
  have facts := Locating.crowdedRun.property.2
  simp only [Locating.crowded, Bool.and_eq_true, decide_eq_true_eq] at facts
  obtain ⟨⟨named, answered⟩, three⟩ := facts
  rcases ran : query Sample.root 0 Locating.args Locating.world with ⟨error | response, after⟩
  · rw [show query Sample.root 0 Locating.args Locating.crowdedRun.val = _ from ran] at answered
    cases answered
  obtain ⟨symbol, limit, files, built, locations, located, -, -, honest⟩ :=
    locateSymbol_honest.1 0 Locating.args Locating.world response after (by decide +kernel) ran
  obtain rfl : 2 = limit := Except.ok.inj located.bounded
  obtain ⟨text, asked, rfl⟩ := located.asked
  obtain rfl : " t" = text := Except.ok.inj asked
  have trimmed : trim " t" = "t" := by decide +kernel
  obtain ⟨found, candidates, reconciled⟩ := located.candidates
  rw [trimmed] at candidates
  change Engine.locateSymbolCandidates Sample.root "t" Locating.crowdedRun.val = _ at candidates
  rw [candidates] at named three
  obtain rfl : Locating.candidates = files := (Option.some.inj named).symm
  rw [reconciled] at three
  rcases collected : Engine.resolveFiles Sample.root "t" 3 [] Locating.candidates built with
    ⟨error | matches', after'⟩
  · rw [collected] at three
    cases three
  rw [collected] at three
  have count : matches'.length = 3 := of_decide_eq_true three
  have resolved := located.resolved
  rw [trimmed] at resolved
  have length : locations.length = 3 := by
    rw [Engine.resolveSymbolCandidates_length (by decide) resolved collected, count]
    rfl
  obtain ⟨answers, _, consulted, _, rows⟩ := honest (by decide)
  rw [trimmed, length] at rows
  have answer := located.answer
  rw [trimmed, length] at answer
  exact ⟨response, after, built, answers, locations, rfl, answer, length, consulted, rows⟩

end RocqMcp.Adapter
