import LiveList.Proofs.Source.Keeper
import LiveList.Search.Basic

/-!
The operations on a search, and what each of them does to a result and reports.
-/

namespace LiveList

inductive SearchOperation where
  | start (query : String)
  | addResult (incoming : IncomingResult)
  | clear

/-- What tells one source of a result from another: the user and the hub. -/
abbrev Offer : Type := String × String

def IncomingResult.offer (incoming : IncomingResult) : Offer := (incoming.user, incoming.hubUrl)

def IncomingResult.source (incoming : IncomingResult) : ResultSource where
  user := incoming.user
  hubUrl := incoming.hubUrl
  freeSlots := incoming.freeSlots
  totalSlots := incoming.totalSlots
  connection := incoming.connection

def SearchResult.offers (result : SearchResult) : List Offer :=
  result.sources.map fun source => (source.user, source.hubUrl)

theorem SearchResult.hasSource_iff {result : SearchResult} {user hubUrl : String} :
    result.hasSource user hubUrl = true ↔ (user, hubUrl) ∈ result.offers := by
  simp [hasSource, offers]

def SearchResult.merged (result : SearchResult) (incoming : IncomingResult) : SearchResult :=
  { result with sources := result.sources ++ [incoming.source] }

inductive SearchResult.Edit (result : SearchResult) : SearchResult → List PropertySet → Prop
  | merge (source : ResultSource) (other : result.hasSource source.user source.hubUrl = false) :
      Edit result { result with sources := result.sources ++ [source] } [Search.mergeProperties]

namespace Search

variable {search : Search}

def operate (search : Search) : SearchOperation → Published Search (Except Rejection Unit)
  | .start query => (search.start query).respond (.ok ())
  | .addResult incoming => .settled search (search.addResult incoming)
  | .clear => search.clear.respond (.ok ())

def keeper : Keeper where
  Item := SearchResult
  Owner := Search
  Operation := SearchOperation
  Error := Rejection
  start := {}
  listed search := search.results
  handler := SearchResult.handler
  operate := operate

abbrev Step (search : Search) (events : List ItemEvent) (after : Search) : Prop :=
  Catalog.Step SearchResult.token SearchResult.Edit search.results events after.results

theorem dropResults_step (search : Search) :
    search.Step search.dropResults.2 search.dropResults.1 :=
  .drop _ (List.Sublist.refl _)

theorem resultOf?_some {tth : String} {result : SearchResult}
    (found : search.resultOf? tth = some result) :
    ∃ token, search.results.get? token = some result := by
  obtain ⟨token, _, there⟩ := Option.bind_eq_some_iff.mp found
  exact ⟨token, there⟩

section Addition

variable {incoming : IncomingResult} {done : Published Search Nat} {result : SearchResult}

def firstResult (search : Search) (incoming : IncomingResult) : SearchResult :=
  let name := resultName incoming.path incoming.isDirectory
  { token := search.results.nextToken
    tth := incoming.tth
    name
    path := parentPath incoming.path name
    size := incoming.size
    isDirectory := incoming.isDirectory
    date := incoming.date
    matchRelevance := matchRelevance search.terms name
    sources := [incoming.source] }

def added (search : Search) (incoming : IncomingResult) : Published Search Nat where
  owner := { search with
    results := search.results.add (search.firstResult incoming)
    byTth := Assoc.set incoming.tth search.results.nextToken search.byTth }
  events := [.added search.results.nextToken]
  result := search.results.nextToken

def merged (search : Search) (result : SearchResult) (incoming : IncomingResult) :
    Published Search Nat where
  owner := { search with
    results := search.results.modify result.token fun _ => result.merged incoming }
  events := [.updated result.token mergeProperties]
  result := result.token

theorem addResult_known (known : search.resultOf? incoming.tth = some result) :
    search.addResult incoming =
      if incoming.offer ∈ result.offers then .error .duplicate
      else .ok (search.merged result incoming) := by
  unfold addResult
  rw [known]
  dsimp only
  by_cases twice : incoming.offer ∈ result.offers
  · rw [if_pos twice, if_pos (SearchResult.hasSource_iff.mpr twice)]
  · rw [if_neg twice, if_neg (mt SearchResult.hasSource_iff.mp twice)]
    rfl

theorem addResult_unknown (unknown : search.resultOf? incoming.tth = none) :
    search.addResult incoming =
      if (search.firstResult incoming).matchRelevance == 0 then .error .noMatch
      else .ok (search.added incoming) := by
  unfold addResult
  rw [unknown]
  rfl

theorem addResult_ok (success : search.addResult incoming = .ok done) :
    (∃ result, search.resultOf? incoming.tth = some result ∧ incoming.offer ∉ result.offers ∧
        done = search.merged result incoming) ∨
      search.resultOf? incoming.tth = none ∧
        ¬ (search.firstResult incoming).matchRelevance == 0 ∧ done = search.added incoming := by
  cases known : search.resultOf? incoming.tth with
  | some result =>
      rw [addResult_known known] at success
      split at success
      · cases success
      · rename_i other
        exact .inl ⟨result, rfl, other, (Except.ok.inj success).symm⟩
  | none =>
      rw [addResult_unknown known] at success
      split at success
      · cases success
      · rename_i relevant
        exact .inr ⟨rfl, relevant, (Except.ok.inj success).symm⟩

theorem addResult_step (sound : search.results.Sound SearchResult.token)
    (success : search.addResult incoming = .ok done) : search.Step done.events done.owner := by
  rcases addResult_ok success with ⟨result, known, other, rfl⟩ | ⟨_, _, rfl⟩
  · obtain ⟨token, there⟩ := resultOf?_some known
    obtain rfl := sound.keyed there
    have edit : result.Edit (result.merged incoming) [mergeProperties] :=
      .merge incoming.source (Bool.not_eq_true _ |>.mp (mt SearchResult.hasSource_iff.mp other))
    exact (Catalog.Revision.editOne sound there edit rfl).step
  · exact .add _ rfl

end Addition

theorem keeper_steps : keeper.Steps SearchResult.Edit where
  start := rfl
  step {search} sound operation := by
    cases operation with
    | start query => exact dropResults_step search
    | clear => exact dropResults_step search
    | addResult incoming =>
        show search.Step (Published.settled search (search.addResult incoming)).events
          (Published.settled search (search.addResult incoming)).owner
        cases outcome : search.addResult incoming with
        | ok done => exact addResult_step sound outcome
        | error _ => exact .rest
  refused {_ operation _} refusal := by
    cases operation with
    | start | clear => cases refusal
    | addResult => exact Published.settled_error refusal

end Search

end LiveList
