import LiveList.Proofs.Source.Apart
import LiveList.Proofs.Source.EventLog
import LiveList.Proofs.View.Ranking

/-!
How the items of each owner compare. Most properties are compared by keys of their own. The rest are
numbers that are worked out, and for these it counts what an owner lets in: sizes fit a word, so a
progress is never a quotient of infinities, and what a user reports of a connection is taken only
when it is faster than another.
-/

namespace LiveList

open Numbers View

namespace Bundle

variable {among : Bundle → Prop}

theorem number_isNumber (bundle : Bundle) (id : PropertyId) : IsNumber (bundle.number id) := by
  have urgency : IsNumber (Float.ofInt bundle.priority.id) := by
    cases bundle.priority <;> decide +kernel
  unfold number
  split
  · exact isNumber_ofNat _
  split
  · exact isNumber_ofNat _
  split
  · exact urgency
  repeat' split
  all_goals exact isNumber_ofNat _

def Sized (bundle : Bundle) : Prop := bundle.size < UInt64.size

theorem progress_isNumber {bundle : Bundle} (sized : bundle.Sized) :
    IsNumber bundle.progress := by
  unfold progress
  split
  · exact isNumber_ofNat 0
  · rename_i some
    exact ((upward_ofNat _).div (positive_ofNat (Nat.pos_of_ne_zero some) sized)).isNumber

/-- Within a status, bundles are in the order of their progress. -/
theorem order_ranked (sized : ∀ bundle, among bundle → bundle.Sized) (id : PropertyId) :
    Ranked (order · · id) among := by
  have progress : Ranked (fun a b : Bundle => compareNumbers a.progress b.progress) among :=
    Numbers.ranked fun bundle inside => progress_isNumber (sized bundle inside)
  unfold order
  split
  · exact (ranked_compare compare isFile).then (Text.ranked_folded (text · id))
  split
  · exact (ranked_compare compare fun bundle : Bundle => bundle.status.rank).then progress
  split
  · exact ranked_compare compare fun bundle : Bundle => bundle.priority.id
  split
  · exact (ranked_compare compare onlineSources).then (ranked_compare compare totalSources)
  · exact ranked_level

end Bundle

namespace ShareRoot

variable {among : ShareRoot → Prop}

theorem number_isNumber (root : ShareRoot) (id : PropertyId) : IsNumber (root.number id) := by
  unfold number
  repeat' split
  all_goals exact isNumber_ofNat _

theorem order_ranked (id : PropertyId) : Ranked (order · · id) among := by
  unfold order
  split
  · exact ((ranked_compare compare directories).then (ranked_compare compare files)).then
      (Text.ranked_folded path)
  · exact ranked_level

end ShareRoot

namespace FavoriteHub

theorem number_isNumber (hub : FavoriteHub) (id : PropertyId) : IsNumber (hub.number id) := by
  unfold number flagNumber
  repeat' split
  all_goals exact isNumber_ofNat _

end FavoriteHub

namespace SearchResult

variable {among : SearchResult → Prop}

/-- The fastest connection is a number, whatever the users report. -/
theorem connection_isNumber (result : SearchResult) : IsNumber result.connection := by
  have fastest (sources : List ResultSource) (best : Float) (start : IsNumber best) :
      IsNumber (sources.foldl (fun best source =>
        if best < source.connection then source.connection else best) best) := by
    induction sources generalizing best with
    | nil => exact start
    | cons source rest ih =>
        refine ih _ ?_
        dsimp only
        -- What is not a number is never faster, so it does not come in.
        split
        · rename_i faster
          exact isNumber_of_lt faster
        · exact start
  exact fastest result.sources 0 (isNumber_ofNat 0)

theorem totalRelevance_isNumber {result : SearchResult} (relevant : Upward result.matchRelevance) :
    IsNumber result.totalRelevance := by
  have users : Upward (Float.ofNat result.hits * 0.3) := (upward_ofNat _).mul (by decide +kernel)
  have name : Upward (result.matchRelevance * 0.7) := relevant.mul (by decide +kernel)
  exact (users.add name).isNumber

theorem number_isNumber {result : SearchResult} (relevant : Upward result.matchRelevance)
    (id : PropertyId) : IsNumber (result.number id) := by
  unfold number
  split
  · exact isNumber_ofNat _
  split
  · exact totalRelevance_isNumber relevant
  split
  · exact isNumber_ofNat _
  split
  · exact isNumber_ofNat _
  split
  · exact result.connection_isNumber
  · exact isNumber_ofNat 0

theorem compareSlots_ranked (slots : SearchResult → Nat × Nat) :
    Ranked (fun a b => compareSlots (slots a) (slots b)) among :=
  (ranked_compare compare fun result => (slots result).1).then
    (ranked_compare compare fun result => (slots result).2)

theorem order_ranked (id : PropertyId) : Ranked (order · · id) among := by
  unfold order
  split
  · exact (ranked_compare compare isDirectory).reverse.then (Text.ranked_folded typeText)
  split
  · exact (ranked_compare compare hits).then (Text.ranked_folded usersText)
  split
  · exact compareSlots_ranked slots
  · exact ranked_level

end SearchResult

def QueueOperation.Fits : QueueOperation → Prop
  | addBundle _ params => params.size < UInt64.size
  | _ => True

def SearchOperation.Fits : SearchOperation → Prop
  | start query => (Text.words query.toList).length < UInt64.size
  | _ => True

namespace Queue

variable {queue : Queue}

abbrev Sized (queue : Queue) : Prop := queue.Every Bundle.Sized

/-- No edit changes the size. -/
theorem Sized.operate (sized : queue.Sized) (sound : queue.Sound Bundle.token)
    {operation : QueueOperation} (fits : operation.Fits) : (queue.operate operation).owner.Sized := by
  rcases operate_revision sound operation with ⟨now, params, rfl⟩ | revision
  · refine Published.settled_keeps sized fun {done} success => ?_
    obtain ⟨_, _, _, rfl⟩ := addBundle_ok_iff.mp success
    exact Catalog.Every.add sized fits
  · exact revision.every sound sized fun edit fits => by cases edit <;> exact fits

end Queue

namespace Search

variable {search : Search}

/-- The relevance of a name is a quotient of counts, or one. -/
theorem matchRelevance_upward {terms : List String} (counted : terms.length < UInt64.size)
    (name : String) : Upward (matchRelevance terms name) := by
  unfold matchRelevance
  split
  · exact upward_ofNat 1
  · rename_i some
    have above : 0 < terms.length := by
      rw [List.length_pos_iff]
      simpa using some
    exact (upward_ofNat _).div (positive_ofNat above counted)

/-- The terms can be counted, and so the relevance of every result is a number from zero up. -/
structure Measured (search : Search) : Prop where
  counted : search.terms.length < UInt64.size
  relevant : search.results.Every fun result => Upward result.matchRelevance

theorem Measured.dropResults (measured : search.Measured) : search.dropResults.1.Measured :=
  ⟨measured.counted, measured.relevant.drops _⟩

theorem Measured.addResult (measured : search.Measured) {incoming : IncomingResult}
    {done : Published Search Nat} (success : search.addResult incoming = .ok done) :
    done.owner.Measured := by
  rcases addResult_ok success with ⟨result, known, _, rfl⟩ | ⟨_, _, rfl⟩
  · obtain ⟨token, there⟩ := resultOf?_some known
    have relevant := measured.relevant.get there
    exact ⟨measured.counted, measured.relevant.modify fun _ _ => relevant⟩
  · exact ⟨measured.counted, measured.relevant.add (matchRelevance_upward measured.counted _)⟩

theorem Measured.operate (measured : search.Measured) {operation : SearchOperation}
    (fits : operation.Fits) : (search.operate operation).owner.Measured := by
  cases operation with
  | start query =>
      exact Measured.dropResults ⟨by rwa [List.length_map], measured.relevant⟩
  | clear => exact measured.dropResults
  | addResult incoming =>
      exact Published.settled_keeps measured fun success => measured.addResult success

end Search

namespace OwnerName

def Fits : (name : OwnerName) → name.keeper.Operation → Prop
  | queue => QueueOperation.Fits
  | search => SearchOperation.Fits
  | share | hubs => fun _ => True

def Reachable (name : OwnerName) (item : name.keeper.Item) : Prop :=
  ∃ operations, (∀ operation ∈ operations, name.Fits operation) ∧
    item ∈ (name.keeper.after operations).items

theorem queue_sized {bundle : Bundle} (reached : queue.Reachable bundle) : bundle.Sized := by
  obtain ⟨operations, fits, listed⟩ := reached
  have sized : (Queue.keeper.after operations).Every Bundle.Sized :=
    Queue.keeper_steps.keeps_within .start
      (fun sound sized _ fits => Queue.Sized.operate sized sound fits) fits
  exact sized bundle listed

theorem search_relevant {result : SearchResult} (reached : search.Reachable result) :
    Upward result.matchRelevance := by
  obtain ⟨operations, fits, listed⟩ := reached
  have measured : (Search.keeper.run operations).owner.Measured :=
    Keeper.run_within (fun history : Search.keeper.History => Search.Measured history.owner)
      ⟨by decide, .start⟩ (fun _ _ fits measured => measured.operate fits) fits
  exact measured.relevant result listed

theorem number_isNumber {name : OwnerName} {item : name.keeper.Item}
    (reached : name.Reachable item) (id : PropertyId) :
    IsNumber (name.keeper.handler.number item id) := by
  cases name with
  | queue => exact Bundle.number_isNumber item id
  | share => exact ShareRoot.number_isNumber item id
  | hubs => exact FavoriteHub.number_isNumber item id
  | search => exact SearchResult.number_isNumber (search_relevant reached) id

theorem order_ranked (name : OwnerName) (id : PropertyId) :
    Ranked (name.keeper.handler.order · · id) name.Reachable := by
  cases name with
  | queue => exact Bundle.order_ranked (fun _ => queue_sized) id
  | share => exact ShareRoot.order_ranked id
  | hubs => exact ranked_level
  | search => exact SearchResult.order_ranked id

end OwnerName

/-- By every property, in the table or not, the items of an owner have a total preorder, and they
have it the other way round in descending order. -/
theorem compare_preorder (name : OwnerName) (id : PropertyId) :
    TotalPreorder (name.keeper.handler.compare id true) name.Reachable ∧
      ∀ a b, name.keeper.handler.compare id false a b =
        (name.keeper.handler.compare id true a b).swap :=
  ⟨(Handler.ranked (fun _ reached => OwnerName.number_isNumber reached id)
    (name.order_ranked id)).totalPreorder, Handler.compare_descending _ id⟩

def sampleConnections : List SearchOperation := [
  .addResult { tth := "A", path := "a", user := "u", hubUrl := "h", connection := 0 / 0 },
  .addResult { tth := "B", path := "b", user := "u", hubUrl := "h", connection := 1 / 0 },
  .addResult { tth := "C", path := "c", user := "u", hubUrl := "h", connection := -5 }]

theorem sampleConnections_listed : (Search.keeper.after sampleConnections).items.length = 3 := by
  decide +kernel

def sampleResult (place : Fin 3) : SearchResult :=
  (Search.keeper.after sampleConnections).items.get (place.cast sampleConnections_listed.symm)

theorem sampleResult_reachable (place : Fin 3) :
    OwnerName.search.Reachable (sampleResult place) := by
  refine ⟨sampleConnections, ?_, List.get_mem _ _⟩
  exact List.forall_mem_cons.mpr ⟨trivial,
    List.forall_mem_cons.mpr ⟨trivial, List.forall_mem_singleton.mpr trivial⟩⟩

/-- What is not a number counts as no connection, and so does what is below zero. -/
theorem sampleResult_ordered :
    SearchResult.handler.compare SearchResult.connectionId true (sampleResult 0) (sampleResult 2) =
        .eq ∧
      SearchResult.handler.compare SearchResult.connectionId true (sampleResult 2)
        (sampleResult 1) = .lt ∧
      SearchResult.handler.compare SearchResult.connectionId true (sampleResult 0)
        (sampleResult 1) ≠ .gt ∧
      SearchResult.handler.compare SearchResult.connectionId false (sampleResult 0)
        (sampleResult 1) ≠ .lt := by
  obtain ⟨preorder, descending⟩ := compare_preorder .search SearchResult.connectionId
  have level : SearchResult.handler.compare SearchResult.connectionId true (sampleResult 0)
      (sampleResult 2) = .eq := by decide +kernel
  have below : SearchResult.handler.compare SearchResult.connectionId true (sampleResult 2)
      (sampleResult 1) = .lt := by decide +kernel
  have through := preorder.trans _ _ _ (sampleResult_reachable 0) (sampleResult_reachable 2)
    (sampleResult_reachable 1) (ne_of_eq_of_ne level (by decide)) (ne_of_eq_of_ne below (by decide))
  refine ⟨level, below, through, fun before => through ?_⟩
  exact Ordering.swap_eq_lt.mp ((descending _ _).symm.trans before)

end LiveList
