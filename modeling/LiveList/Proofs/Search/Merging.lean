import LiveList.Proofs.Log
import LiveList.Proofs.Search.Relevance
import LiveList.Proofs.Search.Steps
import Mathlib.Data.Set.Card

/-!
How a search merges what users report. There is one result for each content, and its sources are
the offers that were taken in for that content since the results were last dropped: none is missing,
none counts twice, and none is left from an earlier search.
-/

namespace LiveList

namespace SearchResult

theorem hits_eq (result : SearchResult) : result.hits = result.offers.length :=
  List.length_map .. |>.symm

theorem offers_merged (result : SearchResult) (incoming : IncomingResult) :
    (result.merged incoming).offers = result.offers ++ [incoming.offer] :=
  List.map_append

end SearchResult

def SearchOperation.Drops : SearchOperation → Prop
  | start _ | clear => True
  | addResult _ => False

namespace Search

variable {search : Search} {incoming : IncomingResult} {tth : String} {offer : Offer} {token : Nat}
  {result : SearchResult}

section Acceptance

/-- The offer was taken in for the content, and the results were not dropped since. -/
def Accepted (operations : List SearchOperation) (tth : String) (offer : Offer) : Prop :=
  ∃ (past : List SearchOperation) (incoming : IncomingResult) (since : List SearchOperation),
    operations = past ++ .addResult incoming :: since ∧
    (operate (keeper.run past).owner (.addResult incoming)).result = .ok () ∧
    (∀ operation ∈ since, ¬ operation.Drops) ∧ incoming.tth = tth ∧ incoming.offer = offer

variable {operations : List SearchOperation} {operation : SearchOperation}

theorem accepted_concat :
    Accepted (operations ++ [operation]) tth offer ↔
      ¬ operation.Drops ∧ Accepted operations tth offer ∨
        ∃ incoming, operation = .addResult incoming ∧
          (operate (keeper.run operations).owner operation).result = .ok () ∧
          incoming.tth = tth ∧ incoming.offer = offer := by
  constructor
  · rintro ⟨past, incoming, since, split, success, kept, same⟩
    -- The report that was accepted is the last operation, or the last operation came after it.
    rcases Log.of_concat split with ⟨rfl, rfl, rfl⟩ | ⟨before, rfl, rfl⟩
    · exact .inr ⟨incoming, rfl, success, same⟩
    · obtain ⟨earlier, last⟩ := List.forall_mem_append.mp kept
      exact .inl ⟨last _ (List.mem_singleton_self _), past, incoming, before, rfl, success, earlier,
        same⟩
  · rintro (⟨kept, past, incoming, since, rfl, success, others, same⟩ |
      ⟨incoming, rfl, success, same⟩)
    · refine ⟨past, incoming, since ++ [operation], by simp, success, ?_, same⟩
      rw [List.forall_mem_append, List.forall_mem_singleton]
      exact ⟨others, kept⟩
    · exact ⟨operations, incoming, [], rfl, success, nofun, same⟩

theorem accepted_drop (drops : operation.Drops) :
    ¬ Accepted (operations ++ [operation]) tth offer := by
  rw [accepted_concat]
  rintro (⟨kept, _⟩ | ⟨incoming, rfl, _⟩)
  · exact kept drops
  · exact drops

theorem accepted_add :
    Accepted (operations ++ [.addResult incoming]) tth offer ↔
      Accepted operations tth offer ∨
        (operate (keeper.run operations).owner (.addResult incoming)).result = .ok () ∧
          incoming.tth = tth ∧ incoming.offer = offer := by
  rw [accepted_concat]
  constructor
  · rintro (⟨_, earlier⟩ | ⟨other, named, same⟩)
    · exact .inl earlier
    · obtain rfl := SearchOperation.addResult.inj named
      exact .inr same
  · rintro (earlier | same)
    · exact .inl ⟨id, earlier⟩
    · exact .inr ⟨incoming, rfl, same⟩

end Acceptance

/-- The index of the results is exact, the sources of the results are the offers that were accepted,
each of them once, and the names are those that the search is for. -/
structure Merges (search : Search) (accepted : String → Offer → Prop) : Prop where
  indexed : ∀ {tth token}, Assoc.get? search.byTth tth = some token ↔
    ∃ result, search.results.get? token = some result ∧ result.tth = tth
  accepted_iff : ∀ {tth offer}, accepted tth offer ↔
    ∃ token result, search.results.get? token = some result ∧ result.tth = tth ∧
      offer ∈ result.offers
  offered : ∀ {token result}, search.results.get? token = some result →
    result.offers ≠ [] ∧ result.offers.Nodup
  named : ∀ {token result}, search.results.get? token = some result → search.terms ≠ [] →
    ∃ term ∈ search.terms, NamedBy term result.name

namespace Merges

variable {accepted : String → Offer → Prop}

theorem nothing (empty : ∀ token, search.results.get? token = none) (unindexed : search.byTth = [])
    (unaccepted : ∀ tth offer, ¬ accepted tth offer) : search.Merges accepted where
  indexed := by simp [unindexed, Assoc.get?, empty]
  accepted_iff := by simp [empty, unaccepted]
  offered := by simp [empty]
  named := by simp [empty]

theorem congr (merges : search.Merges accepted) {also : String → Offer → Prop}
    (same : ∀ tth offer, also tth offer ↔ accepted tth offer) : search.Merges also := by
  rwa [funext₂ fun tth offer => propext (same tth offer)]

theorem resultOf?_iff (merges : search.Merges accepted) :
    search.resultOf? tth = some result ↔
      ∃ token, search.results.get? token = some result ∧ result.tth = tth := by
  rw [resultOf?, Option.bind_eq_some_iff]
  constructor
  · rintro ⟨token, indexed, there⟩
    obtain ⟨other, found, same⟩ := merges.indexed.mp indexed
    rw [there, Option.some.injEq] at found
    exact ⟨token, there, found ▸ same⟩
  · rintro ⟨token, there, same⟩
    exact ⟨token, merges.indexed.mpr ⟨result, there, same⟩, there⟩

theorem unaccepted (merges : search.Merges accepted) (unknown : search.resultOf? tth = none)
    (offer : Offer) : ¬ accepted tth offer := by
  rw [merges.accepted_iff]
  rintro ⟨token, result, there, same, _⟩
  have known := merges.resultOf?_iff.mpr ⟨token, there, same⟩
  exact absurd (unknown.symm.trans known) nofun

theorem single (merges : search.Merges accepted) {other : Nat} {also : SearchResult}
    (there : search.results.get? token = some result)
    (found : search.results.get? other = some also) (same : also.tth = result.tth) :
    other = token := by
  have first := merges.indexed.mpr ⟨result, there, rfl⟩
  have second := merges.indexed.mpr ⟨also, found, same⟩
  exact Option.some.inj (second.symm.trans first)

/-- The offers that were accepted for the content of a result are its sources. -/
theorem accepted_for (merges : search.Merges accepted)
    (there : search.results.get? token = some result) :
    accepted result.tth offer ↔ offer ∈ result.offers := by
  rw [merges.accepted_iff]
  constructor
  · rintro ⟨other, also, found, same, member⟩
    obtain rfl := merges.single there found same
    rw [there, Option.some.injEq] at found
    exact found ▸ member
  · exact fun member => ⟨token, result, there, rfl, member⟩

theorem hits_eq_ncard (merges : search.Merges accepted)
    (there : search.results.get? token = some result) :
    result.hits = {offer | accepted result.tth offer}.ncard := by
  have members : {offer | accepted result.tth offer} = {offer | offer ∈ result.offers} :=
    Set.ext fun offer => merges.accepted_for there
  rw [members, ← List.coe_toFinset, Set.ncard_coe_finset,
    List.toFinset_card_of_nodup (merges.offered there).2, result.hits_eq]

end Merges

structure Put (search : Search) (token : Nat) (result : SearchResult) (earlier : List Offer)
    (offer : Offer) (after : Search) : Prop where
  terms : after.terms = search.terms
  results : ∀ other,
    after.results.get? other = if other = token then some result else search.results.get? other
  byTth : ∀ tth,
    Assoc.get? after.byTth tth =
      if tth = result.tth then some token else Assoc.get? search.byTth tth
  -- The token is that of the content: nothing else stands under it, and no other has the content.
  place : ∀ {other old}, search.results.get? other = some old →
    (other = token ↔ old.tth = result.tth)
  offers : result.offers = earlier ++ [offer]
  other : offer ∉ earlier
  distinct : earlier.Nodup
  named : search.terms ≠ [] → ∃ term ∈ search.terms, NamedBy term result.name

namespace Put

variable {after : Search} {earlier : List Offer} {accepted : String → Offer → Prop}

theorem get?_iff (put : search.Put token result earlier offer after) {other : Nat}
    {found : SearchResult} :
    after.results.get? other = some found ↔
      other = token ∧ found = result ∨
        search.results.get? other = some found ∧ found.tth ≠ result.tth := by
  rw [put.results]
  by_cases here : other = token
  · rw [if_pos here, Option.some.injEq]
    constructor
    · exact fun same => .inl ⟨here, same.symm⟩
    · rintro (⟨_, same⟩ | ⟨old, apart⟩)
      · exact same.symm
      · exact absurd ((put.place old).mp here) apart
  · rw [if_neg here]
    constructor
    · exact fun old => .inr ⟨old, fun same => here ((put.place old).mpr same)⟩
    · rintro (⟨same, _⟩ | ⟨old, _⟩)
      · exact absurd same here
      · exact old

theorem merges (put : search.Put token result earlier offer after)
    (before : search.Merges accepted)
    (known : ∀ other, accepted result.tth other ↔ other ∈ earlier) :
    after.Merges fun tth other => accepted tth other ∨ result.tth = tth ∧ offer = other where
  indexed {tth other} := by
    rw [put.byTth]
    by_cases same : tth = result.tth
    · subst same
      rw [if_pos rfl, Option.some.injEq]
      constructor
      · rintro rfl
        exact ⟨result, put.get?_iff.mpr (.inl ⟨rfl, rfl⟩), rfl⟩
      · rintro ⟨found, there, same⟩
        rcases put.get?_iff.mp there with ⟨rfl, _⟩ | ⟨_, apart⟩
        · rfl
        · exact absurd same apart
    · rw [if_neg same, before.indexed]
      constructor
      · rintro ⟨old, there, rfl⟩
        exact ⟨old, put.get?_iff.mpr (.inr ⟨there, same⟩), rfl⟩
      · rintro ⟨found, there, rfl⟩
        rcases put.get?_iff.mp there with ⟨_, rfl⟩ | ⟨old, _⟩
        · exact absurd rfl same
        · exact ⟨found, old, rfl⟩
  accepted_iff {tth other} := by
    constructor
    · rintro (old | ⟨rfl, rfl⟩)
      · by_cases same : tth = result.tth
        · have member := (known other).mp (same ▸ old)
          refine ⟨token, result, put.get?_iff.mpr (.inl ⟨rfl, rfl⟩), same.symm, ?_⟩
          rw [put.offers]
          exact List.mem_append_left _ member
        · obtain ⟨place, found, there, rfl, member⟩ := before.accepted_iff.mp old
          exact ⟨place, found, put.get?_iff.mpr (.inr ⟨there, same⟩), rfl, member⟩
      · refine ⟨token, result, put.get?_iff.mpr (.inl ⟨rfl, rfl⟩), rfl, ?_⟩
        rw [put.offers]
        exact List.mem_append_right _ (List.mem_singleton_self _)
    · rintro ⟨place, found, there, rfl, member⟩
      rcases put.get?_iff.mp there with ⟨_, rfl⟩ | ⟨old, _⟩
      · rw [put.offers, List.mem_append, List.mem_singleton] at member
        exact member.imp (known other).mpr fun same => ⟨rfl, same.symm⟩
      · exact .inl (before.accepted_iff.mpr ⟨place, found, old, rfl, member⟩)
  offered {place found} there := by
    rcases put.get?_iff.mp there with ⟨_, rfl⟩ | ⟨old, _⟩
    · rw [put.offers, ← List.concat_eq_append]
      exact ⟨by simp, (List.nodup_concat ..).mpr ⟨put.other, put.distinct⟩⟩
    · exact before.offered old
  named {place found} there some := by
    rw [put.terms] at some ⊢
    rcases put.get?_iff.mp there with ⟨_, rfl⟩ | ⟨old, _⟩
    · exact put.named some
    · exact before.named old some

end Put

section Operations

variable {accepted : String → Offer → Prop}

theorem put_added (merges : search.Merges accepted)
    (sound : search.results.Sound SearchResult.token)
    (unknown : search.resultOf? incoming.tth = none)
    (relevant : ¬ (search.firstResult incoming).matchRelevance == 0) :
    search.Put search.results.nextToken (search.firstResult incoming) [] incoming.offer
      (search.added incoming).owner where
  terms := rfl
  results := Catalog.get?_add sound.fresh _
  byTth tth := Assoc.get?_set ..
  place {other old} there := by
    constructor
    · rintro rfl
      exact absurd (Catalog.mem_tokens.mpr ⟨old, there⟩) sound.fresh
    · intro same
      have known := merges.resultOf?_iff.mpr ⟨other, there, same⟩
      exact absurd (unknown.symm.trans known) nofun
  offers := rfl
  other := List.not_mem_nil
  distinct := .nil
  named some := by
    by_contra none
    refine relevant (matchRelevance_none some fun term member named => none ?_)
    exact ⟨term, member, named⟩

theorem put_merged (merges : search.Merges accepted)
    (there : search.results.get? result.token = some result)
    (other : incoming.offer ∉ result.offers) :
    search.Put result.token (result.merged incoming) result.offers incoming.offer
      (search.merged result incoming).owner where
  terms := rfl
  results place := by
    refine (Catalog.get?_modify ..).trans ?_
    split
    · rename_i here
      rw [here, there, Option.map_some]
    · rfl
  byTth tth := by
    split
    · rename_i here
      exact merges.indexed.mpr ⟨result, there, here.symm⟩
    · rfl
  place {place old} found := by
    constructor
    · rintro rfl
      rw [there, Option.some.injEq] at found
      rw [← found]
      rfl
    · exact fun same => merges.single there found same
  offers := result.offers_merged incoming
  other := other
  distinct := (merges.offered there).2
  named some := by
    have named := merges.named there some
    exact named

theorem Merges.addResult (merges : search.Merges accepted)
    (sound : search.results.Sound SearchResult.token) {done : Published Search Nat}
    (success : search.addResult incoming = .ok done) :
    done.owner.Merges fun tth offer =>
      accepted tth offer ∨ incoming.tth = tth ∧ incoming.offer = offer := by
  rcases addResult_ok success with ⟨result, known, other, rfl⟩ | ⟨unknown, relevant, rfl⟩
  · obtain ⟨token, there, same⟩ := merges.resultOf?_iff.mp known
    obtain rfl := sound.keyed there
    rw [← same]
    exact (put_merged merges there other).merges merges fun _ => merges.accepted_for there
  · refine (put_added merges sound unknown relevant).merges merges fun other => ?_
    exact iff_of_false (merges.unaccepted unknown other) List.not_mem_nil

theorem Merges.operate_addResult (merges : search.Merges accepted)
    (sound : search.results.Sound SearchResult.token) (incoming : IncomingResult) :
    (search.operate (.addResult incoming)).owner.Merges fun tth offer =>
      accepted tth offer ∨ (search.operate (.addResult incoming)).result = .ok () ∧
        incoming.tth = tth ∧ incoming.offer = offer := by
  rw [operate]
  cases outcome : search.addResult incoming with
  | ok done =>
      refine (merges.addResult sound outcome).congr fun tth offer => ?_
      exact or_congr_right (and_iff_right rfl)
  | error rejection =>
      refine merges.congr fun tth offer => ?_
      exact or_iff_left fun taken => absurd taken.1 nofun

theorem get?_dropResults (search : Search) (token : Nat) :
    search.dropResults.1.results.get? token = none := by
  refine (Catalog.get?_drops ..).trans ?_
  split
  · rfl
  · rename_i absent
    exact Catalog.get?_eq_none.mpr absent

theorem owner_concat (operations : List SearchOperation) (operation : SearchOperation) :
    (keeper.run (operations ++ [operation])).owner =
      (operate (keeper.run operations).owner operation).owner :=
  congrArg Keeper.History.owner (Keeper.run_concat ..)

/-- What was accepted last stands in the results, step after step. -/
theorem merges_run (operations : List SearchOperation) :
    (keeper.run operations).owner.Merges (Accepted operations) := by
  induction operations using List.reverseRecOn with
  | nil =>
      refine .nothing (fun _ => rfl) rfl ?_
      rintro tth offer ⟨past, _, _, split, _⟩
      simp at split
  | append_singleton operations operation ih =>
      have sound := keeper_steps.sound operations
      rw [owner_concat]
      cases operation with
      | start query =>
          exact .nothing (get?_dropResults _) rfl fun tth offer => accepted_drop trivial
      | clear => exact .nothing (get?_dropResults _) rfl fun tth offer => accepted_drop trivial
      | addResult incoming =>
          exact (ih.operate_addResult sound incoming).congr fun _ _ => accepted_add

/-- A report is refused as one that was there before if and only if it was accepted before. -/
theorem Merges.duplicate_iff (merges : search.Merges accepted) (incoming : IncomingResult) :
    (search.operate (.addResult incoming)).result = .error .duplicate ↔
      accepted incoming.tth incoming.offer := by
  rw [operate]
  cases known : search.resultOf? incoming.tth with
  | some result =>
      obtain ⟨token, there, same⟩ := merges.resultOf?_iff.mp known
      rw [addResult_known known, ← same, merges.accepted_for there]
      split
      · rename_i twice
        exact iff_of_true rfl twice
      · rename_i other
        exact iff_of_false nofun other
  | none =>
      have unheard := merges.unaccepted known incoming.offer
      rw [addResult_unknown known]
      split
      · exact iff_of_false nofun unheard
      · exact iff_of_false nofun unheard

structure Merged (search : Search) (accepted : String → Offer → Prop) : Prop where
  indexed : ∀ tth token, Assoc.get? search.byTth tth = some token ↔
    ∃ result, search.results.get? token = some result ∧ result.tth = tth
  single : ∀ token other result also, search.results.get? token = some result →
    search.results.get? other = some also → also.tth = result.tth → other = token
  sources : ∀ token result, search.results.get? token = some result →
    0 < result.hits ∧ result.offers.Nodup
  counted : ∀ token result, search.results.get? token = some result →
    result.hits = {offer | accepted result.tth offer}.ncard
  named : ∀ token result, search.results.get? token = some result → search.terms ≠ [] →
    ∃ term ∈ search.terms, NamedBy term result.name
  duplicate_iff : ∀ incoming, (search.operate (.addResult incoming)).result = .error .duplicate ↔
    accepted incoming.tth incoming.offer
  refused : ∀ incoming rejection,
    (search.operate (.addResult incoming)).result = .error rejection →
      (search.operate (.addResult incoming)).owner = search ∧
        (search.operate (.addResult incoming)).events = []

theorem Merges.merged (merges : search.Merges accepted) : search.Merged accepted where
  indexed _ _ := merges.indexed
  single _ _ _ _ there found same := merges.single there found same
  sources _ result there := by
    obtain ⟨some, distinct⟩ := merges.offered there
    rw [result.hits_eq]
    exact ⟨List.length_pos_iff.mpr some, distinct⟩
  counted _ _ there := merges.hits_eq_ncard there
  named _ _ there some := merges.named there some
  duplicate_iff := merges.duplicate_iff
  refused _ _ refusal := keeper_steps.refused refusal

/-- After all operations there is one result for each content, and its hits count the users on hubs
that were accepted for it since the results were last dropped. -/
theorem merging_exact (operations : List SearchOperation) :
    (keeper.run operations).owner.Merged (Accepted operations) :=
  (merges_run operations).merged

end Operations

end Search

end LiveList
