import LiveList.Proofs.Source.Keeper
import LiveList.Queue.Basic

/-!
The operations on the download queue, and what each of them does to a bundle and reports.
-/

namespace LiveList

open Outcome

inductive QueueOperation where
  | addBundle (now : Nat) (params : NewBundle)
  | removeBundle (token : Nat)
  | removeFinished
  | setPriority (token : Nat) (priority : Priority)
  | setPriorityAll (priority : Priority)
  | setSources (token online total : Nat)
  | recordProgress (now token received speed : Nat)
  | setStatus (now token : Nat) (status : BundleStatus)
  | tick

namespace Bundle

def prioritized (priority : Priority) (bundle : Bundle) : Bundle :=
  { bundle with priority, speed := if priority.isPaused then 0 else bundle.speed }

inductive Edit (bundle : Bundle) : Bundle → List PropertySet → Prop
  | keep : Edit bundle bundle []
  | prioritize (priority : Priority) (other : bundle.priority ≠ priority) :
      Edit bundle (bundle.prioritized priority) [PropertySet.ofIds [priorityId, statusId]]
  | count (online total : Nat) :
      Edit bundle { bundle with onlineSources := min online total, totalSources := total }
        [PropertySet.ofIds [sourcesId]]
  | advance (downloaded speed : Nat) (queued : bundle.status = .queued)
      (running : bundle.priority.isPaused = false) :
      Edit bundle { bundle with downloaded, speed, unreported := true } []
  | complete (now : Nat) (queued : bundle.status = .queued)
      (running : bundle.priority.isPaused = false) :
      Edit bundle
        { bundle with
          downloaded := bundle.size
          speed := 0
          status := .downloaded
          timeFinished := now
          unreported := true }
        [PropertySet.ofIds [statusId, timeFinishedId]]
  | move (now : Nat) (status : BundleStatus) (other : bundle.status ≠ status) :
      Edit bundle
        { bundle with
          status
          timeFinished :=
            if status.isFinished && bundle.timeFinished == 0 then now else bundle.timeFinished }
        [PropertySet.ofIds [statusId, timeFinishedId]]
  | tick (unreported : bundle.unreported = true) :
      Edit bundle { bundle with unreported := false } [Queue.tickProperties]

def reprioritized (priority : Priority) (bundle : Bundle) : Bundle :=
  if bundle.priority = priority then bundle else bundle.prioritized priority

def reprioritizing (priority : Priority) (bundle : Bundle) : List PropertySet :=
  if bundle.priority = priority then [] else [PropertySet.ofIds [priorityId, statusId]]

theorem token_reprioritized (priority : Priority) (bundle : Bundle) :
    (bundle.reprioritized priority).token = bundle.token := by
  unfold reprioritized
  split <;> rfl

theorem edit_reprioritized (priority : Priority) (bundle : Bundle) :
    bundle.Edit (bundle.reprioritized priority) (bundle.reprioritizing priority) := by
  unfold reprioritized reprioritizing
  split
  · exact .keep
  · rename_i other
    exact .prioritize priority other

end Bundle

def NewBundle.bundle (params : NewBundle) (token now : Nat) : Bundle :=
  { token
    name := params.name
    target := params.target
    isFile := params.isFile
    timeAdded := now
    size := params.size
    priority := params.priority }

namespace Queue

variable {queue : Queue} {token : Nat}

def operate (queue : Queue) : QueueOperation → Published Queue (Except SourceError Unit)
  | .addBundle now params => .settled queue (queue.addBundle now params)
  | .removeBundle token => .settled queue (queue.removeBundle token)
  | .removeFinished => queue.removeFinished.respond (.ok ())
  | .setPriority token priority => .settled queue (queue.setPriority token priority)
  | .setPriorityAll priority => (queue.setPriorityAll priority).respond (.ok ())
  | .setSources token online total => .settled queue (queue.setSources token online total)
  | .recordProgress now token received speed =>
      .settled queue (queue.recordProgress now token received speed)
  | .setStatus now token status => .settled queue (queue.setStatus now token status)
  | .tick => queue.tick.respond (.ok ())

def keeper : Keeper where
  Item := Bundle
  Owner := Queue
  Operation := QueueOperation
  Error := SourceError
  start := {}
  listed queue := queue
  handler := Bundle.handler
  operate := operate

abbrev Step (queue : Queue) : List ItemEvent → Queue → Prop :=
  Catalog.Step Bundle.token Bundle.Edit queue

abbrev Revision (queue : Queue) : List ItemEvent → Queue → Prop :=
  Catalog.Revision Bundle.token Bundle.Edit queue

theorem find_ok {bundle : Bundle} (success : queue.find token = .ok bundle) :
    queue.get? token = some bundle := by
  grind [find]

theorem find_some {bundle : Bundle} (there : queue.get? token = some bundle) :
    queue.find token = .ok bundle := by
  rw [find, there]

/-- A bundle that was edited replaces the one under its token. -/
theorem publish_revision (sound : queue.Sound Bundle.token) {bundle edited : Bundle}
    {changed : List PropertyId} (found : queue.find token = .ok bundle)
    (edit : bundle.Edit edited [PropertySet.ofIds changed])
    (same : edited.token = bundle.token) :
    queue.Revision (queue.publish edited changed).events (queue.publish edited changed).owner := by
  have there := find_ok found
  have named : edited.token = token := same.trans (sound.keyed there)
  have revision := Catalog.Revision.editOne sound there edit same
  unfold publish
  rw [named]
  exact revision

theorem addBundle_ok_iff {now : Nat} {params : NewBundle} {done : Published Queue Nat} :
    queue.addBundle now params = .ok done ↔
      params.name ≠ "" ∧ params.target ≠ "" ∧
        (∀ bundle ∈ queue.items, bundle.target ≠ params.target) ∧
          done = ⟨queue.add (params.bundle queue.nextToken now), [.added queue.nextToken],
            queue.nextToken⟩ := by
  have free : queue.items.any (·.target == params.target) = true ↔
      ¬ ∀ bundle ∈ queue.items, bundle.target ≠ params.target := by
    simp
  unfold addBundle
  split
  · rename_i unnamed
    exact ⟨nofun, fun given => absurd (by simpa using unnamed) given.1⟩
  split
  · rename_i _ untargeted
    exact ⟨nofun, fun given => absurd (by simpa using untargeted) given.2.1⟩
  split
  · rename_i _ _ taken
    exact ⟨nofun, fun given => absurd given.2.2.1 (free.mp taken)⟩
  · rename_i named targeted fresh
    have alone := Decidable.not_not.mp (mt free.mpr fresh)
    constructor
    · intro success
      exact ⟨by simpa using named, by simpa using targeted, alone, (Except.ok.inj success).symm⟩
    · rintro ⟨_, _, _, rfl⟩
      rfl

theorem addBundle_step {now : Nat} {params : NewBundle} {done : Published Queue Nat}
    (success : queue.addBundle now params = .ok done) : queue.Step done.events done.owner := by
  obtain ⟨_, _, _, rfl⟩ := addBundle_ok_iff.mp success
  exact .add _ rfl

theorem removeBundle_revision {done : Published Queue Bundle}
    (success : queue.removeBundle token = .ok done) : queue.Revision done.events done.owner := by
  obtain ⟨bundle, found, success⟩ := of_bind_ok success
  rw [← of_pure_ok success]
  exact .dropOne (find_ok found)

theorem removeFinished_revision (queue : Queue) :
    queue.Revision queue.removeFinished.events queue.removeFinished.owner :=
  .drop _ (Catalog.Sound.tokensWhere_sublist queue _)

/-- Setting a priority edits the bundle, which may come to leaving it as it is. -/
theorem setPriority_found (sound : queue.Sound Bundle.token) (priority : Priority)
    {bundle : Bundle} (there : queue.get? token = some bundle) :
    queue.setPriority token priority =
      .ok ⟨queue.modify token (Bundle.reprioritized priority),
        queue.told (Bundle.reprioritizing priority) token, ()⟩ := by
  have named := sound.keyed there
  have read : queue.setPriority token priority =
      if bundle.priority = priority then .ok (.unchanged queue ())
      else .ok (queue.publish (bundle.prioritized priority) [Bundle.priorityId, Bundle.statusId]) := by
    rw [setPriority, find_some there]
    rfl
  rw [read]
  split
  · rename_i same
    have kept : bundle.reprioritized priority = bundle := if_pos same
    rw [Catalog.modify_same there kept]
    simp [Published.unchanged, Catalog.told, there, Bundle.reprioritizing, same]
  · rename_i other
    have changed : bundle.reprioritized priority = bundle.prioritized priority := if_neg other
    have edited : queue.modify token (Bundle.reprioritized priority) =
        queue.modify token fun _ => bundle.prioritized priority :=
      Catalog.modify_congr there changed
    rw [edited]
    have token : (bundle.prioritized priority).token = token := named
    simp [publish, Catalog.told, there, Bundle.reprioritizing, other, token]

theorem setPriority_revision (sound : queue.Sound Bundle.token) {priority : Priority}
    {done : Published Queue Unit} (success : queue.setPriority token priority = .ok done) :
    queue.Revision done.events done.owner := by
  obtain ⟨bundle, found, _⟩ := of_bind_ok success
  have there := find_ok found
  rw [setPriority_found sound priority there] at success
  have revision := Catalog.Revision.editOne sound there (Bundle.edit_reprioritized priority bundle)
    (Bundle.token_reprioritized ..)
  rw [← Except.ok.inj success]
  have same : queue.modify token (Bundle.reprioritized priority) =
      queue.modify token fun _ => bundle.reprioritized priority := Catalog.modify_congr there rfl
  simpa [same, Catalog.told, there] using revision

/-- Setting the priority of several bundles edits each of them as it was at the start. -/
theorem foldl_setPriorityOf (priority : Priority) {tokens : List Nat} (once : tokens.Nodup)
    (done : Published Queue Nat) (sound : done.owner.Sound Bundle.token)
    (listed : ∀ token ∈ tokens, token ∈ done.owner.tokens) :
    (tokens.foldl (setPriorityOf priority) done).owner =
        done.owner.modifyEach (Bundle.reprioritized priority) tokens ∧
      (tokens.foldl (setPriorityOf priority) done).events =
        done.events ++ tokens.flatMap (done.owner.told (Bundle.reprioritizing priority)) := by
  induction tokens generalizing done with
  | nil => simp [Catalog.modifyEach]
  | cons token rest ih =>
      have apart := List.nodup_cons.mp once
      obtain ⟨bundle, found⟩ := Catalog.mem_tokens.mp (listed token List.mem_cons_self)
      have first : setPriorityOf priority done token =
          ⟨done.owner.modify token (Bundle.reprioritized priority),
            done.events ++ done.owner.told (Bundle.reprioritizing priority) token,
            done.result + 1⟩ := by
        rw [setPriorityOf, setPriority_found sound priority found]
      have edited : (done.owner.modify token (Bundle.reprioritized priority)).Sound Bundle.token :=
        sound.modifyEach (List.pairwise_singleton _ token) fun other member bundle there =>
          (Bundle.token_reprioritized ..).trans (sound.keyed there)
      obtain ⟨owner, events⟩ := ih apart.2 (setPriorityOf priority done token) (first ▸ edited) (by
        intro other member
        rw [first, Catalog.tokens_modify]
        exact listed other (List.mem_cons_of_mem _ member))
      -- The other bundles are as they were, so they are told as they were.
      have others : rest.flatMap (Catalog.told (Bundle.reprioritizing priority)
            (done.owner.modify token (Bundle.reprioritized priority))) =
          rest.flatMap (done.owner.told (Bundle.reprioritizing priority)) := by
        rw [List.flatMap_def, List.flatMap_def]
        refine congrArg List.flatten (List.map_congr_left fun other member => ?_)
        have elsewhere : other ≠ token := fun same => apart.1 (same ▸ member)
        rw [Catalog.told, Catalog.get?_modify, if_neg elsewhere, Catalog.told]
      rw [List.foldl_cons, owner, events, first, List.flatMap_cons]
      exact ⟨rfl, by rw [others, List.append_assoc]⟩

theorem setPriorityAll_revision (sound : queue.Sound Bundle.token) (priority : Priority) :
    queue.Revision (queue.setPriorityAll priority).events (queue.setPriorityAll priority).owner := by
  have listed := Catalog.Sound.tokensWhere_sublist queue fun bundle => !bundle.isFinished
  obtain ⟨owner, events⟩ := foldl_setPriorityOf priority (listed.nodup sound.distinct)
    ⟨queue, [], 0⟩ sound fun _ member => listed.subset member
  unfold setPriorityAll
  rw [owner, events]
  refine .edit _ listed _ _ ?_
  intro token member bundle there
  exact ⟨(Bundle.token_reprioritized ..).trans (sound.keyed there), Bundle.edit_reprioritized ..⟩

theorem setSources_revision (sound : queue.Sound Bundle.token) {online total : Nat}
    {done : Published Queue Unit} (success : queue.setSources token online total = .ok done) :
    queue.Revision done.events done.owner := by
  obtain ⟨bundle, found, success⟩ := of_bind_ok success
  rw [← of_pure_ok success]
  exact publish_revision sound found (.count online total) rfl

theorem recordProgress_revision (sound : queue.Sound Bundle.token) {now received speed : Nat}
    {done : Published Queue Unit}
    (success : queue.recordProgress now token received speed = .ok done) :
    queue.Revision done.events done.owner := by
  obtain ⟨bundle, found, success⟩ := of_bind_ok success
  split at success
  · cases success
  split at success
  · cases success
  rename_i queued running
  rw [ne_eq, Decidable.not_not] at queued
  rw [Bool.not_eq_true] at running
  dsimp only at success
  split at success
  · rename_i complete
    rw [← of_pure_ok success, complete]
    exact publish_revision sound found (.complete now queued running) rfl
  · rw [← of_pure_ok success]
    exact .editOne sound (find_ok found) (Bundle.Edit.advance _ speed queued running) rfl

theorem setStatus_revision (sound : queue.Sound Bundle.token) {now : Nat} {status : BundleStatus}
    {done : Published Queue Unit} (success : queue.setStatus now token status = .ok done) :
    queue.Revision done.events done.owner := by
  obtain ⟨bundle, found, success⟩ := of_bind_ok success
  split at success
  · rw [← of_pure_ok success]
    exact .rest
  · rename_i other
    rw [← of_pure_ok success]
    exact publish_revision sound found (.move now status other) rfl

theorem tick_revision (sound : queue.Sound Bundle.token) :
    queue.Revision queue.tick.events queue.tick.owner := by
  have listed := Catalog.Sound.tokensWhere_sublist queue (·.unreported)
  have reported := Catalog.flatMap_told_const (fun _ member => listed.subset member) tickProperties
  have ticked : ∀ token ∈ queue.tokensWhere (·.unreported), ∀ bundle : Bundle,
      queue.get? token = some bundle → bundle.token = token ∧
        bundle.Edit { bundle with unreported := false } [tickProperties] := by
    intro token member bundle there
    obtain ⟨other, found, unreported⟩ := sound.mem_tokensWhere.mp member
    rw [there, Option.some.injEq] at found
    exact ⟨sound.keyed there, .tick (found ▸ unreported)⟩
  have revision : queue.Revision _ _ :=
    .edit _ listed (fun bundle => { bundle with unreported := false }) (fun _ => [tickProperties])
      ticked
  rw [reported] at revision
  exact revision

/-- Every operation but the one that queues a bundle only revises the queue. -/
theorem operate_revision (sound : queue.Sound Bundle.token) (operation : QueueOperation) :
    (∃ now params, operation = .addBundle now params) ∨
      queue.Revision (queue.operate operation).events (queue.operate operation).owner := by
  cases operation with
  | addBundle now params => exact .inl ⟨now, params, rfl⟩
  | removeBundle token => exact .inr (Catalog.settled_revision removeBundle_revision)
  | removeFinished => exact .inr (removeFinished_revision queue)
  | setPriority token priority =>
      exact .inr (Catalog.settled_revision (setPriority_revision sound))
  | setPriorityAll priority => exact .inr (setPriorityAll_revision sound priority)
  | setSources token online total =>
      exact .inr (Catalog.settled_revision (setSources_revision sound))
  | recordProgress now token received speed =>
      exact .inr (Catalog.settled_revision (recordProgress_revision sound))
  | setStatus now token status => exact .inr (Catalog.settled_revision (setStatus_revision sound))
  | tick => exact .inr (tick_revision sound)

theorem keeper_steps : keeper.Steps Bundle.Edit where
  start := rfl
  step sound operation := by
    rcases operate_revision sound operation with ⟨now, params, rfl⟩ | revision
    · exact Catalog.settled_step addBundle_step
    · exact revision.step
  refused {_ operation _} refusal := by
    cases operation with
    | removeFinished | setPriorityAll | tick => cases refusal
    | addBundle | removeBundle | setPriority | setSources | recordProgress | setStatus =>
        exact Published.settled_error refusal

end Queue

end LiveList
