import LiveList.Proofs.Source.Comparison

/-!
The condition of the bundles in the queue. No operation lets a count run over what it counts, leaves
speed to a download that is suspended, or a download without the time at which it was over. Progress
is recorded of running downloads only, and completes a download exactly when the bytes reach its
size.
-/

namespace LiveList

open Outcome

/-- The clock does not read zero, which would stand for a download that is not over. -/
def QueueOperation.Timed : QueueOperation → Prop
  | recordProgress now _ _ _ | setStatus now _ _ => now ≠ 0
  | addBundle .. | removeBundle _ | removeFinished | setPriority .. | setPriorityAll _
  | setSources .. | tick => True

namespace Bundle

variable {bundle : Bundle}

structure Steady (bundle : Bundle) : Prop where
  within : bundle.downloaded ≤ bundle.size
  online : bundle.onlineSources ≤ bundle.totalSources
  suspended : bundle.priority.isPaused = true → bundle.speed = 0 ∧ bundle.secondsLeft = 0
  dated : bundle.isFinished = true → bundle.timeFinished ≠ 0

theorem secondsLeft_idle (idle : bundle.speed = 0) : bundle.secondsLeft = 0 := if_pos idle

namespace Steady

theorem new (params : NewBundle) (token now : Nat) : (params.bundle token now).Steady :=
  ⟨Nat.zero_le _, Nat.le_refl _, fun _ => ⟨rfl, rfl⟩, nofun⟩

theorem reprioritized (steady : bundle.Steady) (priority : Priority) :
    (bundle.reprioritized priority).Steady := by
  unfold Bundle.reprioritized
  split
  · exact steady
  · refine ⟨steady.within, steady.online, fun paused => ?_, steady.dated⟩
    have idle : (bundle.prioritized priority).speed = 0 := if_pos paused
    exact ⟨idle, secondsLeft_idle idle⟩

theorem counted (steady : bundle.Steady) (online total : Nat) :
    Steady { bundle with onlineSources := min online total, totalSources := total } :=
  ⟨steady.within, Nat.min_le_right .., steady.suspended, steady.dated⟩

theorem moved (steady : bundle.Steady) {now : Nat} (timed : now ≠ 0) (status : BundleStatus) :
    Steady
      { bundle with
        status
        timeFinished :=
          if status.isFinished && bundle.timeFinished == 0 then now else bundle.timeFinished } := by
  refine ⟨steady.within, steady.online, steady.suspended, fun done => ?_⟩
  have finished : status.isFinished = true := done
  show (if status.isFinished && bundle.timeFinished == 0 then now else bundle.timeFinished) ≠ 0
  split
  · exact timed
  · rename_i given
    simpa [finished] using given

theorem ticked (steady : bundle.Steady) : Steady { bundle with unreported := false } :=
  ⟨steady.within, steady.online, steady.suspended, steady.dated⟩

end Steady

def Receives (bundle : Bundle) : Prop :=
  bundle.status = .queued ∧ bundle.priority.isPaused = false

def completed (now : Nat) (bundle : Bundle) : Bundle :=
  { bundle with
    downloaded := bundle.size
    speed := 0
    status := .downloaded
    timeFinished := now
    unreported := true }

def advanced (received speed : Nat) (bundle : Bundle) : Bundle :=
  { bundle with downloaded := bundle.downloaded + received, speed, unreported := true }

def progressed (now received speed : Nat) (bundle : Bundle) : Bundle :=
  if bundle.size ≤ bundle.downloaded + received then bundle.completed now
  else bundle.advanced received speed

theorem Steady.progressed (steady : bundle.Steady) {now : Nat} (timed : now ≠ 0)
    (receives : bundle.Receives) (received speed : Nat) :
    (bundle.progressed now received speed).Steady := by
  unfold Bundle.progressed
  split
  · exact ⟨Nat.le_refl _, steady.online, fun _ => ⟨rfl, rfl⟩, fun _ => timed⟩
  · rename_i less
    refine ⟨Nat.le_of_lt (Nat.lt_of_not_le less), steady.online, fun paused => ?_, steady.dated⟩
    rw [show (bundle.advanced received speed).priority = bundle.priority from rfl,
      receives.2] at paused
    cases paused

end Bundle

namespace Queue

variable {queue : Queue} {token : Nat} {bundle : Bundle}

theorem every_publish {holds : Bundle → Prop} (every : queue.Every holds) (new : holds bundle)
    (changed : List PropertyId) : (queue.publish bundle changed).owner.Every holds :=
  every.modify fun _ _ => new

section Progress

variable {now received speed : Nat}

theorem recordProgress_ok {done : Published Queue Unit}
    (success : queue.recordProgress now token received speed = .ok done) :
    ∃ bundle, queue.get? token = some bundle ∧ bundle.Receives := by
  obtain ⟨bundle, found, success⟩ := of_bind_ok success
  split at success
  · cases success
  split at success
  · cases success
  rename_i queued running
  exact ⟨bundle, find_ok found, Decidable.not_not.mp queued, Bool.not_eq_true _ |>.mp running⟩

/-- Neither the end of the word nor that of the bundle is passed, so the bytes are all there exactly
when their sum reaches the size. -/
theorem clamp_eq_iff (sized : bundle.Sized) :
    min (min (bundle.downloaded + received) maxWord) bundle.size = bundle.size ↔
      bundle.size ≤ bundle.downloaded + received := by
  have fits : bundle.size ≤ maxWord := Nat.le_sub_one_of_lt sized
  omega

theorem recordProgress_found (sound : queue.Sound Bundle.token)
    (there : queue.get? token = some bundle) (sized : bundle.Sized) (receives : bundle.Receives) :
    ∃ done, queue.recordProgress now token received speed = .ok done ∧
      done.owner = queue.modify token fun _ => bundle.progressed now received speed := by
  obtain rfl := sound.keyed there
  have fits : bundle.size ≤ maxWord := Nat.le_sub_one_of_lt sized
  unfold recordProgress
  rw [find_some there, ok_bind, if_neg (not_not.mpr receives.1), if_neg (by simp [receives.2])]
  dsimp only
  split
  · rename_i full
    refine ⟨_, rfl, ?_⟩
    rw [Bundle.progressed, if_pos ((clamp_eq_iff sized).mp full), full]
    rfl
  · rename_i rest
    have less := mt (clamp_eq_iff sized).mpr rest
    have sum : min (min (bundle.downloaded + received) maxWord) bundle.size =
        bundle.downloaded + received := by omega
    refine ⟨_, rfl, ?_⟩
    rw [Bundle.progressed, if_neg less, sum]
    rfl

end Progress

theorem recordProgress_accepted_iff (sound : queue.Sound Bundle.token) (sized : queue.Sized)
    (now token received speed : Nat) :
    (queue.operate (.recordProgress now token received speed)).result = .ok () ↔
      ∃ bundle, queue.get? token = some bundle ∧ bundle.Receives := by
  rw [operate, Published.settled_ok_iff]
  constructor
  · rintro ⟨done, success⟩
    exact recordProgress_ok success
  · rintro ⟨bundle, there, receives⟩
    obtain ⟨done, success, _⟩ := recordProgress_found sound there (sized.get there) receives
    exact ⟨done, success⟩

theorem recordProgress_owner (sound : queue.Sound Bundle.token) (sized : queue.Sized)
    (there : queue.get? token = some bundle) (receives : bundle.Receives)
    (now received speed : Nat) :
    (queue.operate (.recordProgress now token received speed)).owner =
      queue.modify token fun _ => bundle.progressed now received speed := by
  obtain ⟨done, success, owner⟩ := recordProgress_found sound there (sized.get there) receives
  rw [operate, success]
  exact owner

structure Held (queue : Queue) : Prop where
  sized : queue.Sized
  steady : queue.Every Bundle.Steady

/-- Every operation leaves steady bundles, one case for each of them. -/
theorem steady_operate (sound : queue.Sound Bundle.token) (sized : queue.Sized)
    (steady : queue.Every Bundle.Steady) {operation : QueueOperation} (timed : operation.Timed) :
    (queue.operate operation).owner.Every Bundle.Steady := by
  cases operation with
  | addBundle now params =>
      refine Published.settled_keeps steady fun {done} success => ?_
      obtain ⟨_, _, _, rfl⟩ := addBundle_ok_iff.mp success
      exact steady.add (.new params queue.nextToken now)
  | removeBundle token =>
      refine Published.settled_keeps steady fun {done} success => ?_
      obtain ⟨bundle, _, success⟩ := of_bind_ok success
      rw [← of_pure_ok success]
      exact steady.drop token
  | removeFinished => exact steady.drops _
  | setPriority token priority =>
      refine Published.settled_keeps steady fun {done} success => ?_
      obtain ⟨bundle, found, _⟩ := of_bind_ok success
      rw [setPriority_found sound priority (find_ok found)] at success
      rw [← Except.ok.inj success]
      exact steady.modify fun old there => (steady.get there).reprioritized priority
  | setPriorityAll priority =>
      have listed := Catalog.Sound.tokensWhere_sublist queue fun bundle => !bundle.isFinished
      obtain ⟨owner, _⟩ := foldl_setPriorityOf priority (listed.nodup sound.distinct)
        ⟨queue, [], 0⟩ sound fun _ member => listed.subset member
      show (queue.setPriorityAll priority).owner.Every Bundle.Steady
      rw [setPriorityAll, owner]
      exact steady.modifyEach (fun _ old => old.reprioritized priority) _
  | setSources token online total =>
      refine Published.settled_keeps steady fun {done} success => ?_
      obtain ⟨bundle, found, success⟩ := of_bind_ok success
      rw [← of_pure_ok success]
      exact every_publish steady ((steady.get (find_ok found)).counted online total) _
  | recordProgress now token received speed =>
      refine Published.settled_keeps steady fun {done} success => ?_
      obtain ⟨bundle, there, receives⟩ := recordProgress_ok success
      have owner := recordProgress_owner sound sized there receives now received speed
      rw [operate, success] at owner
      rw [show done.owner = _ from owner]
      exact steady.modify fun _ _ => (steady.get there).progressed timed receives received speed
  | setStatus now token status =>
      refine Published.settled_keeps steady fun {done} success => ?_
      obtain ⟨bundle, found, success⟩ := of_bind_ok success
      split at success
      · rw [← of_pure_ok success]
        exact steady
      · rw [← of_pure_ok success]
        exact every_publish steady ((steady.get (find_ok found)).moved timed status) _
  | tick => exact steady.modifyEach (fun _ old => old.ticked) _

/-- What holds of the bundles at all times, and what becomes of progress that is recorded. -/
structure Conditioned (queue : Queue) : Prop where
  steady : queue.Every Bundle.Steady
  recorded_iff : ∀ now token received speed,
    (queue.operate (.recordProgress now token received speed)).result = .ok () ↔
      ∃ bundle, queue.get? token = some bundle ∧ bundle.status = .queued ∧
        bundle.priority.isPaused = false
  refused : ∀ now token received speed error,
    (queue.operate (.recordProgress now token received speed)).result = .error error →
      (queue.operate (.recordProgress now token received speed)).owner = queue
  /-- The bytes are all there, however many were received on top of the size. -/
  completed : ∀ now token received speed bundle, queue.get? token = some bundle →
    (queue.operate (.recordProgress now token received speed)).result = .ok () →
    bundle.size ≤ bundle.downloaded + received →
      (queue.operate (.recordProgress now token received speed)).owner =
        queue.modify token fun _ => bundle.completed now
  advanced : ∀ now token received speed bundle, queue.get? token = some bundle →
    (queue.operate (.recordProgress now token received speed)).result = .ok () →
    bundle.downloaded + received < bundle.size →
      (queue.operate (.recordProgress now token received speed)).owner =
        queue.modify token fun _ => bundle.advanced received speed

theorem Held.conditioned (held : Held queue) (sound : queue.Sound Bundle.token) :
    Conditioned queue := by
  have accepted := recordProgress_accepted_iff sound held.sized
  have recorded {now token received speed : Nat} {bundle : Bundle}
      (there : queue.get? token = some bundle)
      (success : (queue.operate (.recordProgress now token received speed)).result = .ok ()) :
      (queue.operate (.recordProgress now token received speed)).owner =
        queue.modify token fun _ => bundle.progressed now received speed := by
    obtain ⟨other, found, receives⟩ := (accepted ..).mp success
    rw [there, Option.some.injEq] at found
    exact recordProgress_owner sound held.sized there (found ▸ receives) ..
  refine ⟨held.steady, accepted, fun _ _ _ _ _ refusal => (keeper_steps.refused refusal).1, ?_, ?_⟩
  · intro now token received speed bundle there success full
    rw [recorded there success, Bundle.progressed, if_pos full]
  · intro now token received speed bundle there success less
    rw [recorded there success, Bundle.progressed, if_neg (Nat.not_le_of_lt less)]

/-- After all operations on a clock that does not read zero, the bundles are in this condition. -/
theorem condition_kept {operations : List QueueOperation}
    (timed : ∀ operation ∈ operations, operation.Timed ∧ operation.Fits) :
    Conditioned (keeper.after operations) := by
  have held : Held (keeper.after operations) := by
    refine keeper_steps.keeps_within ⟨.start, .start⟩ ?_ timed
    rintro queue sound ⟨sized, steady⟩ operation ⟨timed, fits⟩
    exact ⟨Sized.operate sized sound fits, steady_operate sound sized steady timed⟩
  exact held.conditioned (keeper_steps.sound operations)

def resumedDownload : List QueueOperation :=
  [.addBundle 7 { name := "film", target := "/film", size := 10 }, .recordProgress 8 1 4 2,
    .setPriority 1 .paused, .recordProgress 8 1 4 2, .setPriority 1 .high]

/-- More bytes than a word can hold come in for it, and it is complete. -/
theorem resumedDownload_completed :
    ((keeper.after resumedDownload).get? 1).map (·.downloaded) = some 4 ∧
      (Queue.operate (keeper.after resumedDownload) (.recordProgress 9 1 maxWord 3)).owner.get? 1 =
        some { token := 1, name := "film", target := "/film", timeAdded := 7, size := 10,
               downloaded := 10, priority := .high, status := .downloaded, timeFinished := 9,
               unreported := true } := by
  have timed : ∀ operation ∈ resumedDownload, operation.Timed ∧ operation.Fits := by
    have fits : 10 < UInt64.size := by decide
    simp [resumedDownload, QueueOperation.Timed, QueueOperation.Fits, fits]
  have there : (keeper.after resumedDownload).get? 1 = some _ := rfl
  have completed := (condition_kept timed).completed 9 1 maxWord 3 _ there rfl (by decide)
  refine ⟨rfl, ?_⟩
  rw [completed]
  rfl

end Queue

end LiveList
