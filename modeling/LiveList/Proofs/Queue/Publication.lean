import LiveList.Proofs.Source.Promptness

/-!
What the queue makes known of a change: at once, or by the mark that the next tick looks at. All of
it but one case is made known. A download that is suspended receives nothing from then on, and that
its speed and its time left are zero is told by nobody, unless some progress waits for the tick.
-/

namespace LiveList

namespace Bundle

variable {old new : Bundle} {id : PropertyId} {reports : List PropertySet}

-- What each property of a bundle is read from.
theorem sameBy (name : id = nameId ∨ id = typeId → new.name = old.name)
    (target : id = targetId → new.target = old.target)
    (file : id = nameId ∨ id = typeId → new.isFile = old.isFile)
    (size : id = sizeId ∨ id = statusId ∨ id = secondsLeftId → new.size = old.size)
    (downloaded : id = downloadedId ∨ id = statusId ∨ id = secondsLeftId →
      new.downloaded = old.downloaded)
    (speed : id = speedId ∨ id = statusId ∨ id = secondsLeftId → new.speed = old.speed)
    (priority : id = priorityId ∨ id = statusId → new.priority = old.priority)
    (status : id = statusId → new.status = old.status)
    (added : id = timeAddedId → new.timeAdded = old.timeAdded)
    (finished : id = timeFinishedId → new.timeFinished = old.timeFinished)
    (sources : id = sourcesId →
      new.onlineSources = old.onlineSources ∧ new.totalSources = old.totalSources) :
    handler.SameBy id old new := by
  have number : number new id = number old id := by grind [number, secondsLeft]
  have text : text new id = text old id := by
    grind [text, typeText, statusText, percent, sourcesText]
  constructor
  · exact number
  · exact text
  · show custom new id = custom old id
    grind [custom, typeText, isFinished, statusText, percent, sourcesText]
  · intro other
    show order new other id = order old other id
    grind [order, progress]
  · intro other
    show order other new id = order other old id
    grind [order, progress]

def Suspended (old new : Bundle) : Prop :=
  old.priority ≠ new.priority ∧ new.priority.isPaused = true

/-- A change of the speed or of the time left that comes from suspending a download of which no
progress waits for the tick. -/
def Silenced (id : PropertyId) (old new : Bundle) : Prop :=
  id ∈ [speedId, secondsLeftId] ∧ old.Suspended new ∧ old.unreported = false

theorem stopped_unnamed : ∀ id ∈ [speedId, secondsLeftId], id ∉ [priorityId, statusId] := by
  decide

theorem stopped_ticked : ∀ id ∈ [speedId, secondsLeftId], id ∈ Queue.tickProperties := by
  decide

theorem Edit.suspended (edit : old.Edit new reports) (suspended : old.Suspended new) :
    reports = [PropertySet.ofIds [priorityId, statusId]] ∧ new.unreported = old.unreported := by
  cases edit with
  | prioritize priority other => exact ⟨rfl, rfl⟩
  | keep | count | advance | complete | move | tick => exact absurd rfl suspended.1

theorem Edit.reported (edit : old.Edit new reports) :
    (∃ changed ∈ reports, id ∈ changed) ∨
      (new.unreported = true ∧ id ∈ Queue.tickProperties) ∨
      (id ∈ [speedId, secondsLeftId] ∧ old.Suspended new) ∨
      handler.SameBy id old new := by
  cases edit with
  | keep => exact .inr (.inr (.inr (.refl ..)))
  | prioritize priority other =>
      by_cases named : id ∈ [priorityId, statusId]
      · exact .inl ⟨_, List.mem_singleton_self _, PropertySet.mem_ofIds.mpr named⟩
      · right
        right
        by_cases stopped : id ∈ [speedId, secondsLeftId] ∧ priority.isPaused = true
        · exact .inl ⟨stopped.1, other, stopped.2⟩
        · right
          apply sameBy <;> grind [prioritized]
  | count online total =>
      by_cases named : id ∈ [sourcesId]
      · exact .inl ⟨_, List.mem_singleton_self _, PropertySet.mem_ofIds.mpr named⟩
      · right
        right
        right
        apply sameBy <;> grind
  | advance downloaded speed queued running =>
      by_cases marked : id ∈ [speedId, secondsLeftId, downloadedId, statusId]
      · exact .inr (.inl ⟨rfl, PropertySet.mem_ofIds.mpr marked⟩)
      · right
        right
        right
        apply sameBy <;> grind
  | complete now queued running =>
      by_cases named : id ∈ [statusId, timeFinishedId]
      · exact .inl ⟨_, List.mem_singleton_self _, PropertySet.mem_ofIds.mpr named⟩
      · right
        by_cases marked : id ∈ [speedId, secondsLeftId, downloadedId, statusId]
        · exact .inl ⟨rfl, PropertySet.mem_ofIds.mpr marked⟩
        · right
          right
          apply sameBy <;> grind
  | move now status other =>
      by_cases named : id ∈ [statusId, timeFinishedId]
      · exact .inl ⟨_, List.mem_singleton_self _, PropertySet.mem_ofIds.mpr named⟩
      · right
        right
        right
        apply sameBy <;> grind
  | tick unreported => exact .inr (.inr (.inr (by apply sameBy <;> grind)))

end Bundle

namespace Queue

variable {queue : Queue} {token : Nat} {id : PropertyId} {old new : Bundle}

/-- Whether a property of the bundle under a token is named at once or by the next tick. -/
def Announced (operations : List QueueOperation) (operation : QueueOperation) (token : Nat)
    (id : PropertyId) : Prop :=
  (∃ changed ∈ ItemEvent.reports token (keeper.reported operations operation), id ∈ changed) ∨
    ∃ changed ∈ ItemEvent.reports token (keeper.reported (operations ++ [operation]) .tick),
      id ∈ changed

theorem mem_reports_tick (sound : queue.Sound Bundle.token) {bundle : Bundle}
    (there : queue.get? token = some bundle) {changed : PropertySet} :
    changed ∈ ItemEvent.reports token queue.tick.events ↔
      changed = tickProperties ∧ bundle.unreported = true := by
  rw [ItemEvent.mem_reports, tick, List.mem_map]
  constructor
  · rintro ⟨other, ticked, same⟩
    obtain ⟨rfl, rfl⟩ := ItemEvent.updated.inj same
    obtain ⟨found, present, unreported⟩ := sound.mem_tokensWhere.mp ticked
    rw [there, Option.some.injEq] at present
    exact ⟨rfl, present ▸ unreported⟩
  · rintro ⟨rfl, unreported⟩
    exact ⟨token, sound.mem_tokensWhere.mpr ⟨bundle, there, unreported⟩, rfl⟩

/-- A property of a bundle that reads otherwise after an operation is named at once or by the next
tick, unless it is the speed or the time left of a download that was suspended silently. -/
theorem change_announced_iff (operations : List QueueOperation) (operation : QueueOperation)
    (property : Property) (before : (keeper.after operations).get? token = some old)
    (still : (keeper.after (operations ++ [operation])).get? token = some new)
    (differs : Bundle.handler.ReadsOtherwise property old new) :
    Announced operations operation token property.id ↔ ¬ old.Silenced property.id new := by
  have ticked (changed : PropertySet) : changed ∈ ItemEvent.reports token
        (keeper.reported (operations ++ [operation]) .tick) ↔
      changed = tickProperties ∧ new.unreported = true :=
    mem_reports_tick (keeper_steps.sound _) still
  rcases keeper_steps.stays before still with ⟨rfl, _⟩ | edit
  · exact absurd differs (Handler.SameBy.refl ..).reads
  constructor
  · rintro announced ⟨stopped, suspended, reported⟩
    obtain ⟨reports, mark⟩ := edit.suspended suspended
    rcases announced with ⟨changed, now, named⟩ | ⟨changed, next, _⟩
    · rw [reports, List.mem_singleton] at now
      rw [now, PropertySet.mem_ofIds] at named
      exact Bundle.stopped_unnamed _ stopped named
    · rw [ticked, mark, reported] at next
      cases next.2
  · intro heard
    rcases edit.reported with now | ⟨mark, named⟩ | stopped | same
    · exact .inl now
    · exact .inr ⟨_, (ticked _).mpr ⟨rfl, mark⟩, named⟩
    · have mark : old.unreported = true := by
        rw [← Bool.not_eq_false]
        exact fun reported => heard ⟨stopped.1, stopped.2, reported⟩
      have marked : new.unreported = true := (edit.suspended stopped.2).2.trans mark
      exact .inr ⟨_, (ticked _).mpr ⟨rfl, marked⟩, Bundle.stopped_ticked _ stopped.1⟩
    · exact absurd differs same.reads

def runningDownload : List QueueOperation :=
  [.addBundle 0 { name := "film", target := "/film", size := 10 }, .recordProgress 0 1 4 2, .tick]

/-- Nobody is told that it stands still once it is suspended. -/
theorem suspended_untold :
    ¬ Announced runningDownload (.setPriority 1 .paused) 1 Bundle.speedId := by
  have before : (keeper.after runningDownload).get? 1 = some _ := rfl
  have still : (keeper.after (runningDownload ++ [.setPriority 1 .paused])).get? 1 = some _ := rfl
  have told := change_announced_iff runningDownload (.setPriority 1 .paused)
    (.numeric Bundle.speedId "speed" .speed) before still (.inl (by decide))
  exact fun announced => told.mp announced ⟨by decide, ⟨by decide, rfl⟩, rfl⟩

/-- So not every change is announced. -/
theorem speed_unannounced : ¬ ∀ (operations : List QueueOperation) (operation : QueueOperation)
    (token : Nat) (old new : Bundle) (property : Property), property ∈ Bundle.properties →
    (keeper.after operations).get? token = some old →
    (keeper.after (operations ++ [operation])).get? token = some new →
    Bundle.handler.ReadsOtherwise property old new →
    Announced operations operation token property.id := by
  intro every
  have announced := every runningDownload (.setPriority 1 .paused) 1 _ _
    (.numeric Bundle.speedId "speed" .speed) (by decide) rfl rfl (.inl (by decide))
  revert announced
  unfold Announced
  decide

end Queue

end LiveList
