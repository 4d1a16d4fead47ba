import LiveList.Queue.Bundle
import LiveList.Source.Catalog
import LiveList.Error

/-!
The download queue. Progress is recorded without a word and reported in batches by ticks; every
other change is reported at once.
-/

namespace LiveList

abbrev Queue := Catalog Bundle

structure NewBundle where
  name : String
  target : String
  size : Nat
  isFile : Bool := false
  priority : Priority := .normal

namespace Queue

def maxWord : Nat := UInt64.size - 1

def tickProperties : PropertySet :=
  PropertySet.ofIds
    [Bundle.speedId, Bundle.secondsLeftId, Bundle.downloadedId, Bundle.statusId]

def missing (token : Nat) : SourceError := .notFound "Bundle" (toString token)

def find (queue : Queue) (token : Nat) : Except SourceError Bundle :=
  match queue.get? token with
  | some bundle => .ok bundle
  | none => .error (missing token)

def publish (queue : Queue) (bundle : Bundle) (changed : List PropertyId) : Published Queue Unit :=
  { owner := queue.modify bundle.token fun _ => bundle
    events := [.updated bundle.token (PropertySet.ofIds changed)]
    result := () }

/-- Queues a bundle. No two bundles have the same target. -/
def addBundle (queue : Queue) (now : Nat) (params : NewBundle) :
    Except SourceError (Published Queue Nat) :=
  if params.name.isEmpty then .error (.invalidField "name" "the name can't be empty")
  else if params.target.isEmpty then .error (.invalidField "target" "the target can't be empty")
  else if queue.items.any (·.target == params.target) then
    .error (.duplicate "target" params.target)
  else
    let token := queue.nextToken
    let bundle : Bundle :=
      { token
        name := params.name
        target := params.target
        isFile := params.isFile
        timeAdded := now
        size := params.size
        priority := params.priority }
    .ok ⟨queue.add bundle, [.added token], token⟩

def removeBundle (queue : Queue) (token : Nat) : Except SourceError (Published Queue Bundle) := do
  let bundle ← queue.find token
  pure ⟨queue.drop token, [.removed token], bundle⟩

def removeFinished (queue : Queue) : Published Queue Nat :=
  let finished := queue.tokensWhere (·.isFinished)
  ⟨finished.foldl Catalog.drop queue, finished.map .removed, finished.length⟩

/-- Changes a priority. A download that is suspended receives nothing. -/
def setPriority (queue : Queue) (token : Nat) (priority : Priority) :
    Except SourceError (Published Queue Unit) := do
  let bundle ← queue.find token
  if bundle.priority = priority then pure (.unchanged queue ())
  else
    let bundle := { bundle with
      priority
      speed := if priority.isPaused then 0 else bundle.speed }
    pure (queue.publish bundle [Bundle.priorityId, Bundle.statusId])

def setPriorityOf (priority : Priority) (done : Published Queue Nat) (token : Nat) :
    Published Queue Nat :=
  match done.owner.setPriority token priority with
  | .ok next => ⟨next.owner, done.events ++ next.events, done.result + 1⟩
  | .error _ => done

def setPriorityAll (queue : Queue) (priority : Priority) : Published Queue Nat :=
  (queue.tokensWhere fun bundle => !bundle.isFinished).foldl (setPriorityOf priority) ⟨queue, [], 0⟩

def setSources (queue : Queue) (token online total : Nat) :
    Except SourceError (Published Queue Unit) := do
  let bundle ← queue.find token
  let bundle := { bundle with onlineSources := min online total, totalSources := total }
  pure (queue.publish bundle [Bundle.sourcesId])

/-- Records received bytes and the speed. The next tick reports them; that a download became
complete is reported at once. -/
def recordProgress (queue : Queue) (now token received speed : Nat) :
    Except SourceError (Published Queue Unit) := do
  let bundle ← queue.find token
  if bundle.status ≠ .queued then
    throw (.invalidState ("Bundle " ++ toString token ++ " isn't downloading"))
  else if bundle.priority.isPaused then
    throw (.invalidState ("Bundle " ++ toString token ++ " is paused"))
  else
    -- The sum stops at the end of the word, and the bytes stop at the size.
    let downloaded := min (min (bundle.downloaded + received) maxWord) bundle.size
    if downloaded = bundle.size then
      let bundle := { bundle with
        downloaded
        speed := 0
        status := .downloaded
        timeFinished := now
        unreported := true }
      pure (queue.publish bundle [Bundle.statusId, Bundle.timeFinishedId])
    else
      let bundle := { bundle with downloaded, speed, unreported := true }
      pure (.unchanged (queue.modify token fun _ => bundle) ())

/-- Moves a bundle on in its life. The time at which it first got finished is kept. -/
def setStatus (queue : Queue) (now token : Nat) (status : BundleStatus) :
    Except SourceError (Published Queue Unit) := do
  let bundle ← queue.find token
  if bundle.status = status then pure (.unchanged queue ())
  else
    let bundle := { bundle with
      status
      timeFinished :=
        if status.isFinished && bundle.timeFinished == 0 then now else bundle.timeFinished }
    pure (queue.publish bundle [Bundle.statusId, Bundle.timeFinishedId])

def tick (queue : Queue) : Published Queue Nat :=
  let ticked := queue.tokensWhere (·.unreported)
  { owner := ticked.foldl (fun queue token =>
      queue.modify token fun bundle => { bundle with unreported := false }) queue
    events := ticked.map fun token => .updated token tickProperties
    result := ticked.length }

end Queue

end LiveList
