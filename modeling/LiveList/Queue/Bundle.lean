import LiveList.Decimal.Layout
import LiveList.Handler

/-!
Bundles: files and directories being downloaded, and their properties.
-/

namespace LiveList

inductive Priority where
  | pausedForce
  | paused
  | lowest
  | low
  | normal
  | high
  | highest
  deriving DecidableEq, Repr

namespace Priority

def id : Priority → Int
  | pausedForce => -1
  | paused => 0
  | lowest => 1
  | low => 2
  | normal => 3
  | high => 4
  | highest => 5

def ofId? (id : Int) : Option Priority :=
  [pausedForce, paused, lowest, low, normal, high, highest].find? fun priority => priority.id = id

def name : Priority → String
  | pausedForce => "Paused (forced)"
  | paused => "Paused"
  | lowest => "Lowest"
  | low => "Low"
  | normal => "Normal"
  | high => "High"
  | highest => "Highest"

def isPaused : Priority → Bool
  | pausedForce | paused => true
  | _ => false

theorem ofId?_id (priority : Priority) : ofId? priority.id = some priority := by
  cases priority <;> rfl

end Priority

inductive BundleStatus where
  | queued
  | downloaded
  | hashing
  | finished
  | shared
  | failed
  deriving DecidableEq, Repr

namespace BundleStatus

def id : BundleStatus → String
  | queued => "queued"
  | downloaded => "downloaded"
  | hashing => "hashing"
  | finished => "finished"
  | shared => "shared"
  | failed => "failed"

def ofId? (id : String) : Option BundleStatus :=
  [queued, downloaded, hashing, finished, shared, failed].find? fun status => status.id = id

def rank : BundleStatus → Nat
  | queued => 0
  | downloaded => 1
  | hashing => 2
  | finished => 3
  | shared => 4
  | failed => 5

def isFinished : BundleStatus → Bool
  | downloaded | hashing | finished | shared => true
  | queued | failed => false

end BundleStatus

/-- Sizes, byte counts and times fit a 64-bit word, tokens and counts of sources a 32-bit word. -/
structure Bundle where
  token : Nat := 0
  name : String := ""
  /-- The path that is downloaded to. -/
  target : String := ""
  isFile : Bool := false
  timeAdded : Nat := 0
  size : Nat := 0
  downloaded : Nat := 0
  /-- Bytes per second. -/
  speed : Nat := 0
  priority : Priority := .normal
  status : BundleStatus := .queued
  /-- Zero until the download is complete. -/
  timeFinished : Nat := 0
  onlineSources : Nat := 0
  totalSources : Nat := 0
  /-- Whether progress was recorded that has not been reported yet. -/
  unreported : Bool := false
  deriving Inhabited

def fileTypeText (isFile : Bool) (name : String) : String :=
  if isFile then
    let ending := (name.toList.reverse.takeWhile (· != '.')).reverse
    if name.toList.contains '.' && !ending.isEmpty then String.ofList (Text.lower ending)
    else "File"
  else "Directory"

namespace Bundle

def nameId : PropertyId := 0
def targetId : PropertyId := 1
def typeId : PropertyId := 2
def sizeId : PropertyId := 3
def statusId : PropertyId := 4
def downloadedId : PropertyId := 5
def priorityId : PropertyId := 6
def timeAddedId : PropertyId := 7
def timeFinishedId : PropertyId := 8
def speedId : PropertyId := 9
def secondsLeftId : PropertyId := 10
def sourcesId : PropertyId := 11

def properties : PropertyTable := [
  ⟨nameId, "name", .text, .custom, .text⟩,
  .text targetId "target",
  .custom typeId "type" .custom,
  .numeric sizeId "size" .size,
  .custom statusId "status" .custom,
  .numeric downloadedId "downloaded_bytes" .size,
  .custom priorityId "priority" .custom,
  .numeric timeAddedId "time_added" .time,
  .numeric timeFinishedId "time_finished" .time,
  .numeric speedId "speed" .speed,
  .numeric secondsLeftId "seconds_left" .time,
  .custom sourcesId "sources" .custom]

def secondsLeft (bundle : Bundle) : Nat :=
  if bundle.speed = 0 then 0 else (bundle.size - bundle.downloaded) / bundle.speed

def isFinished (bundle : Bundle) : Bool := bundle.status.isFinished

def progress (bundle : Bundle) : Float :=
  if bundle.size = 0 then 0 else Float.ofNat bundle.downloaded / Float.ofNat bundle.size

def percent (bundle : Bundle) : Float :=
  if bundle.size = 0 then 0
  else Float.ofNat bundle.downloaded * 100 / Float.ofNat bundle.size

def statusText (bundle : Bundle) : String :=
  match bundle.status with
  | .queued =>
      if bundle.priority.isPaused then "Paused"
      else if 0 < bundle.speed then "Downloading (" ++ Decimal.fixed 1 bundle.percent ++ "%)"
      else "Queued"
  | .downloaded => "Downloaded"
  | .hashing => "Hashing"
  | .finished => "Finished"
  | .shared => "Shared"
  | .failed => "Failed"

def typeText (bundle : Bundle) : String := fileTypeText bundle.isFile bundle.name

def sourcesText (bundle : Bundle) : String :=
  toString bundle.onlineSources ++ "/" ++ toString bundle.totalSources ++ " online"

def number (bundle : Bundle) (id : PropertyId) : Float :=
  if id = sizeId then Float.ofNat bundle.size
  else if id = downloadedId then Float.ofNat bundle.downloaded
  else if id = priorityId then Float.ofInt bundle.priority.id
  else if id = timeAddedId then Float.ofNat bundle.timeAdded
  else if id = timeFinishedId then Float.ofNat bundle.timeFinished
  else if id = speedId then Float.ofNat bundle.speed
  else if id = secondsLeftId then Float.ofNat bundle.secondsLeft
  else 0

def text (bundle : Bundle) (id : PropertyId) : String :=
  if id = nameId then bundle.name
  else if id = targetId then bundle.target
  else if id = typeId then bundle.typeText
  else if id = statusId then bundle.statusText
  else if id = priorityId then bundle.priority.name
  else if id = sourcesId then bundle.sourcesText
  else Decimal.plain (bundle.number id)

def order (a b : Bundle) (id : PropertyId) : Ordering :=
  if id = nameId ∨ id = typeId then
    (compare a.isFile b.isFile).then (Text.compareFolded (a.text id) (b.text id))
  else if id = statusId then
    (compare a.status.rank b.status.rank).then (compareNumbers a.progress b.progress)
  else if id = priorityId then compare a.priority.id b.priority.id
  else if id = sourcesId then
    (compare a.onlineSources b.onlineSources).then (compare a.totalSources b.totalSources)
  else .eq

def custom (bundle : Bundle) (id : PropertyId) : Json :=
  if id = typeId then
    Json.ofFields [("id", .string (if bundle.isFile then "file" else "directory")),
      ("str", .string bundle.typeText)]
  else if id = statusId then
    Json.ofFields [("id", .string bundle.status.id), ("finished", .bool bundle.isFinished),
      ("str", .string bundle.statusText)]
  else if id = priorityId then
    Json.ofFields [("id", .integer bundle.priority.id), ("str", .string bundle.priority.name)]
  else if id = sourcesId then
    Json.ofFields [("online", .ofNat bundle.onlineSources), ("total", .ofNat bundle.totalSources),
      ("str", .string bundle.sourcesText)]
  else .null

def handler : Handler Bundle where
  table := properties
  key := token
  number := number
  text := text
  order := order
  custom := custom

end Bundle

end LiveList
