import LiveList.Queue.Bundle
import LiveList.Share.Path

/-!
Search results: content that other users offer, and its properties. A result has one or more
sources, which are users on hubs.
-/

namespace LiveList

structure ResultSource where
  user : String
  hubUrl : String
  freeSlots : Nat
  totalSlots : Nat
  /-- Bytes per second, as the user reported it. -/
  connection : Float

structure SearchResult where
  token : Nat := 0
  /-- The hash that identifies the content. -/
  tth : String := ""
  name : String := ""
  /-- The path of the directory that holds it. -/
  path : String := ""
  size : Nat := 0
  isDirectory : Bool := false
  date : Nat := 0
  /-- The part of the search terms that stand in the name. -/
  matchRelevance : Float := 0
  /-- In the order in which they reported. -/
  sources : List ResultSource := []
  deriving Inhabited

namespace SearchResult

def nameId : PropertyId := 0
def pathId : PropertyId := 1
def sizeId : PropertyId := 2
def typeId : PropertyId := 3
def relevanceId : PropertyId := 4
def hitsId : PropertyId := 5
def usersId : PropertyId := 6
def dateId : PropertyId := 7
def slotsId : PropertyId := 8
def connectionId : PropertyId := 9

def properties : PropertyTable := [
  .text nameId "name",
  .text pathId "path",
  .numeric sizeId "size" .size,
  .custom typeId "type" .custom,
  .numeric relevanceId "relevance" .numeric,
  .numeric hitsId "hits" .numeric,
  .custom usersId "users" .custom,
  .numeric dateId "date" .time,
  .custom slotsId "slots" .custom,
  .numeric connectionId "connection" .speed]

def hits (result : SearchResult) : Nat := result.sources.length

def users (result : SearchResult) : List String := result.sources.map (·.user)

def hubUrls (result : SearchResult) : List String := result.sources.map (·.hubUrl)

def totalRelevance (result : SearchResult) : Float :=
  Float.ofNat result.hits * 0.3 + result.matchRelevance * 0.7

/-- The order of pairs of slots: free slots count before all slots. -/
def compareSlots (a b : Nat × Nat) : Ordering := (compare a.1 b.1).then (compare a.2 b.2)

def slots (result : SearchResult) : Nat × Nat :=
  result.sources.foldl (fun best source =>
    let offered := (source.freeSlots, source.totalSlots)
    if compareSlots best offered = .gt then best else offered) (0, 0)

/-- The fastest connection among the users; what is not a number is left out. -/
def connection (result : SearchResult) : Float :=
  result.sources.foldl (fun best source =>
    if best < source.connection then source.connection else best) 0

def hasSource (result : SearchResult) (user hubUrl : String) : Bool :=
  result.sources.any fun source => source.user == user && source.hubUrl == hubUrl

def typeText (result : SearchResult) : String := fileTypeText (!result.isDirectory) result.name

def usersText (result : SearchResult) : String :=
  match result.users with
  | [] => ""
  | [only] => only
  | first :: rest => toString (rest.length + 1) ++ " users (" ++ first ++ ", ...)"

def slotsText (result : SearchResult) : String :=
  toString result.slots.1 ++ "/" ++ toString result.slots.2

def number (result : SearchResult) (id : PropertyId) : Float :=
  if id = sizeId then Float.ofNat result.size
  else if id = relevanceId then result.totalRelevance
  else if id = hitsId then Float.ofNat result.hits
  else if id = dateId then Float.ofNat result.date
  else if id = connectionId then result.connection
  else 0

def text (result : SearchResult) (id : PropertyId) : String :=
  if id = nameId then result.name
  else if id = pathId then result.path
  else if id = typeId then result.typeText
  else if id = usersId then result.usersText
  else if id = slotsId then result.slotsText
  else Decimal.plain (result.number id)

/-- Directories stand before files, whatever their kind. -/
def order (a b : SearchResult) (id : PropertyId) : Ordering :=
  if id = typeId then
    (compare b.isDirectory a.isDirectory).then (Text.compareFolded a.typeText b.typeText)
  else if id = usersId then
    (compare a.hits b.hits).then (Text.compareFolded a.usersText b.usersText)
  else if id = slotsId then compareSlots a.slots b.slots
  else .eq

def custom (result : SearchResult) (id : PropertyId) : Json :=
  if id = typeId then
    Json.ofFields [("id", .string (if result.isDirectory then "directory" else "file")),
      ("str", .string result.typeText)]
  else if id = usersId then
    Json.ofFields [("count", .ofNat result.hits),
      ("user", (result.users.head?.map Json.string).getD .null),
      ("str", .string result.usersText)]
  else if id = slotsId then
    Json.ofFields [("free", .ofNat result.slots.1), ("total", .ofNat result.slots.2),
      ("str", .string result.slotsText)]
  else .null

def handler : Handler SearchResult where
  table := properties
  key := token
  number := number
  text := text
  order := order
  custom := custom

end SearchResult

end LiveList
