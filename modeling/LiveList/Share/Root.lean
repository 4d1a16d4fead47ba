import LiveList.Decimal.Layout
import LiveList.Handler

/-!
Share roots: directories that are published to other users under a virtual name, and their
properties.
-/

namespace LiveList

inductive RefreshState where
  | normal
  | pending
  | running
  deriving DecidableEq, Repr

namespace RefreshState

def id : RefreshState → Nat
  | normal => 0
  | pending => 1
  | running => 2

def name : RefreshState → String
  | normal => "Normal"
  | pending => "Refresh pending"
  | running => "Refreshing"

end RefreshState

structure ShareRoot where
  token : Nat := 0
  path : String := ""
  virtualName : String := ""
  /-- The profiles the directory is published in, in ascending order. -/
  profiles : List Nat := []
  /-- Whether finished downloads may be moved here. -/
  incoming : Bool := false
  size : Nat := 0
  files : Nat := 0
  directories : Nat := 0
  lastRefreshTime : Nat := 0
  refreshState : RefreshState := .pending
  deriving Inhabited

namespace ShareRoot

def pathId : PropertyId := 0
def virtualNameId : PropertyId := 1
def sizeId : PropertyId := 2
def profilesId : PropertyId := 3
def incomingId : PropertyId := 4
def lastRefreshTimeId : PropertyId := 5
def refreshStateId : PropertyId := 6
def typeId : PropertyId := 7

def properties : PropertyTable := [
  .text pathId "path",
  .text virtualNameId "virtual_name",
  .numeric sizeId "size" .size,
  .custom profilesId "profiles" .none,
  .boolean incomingId "incoming",
  .numeric lastRefreshTimeId "last_refresh_time" .time,
  .custom refreshStateId "refresh_state" .numeric,
  .custom typeId "type" .custom]

def contentText (root : ShareRoot) : String :=
  toString root.directories ++ " folders, " ++ toString root.files ++ " files"

def profilesText (root : ShareRoot) : String :=
  String.intercalate ", " (root.profiles.map toString)

def number (root : ShareRoot) (id : PropertyId) : Float :=
  if id = sizeId then Float.ofNat root.size
  else if id = incomingId then if root.incoming then 1 else 0
  else if id = lastRefreshTimeId then Float.ofNat root.lastRefreshTime
  else if id = refreshStateId then Float.ofNat root.refreshState.id
  else 0

def text (root : ShareRoot) (id : PropertyId) : String :=
  if id = pathId then root.path
  else if id = virtualNameId then root.virtualName
  else if id = profilesId then root.profilesText
  else if id = refreshStateId then root.refreshState.name
  else if id = typeId then root.contentText
  else Decimal.plain (root.number id)

/-- By content: directories count before files, and equal contents are put in order by path. -/
def order (a b : ShareRoot) (id : PropertyId) : Ordering :=
  if id = typeId then
    ((compare a.directories b.directories).then (compare a.files b.files)).then
      (Text.compareFolded a.path b.path)
  else .eq

def custom (root : ShareRoot) (id : PropertyId) : Json :=
  if id = profilesId then .list (root.profiles.map .ofNat)
  else if id = refreshStateId then
    Json.ofFields [("id", .ofNat root.refreshState.id), ("str", .string root.refreshState.name)]
  else if id = typeId then
    Json.ofFields [("files", .ofNat root.files), ("directories", .ofNat root.directories),
      ("str", .string root.contentText)]
  else .null

def handler : Handler ShareRoot where
  table := properties
  key := token
  number := number
  text := text
  order := order
  custom := custom

end ShareRoot

end LiveList
