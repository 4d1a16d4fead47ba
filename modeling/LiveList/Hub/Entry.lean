import LiveList.Decimal.Layout
import LiveList.Handler

/-!
Favorite hubs: saved addresses with settings of their own, and their properties.
-/

namespace LiveList

inductive ConnectState where
  | disconnected
  | connecting
  | connected
  deriving DecidableEq, Repr

namespace ConnectState

def id : ConnectState → Nat
  | disconnected => 0
  | connecting => 1
  | connected => 2

def ofId? : Nat → Option ConnectState
  | 0 => some disconnected
  | 1 => some connecting
  | 2 => some connected
  | _ => none

def name : ConnectState → String
  | disconnected => "Disconnected"
  | connecting => "Connecting"
  | connected => "Connected"

end ConnectState

structure FavoriteHub where
  token : Nat := 0
  name : String := ""
  url : String := ""
  description : String := ""
  autoConnect : Bool := false
  /-- The share profile used here in place of the default one. -/
  shareProfile : Option Nat := none
  connectState : ConnectState := .disconnected
  /-- Empty for the nick used everywhere else. -/
  nick : String := ""
  password : String := ""
  userDescription : String := ""
  ignorePrivateMessages : Bool := false
  deriving Inhabited

namespace FavoriteHub

def nameId : PropertyId := 0
def urlId : PropertyId := 1
def descriptionId : PropertyId := 2
def autoConnectId : PropertyId := 3
def shareProfileId : PropertyId := 4
def connectStateId : PropertyId := 5
def nickId : PropertyId := 6
def hasPasswordId : PropertyId := 7
def userDescriptionId : PropertyId := 8
def ignorePrivateMessagesId : PropertyId := 9

def properties : PropertyTable := [
  .text nameId "name",
  .text urlId "hub_url",
  .text descriptionId "hub_description",
  .boolean autoConnectId "auto_connect",
  ⟨shareProfileId, "share_profile", .text, .text, .custom⟩,
  ⟨connectStateId, "connect_state", .numeric, .numeric, .custom⟩,
  .text nickId "nick",
  .boolean hasPasswordId "has_password",
  .text userDescriptionId "user_description",
  .boolean ignorePrivateMessagesId "ignore_private_messages"]

def isAdcUrl (url : String) : Bool :=
  let lowered := Text.lowerAscii url.toList
  "adc://".toList.isPrefixOf lowered || "adcs://".toList.isPrefixOf lowered

def isAdc (hub : FavoriteHub) : Bool := isAdcUrl hub.url

def hasPassword (hub : FavoriteHub) : Bool := !hub.password.isEmpty

def shareProfileText (hub : FavoriteHub) : String :=
  match hub.shareProfile with
  | some profile => "Profile " ++ toString profile
  | none => "Default"

def flagNumber (flag : Bool) : Float := if flag then 1 else 0

def number (hub : FavoriteHub) (id : PropertyId) : Float :=
  if id = autoConnectId then flagNumber hub.autoConnect
  else if id = connectStateId then Float.ofNat hub.connectState.id
  else if id = hasPasswordId then flagNumber hub.hasPassword
  else if id = ignorePrivateMessagesId then flagNumber hub.ignorePrivateMessages
  else 0

def text (hub : FavoriteHub) (id : PropertyId) : String :=
  if id = nameId then hub.name
  else if id = urlId then hub.url
  else if id = descriptionId then hub.description
  else if id = shareProfileId then hub.shareProfileText
  else if id = connectStateId then hub.connectState.name
  else if id = nickId then hub.nick
  else if id = userDescriptionId then hub.userDescription
  else Decimal.plain (hub.number id)

def custom (hub : FavoriteHub) (id : PropertyId) : Json :=
  if id = shareProfileId then
    Json.ofFields [("id", (hub.shareProfile.map Json.ofNat).getD .null),
      ("str", .string hub.shareProfileText)]
  else if id = connectStateId then
    Json.ofFields [("id", .ofNat hub.connectState.id), ("str", .string hub.connectState.name)]
  else .null

def handler : Handler FavoriteHub where
  table := properties
  key := token
  number := number
  text := text
  order _ _ _ := .eq
  custom := custom

end FavoriteHub

end LiveList
