import LiveList.Hub.Entry
import LiveList.Source.Catalog
import LiveList.Error
import LiveList.Text.Blank

/-!
The list of favorite hubs. Addresses are unique without regard to the case of ASCII letters, and
every change is reported at once.
-/

namespace LiveList

abbrev HubList := Catalog FavoriteHub

/-- Fields of a hub that can be edited; what is absent stays as it is. A share profile can also be
reset to the default. -/
structure HubUpdate where
  name : Option String := none
  url : Option String := none
  description : Option String := none
  autoConnect : Option Bool := none
  shareProfile : Option (Option Nat) := none
  nick : Option String := none
  password : Option String := none
  userDescription : Option String := none
  ignorePrivateMessages : Option Bool := none

namespace HubUpdate

/-- Edits a hub; the first invalid field refuses all of it. Share profiles are for ADC hubs only,
and the address that counts is the new one. -/
def apply (update : HubUpdate) (hub : FavoriteHub) : Except SourceError FavoriteHub :=
  let blank (text : Option String) : Bool := text.any fun text => (Text.trim text.toList).isEmpty
  let url := update.url.getD hub.url
  if blank update.name then .error (.invalidField "name" "the name can't be empty")
  else if blank update.url then .error (.invalidField "hub_url" "the address can't be empty")
  else if (update.shareProfile.any (·.isSome)) && !FavoriteHub.isAdcUrl url then
    .error (.invalidField "share_profile" "share profiles can't be changed for NMDC hubs")
  else
    .ok { hub with
      name := update.name.getD hub.name
      url
      description := update.description.getD hub.description
      autoConnect := update.autoConnect.getD hub.autoConnect
      shareProfile := update.shareProfile.getD hub.shareProfile
      nick := update.nick.getD hub.nick
      password := update.password.getD hub.password
      userDescription := update.userDescription.getD hub.userDescription
      ignorePrivateMessages := update.ignorePrivateMessages.getD hub.ignorePrivateMessages }

end HubUpdate

namespace HubList

def missing (token : Nat) : SourceError := .notFound "Hub" (toString token)

def find (hubs : HubList) (token : Nat) : Except SourceError FavoriteHub :=
  match hubs.get? token with
  | some hub => .ok hub
  | none => .error (missing token)

def isTaken (hubs : HubList) (url : String) (except : Option Nat) : Bool :=
  hubs.items.any fun hub => some hub.token != except && Text.sameAscii hub.url url

def addHub (hubs : HubList) (update : HubUpdate) : Except SourceError (Published HubList Nat) := do
  if update.name.isNone then throw (.invalidField "name" "field is required")
  else if update.url.isNone then throw (.invalidField "hub_url" "field is required")
  else
    let token := hubs.nextToken
    let hub ← update.apply { token }
    if hubs.isTaken hub.url none then throw (.duplicate "hub_url" hub.url)
    else pure ⟨hubs.add hub, [.added token], token⟩

/-- Edits a hub. All properties are reported. -/
def updateHub (hubs : HubList) (token : Nat) (update : HubUpdate) :
    Except SourceError (Published HubList Unit) := do
  let hub ← hubs.find token
  -- An address that is taken is reported before the fields are checked.
  match update.url with
  | some url => if hubs.isTaken url (some token) then throw (.duplicate "hub_url" url)
  | none => pure ()
  let edited ← update.apply hub
  pure
    { owner := hubs.modify token fun _ => edited
      events := [.updated token FavoriteHub.properties.ids]
      result := () }

def removeHub (hubs : HubList) (token : Nat) :
    Except SourceError (Published HubList FavoriteHub) := do
  let hub ← hubs.find token
  pure ⟨hubs.drop token, [.removed token], hub⟩

def setConnectState (hubs : HubList) (token : Nat) (state : ConnectState) :
    Except SourceError (Published HubList Unit) := do
  let hub ← hubs.find token
  if hub.connectState = state then pure (.unchanged hubs ())
  else
    pure
      { owner := hubs.modify token fun _ => { hub with connectState := state }
        events := [.updated token [FavoriteHub.connectStateId]]
        result := () }

def tokenOfUrl? (hubs : HubList) (url : String) : Option Nat :=
  (hubs.tokensWhere fun hub => Text.sameAscii hub.url url).head?

end HubList

end LiveList
