import LiveList.Share.Path
import LiveList.Share.Root
import LiveList.Source.Catalog
import LiveList.Error
import LiveList.Text.Blank

/-!
The shared directories. None of them lies within another one, and every change is reported at once.
-/

namespace LiveList

abbrev Share := Catalog ShareRoot

/-- Fields of a root that can be edited; what is absent stays as it is. -/
structure RootUpdate where
  virtualName : Option String := none
  profiles : Option (List Nat) := none
  incoming : Option Bool := none

def RootUpdate.isEmpty (update : RootUpdate) : Bool :=
  update.virtualName.isNone && update.profiles.isNone && update.incoming.isNone

namespace Share

def missing (token : Nat) : SourceError := .notFound "Share root" (toString token)

def find (share : Share) (token : Nat) : Except SourceError ShareRoot :=
  match share.get? token with
  | some root => .ok root
  | none => .error (missing token)

def checkVirtualName (name : String) : Except SourceError String :=
  let trimmed := Text.trim name.toList
  if trimmed.isEmpty then .error (.invalidField "virtual_name" "the virtual name can't be empty")
  else if trimmed.any Path.isSeparator then
    .error (.invalidField "virtual_name" "the virtual name can't contain path separators")
  else .ok (String.ofList trimmed)

def checkProfiles (profiles : List Nat) : Except SourceError (List Nat) :=
  if profiles.isEmpty then
    .error (.invalidField "profiles" "at least one share profile is required")
  else .ok profiles

def defaultVirtualName (path : String) : String :=
  let name := Path.lastPart (Path.trimEnd path.toList)
  if name.isEmpty then path else String.ofList name

def checkGiven {Value : Type} (given : Option Value)
    (check : Value → Except SourceError Value) : Except SourceError (Option Value) :=
  match given with
  | some value => (check value).map some
  | none => .ok none

def addRoot (share : Share) (path : String) (update : RootUpdate) :
    Except SourceError (Published Share Nat) := do
  if path.isEmpty then throw (.invalidField "path" "the path can't be empty")
  else
    let virtualName ←
      match update.virtualName with
      | some name => checkVirtualName name
      | none => pure (defaultVirtualName path)
    let profiles ← checkProfiles (update.profiles.getD [])
    if share.items.any fun root => Path.overlap root.path.toList path.toList then
      throw (.duplicate "path" path)
    else
      let token := share.nextToken
      let root : ShareRoot :=
        { token, path, virtualName, profiles, incoming := update.incoming.getD false }
      pure ⟨share.add root, [.added token], token⟩

/-- Edits a root, and gives the properties that have a new value. Only these are reported. -/
def updateRoot (share : Share) (token : Nat) (update : RootUpdate) :
    Except SourceError (Published Share PropertySet) := do
  let root ← share.find token
  let virtualName ← checkGiven update.virtualName checkVirtualName
  let profiles ← checkGiven update.profiles checkProfiles
  let edited := { root with
    virtualName := virtualName.getD root.virtualName
    profiles := profiles.getD root.profiles
    incoming := update.incoming.getD root.incoming }
  let changed :=
    (if edited.virtualName = root.virtualName then [] else [ShareRoot.virtualNameId]) ++
    (if edited.profiles = root.profiles then [] else [ShareRoot.profilesId]) ++
    (if edited.incoming = root.incoming then [] else [ShareRoot.incomingId])
  pure
    { owner := share.modify token fun _ => edited
      events := if changed.isEmpty then [] else [.updated token changed]
      result := changed }

def removeRoot (share : Share) (token : Nat) : Except SourceError (Published Share ShareRoot) := do
  let root ← share.find token
  pure ⟨share.drop token, [.removed token], root⟩

def tokenOfPath? (share : Share) (path : String) : Option Nat :=
  (share.tokensWhere (·.path == path)).head?

def beginRefresh (share : Share) (token : Nat) : Except SourceError (Published Share Unit) := do
  let root ← share.find token
  if root.refreshState = .running then
    throw (.invalidState ("Share root " ++ toString token ++ " is already being refreshed"))
  else
    pure
      { owner := share.modify token fun _ => { root with refreshState := .running }
        events := [.updated token [ShareRoot.refreshStateId]]
        result := () }

def finishRefresh (share : Share) (now token size files directories : Nat) :
    Except SourceError (Published Share Unit) := do
  let root ← share.find token
  let scanned := { root with
    size, files, directories, lastRefreshTime := now, refreshState := .normal }
  pure
    { owner := share.modify token fun _ => scanned
      events := [.updated token (PropertySet.ofIds
        [ShareRoot.sizeId, ShareRoot.typeId, ShareRoot.lastRefreshTimeId,
          ShareRoot.refreshStateId])]
      result := () }

end Share

end LiveList
