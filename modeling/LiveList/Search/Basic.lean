import LiveList.Filter.Basic
import LiveList.Search.Result
import LiveList.Source.Catalog

/-!
A search and its results. Results for the same content are merged into one, which then has one more
source. A new search drops the results of the one before it.
-/

namespace LiveList

structure IncomingResult where
  tth : String
  /-- The full path; that of a directory ends with a separator. -/
  path : String
  size : Nat := 0
  isDirectory : Bool := false
  user : String
  hubUrl : String
  freeSlots : Nat := 0
  totalSlots : Nat := 0
  connection : Float := 0
  date : Nat := 0

inductive Rejection where
  /-- No search term stands in the name. -/
  | noMatch
  /-- The user reported the result before. -/
  | duplicate
  deriving DecidableEq, Repr

def Rejection.message : Rejection → String
  | noMatch => "The result doesn't match the search terms"
  | duplicate => "The result has been received from this user already"

structure Search where
  /-- The search terms in lower case. -/
  terms : List String := []
  results : Catalog SearchResult := {}
  /-- The token of the result for each content. -/
  byTth : List (String × Nat) := []

namespace Search

/-- The part of the terms that stand in a name. Without terms every name fits. -/
def matchRelevance (terms : List String) (name : String) : Float :=
  if terms.isEmpty then 1
  else
    let lowered := Text.lower name.toList
    let found := terms.filter fun term => TextMatcher.standsIn term.toList lowered
    Float.ofNat found.length / Float.ofNat terms.length

/-- The last part of a path; separators at the end of a directory's path do not count. -/
def resultName (path : String) (isDirectory : Bool) : String :=
  let path := path.toList
  String.ofList (Path.lastPart (if isDirectory then Path.trimEnd path else path))

def parentPath (path name : String) : String :=
  match Path.lastIndexOf? name.toList path.toList with
  | some place => String.ofList (path.toList.take place)
  | none => ""

def dropResults (search : Search) : Search × List ItemEvent :=
  let tokens := search.results.tokens
  ({ search with results := tokens.foldl Catalog.drop search.results, byTth := [] },
    tokens.map .removed)

def start (search : Search) (query : String) : Published Search Unit :=
  -- Words are split off before their case is lowered, so a final sigma is judged by word.
  let terms := (Text.words query.toList).map fun word => String.ofList (Text.lower word)
  let (search, events) := { search with terms }.dropResults
  ⟨search, events, ()⟩

def clear (search : Search) : Published Search Nat :=
  let (cleared, events) := search.dropResults
  ⟨cleared, events, events.length⟩

def mergeProperties : PropertySet :=
  PropertySet.ofIds [SearchResult.hitsId, SearchResult.usersId, SearchResult.relevanceId,
    SearchResult.slotsId, SearchResult.connectionId]

def resultOf? (search : Search) (tth : String) : Option SearchResult :=
  (Assoc.get? search.byTth tth).bind search.results.get?

/-- Takes in a result, or merges it with an earlier one for the same content. -/
def addResult (search : Search) (incoming : IncomingResult) :
    Except Rejection (Published Search Nat) :=
  let source : ResultSource :=
    { user := incoming.user
      hubUrl := incoming.hubUrl
      freeSlots := incoming.freeSlots
      totalSlots := incoming.totalSlots
      connection := incoming.connection }
  match search.resultOf? incoming.tth with
  | some result =>
      if result.hasSource source.user source.hubUrl then .error .duplicate
      else
        let merged := { result with sources := result.sources ++ [source] }
        .ok
          { owner := { search with
              results := search.results.modify result.token fun _ => merged }
            events := [.updated result.token mergeProperties]
            result := result.token }
  | none =>
      let name := resultName incoming.path incoming.isDirectory
      let relevance := matchRelevance search.terms name
      if relevance == 0 then .error .noMatch
      else
        let token := search.results.nextToken
        let result : SearchResult :=
          { token
            tth := incoming.tth
            name
            path := parentPath incoming.path name
            size := incoming.size
            isDirectory := incoming.isDirectory
            date := incoming.date
            matchRelevance := relevance
            sources := [source] }
        .ok
          { owner := { search with
              results := search.results.add result
              byTth := Assoc.set incoming.tth token search.byTth }
            events := [.added token]
            result := token }

end Search

end LiveList
