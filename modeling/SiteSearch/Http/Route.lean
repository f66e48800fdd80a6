import SiteSearch.Http.Message

-- The routes of the service.
namespace SiteSearch.Http

inductive Route where
  | health
  | status
  | weights
  | hash
  | search
  -- a search with the query in the path, as it is written there
  | searchFor (segment : List Char)
  deriving DecidableEq

namespace Route

def searchStem : List Char := "/search/".toList

def ofPath? (path : List Char) : Option Route :=
  if path = "/health".toList then some .health
  else if path = "/status".toList then some .status
  else if path = "/weights".toList then some .weights
  else if path = "/hash".toList then some .hash
  else if path = "/search".toList then some .search
  else if searchStem.isPrefixOf path then
    let segment := path.drop searchStem.length
    if segment.isEmpty || segment.contains '/' then none else some (.searchFor segment)
  else none

def admits : Route → Method → Bool
  | .search, .post => true
  | .search, _ => false
  | _, .get | _, .head => true
  | _, _ => false

def methods : Route → String
  | .search => "POST"
  | _ => "GET,HEAD"

end Route

end SiteSearch.Http
