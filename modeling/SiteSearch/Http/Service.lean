import SiteSearch.Config.Basic
import SiteSearch.Digest.Hash
import SiteSearch.Http.Credentials
import SiteSearch.Http.MediaType
import SiteSearch.Http.Origin
import SiteSearch.Http.Percent
import SiteSearch.Http.Route
import SiteSearch.Metrics
import SiteSearch.Wire.Search
import SiteSearch.Wire.Status
import SiteSearch.Wire.Config

-- The service: requests pass the origin rules, the rate limit and the key before a route
-- answers them. Only a search touches the session.
namespace SiteSearch.Http

structure Service where
  search : SearchConfig
  origins : OriginPolicy
  key : Option String

structure State where
  session : Session
  -- how many requests may still pass; `none` for no limit
  permits : Option Nat

abbrev Handler := Request → State → Response × State

def Service.ofConfig (config : Config) (key : Option String) : Service :=
  { search := config.search
    origins := .ofSetting config.server.corsOrigins
    key := keyOfSetting key }

-- A burst may take as many permits as the limit grants in a second.
def permitsOf (rateLimit : UInt32) : Option Nat :=
  if rateLimit = 0 then none else some rateLimit.toNat

def State.ofConfig (config : Config) (session : Session) : State :=
  { session, permits := permitsOf config.server.rateLimit }

-- Only a query that cannot be searched is the client's fault.
def statusOf : SearchError → Status
  | .invalidQuery _ => .badRequest
  | _ => .serverError

def searchReply (query : String) : Except SearchError Outcome → Response
  | .ok outcome => .json .ok (Wire.ofSearchReply (.ofOutcome outcome))
  | .error fault => .json (statusOf fault) (Wire.ofSearchReply (.ofFault query fault))

def runSearch (search : SearchConfig) (query : String) (limit : Option Nat) (state : State) :
    Response × State :=
  let (found, session) := state.session.search query (search.resolveLimit limit)
  (searchReply query found, { state with session })

def maxBodyBytes : Nat := 2 * 1024 * 1024

def statusOfFault : Json.Fault → Status
  | .malformed => .badRequest
  | .mismatched => .unprocessable

def requestedSearch (request : Request) : Except Status Wire.SearchRequest :=
  let typed := ((request.header? "content-type").filter isPlainText).any isJsonType
  if !typed then .error .unsupportedMediaType
  else if request.body.length > maxBodyBytes then .error .bodyTooLarge
  else
    match Json.decodeBytes Wire.searchRequest request.body with
    | .ok search => .ok search
    | .error fault => .error (statusOfFault fault)

def requestedLimit (queryString : List Char) : Except Status (Option Nat) :=
  match (formPairs queryString).filter (·.1 = "limit") with
  | [] => .ok none
  | [(_, value)] =>
    match (Text.signedDecimal? value.toList).filter (· < UInt64.size) with
    | some limit => .ok (some limit)
    | none => .error .badRequest
  | _ => .error .badRequest

def searchInPath (segment queryString : List Char) : Except Status Wire.SearchRequest := do
  match decodeSegment? segment with
  | none => throw .badRequest
  | some query => pure { query, limit := ← requestedLimit queryString }

def answerSearch (search : SearchConfig) (asked : Except Status Wire.SearchRequest)
    (state : State) : Response × State :=
  match asked with
  | .ok asked => runSearch search asked.query asked.limit state
  | .error status => (.refusal status, state)

def statusReport (store : Store) : Response :=
  .json .ok (Wire.ofStatusReport (.of (.ofStore store)))

def weightsReport (engine : Engine) : Response :=
  .json .ok (Wire.ofWeightsReport (.of engine.weights))

def hashReport (store : Store) : Response :=
  .json .ok (Wire.ofHashReply (.ofDigest (Digest.checksum store) (Digest.hashText store)))

def Route.answer (search : SearchConfig) (route : Route) : Handler := fun request state =>
  match route with
  | .health => (.json .ok (Wire.ofHealth .now), state)
  | .status => (statusReport state.session.store, state)
  | .weights => (weightsReport state.session.engine, state)
  | .hash => (hashReport state.session.store, state)
  | .search => answerSearch search (requestedSearch request) state
  | .searchFor segment =>
    answerSearch search (searchInPath segment request.queryString) state

def dispatch (search : SearchConfig) : Handler := fun request state =>
  match Route.ofPath? request.path with
  | none => ({ status := .notFound }, state)
  | some route =>
    if route.admits request.method then route.answer search request state
    else ({ status := .methodNotAllowed }, state)

def keyLayer (key : Option String) (inner : Handler) : Handler := fun request state =>
  if authorized key request then inner request state
  else (.refusal .unauthorized, state)

def limitLayer (inner : Handler) : Handler := fun request state =>
  match state.permits with
  | none => inner request state
  | some 0 => (.refusal .tooManyRequests, state)
  | some (left + 1) => inner request { state with permits := some left }

def originLayer (policy : OriginPolicy) (inner : Handler) : Handler := fun request state =>
  if request.method = .options then
    ({ status := .ok, headers := policy.allowedHeader request ++ policy.preflightHeaders }, state)
  else
    let (response, state) := inner request state
    ({ response with headers := response.headers ++ policy.allowedHeader request }, state)

-- Whatever answers a wrong method, the methods of the path are listed.
def listMethods (route : Route) (method : Method) (response : Response) : Response :=
  if route.admits method then response else response.withHeader "allow" route.methods

-- Only a known path lists its methods. HEAD is answered without a body on a known path and on
-- what is no path from the root; on an unknown path the answer stands as it is.
def complete (request : Request) (response : Response) : Response :=
  match Route.ofPath? request.path with
  | some route =>
    let response := listMethods route request.method response
    if request.method = .head then response.withoutBody else response
  | none =>
    if request.method = .head && !request.isRooted then response.withoutBody else response

namespace Service

def layers (service : Service) : Handler :=
  originLayer service.origins (limitLayer (keyLayer service.key (dispatch service.search)))

def respond (service : Service) : Handler := fun request state =>
  let (response, state) := service.layers request state
  (complete request response, state)

def respondAll (service : Service) (state : State) : List Request → List Response × State
  | [] => ([], state)
  | request :: rest =>
    let (response, state) := service.respond request state
    let (responses, state) := service.respondAll state rest
    (response :: responses, state)

end Service

end SiteSearch.Http
