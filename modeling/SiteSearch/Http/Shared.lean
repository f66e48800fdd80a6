import SiteSearch.Http.Service
import SiteSearch.Stepwise

-- Requests answered side by side over one session, without a limit on their rate. Any number
-- of them may hold the session to read it, or one alone to change it: a search holds it from
-- before it clears the scores until its hits are copied, and in between it goes on move by move,
-- so that others would see half-written scores if they were let in.
namespace SiteSearch.Http

inductive Access where
  | nothing
  | reading
  | changing
  deriving DecidableEq

def Service.reached? (service : Service) (request : Request) : Option Route :=
  if request.method = .options ∨ !authorized service.key request then none
  else (Route.ofPath? request.path).filter (·.admits request.method)

def Service.asked? (service : Service) (request : Request) : Option Wire.SearchRequest :=
  match service.reached? request with
  | some .search => (requestedSearch request).toOption
  | some (.searchFor segment) => (searchInPath segment request.queryString).toOption
  | _ => none

def Service.access (service : Service) (request : Request) : Access :=
  if (service.asked? request).isSome then .changing
  else
    match service.reached? request with
    | some .status | some .weights | some .hash => .reading
    | _ => .nothing

def Service.wrap (service : Service) (request : Request) (response : Response) : Response :=
  complete request
    { response with headers := response.headers ++ service.origins.allowedHeader request }

inductive Stage where
  | arrived
  -- it holds what it needs of the session
  | admitted
  -- it is changing the scores, for a query as it was asked
  | scoring (query : String) (search : Search)
  | answered (response : Response)

structure Visit where
  request : Request
  stage : Stage

structure Pool where
  session : Session
  visits : List Visit

-- The visit at a place is let in to the session, or makes its next move there; with its last move
-- it is answered and leaves.
inductive Event where
  | enter (place : Nat)
  | move (place : Nat)
  deriving DecidableEq

def Visit.holds (service : Service) (visit : Visit) : Access :=
  match visit.stage with
  | .admitted | .scoring _ _ => service.access visit.request
  | _ => .nothing

def Access.besides : Access → Access → Bool
  | .changing, held => held == .nothing
  | .reading, held => held != .changing
  | .nothing, _ => true

def Service.stageOf (service : Service) (request : Request) (query : String) : Progress → Stage
  | .underway search => .scoring query search
  | .finished answer => .answered (service.wrap request (searchReply query answer))

def Visit.move? (service : Service) (session : Session) (visit : Visit) :
    Option (Stage × Session) :=
  match visit.stage with
  | .admitted =>
    match service.asked? visit.request with
    | some asked =>
      let (progress, session) := session.start asked.query (service.search.resolveLimit asked.limit)
      some (service.stageOf visit.request asked.query progress, session)
    | none =>
      let (response, state) := service.respond visit.request ⟨session, none⟩
      some (.answered response, state.session)
  | .scoring query search =>
    let (progress, session) := session.advance search
    some (service.stageOf visit.request query progress, session)
  | _ => none

namespace Pool

def ofRequests (session : Session) (requests : List Request) : Pool :=
  { session, visits := requests.map fun request => { request, stage := .arrived } }

def settle (pool : Pool) (place : Nat) (stage : Stage) (session : Session) : Pool :=
  { session, visits := pool.visits.modify place fun visit => { visit with stage } }

def enter? (service : Service) (pool : Pool) (place : Nat) : Option Pool := do
  let visit ← pool.visits[place]?
  match visit.stage with
  | .arrived =>
    let wanted := service.access visit.request
    if pool.visits.all fun other => wanted.besides (other.holds service) then
      some (pool.settle place .admitted pool.session)
    else none
  | _ => none

def move? (service : Service) (pool : Pool) (place : Nat) : Option Pool := do
  let visit ← pool.visits[place]?
  let (stage, session) ← visit.move? service pool.session
  pure (pool.settle place stage session)

def step? (service : Service) (pool : Pool) : Event → Option Pool
  | .enter place => pool.enter? service place
  | .move place => pool.move? service place

def run? (service : Service) (pool : Pool) (events : List Event) : Option Pool :=
  events.foldlM (step? service) pool

end Pool

end SiteSearch.Http
