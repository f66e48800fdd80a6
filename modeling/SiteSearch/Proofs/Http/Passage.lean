import SiteSearch.Proofs.Http.Keyless
import SiteSearch.Proofs.Http.Limit
import SiteSearch.Proofs.Session.Refusals

-- How far a request comes, and what status it has from there. A preflight ends at the origin rules,
-- a request without a permit at the limit, one without the key at the key; every other one comes to
-- the routes, which never say what these layers say, and blame the server only for missing data.
namespace SiteSearch

theorem Store.SameContent.loaded {a b : Store} (same : a.SameContent b) (loaded : b.Loaded) :
    a.Loaded := by
  intro kind
  rw [same.isSome_collection kind]
  exact loaded kind

namespace Http

theorem Status.code_lt_iff (status : Status) : status.code < 500 ↔ status ≠ .serverError := by
  cases status <;> decide

-- What is left of the permits after one was taken.
def State.spend (state : State) : State :=
  { state with permits := state.permits.map (· - 1) }

def Service.preflight (service : Service) (request : Request) : Response :=
  complete request
    { status := .ok
      headers := service.origins.allowedHeader request ++ service.origins.preflightHeaders }

theorem limitLayer_spend (inner : Handler) (request : Request) {state : State}
    (within : state.permits ≠ some 0) :
    limitLayer inner request state = inner request state.spend := by
  obtain ⟨session, permits⟩ := state
  unfold limitLayer
  cases permits with
  | none => rfl
  | some count =>
    cases count with
    | zero => exact absurd rfl within
    | succ left => rfl

namespace Service

-- The layers of a service around any handler.
def around (service : Service) (inner : Handler) : Handler := fun request state =>
  let (response, state) :=
    originLayer service.origins (limitLayer (keyLayer service.key inner)) request state
  (complete request response, state)

variable (service : Service) {request : Request} {state : State}

theorem respond_eq_around : service.respond = service.around (dispatch service.search) := rfl

theorem around_preflight (inner : Handler) (preflight : request.method = .options)
    (state : State) :
    service.around inner request state = (service.preflight request, state) := by
  unfold around originLayer
  simp only [if_pos preflight]
  rfl

theorem around_limited (inner : Handler) (plain : request.method ≠ .options)
    (spent : state.permits = some 0) :
    service.around inner request state =
      (service.wrap request (.refusal .tooManyRequests), state) := by
  unfold around originLayer limitLayer
  simp only [if_neg plain, spent]
  rfl

theorem around_barred (inner : Handler) (plain : request.method ≠ .options)
    (within : state.permits ≠ some 0) (barred : authorized service.key request = false) :
    service.around inner request state =
      (service.wrap request (.refusal .unauthorized), state.spend) := by
  unfold around originLayer
  simp only [if_neg plain, limitLayer_spend _ request within]
  unfold keyLayer
  rw [barred]
  rfl

theorem around_passed (inner : Handler) (plain : request.method ≠ .options)
    (within : state.permits ≠ some 0) (known : authorized service.key request = true) :
    service.around inner request state =
      (service.wrap request (inner request state.spend).1, (inner request state.spend).2) := by
  unfold around originLayer
  simp only [if_neg plain, limitLayer_spend _ request within]
  unfold keyLayer
  rw [if_pos known]
  rfl

end Service

-- What a route may have for a status over a store.
structure Status.Routed (store : Store) (status : Status) : Prop where
  known : status ≠ .unauthorized
  within : status ≠ .tooManyRequests
  blameless : store.WellKinded → store.Loaded → status ≠ .serverError

section Routes

variable {store : Store}

theorem requestedSearch_routed {request : Request} {status : Status}
    (refused : requestedSearch request = .error status) : status.Routed store := by
  unfold requestedSearch at refused
  dsimp only at refused
  split at refused
  · cases refused
    exact ⟨nofun, nofun, fun _ _ => nofun⟩
  · split at refused
    · cases refused
      exact ⟨nofun, nofun, fun _ _ => nofun⟩
    · split at refused
      · cases refused
      · next fault _ =>
        cases refused
        cases fault <;> exact ⟨nofun, nofun, fun _ _ => nofun⟩

theorem requestedLimit_routed {queryString : List Char} {status : Status}
    (refused : requestedLimit queryString = .error status) : status.Routed store := by
  unfold requestedLimit at refused
  generalize (formPairs queryString).filter (·.1 = "limit") = limits at refused
  rcases limits with _ | ⟨⟨name, value⟩, _ | ⟨next, rest⟩⟩
  · cases refused
  · dsimp only at refused
    cases read : (Text.signedDecimal? value.toList).filter (· < UInt64.size) with
    | some limit =>
      rw [read] at refused
      cases refused
    | none =>
      rw [read] at refused
      cases refused
      exact ⟨nofun, nofun, fun _ _ => nofun⟩
  · cases refused
    exact ⟨nofun, nofun, fun _ _ => nofun⟩

theorem searchInPath_routed {segment queryString : List Char} {status : Status}
    (refused : searchInPath segment queryString = .error status) : status.Routed store := by
  unfold searchInPath at refused
  split at refused
  · cases refused
    exact ⟨nofun, nofun, fun _ _ => nofun⟩
  · rcases bind_eq_error_iff.mp refused with limit | ⟨_, _, done⟩
    · exact requestedLimit_routed limit
    · cases done

-- With all data loaded a search can only be refused for its query.
theorem searchReply_routed (session : Session) (query : String) (count : Nat) :
    (searchReply query (session.search query count).1).status.Routed session.store := by
  have either (answer : Except SearchError Outcome) :
      (searchReply query answer).status = .ok ∨ (searchReply query answer).status = .badRequest ∨
        (searchReply query answer).status = .serverError := by
    cases answer with
    | ok outcome => exact .inl rfl
    | error fault =>
      cases fault with
      | invalidQuery fault => exact .inr (.inl rfl)
      | _ => exact .inr (.inr rfl)
  have status := either (session.search query count).1
  refine ⟨?_, ?_, fun kinded loaded => ?_⟩
  · rcases status with status | status | status <;> simp [status]
  · rcases status with status | status | status <;> simp [status]
  · rcases session.search_cases kinded query count with
      ⟨cause, _, refused⟩ | ⟨_, kind, absent, refused⟩ | ⟨_, _, granted⟩
    · rw [refused]
      exact nofun
    · have present := loaded kind
      rw [absent.1] at present
      cases present
    · rw [granted]
      exact nofun

theorem answer_routed (search : SearchConfig) (route : Route) (request : Request)
    (state : State) :
    (route.answer search request state).1.status.Routed state.session.store := by
  have asks (asked : Except Status Wire.SearchRequest)
      (unread : ∀ status, asked = .error status → status.Routed state.session.store) :
      (answerSearch search asked state).1.status.Routed state.session.store := by
    cases asked with
    | error status => exact unread status rfl
    | ok asked => exact searchReply_routed state.session asked.query _
  cases route with
  | search => exact asks _ fun status => requestedSearch_routed
  | searchFor segment => exact asks _ fun status => searchInPath_routed
  | _ => exact ⟨nofun, nofun, fun _ _ => nofun⟩

theorem dispatch_routed (search : SearchConfig) (request : Request) (state : State) :
    (dispatch search request state).1.status.Routed state.session.store := by
  unfold dispatch
  split
  · exact ⟨nofun, nofun, fun _ _ => nofun⟩
  · next route _ =>
    split
    · exact answer_routed search route request state
    · exact ⟨nofun, nofun, fun _ _ => nofun⟩

end Routes

namespace Service

variable (service : Service) (request : Request) {state : State}

theorem status_wrap (response : Response) :
    (service.wrap request response).status = response.status :=
  status_complete request _

-- The first layer that does not let a request pass settles its status.
theorem respond_status :
    let status := (service.respond request state).1.status
    (request.method = .options ∧ status = .ok) ∨
    (request.method ≠ .options ∧ state.permits = some 0 ∧ status = .tooManyRequests) ∨
    (request.method ≠ .options ∧ state.permits ≠ some 0 ∧
      authorized service.key request = false ∧ status = .unauthorized) ∨
    (request.method ≠ .options ∧ state.permits ≠ some 0 ∧
      authorized service.key request = true ∧ status.Routed state.session.store) := by
  intro status
  by_cases preflight : request.method = .options
  · refine .inl ⟨preflight, ?_⟩
    exact (congrArg (·.1.status) (service.around_preflight _ preflight state)).trans
      (status_complete request _)
  · by_cases spent : state.permits = some 0
    · refine .inr (.inl ⟨preflight, spent, ?_⟩)
      exact (congrArg (·.1.status) (service.around_limited _ preflight spent)).trans
        (service.status_wrap request _)
    · cases known : authorized service.key request with
      | false =>
        refine .inr (.inr (.inl ⟨preflight, spent, rfl, ?_⟩))
        exact (congrArg (·.1.status) (service.around_barred _ preflight spent known)).trans
          (service.status_wrap request _)
      | true =>
        refine .inr (.inr (.inr ⟨preflight, spent, rfl, ?_⟩))
        have routed := dispatch_routed service.search request state.spend
        have same : status = _ :=
          (congrArg (·.1.status) (service.around_passed _ preflight spent known)).trans
            (service.status_wrap request _)
        rw [same]
        exact routed

theorem respond_blameless (loaded : state.session.store.Loaded)
    (kinded : state.session.store.WellKinded) :
    (service.respond request state).1.status ≠ .serverError := by
  intro blamed
  rcases service.respond_status request with
    ⟨_, status⟩ | ⟨_, _, status⟩ | ⟨_, _, _, status⟩ | ⟨_, _, _, routed⟩
  · rw [status] at blamed
    cases blamed
  · rw [status] at blamed
    cases blamed
  · rw [status] at blamed
    cases blamed
  · exact routed.blameless kinded loaded blamed

end Service

end Http

end SiteSearch
