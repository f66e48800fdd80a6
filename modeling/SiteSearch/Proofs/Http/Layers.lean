import SiteSearch.Http.Shared
import SiteSearch.Proofs.Digest.Content
import SiteSearch.Proofs.Metrics
import SiteSearch.Proofs.Session.Outcome

-- What an answer of the service depends on, when there is no limit on the rate. A request turned
-- away by a layer is answered without the session, a search by the session's content and engine,
-- and every other route reads the content or the engine and leaves the session as it is.
namespace SiteSearch.Http

section Reports

variable {a b : Store}

theorem statusReport_congr (same : a.SameContent b) : statusReport a = statusReport b := by
  unfold statusReport
  rw [Metrics.ofStore_congr same]

theorem hashReport_congr (same : a.SameContent b) : hashReport a = hashReport b := by
  unfold hashReport Digest.checksum Digest.hashText
  rw [Digest.canonicalBytes_congr same]

end Reports

namespace Service

variable {service : Service} {request : Request}

theorem respond_reached {route : Route} (reached : service.reached? request = some route)
    (session : Session) :
    service.respond request ⟨session, none⟩ =
      (service.wrap request (route.answer service.search request ⟨session, none⟩).1,
        (route.answer service.search request ⟨session, none⟩).2) := by
  unfold reached? at reached
  split at reached
  · cases reached
  · next passed =>
    obtain ⟨plain, known⟩ := not_or.mp passed
    have allowed : authorized service.key request = true := by simpa using known
    obtain ⟨found, admitted⟩ := Option.filter_eq_some_iff.mp reached
    have dispatched : dispatch service.search request ⟨session, none⟩ =
        route.answer service.search request ⟨session, none⟩ := by
      unfold dispatch
      rw [found]
      exact if_pos admitted
    unfold respond layers originLayer limitLayer keyLayer
    rw [if_neg plain]
    dsimp only
    rw [if_pos allowed, dispatched]
    rfl

theorem dispatch_unmatched
    (unmatched : (Route.ofPath? request.path).filter (·.admits request.method) = none)
    (search : SearchConfig) :
    ∃ response, ∀ state, dispatch search request state = (response, state) := by
  unfold dispatch
  cases found : Route.ofPath? request.path with
  | none => exact ⟨_, fun state => rfl⟩
  | some route =>
    rw [found, Option.filter_eq_none_iff] at unmatched
    have wrong : ¬ route.admits request.method = true := unmatched route rfl
    simp only [if_neg wrong]
    exact ⟨_, fun state => rfl⟩

theorem respond_turned_away (stopped : service.reached? request = none) :
    ∃ response, ∀ session,
      service.respond request ⟨session, none⟩ = (response, ⟨session, none⟩) := by
  unfold respond layers originLayer limitLayer keyLayer
  by_cases preflight : request.method = .options
  · simp only [if_pos preflight]
    exact ⟨_, fun session => rfl⟩
  · simp only [if_neg preflight]
    by_cases allowed : authorized service.key request = true
    · have passed : ¬ (request.method = .options ∨ (!authorized service.key request) = true) := by
        simp [preflight, allowed]
      unfold reached? at stopped
      rw [if_neg passed] at stopped
      obtain ⟨response, answers⟩ := dispatch_unmatched stopped service.search
      simp only [if_pos allowed, answers]
      exact ⟨_, fun session => rfl⟩
    · simp only [if_neg allowed]
      exact ⟨_, fun session => rfl⟩

theorem answer_asked {asked : Wire.SearchRequest} (wanted : service.asked? request = some asked) :
    ∃ route, service.reached? request = some route ∧ ∀ state : State,
      route.answer service.search request state =
        runSearch service.search asked.query asked.limit state := by
  unfold asked? at wanted
  split at wanted
  · next reached =>
    refine ⟨.search, reached, fun state => ?_⟩
    cases read : requestedSearch request with
    | error status =>
      rw [read] at wanted
      cases wanted
    | ok found =>
      rw [read] at wanted
      cases wanted
      unfold Route.answer answerSearch
      rw [read]
  · next segment reached =>
    refine ⟨.searchFor segment, reached, fun state => ?_⟩
    cases read : searchInPath segment request.queryString with
    | error status =>
      rw [read] at wanted
      cases wanted
    | ok found =>
      rw [read] at wanted
      cases wanted
      unfold Route.answer answerSearch
      dsimp only
      rw [read]
  · cases wanted

theorem respond_asked {asked : Wire.SearchRequest} (wanted : service.asked? request = some asked)
    (session : Session) :
    service.respond request ⟨session, none⟩ =
      (service.wrap request (searchReply asked.query
        (session.search asked.query (service.search.resolveLimit asked.limit)).1),
        ⟨(session.search asked.query (service.search.resolveLimit asked.limit)).2, none⟩) := by
  obtain ⟨route, reached, answers⟩ := answer_asked wanted
  rw [respond_reached reached, answers]
  rfl

-- A route that runs no search answers from the content and the engine and changes nothing.
theorem answer_unasked {route : Route} (reached : service.reached? request = some route)
    (unasked : service.asked? request = none) {a b : Session}
    (same : a.store.SameContent b.store) (engines : a.engine = b.engine) :
    (route.answer service.search request ⟨a, none⟩).1 =
        (route.answer service.search request ⟨b, none⟩).1 ∧
      (route.answer service.search request ⟨a, none⟩).2 = ⟨a, none⟩ := by
  unfold asked? at unasked
  rw [reached] at unasked
  cases route with
  | health => exact ⟨rfl, rfl⟩
  | status => exact ⟨statusReport_congr same, rfl⟩
  | weights => exact ⟨congrArg weightsReport engines, rfl⟩
  | hash => exact ⟨hashReport_congr same, rfl⟩
  | search =>
    unfold Route.answer answerSearch
    dsimp only at unasked ⊢
    cases read : requestedSearch request with
    | error status => exact ⟨rfl, rfl⟩
    | ok found =>
      rw [read] at unasked
      cases unasked
  | searchFor segment =>
    unfold Route.answer answerSearch
    dsimp only at unasked ⊢
    cases read : searchInPath segment request.queryString with
    | error status => exact ⟨rfl, rfl⟩
    | ok found =>
      rw [read] at unasked
      cases unasked

theorem respond_unasked (unasked : service.asked? request = none) {a b : Session}
    (same : a.store.SameContent b.store) (engines : a.engine = b.engine) :
    service.respond request ⟨a, none⟩ =
      ((service.respond request ⟨b, none⟩).1, ⟨a, none⟩) := by
  cases reached : service.reached? request with
  | none =>
    obtain ⟨response, answers⟩ := respond_turned_away reached
    rw [answers a, answers b]
  | some route =>
    obtain ⟨equal, kept⟩ := answer_unasked reached unasked same engines
    rw [respond_reached reached, respond_reached reached, equal, kept]

-- Every request is answered by the content and the engine, and leaves both as they were.
theorem respond_alike (service : Service) (request : Request) {a b : Session}
    (same : a.store.SameContent b.store) (engines : a.engine = b.engine)
    (kinded : b.store.WellKinded) :
    ∃ after : Session, service.respond request ⟨a, none⟩ =
        ((service.respond request ⟨b, none⟩).1, ⟨after, none⟩) ∧
      after.store.SameContent b.store ∧ after.engine = b.engine := by
  cases wanted : service.asked? request with
  | none => exact ⟨a, respond_unasked wanted same engines, same, engines⟩
  | some asked =>
    have answers := Session.search_congr same engines kinded asked.query
      (service.search.resolveLimit asked.limit)
    have kept := a.search_keeps asked.query (service.search.resolveLimit asked.limit)
    rw [respond_asked wanted, respond_asked wanted, answers]
    exact ⟨_, rfl, kept.1.trans same, kept.2.trans engines⟩

-- Without a limit, each request of a run is answered as it would be by itself.
theorem respondAll_eq_map (service : Service) (requests : List Request) {a b : Session}
    (same : a.store.SameContent b.store) (engines : a.engine = b.engine)
    (kinded : b.store.WellKinded) :
    (service.respondAll ⟨a, none⟩ requests).1 =
      requests.map fun request => (service.respond request ⟨b, none⟩).1 := by
  induction requests generalizing a with
  | nil => rfl
  | cons request rest ih =>
    obtain ⟨after, answered, content, engine⟩ :=
      respond_alike service request same engines kinded
    unfold respondAll
    rw [answered, List.map_cons]
    exact congrArg _ (ih content engine)

end Service

end SiteSearch.Http
