import Mathlib.Data.List.Basic
import SiteSearch.Proofs.Http.Layers

-- A server along all that it is asked. The rate limit turns a request away without the session or
-- lets it through, and then the answer is the one that is given without a limit. So whatever came
-- before, the engine and the content of the store are those of the start.
namespace SiteSearch.Http

-- Answers without a look at the permits, and leaves them as they are.
def Handler.IgnoresPermits (inner : Handler) : Prop :=
  ∀ request session permits, inner request ⟨session, permits⟩ =
    ((inner request ⟨session, none⟩).1, ⟨(inner request ⟨session, none⟩).2.session, permits⟩)

theorem answerSearch_permits (search : SearchConfig) (asked : Except Status Wire.SearchRequest)
    (session : Session) (permits : Option Nat) :
    answerSearch search asked ⟨session, permits⟩ =
      ((answerSearch search asked ⟨session, none⟩).1,
        ⟨(answerSearch search asked ⟨session, none⟩).2.session, permits⟩) := by
  cases asked with
  | error status => rfl
  | ok asked => rfl

theorem answer_ignoresPermits (search : SearchConfig) (route : Route) :
    (route.answer search).IgnoresPermits := by
  intro request session permits
  cases route with
  | search => exact answerSearch_permits search (requestedSearch request) session permits
  | searchFor segment =>
    exact answerSearch_permits search (searchInPath segment request.queryString) session permits
  | _ => rfl

theorem dispatch_ignoresPermits (search : SearchConfig) : (dispatch search).IgnoresPermits := by
  intro request session permits
  unfold dispatch
  cases Route.ofPath? request.path with
  | none => rfl
  | some route =>
    dsimp only
    split
    · exact answer_ignoresPermits search route request session permits
    · rfl

theorem keyLayer_ignoresPermits (key : Option String) {inner : Handler}
    (ignores : inner.IgnoresPermits) : (keyLayer key inner).IgnoresPermits := by
  intro request session permits
  unfold keyLayer
  split
  · exact ignores request session permits
  · rfl

theorem limitLayer_within {inner : Handler} (ignores : inner.IgnoresPermits) (request : Request)
    (session : Session) {permits : Option Nat} (within : permits ≠ some 0) :
    ∃ left, limitLayer inner request ⟨session, permits⟩ =
      ((inner request ⟨session, none⟩).1, ⟨(inner request ⟨session, none⟩).2.session, left⟩) := by
  unfold limitLayer
  cases permits with
  | none => exact ⟨none, ignores request session none⟩
  | some count =>
    cases count with
    | zero => exact absurd rfl within
    | succ left => exact ⟨some left, ignores request session (some left)⟩

namespace Service

variable (service : Service) (request : Request) (session : Session)

theorem respond_within {permits : Option Nat} (within : permits ≠ some 0) :
    ∃ left, service.respond request ⟨session, permits⟩ =
      ((service.respond request ⟨session, none⟩).1,
        ⟨(service.respond request ⟨session, none⟩).2.session, left⟩) := by
  have ignores := keyLayer_ignoresPermits service.key (dispatch_ignoresPermits service.search)
  obtain ⟨left, limited⟩ := limitLayer_within ignores request session within
  unfold respond layers originLayer
  by_cases preflight : request.method = .options
  · simp only [if_pos preflight]
    exact ⟨permits, rfl⟩
  · simp only [if_neg preflight, limited]
    exact ⟨left, rfl⟩

-- A search that is let in is run on the session as it stands.
theorem respond_let_in {request : Request} {asked : Wire.SearchRequest}
    (wanted : service.asked? request = some asked) {state : State}
    (within : state.permits ≠ some 0) :
    (service.respond request state).1 = service.wrap request (searchReply asked.query
      (state.session.search asked.query (service.search.resolveLimit asked.limit)).1) := by
  obtain ⟨session, permits⟩ := state
  obtain ⟨left, answered⟩ := service.respond_within request session within
  rw [answered, respond_asked wanted]

theorem respond_exhausted :
    (service.respond request ⟨session, some 0⟩).2 = ⟨session, some 0⟩ := by
  unfold respond layers originLayer
  by_cases preflight : request.method = .options
  · simp only [if_pos preflight]
  · simp only [if_neg preflight]
    rfl

-- The states that a server comes to: it answers requests, and with time its permits are renewed.
inductive Reaches (service : Service) (start : State) : State → Prop where
  | start : Reaches service start start
  | answered {state : State} (reached : Reaches service start state) (request : Request) :
      Reaches service start (service.respond request state).2
  | renewed {state : State} (reached : Reaches service start state) (permits : Option Nat) :
      Reaches service start { state with permits }

variable {service}

-- The content of the store and the engine are those of the start.
structure Keeps (start state : State) : Prop where
  content : state.session.store.SameContent start.session.store
  engine : state.session.engine = start.session.engine

theorem Keeps.respond {start state : State} (keeps : Keeps start state)
    (kinded : start.session.store.WellKinded) (request : Request) :
    Keeps start (service.respond request state).2 := by
  obtain ⟨session, permits⟩ := state
  by_cases exhausted : permits = some 0
  · rw [exhausted, respond_exhausted]
    exact ⟨keeps.content, keeps.engine⟩
  · obtain ⟨left, answered⟩ := service.respond_within request session exhausted
    obtain ⟨after, alike, content, engine⟩ :=
      service.respond_alike request keeps.content keeps.engine kinded
    rw [answered, alike]
    exact ⟨content, engine⟩

theorem Reaches.keeps {start state : State} (reached : service.Reaches start state)
    (kinded : start.session.store.WellKinded) : Keeps start state := by
  induction reached with
  | start => exact ⟨.refl _, rfl⟩
  | answered _ request ih => exact ih.respond kinded request
  | renewed _ permits ih => exact ⟨ih.content, ih.engine⟩

end Service

end SiteSearch.Http
