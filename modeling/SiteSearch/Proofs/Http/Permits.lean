import Mathlib.Data.List.Basic
import SiteSearch.Proofs.Http.Passage

-- Who gets the permits of a limit. Along a row of requests every one but a preflight takes one,
-- whatever it asks for and whether or not it may; when they are gone, nothing behind the limit is
-- reached any more.
namespace SiteSearch.Http

-- A preflight takes no permit.
def Request.takesPermit (request : Request) : Bool :=
  decide (request.method ≠ .options)

def permitsTaken (requests : List Request) : Nat :=
  requests.countP Request.takesPermit

-- Whether a limit lets in a request that comes after so many that took a permit.
def LetIn (limit : UInt32) (taken : Nat) : Prop :=
  limit = 0 ∨ taken < limit.toNat

instance (limit : UInt32) (taken : Nat) : Decidable (LetIn limit taken) :=
  inferInstanceAs (Decidable (_ ∨ _))

theorem letIn_iff (limit : UInt32) (taken : Nat) :
    LetIn limit taken ↔ (permitsOf limit).map (· - taken) ≠ some 0 := by
  unfold LetIn permitsOf
  by_cases free : limit = 0
  · rw [if_pos free]
    exact iff_of_true (.inl free) nofun
  · rw [if_neg free, Option.map_some, Ne, Option.some.injEq]
    constructor
    · rintro (none | room)
      · exact absurd none free
      · omega
    · intro left
      exact .inr (by omega)

namespace Service

variable (service : Service)

theorem respond_permits (request : Request) (state : State) :
    (service.respond request state).2.permits =
      if request.takesPermit then state.permits.map (· - 1) else state.permits := by
  unfold Request.takesPermit
  by_cases preflight : request.method = .options
  · rw [respond_eq_around, service.around_preflight _ preflight, if_neg (by simp [preflight])]
  · rw [respond_eq_around, if_pos (by simp [preflight])]
    by_cases spent : state.permits = some 0
    · rw [service.around_limited _ preflight spent, spent]
      rfl
    · cases known : authorized service.key request with
      | false =>
        rw [service.around_barred _ preflight spent known]
        rfl
      | true =>
        rw [service.around_passed _ preflight spent known]
        unfold State.spend
        rw [dispatch_ignoresPermits service.search request]

def stateAfter (start : State) (requests : List Request) : State :=
  (service.respondAll start requests).2

theorem stateAfter_cons (start : State) (request : Request) (later : List Request) :
    service.stateAfter start (request :: later) =
      service.stateAfter (service.respond request start).2 later := rfl

theorem stateAfter_permits (start : State) (requests : List Request) :
    (service.stateAfter start requests).permits =
      start.permits.map (· - permitsTaken requests) := by
  induction requests generalizing start with
  | nil =>
    cases permits : start.permits with
    | none => exact permits
    | some count => exact permits
  | cons request later ih =>
    rw [stateAfter_cons, ih, respond_permits]
    unfold permitsTaken
    cases takes : request.takesPermit with
    | false => rw [List.countP_cons_of_neg (by simp [takes])]; rfl
    | true =>
      rw [List.countP_cons_of_pos takes, if_pos rfl, Option.map_map]
      refine congrArg (Option.map · start.permits) (funext fun count => ?_)
      rw [Function.comp_apply]
      omega

theorem length_respondAll (start : State) (requests : List Request) :
    (service.respondAll start requests).1.length = requests.length := by
  induction requests generalizing start with
  | nil => rfl
  | cons request later ih => exact congrArg (· + 1) (ih (service.respond request start).2)

-- Each answer in a row is the one given in the state that the requests before it have left.
theorem respondAll_at (start : State) {requests : List Request} {place : Nat} {request : Request}
    (here : requests[place]? = some request) :
    let before := service.stateAfter start (requests.take place)
    (service.respondAll start requests).1[place]? = some (service.respond request before).1 ∧
      service.stateAfter start (requests.take (place + 1)) =
        (service.respond request before).2 := by
  induction requests generalizing start place with
  | nil => cases here
  | cons first later ih =>
    cases place with
    | zero =>
      cases here
      exact ⟨rfl, rfl⟩
    | succ place => exact ih (service.respond first start).2 here

-- What becomes of a request that comes after so many others took a permit. What stands behind the
-- layers has no part in an answer that is the same around every handler.
structure Treated (service : Service) (limit : UInt32) (taken : Nat) (before : State)
    (request : Request) (response : Response) (after : State) : Prop where
  preflight : request.method = .options → response.status = .ok ∧ after = before ∧
    ∀ key inner state, { service with key }.around inner request state = (response, state)
  late : request.method ≠ .options → ¬ LetIn limit taken →
    response.status = .tooManyRequests ∧ after = before ∧
      ∀ inner, service.around inner request before = (response, before)
  inTime : request.method ≠ .options → LetIn limit taken →
    response.status ≠ .tooManyRequests ∧
      (response, after.session) =
        ((service.respond request ⟨before.session, none⟩).1,
          (service.respond request ⟨before.session, none⟩).2.session)
  keyless : ∀ expected, service.key = some expected → Keyless expected request →
    request.method ≠ .options → LetIn limit taken → request.path ≠ healthPath →
      response.status = .unauthorized ∧ after.session = before.session ∧
        ∀ inner, service.around inner request before = (response, after)
  changed : after.session ≠ before.session → request.method ≠ .options ∧ LetIn limit taken ∧
    authorized service.key request = true ∧ ∃ asked, service.asked? request = some asked

theorem asked_passed {request : Request} {asked : Wire.SearchRequest}
    (wanted : service.asked? request = some asked) :
    request.method ≠ .options ∧ authorized service.key request = true := by
  obtain ⟨route, reached, _⟩ := answer_asked wanted
  unfold reached? at reached
  split at reached
  · cases reached
  · next passed => simpa using passed

theorem respond_session (request : Request) {state : State} (within : state.permits ≠ some 0) :
    ((service.respond request state).1, (service.respond request state).2.session) =
      ((service.respond request ⟨state.session, none⟩).1,
        (service.respond request ⟨state.session, none⟩).2.session) := by
  obtain ⟨session, permits⟩ := state
  obtain ⟨left, answered⟩ := service.respond_within request session within
  rw [answered]

theorem respond_treated (request : Request) {limit : UInt32} {taken : Nat} {state : State}
    (room : LetIn limit taken ↔ state.permits ≠ some 0) :
    service.Treated limit taken state request (service.respond request state).1
      (service.respond request state).2 where
  preflight preflight := by
    rw [respond_eq_around, service.around_preflight _ preflight]
    refine ⟨status_complete request _, rfl, fun key inner other => ?_⟩
    exact around_preflight { service with key } inner preflight other
  late plain beyond := by
    have spent : state.permits = some 0 := not_not.mp (mt room.mpr beyond)
    rw [respond_eq_around, service.around_limited _ plain spent]
    exact ⟨service.status_wrap request _, rfl,
      fun inner => service.around_limited inner plain spent⟩
  inTime plain let_in := by
    have within := room.mp let_in
    refine ⟨?_, service.respond_session request within⟩
    rcases @respond_status service request state with
      ⟨preflight, _⟩ | ⟨_, spent, _⟩ | ⟨_, _, _, status⟩ | ⟨_, _, _, routed⟩
    · exact absurd preflight plain
    · exact absurd spent within
    · rw [status]
      exact nofun
    · exact routed.within
  keyless expected locked keyless plain let_in elsewhere := by
    have barred : authorized service.key request = false := by
      rw [locked]
      simp [authorized, keyless.carriesKey, elsewhere]
    have answers inner := service.around_barred inner plain (room.mp let_in) barred
    rw [respond_eq_around, answers]
    exact ⟨service.status_wrap request _, rfl, answers⟩
  changed moved := by
    have within : state.permits ≠ some 0 := by
      intro spent
      obtain ⟨session, permits⟩ := state
      cases spent
      exact moved (congrArg State.session (service.respond_exhausted request session))
    have session := (Prod.mk.inj (service.respond_session request within)).2
    cases wanted : service.asked? request with
    | none =>
      rw [session, respond_unasked wanted (Store.SameContent.refl _) rfl] at moved
      exact absurd rfl moved
    | some asked =>
      obtain ⟨plain, known⟩ := service.asked_passed wanted
      exact ⟨plain, room.mpr within, known, asked, rfl⟩

end Service

-- Along any row of requests the first to ask for them have the permits.
theorem permits_go_to_the_first (config : Config) (key : Option String) (session : Session)
    (requests : List Request) :
    let service := Service.ofConfig config key
    let start := State.ofConfig config session
    (service.respondAll start requests).1.length = requests.length ∧
      ∀ place request, requests[place]? = some request →
        ∃ response, (service.respondAll start requests).1[place]? = some response ∧
          service.Treated config.server.rateLimit (permitsTaken (requests.take place))
            (service.stateAfter start (requests.take place)) request response
            (service.stateAfter start (requests.take (place + 1))) := by
  intro service start
  refine ⟨service.length_respondAll start requests, fun place request here => ?_⟩
  obtain ⟨answered, next⟩ := service.respondAll_at start here
  have room : LetIn config.server.rateLimit (permitsTaken (requests.take place)) ↔
      (service.stateAfter start (requests.take place)).permits ≠ some 0 := by
    rw [service.stateAfter_permits]
    exact letIn_iff config.server.rateLimit _
  refine ⟨_, answered, ?_⟩
  rw [next]
  exact service.respond_treated request room

-- Three strangers have taken the three permits of this second, the preflight none.
theorem last_stranger_is_late :
    strangers[4]? = some { target := "/status" } ∧ permitsTaken (strangers.take 4) = 3 ∧
      ∃ response, ((Service.ofConfig threeASecond (some "secret")).respondAll
          (.ofConfig threeASecond (.ofStore {})) strangers).1[4]? = some response ∧
        response.status = .tooManyRequests := by
  have taken : permitsTaken (strangers.take 4) = 3 := by decide
  obtain ⟨response, here, treated⟩ :=
    (permits_go_to_the_first threeASecond (some "secret") (.ofStore {}) strangers).2 4
      { target := "/status" } rfl
  rw [taken] at treated
  exact ⟨rfl, taken, response, here, (treated.late nofun (by decide)).1⟩

end SiteSearch.Http
