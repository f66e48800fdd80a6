import Mathlib.Data.List.Basic
import SiteSearch.Proofs.Http.Layers
import SiteSearch.Proofs.Session.Moves
import SiteSearch.Proofs.Store.Delivered

-- Requests that share a session are answered as each would be alone. The invariant is that the
-- content and the engine stay what they were, that nobody holds the session beside a search, and
-- that each search stands where it would stand by itself.
namespace SiteSearch.Http

namespace Access

def Compatible (one other : Access) : Prop :=
  (one = .changing → other = .nothing) ∧ (other = .changing → one = .nothing)

theorem Compatible.symm {one other : Access} (both : one.Compatible other) :
    other.Compatible one :=
  And.symm both

theorem nothing_compatible (other : Access) : Compatible .nothing other :=
  ⟨fun changing => (nomatch changing), fun _ => rfl⟩

theorem compatible_of_besides {wanted held : Access} (granted : wanted.besides held = true) :
    wanted.Compatible held := by
  revert granted
  cases wanted <;> cases held <;> simp [besides, Compatible]

theorem besides_nothing (wanted : Access) : wanted.besides .nothing = true := by
  cases wanted <;> rfl

end Access

variable {service : Service}

theorem Service.access_asked {request : Request} {asked : Wire.SearchRequest}
    (wanted : service.asked? request = some asked) : service.access request = .changing := by
  unfold Service.access
  rw [wanted]
  rfl

-- How far a visit has come, against the answer to its request alone.
def Visit.Follows (service : Service) (origin now : Session) (visit : Visit) : Prop :=
  match visit.stage with
  | .arrived | .admitted => True
  | .scoring query search =>
    ∃ asked, service.asked? visit.request = some asked ∧ query = asked.query ∧
      search.Midway origin asked.query (service.search.resolveLimit asked.limit) now
  | .answered response => response = (service.respond visit.request ⟨origin, none⟩).1

namespace Visit

variable {origin now : Session} {visit : Visit}

-- One that holds nothing does not notice changes.
theorem Follows.later (follows : visit.Follows service origin now)
    (idle : visit.holds service = .nothing) (session : Session) :
    visit.Follows service origin session := by
  obtain ⟨request, stage⟩ := visit
  cases stage with
  | arrived => exact trivial
  | admitted => exact trivial
  | scoring query search =>
    obtain ⟨asked, wanted, _⟩ := follows
    have changing : service.access request = .nothing := idle
    rw [Service.access_asked wanted] at changing
    cases changing
  | answered response => exact follows

theorem holds_stageOf (request : Request) (query : String) (progress : Progress) :
    (⟨request, service.stageOf request query progress⟩ : Visit).holds service = .nothing ∨
      (⟨request, service.stageOf request query progress⟩ : Visit).holds service =
        service.access request := by
  cases progress with
  | underway search => exact .inr rfl
  | finished answer => exact .inl rfl

theorem follows_stageOf {request : Request} {asked : Wire.SearchRequest}
    (wanted : service.asked? request = some asked) {progress : Progress}
    (progresses : progress.Follows origin asked.query
      (service.search.resolveLimit asked.limit) now) :
    (⟨request, service.stageOf request asked.query progress⟩ : Visit).Follows
      service origin now := by
  cases progress with
  | underway search => exact ⟨asked, wanted, rfl, progresses⟩
  | finished answer =>
    obtain ⟨rfl, _⟩ := progresses
    exact (congrArg Prod.fst (Service.respond_asked wanted origin)).symm

-- What a move of a visit may do: it keeps to the answer alone, it changes the session only if it
-- holds it for that, and it holds no more than before.
structure Moves (service : Service) (origin now : Session) (visit : Visit) (stage : Stage)
    (session : Session) : Prop where
  engine : session.engine = origin.engine
  content : session.store.SameContent origin.store
  follows : Follows service origin session { visit with stage }
  kept : session = now ∨ visit.holds service = .changing
  holds : { visit with stage : Visit }.holds service = .nothing ∨
    { visit with stage : Visit }.holds service = visit.holds service

theorem moves_search {query : String} {progress : Progress} {session : Session}
    {asked : Wire.SearchRequest} (wanted : service.asked? visit.request = some asked)
    (same : query = asked.query) (holding : visit.holds service = service.access visit.request)
    (progresses : progress.Follows origin asked.query
      (service.search.resolveLimit asked.limit) session) :
    visit.Moves service origin now (service.stageOf visit.request query progress) session := by
  subst same
  obtain ⟨engine, content⟩ := progresses.keeps
  refine ⟨engine, content, follows_stageOf wanted progresses, .inr ?_, ?_⟩
  · rw [holding, Service.access_asked wanted]
  · rw [holding]
    exact holds_stageOf visit.request asked.query progress

theorem move?_moves (kinded : origin.store.WellKinded) (engine : now.engine = origin.engine)
    (content : now.store.SameContent origin.store) (follows : visit.Follows service origin now)
    {stage : Stage} {session : Session}
    (moved : visit.move? service now = some (stage, session)) :
    visit.Moves service origin now stage session := by
  obtain ⟨request, before⟩ := visit
  cases before with
  | arrived => cases moved
  | answered response => cases moved
  | admitted =>
    unfold move? at moved
    dsimp only at moved
    cases wanted : service.asked? request with
    | some asked =>
      rw [wanted] at moved
      cases moved
      exact moves_search wanted rfl rfl (Session.start_follows content engine _ _)
    | none =>
      rw [wanted] at moved
      dsimp only at moved
      rw [Service.respond_unasked wanted content engine] at moved
      cases moved
      exact ⟨engine, content, rfl, .inl rfl, .inl rfl⟩
  | scoring query search =>
    obtain ⟨asked, wanted, same, midway⟩ := follows
    cases moved
    exact moves_search wanted same rfl (Session.advance_follows kinded midway)

end Visit

namespace Pool

structure Sound (service : Service) (origin : Session) (requests : List Request)
    (pool : Pool) : Prop where
  requests : pool.visits.map Visit.request = requests
  engine : pool.session.engine = origin.engine
  content : pool.session.store.SameContent origin.store
  apart : ∀ (place other : Nat) (one two : Visit), place ≠ other →
    pool.visits[place]? = some one → pool.visits[other]? = some two →
      (one.holds service).Compatible (two.holds service)
  follows : ∀ visit ∈ pool.visits, visit.Follows service origin pool.session

variable {origin : Session} {requests : List Request} {pool next : Pool}

theorem sound_ofRequests (service : Service) (origin : Session) (requests : List Request) :
    (ofRequests origin requests).Sound service origin requests := by
  have waiting : ∀ visit ∈ (ofRequests origin requests).visits, visit.stage = .arrived := by
    intro visit member
    obtain ⟨request, _, rfl⟩ := List.mem_map.mp member
    rfl
  refine ⟨?_, rfl, .refl origin.store, ?_, ?_⟩
  · unfold ofRequests
    rw [List.map_map]
    exact List.map_id requests
  · intro place other one two _ here _
    have idle : one.holds service = .nothing := by
      unfold Visit.holds
      rw [waiting one (List.mem_of_getElem? here)]
    rw [idle]
    exact Access.nothing_compatible _
  · intro visit member
    unfold Visit.Follows
    rw [waiting visit member]
    trivial

theorem getElem?_settle_self {place : Nat} {visit : Visit}
    (here : pool.visits[place]? = some visit) (stage : Stage) (session : Session) :
    (pool.settle place stage session).visits[place]? = some { visit with stage } := by
  unfold settle
  rw [List.getElem?_modify_eq, here]
  rfl

theorem getElem?_settle_other {place other : Nat} (differ : place ≠ other) (stage : Stage)
    (session : Session) :
    (pool.settle place stage session).visits[other]? = pool.visits[other]? := by
  exact List.getElem?_modify_ne _ pool.visits differ

theorem requests_settle {place : Nat} {visit : Visit} (here : pool.visits[place]? = some visit)
    (stage : Stage) (session : Session) :
    (pool.settle place stage session).visits.map Visit.request =
      pool.visits.map Visit.request := by
  refine List.ext_getElem? fun other => ?_
  rw [List.getElem?_map, List.getElem?_map]
  by_cases same : place = other
  · subst same
    rw [getElem?_settle_self here, here]
    rfl
  · rw [getElem?_settle_other same]

theorem Sound.settle (sound : pool.Sound service origin requests) {place : Nat} {visit : Visit}
    (here : pool.visits[place]? = some visit) {stage : Stage} {session : Session}
    (engine : session.engine = origin.engine) (content : session.store.SameContent origin.store)
    (follows : Visit.Follows service origin session { visit with stage })
    (kept : session = pool.session ∨ visit.holds service = .changing)
    (apart : ∀ (other : Nat) (two : Visit), place ≠ other → pool.visits[other]? = some two →
      ({ visit with stage : Visit }.holds service).Compatible (two.holds service)) :
    (pool.settle place stage session).Sound service origin requests := by
  refine ⟨(requests_settle here stage session).trans sound.requests, engine, content, ?_, ?_⟩
  · intro one other first second differ left right
    by_cases same : place = one
    · subst same
      rw [getElem?_settle_self here] at left
      rw [getElem?_settle_other differ] at right
      cases left
      exact apart other second differ right
    · rw [getElem?_settle_other same] at left
      by_cases last : place = other
      · subst last
        rw [getElem?_settle_self here] at right
        cases right
        exact (apart one first same left).symm
      · rw [getElem?_settle_other last] at right
        exact sound.apart one other first second differ left right
  · intro two member
    obtain ⟨other, found⟩ := List.getElem?_of_mem member
    by_cases same : place = other
    · subst same
      rw [getElem?_settle_self here] at found
      cases found
      exact follows
    · rw [getElem?_settle_other same] at found
      have before := sound.follows two (List.mem_of_getElem? found)
      -- whoever changes the session holds it alone, and who holds nothing relies on nothing in it
      rcases kept with rfl | changing
      · exact before
      · exact before.later ((sound.apart place other visit two same here found).1 changing) session

theorem Sound.step? (sound : pool.Sound service origin requests)
    (kinded : origin.store.WellKinded) {event : Event}
    (happened : pool.step? service event = some next) :
    next.Sound service origin requests := by
  cases event with
  | enter place =>
    obtain ⟨visit, here, entered⟩ := Option.bind_eq_some_iff.mp happened
    split at entered
    · dsimp only at entered
      split at entered
      · next free =>
        cases entered
        refine sound.settle here sound.engine sound.content trivial (.inl rfl) ?_
        intro other two _ found
        have granted := List.all_eq_true.mp free two (List.mem_of_getElem? found)
        exact Access.compatible_of_besides granted
      · cases entered
    · cases entered
  | move place =>
    obtain ⟨visit, here, moved⟩ := Option.bind_eq_some_iff.mp happened
    obtain ⟨⟨stage, session⟩, made, settled⟩ := Option.bind_eq_some_iff.mp moved
    cases settled
    have follows := sound.follows visit (List.mem_of_getElem? here)
    have moves := Visit.move?_moves kinded sound.engine sound.content follows made
    refine sound.settle here moves.engine moves.content moves.follows moves.kept ?_
    intro other two differ found
    rcases moves.holds with idle | same
    · rw [idle]
      exact Access.nothing_compatible _
    · rw [same]
      exact sound.apart place other visit two differ here found

theorem Sound.run? (sound : pool.Sound service origin requests)
    (kinded : origin.store.WellKinded) {events : List Event}
    (ran : pool.run? service events = some next) : next.Sound service origin requests := by
  unfold Pool.run? at ran
  induction events generalizing pool with
  | nil =>
    cases ran
    exact sound
  | cons event later ih =>
    rw [List.foldlM_cons] at ran
    obtain ⟨middle, happened, rest⟩ := Option.bind_eq_some_iff.mp ran
    exact ih (sound.step? kinded happened) rest

end Pool

end SiteSearch.Http
