import Mathlib.Data.List.Basic
import SiteSearch.Proofs.Http.Sharing

-- Every run of a pool comes to an end, and it ends only when every request has been answered, each
-- as it would be alone.
namespace SiteSearch.Http

-- How many events a visit has ahead at most, where a ranking takes a number of passes.
def Stage.ahead (passes : Nat) : Stage → Nat
  | .arrived => passes + 3
  | .admitted => passes + 2
  | .scoring _ search => search.pending.length + 1
  | .answered _ => 0

def Pool.ahead (passes : Nat) (pool : Pool) : Nat :=
  (pool.visits.map fun visit => visit.stage.ahead passes).sum

theorem sum_modify_lt {α : Type} {weigh : α → Nat} {change : α → α} {items : List α}
    {place : Nat} {item : α} (here : items[place]? = some item)
    (less : weigh (change item) < weigh item) :
    ((items.modify place change).map weigh).sum < (items.map weigh).sum := by
  induction items generalizing place with
  | nil => cases here
  | cons head rest ih =>
    cases place with
    | zero =>
      cases here
      rw [List.modify_zero_cons, List.map_cons, List.map_cons, List.sum_cons, List.sum_cons]
      exact Nat.add_lt_add_right less _
    | succ place =>
      rw [List.modify_succ_cons, List.map_cons, List.map_cons, List.sum_cons, List.sum_cons]
      exact Nat.add_lt_add_left (ih here) _

variable {service : Service} {origin now session : Session} {requests : List Request}

namespace Visit

variable {visit : Visit} {stage : Stage}

theorem ahead_stageOf_le {request : Request} {query : String} {progress : Progress}
    (follows : Visit.Follows service origin now ⟨request, service.stageOf request query progress⟩) :
    (service.stageOf request query progress).ahead (Ranking.steps origin.engine.weights).length ≤
      (Ranking.steps origin.engine.weights).length + 1 := by
  cases progress with
  | underway search =>
    obtain ⟨asked, _, _, midway⟩ := follows
    exact Nat.succ_le_succ midway.pending_le
  | finished answer => exact Nat.zero_le _

theorem move?_ahead (moved : visit.move? service now = some (stage, session))
    (follows : Visit.Follows service origin session { visit with stage }) :
    stage.ahead (Ranking.steps origin.engine.weights).length <
      visit.stage.ahead (Ranking.steps origin.engine.weights).length := by
  obtain ⟨request, before⟩ := visit
  cases before with
  | arrived => cases moved
  | answered response => cases moved
  | admitted =>
    unfold move? at moved
    dsimp only at moved
    cases wanted : service.asked? request with
    | some asked =>
      rw [wanted] at moved
      cases moved
      exact Nat.lt_succ_of_le (ahead_stageOf_le follows)
    | none =>
      rw [wanted] at moved
      cases moved
      exact Nat.succ_pos _
  | scoring query search =>
    have made : stage = service.stageOf request query (now.advance search).1 := by
      cases moved
      rfl
    rw [made]
    cases progress : (now.advance search).1 with
    | underway next => exact Nat.succ_lt_succ (Session.advance_shorter progress)
    | finished answer => exact Nat.succ_pos _

theorem move?_ne_none (now : Session)
    (busy : visit.stage = .admitted ∨ ∃ query search, visit.stage = .scoring query search) :
    visit.move? service now ≠ none := by
  unfold move?
  rcases busy with waiting | ⟨query, search, under⟩
  · rw [waiting]
    dsimp only
    cases service.asked? visit.request with
    | some asked => exact Option.some_ne_none _
    | none => exact Option.some_ne_none _
  · rw [under]
    exact Option.some_ne_none _

end Visit

namespace Pool

variable {pool next : Pool}

theorem step?_ahead (sound : pool.Sound service origin requests)
    (kinded : origin.store.WellKinded) {event : Event}
    (happened : pool.step? service event = some next) :
    next.ahead (Ranking.steps origin.engine.weights).length <
      pool.ahead (Ranking.steps origin.engine.weights).length := by
  cases event with
  | enter place =>
    obtain ⟨visit, here, entered⟩ := Option.bind_eq_some_iff.mp happened
    split at entered
    · next arrived =>
      dsimp only at entered
      split at entered
      · cases entered
        apply sum_modify_lt here
        rw [arrived]
        exact Nat.lt_succ_self _
      · cases entered
    · cases entered
  | move place =>
    obtain ⟨visit, here, moved⟩ := Option.bind_eq_some_iff.mp happened
    obtain ⟨⟨stage, session⟩, made, settled⟩ := Option.bind_eq_some_iff.mp moved
    cases settled
    have follows := sound.follows visit (List.mem_of_getElem? here)
    have moves := Visit.move?_moves kinded sound.engine sound.content follows made
    apply sum_modify_lt here
    exact Visit.move?_ahead made moves.follows

theorem run?_length (sound : pool.Sound service origin requests)
    (kinded : origin.store.WellKinded) {events : List Event}
    (ran : pool.run? service events = some next) :
    events.length + next.ahead (Ranking.steps origin.engine.weights).length ≤
      pool.ahead (Ranking.steps origin.engine.weights).length := by
  unfold Pool.run? at ran
  induction events generalizing pool with
  | nil =>
    cases ran
    exact Nat.le_of_eq (Nat.zero_add _)
  | cons event later ih =>
    rw [List.foldlM_cons] at ran
    obtain ⟨middle, happened, rest⟩ := Option.bind_eq_some_iff.mp ran
    have after := ih (sound.step? kinded happened) rest
    have less := step?_ahead sound kinded happened
    rw [List.length_cons]
    omega

theorem ahead_ofRequests (origin : Session) (requests : List Request) (passes : Nat) :
    (ofRequests origin requests).ahead passes = requests.length * (passes + 3) := by
  unfold ahead ofRequests
  rw [List.map_map]
  induction requests with
  | nil => exact (Nat.zero_mul _).symm
  | cons request rest ih =>
    rw [List.map_cons, List.sum_cons, ih, List.length_cons, Nat.succ_mul, Nat.add_comm]
    rfl

theorem resting_of_stuck (stuck : ∀ event, pool.step? service event = none) {visit : Visit}
    (member : visit ∈ pool.visits) :
    visit.stage = .arrived ∨ ∃ response, visit.stage = .answered response := by
  obtain ⟨place, here⟩ := List.getElem?_of_mem member
  have still : visit.move? service pool.session = none := by
    have blocked : pool.move? service place = none := stuck (.move place)
    unfold Pool.move? at blocked
    rw [here] at blocked
    cases made : visit.move? service pool.session with
    | none => rfl
    | some after =>
      dsimp only [bind, Option.bind] at blocked
      rw [made] at blocked
      cases blocked
  cases stage : visit.stage with
  | arrived => exact .inl rfl
  | admitted => exact absurd still (Visit.move?_ne_none _ (.inl stage))
  | scoring query search => exact absurd still (Visit.move?_ne_none _ (.inr ⟨_, _, stage⟩))
  | answered response => exact .inr ⟨response, rfl⟩

theorem enter?_ne_none {place : Nat} {visit : Visit} (here : pool.visits[place]? = some visit)
    (arrived : visit.stage = .arrived)
    (free : ∀ other ∈ pool.visits, other.holds service = .nothing) :
    pool.enter? service place ≠ none := by
  have granted : (pool.visits.all fun other =>
      (service.access visit.request).besides (other.holds service)) = true := by
    apply List.all_eq_true.mpr
    intro other listed
    rw [free other listed]
    exact Access.besides_nothing _
  unfold Pool.enter?
  rw [here]
  dsimp only [bind, Option.bind]
  rw [arrived]
  dsimp only
  rw [if_pos granted]
  exact Option.some_ne_none _

-- Nobody waits for another forever: where no event can happen, all are answered.
theorem answered_of_stuck (stuck : ∀ event, pool.step? service event = none) :
    ∀ visit ∈ pool.visits, ∃ response, visit.stage = .answered response := by
  have free : ∀ visit ∈ pool.visits, visit.holds service = .nothing := by
    intro visit member
    unfold Visit.holds
    rcases resting_of_stuck stuck member with arrived | ⟨response, answered⟩
    · rw [arrived]
    · rw [answered]
  intro visit member
  rcases resting_of_stuck stuck member with arrived | answered
  · obtain ⟨place, here⟩ := List.getElem?_of_mem member
    exact absurd (stuck (.enter place)) (enter?_ne_none here arrived free)
  · exact answered

end Pool

theorem shared_answers_as_alone {snapshot : Snapshot} {store : Store}
    (delivered : snapshot.toStore = .ok store) {weights : WeightTable} {session : Session}
    (opened : Session.ofWeights store weights = .ok session) {config : Config}
    (unlimited : config.server.rateLimit = 0) (key : Option String) {requests : List Request}
    {events : List Event} {pool : Pool}
    (ran : (Pool.ofRequests session requests).run? (.ofConfig config key) events = some pool) :
    (∀ (place : Nat) (request : Request), requests[place]? = some request →
      ∃ stage : Stage, pool.visits[place]? = some ⟨request, stage⟩ ∧
        ∀ response, stage = .answered response →
          response =
            ((Service.ofConfig config key).respond request (.ofConfig config session)).1) ∧
    events.length ≤ requests.length * ((Ranking.steps weights).length + 3) ∧
    ((∀ event, pool.step? (.ofConfig config key) event = none) →
      ∀ visit ∈ pool.visits, ∃ response, visit.stage = .answered response) ∧
    (∀ query count, (pool.session.search query count).1 = (session.search query count).1) ∧
    statusReport pool.session.store = statusReport store ∧
    hashReport pool.session.store = hashReport store ∧
    weightsReport pool.session.engine = weightsReport session.engine := by
  obtain ⟨rfl, rfl⟩ := Session.ofWeights_ok opened
  have kinded := Snapshot.toStore_wellKinded delivered
  have first := Pool.sound_ofRequests (.ofConfig config key) session requests
  have sound := first.run? kinded ran
  have fresh : State.ofConfig config session = ⟨session, none⟩ := by
    unfold State.ofConfig permitsOf
    rw [if_pos unlimited]
  refine ⟨?_, ?_, Pool.answered_of_stuck, ?_, ?_, ?_, ?_⟩
  · intro place request asked
    have named : (pool.visits.map Visit.request)[place]? = some request := by
      rw [sound.requests]
      exact asked
    rw [List.getElem?_map] at named
    obtain ⟨⟨_, stage⟩, here, rfl⟩ := Option.map_eq_some_iff.mp named
    refine ⟨stage, here, ?_⟩
    rintro response rfl
    rw [fresh]
    exact sound.follows _ (List.mem_of_getElem? here)
  · have bound := Pool.run?_length first kinded ran
    rw [Pool.ahead_ofRequests] at bound
    exact (Nat.le_add_right _ _).trans bound
  · exact Session.search_congr sound.content sound.engine kinded
  · exact statusReport_congr sound.content
  · exact hashReport_congr sound.content
  · exact congrArg weightsReport sound.engine

-- A site with one building: it is searched, and while the search is under way somebody asks for
-- the health of the service, which waits for nobody.
def northSite : Snapshot where
  buildings := some [{ id := "b1", attributes := { description := some "North" } }]
  locks := some []
  groups := some []
  media := some []

def northStore : Store where
  buildings := some [{ kind := .building, id := "b1", attributes := { description := some "North" } }]
  locks := some []
  groups := some []
  media := some []

def withoutLimit : Config :=
  { server := { rateLimit := 0 } }

def northRequests : List Request :=
  [{ target := "/search/north" }, { target := "/health" }, { target := "/hash" }]

def northEvents : List Event :=
  [.enter 0, .move 0, .enter 1, .move 0, .move 1, .move 0, .move 0, .move 0, .move 0, .move 0,
    .move 0, .enter 2, .move 2]

theorem decodeSegment?_north : decodeSegment? "north".toList = some "north" := by
  have bytes : percentDecode "north".toList = [0x6E, 0x6F, 0x72, 0x74, 0x68] := by
    unfold percentDecode utf8
    rw [Digest.byteList_eq]
    decide
  have symbols : Text.symbols [0x6E, 0x6F, 0x72, 0x74, 0x68] = "north".toList.map some := by
    simp [Text.symbols, Text.symbolsFrom, Text.character?]
  unfold decodeSegment? Text.ofBytes?
  rw [bytes, symbols]
  rfl

theorem asked?_north :
    (Service.ofConfig withoutLimit none).asked? { target := "/search/north" } =
      some { query := "north", limit := none } := by
  have reached : (Service.ofConfig withoutLimit none).reached? { target := "/search/north" } =
      some (.searchFor "north".toList) := by decide
  unfold Service.asked?
  rw [reached]
  dsimp only
  unfold searchInPath
  rw [decodeSegment?_north]
  rfl

def northEntered : Pool where
  session := .ofStore northStore
  visits := [⟨{ target := "/search/north" }, .admitted⟩, ⟨{ target := "/health" }, .arrived⟩,
    ⟨{ target := "/hash" }, .arrived⟩]

theorem northEvents_run :
    ∃ pool found health hash,
      (Pool.ofRequests (.ofStore northStore) northRequests).run? (.ofConfig withoutLimit none)
        northEvents = some pool ∧
      pool.visits = [⟨{ target := "/search/north" }, .answered found⟩,
        ⟨{ target := "/health" }, .answered health⟩, ⟨{ target := "/hash" }, .answered hash⟩] := by
  have changing := Service.access_asked asked?_north
  have enters : (Pool.ofRequests (.ofStore northStore) northRequests).step?
      (.ofConfig withoutLimit none) (.enter 0) = some northEntered := by
    simp [northEntered, Pool.step?, Pool.enter?, Pool.settle, Pool.ofRequests, northRequests,
      Visit.holds, changing, Access.besides]
  have starts : northEntered.step? (.ofConfig withoutLimit none) (.move 0) =
      some (northEntered.settle 0 ((Service.ofConfig withoutLimit none).stageOf
        { target := "/search/north" } "north" ((Session.ofStore northStore).start "north" 10).1)
        ((Session.ofStore northStore).start "north" 10).2) := by
    simp [northEntered, Pool.step?, Pool.move?, Visit.move?, asked?_north]
    rfl
  unfold Pool.run? northEvents
  rw [List.foldlM_cons, enters]
  dsimp only [bind, Option.bind]
  rw [List.foldlM_cons, starts]
  exact ⟨_, _, _, _, rfl, rfl⟩

theorem shared_answers_of_northSite :
    northSite.toStore = .ok northStore ∧
      Session.ofWeights northStore .stock = .ok (.ofStore northStore) ∧
      withoutLimit.server.rateLimit = 0 ∧
      ∃ pool found,
        (Pool.ofRequests (.ofStore northStore) northRequests).run? (.ofConfig withoutLimit none)
          northEvents = some pool ∧
        pool.visits[0]? = some ⟨{ target := "/search/north" }, .answered found⟩ ∧
        found = ((Service.ofConfig withoutLimit none).respond { target := "/search/north" }
          (.ofConfig withoutLimit (.ofStore northStore))).1 ∧
        hashReport pool.session.store = hashReport northStore := by
  obtain ⟨pool, found, health, hash, ran, visits⟩ := northEvents_run
  have first : pool.visits[0]? = some ⟨{ target := "/search/north" }, .answered found⟩ := by
    rw [visits]
    rfl
  have delivered : northSite.toStore = .ok northStore := rfl
  have opened : Session.ofWeights northStore .stock = .ok (.ofStore northStore) := rfl
  obtain ⟨alone, _, _, _, _, kept, _⟩ := shared_answers_as_alone delivered opened rfl none ran
  obtain ⟨stage, here, same⟩ := alone 0 _ rfl
  rw [first] at here
  cases here
  exact ⟨delivered, opened, rfl, pool, found, ran, first, same found rfl, kept⟩

end SiteSearch.Http
