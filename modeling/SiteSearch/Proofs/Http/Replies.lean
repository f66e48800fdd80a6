import Mathlib.Data.List.Basic
import SiteSearch.Proofs.Command.Searching
import SiteSearch.Proofs.Http.Answers
import SiteSearch.Proofs.Http.Limit
import SiteSearch.Proofs.Ranking.Counts
import SiteSearch.Proofs.Session.Refusals
import SiteSearch.Proofs.Text.Lowering

-- What a search is answered over the network. The status says which of three ways the search has
-- gone, and the reply in the body says no more than the status allows: all results or none.
namespace SiteSearch

namespace Session

theorem length_hits (session : Session) (query : String) (count : Nat) :
    (session.outcome query count).hits.length = min count session.store.nodeCount := by
  unfold outcome
  dsimp only
  rw [List.length_take, (List.mergeSort_perm _ _).length_eq, Ranking.listed_ranked,
    List.length_map, Store.length_listed]

theorem hits_descend (session : Session) (query : String) (count : Nat) :
    (session.outcome query count).hits.Pairwise fun one two => two.score ≤ one.score :=
  (Selection.sorted_pairwise _).sublist (List.take_sublist count _)

theorem hits_scored (session : Session) (query : String) (count : Nat) :
    ∀ hit ∈ (session.outcome query count).hits, ∃ node ∈ session.store.listed, hit =
      { node with
        score := .ofNat (min (UInt64.size - 1)
          (relevance session.engine.weights (Text.lowercase query) session.store node)) } := by
  unfold outcome
  dsimp only
  intro hit taken
  have among := (List.mergeSort_perm _ _).mem_iff.mp (List.mem_of_mem_take taken)
  rw [Text.lowercase_lowercase, Ranking.ranked_eq, Store.listed_mapNodes] at among
  obtain ⟨node, listed, rfl⟩ := List.mem_map.mp among
  exact ⟨node, listed, rfl⟩

end Session

namespace Http

-- The reply to a search that has found what there is: the outcome itself, of nodes that are scored
-- by what they are worth.
structure Granted (search : SearchConfig) (table : WeightTable) (store : Store)
    (asked : Wire.SearchRequest) (found : Except SearchError Outcome)
    (reply : Wire.SearchReply) : Prop where
  outcome : ∃ outcome, found = .ok outcome ∧ reply = .ofOutcome outcome
  scored : ∀ hit ∈ reply.results, ∃ node ∈ store.listed, hit = .of
    { node with
      score := .ofNat (min (UInt64.size - 1)
        (relevance table (Text.lowercase asked.query) store node)) }
  success : reply.success = true
  error : reply.error = none
  query : reply.query = Text.lowercase asked.query
  results : reply.count = reply.results.length
  count : reply.count = min (min (asked.limit.getD search.topK) search.maxTopK) store.nodeCount
  descending : reply.results.Pairwise fun one two => two.score ≤ one.score

structure Refused (asked : Wire.SearchRequest) (fault : SearchError) (reply : Wire.SearchReply) :
    Prop where
  success : reply.success = false
  error : reply.error = some fault.message
  query : reply.query = asked.query
  count : reply.count = 0
  results : reply.results = []

-- The status and the reply of a search of which the engine says what it has found.
structure Answers (search : SearchConfig) (table : WeightTable) (store : Store)
    (asked : Wire.SearchRequest) (found : Except SearchError Outcome) (status : Status)
    (reply : Wire.SearchReply) : Prop where
  badRequest : status = .badRequest ↔ asked.query = "" ∨ 256 < asked.query.utf8ByteSize
  serverError : status = .serverError ↔
    (asked.query ≠ "" ∧ asked.query.utf8ByteSize ≤ 256) ∧ ∃ kind, store.collection kind = none
  otherwise : status ≠ .badRequest → status ≠ .serverError → status = .ok
  granted : status = .ok → Granted search table store asked found reply
  refused : status ≠ .ok → ∃ fault, found = .error fault ∧ Refused asked fault reply
  bounded : reply.results.length ≤ search.maxTopK

section Answers

variable (search : SearchConfig) (table : WeightTable) (asked : Wire.SearchRequest)

theorem refused_ofFault (fault : SearchError) :
    Refused asked fault (.ofFault asked.query fault) :=
  ⟨rfl, rfl, rfl, rfl, rfl⟩

theorem granted_ofOutcome (session : Session) :
    let outcome := session.outcome asked.query (search.resolveLimit asked.limit)
    Granted search session.engine.weights session.store asked (.ok outcome)
      (.ofOutcome outcome) := by
  refine ⟨⟨_, rfl, rfl⟩, fun hit listed => ?_, rfl, rfl, rfl, ?_, session.length_hits asked.query _,
    ?_⟩
  · obtain ⟨hit, found, rfl⟩ := List.mem_map.mp listed
    obtain ⟨node, here, rfl⟩ := session.hits_scored asked.query _ hit found
    exact ⟨node, here, rfl⟩
  · exact (List.length_map _).symm
  · exact List.pairwise_map.mpr (session.hits_descend asked.query _)

theorem answers_unfit (store : Store) {cause : QueryFault}
    (because : QueryFault.Of asked.query cause) :
    Answers search table store asked (.error (.invalidQuery cause)) .badRequest
      (.ofFault asked.query (.invalidQuery cause)) where
  badRequest := iff_of_true rfl because.unfit
  serverError := iff_of_false nofun fun blamed => not_unfit blamed.1 because.unfit
  otherwise := fun apart _ => absurd rfl apart
  granted := nofun
  refused := fun _ => ⟨_, rfl, refused_ofFault asked _⟩
  bounded := Nat.zero_le _

theorem answers_absent {store : Store} {kind : Kind}
    (fit : asked.query ≠ "" ∧ asked.query.utf8ByteSize ≤ 256) (absent : store.FirstAbsent kind) :
    Answers search table store asked (.error (.dataNotLoaded kind)) .serverError
      (.ofFault asked.query (.dataNotLoaded kind)) where
  badRequest := iff_of_false nofun (not_unfit fit)
  serverError := iff_of_true rfl ⟨fit, kind, absent.1⟩
  otherwise := fun _ apart => absurd rfl apart
  granted := nofun
  refused := fun _ => ⟨_, rfl, refused_ofFault asked _⟩
  bounded := Nat.zero_le _

theorem answers_found {session : Session}
    (fit : asked.query ≠ "" ∧ asked.query.utf8ByteSize ≤ 256) (loaded : session.store.Loaded) :
    let outcome := session.outcome asked.query (search.resolveLimit asked.limit)
    Answers search session.engine.weights session.store asked (.ok outcome) .ok
      (.ofOutcome outcome) := by
  have granted := granted_ofOutcome search asked session
  refine ⟨iff_of_false nofun (not_unfit fit), iff_of_false nofun ?_, fun _ _ => rfl,
    fun _ => granted, fun failed => absurd rfl failed, ?_⟩
  · rintro ⟨_, kind, absent⟩
    have present := loaded kind
    rw [absent] at present
    cases present
  · rw [← granted.results, granted.count]
    exact (Nat.min_le_left _ _).trans (Nat.min_le_right _ _)

theorem searchReply_answers {session : Session} (kinded : session.store.WellKinded)
    {found : Except SearchError Outcome}
    (ran : (session.search asked.query (search.resolveLimit asked.limit)).1 = found) :
    ∃ reply, (searchReply asked.query found).body = .json (Wire.ofSearchReply reply) ∧
      Answers search session.engine.weights session.store asked found
        (searchReply asked.query found).status reply := by
  rcases session.search_cases kinded asked.query (search.resolveLimit asked.limit) with
    ⟨cause, because, refused⟩ | ⟨fit, kind, absent, refused⟩ | ⟨fit, loaded, granted⟩
  · obtain rfl := ran.symm.trans refused
    exact ⟨_, rfl, answers_unfit search session.engine.weights asked session.store because⟩
  · obtain rfl := ran.symm.trans refused
    exact ⟨_, rfl, answers_absent search session.engine.weights asked fit absent⟩
  · obtain rfl := ran.symm.trans granted
    exact ⟨_, rfl, answers_found search asked fit loaded⟩

end Answers

-- Whatever a server with valid settings was asked before, and at whatever rate.
theorem searches_are_answered {config : Config} (valid : config.validate = .ok ())
    {snapshot : Snapshot} {store : Store} (delivered : snapshot.toStore = .ok store)
    (key : Option String) :
    let service := Service.ofConfig config key
    ∃ table session, config.weightTable = .ok table ∧
      Session.ofWeights store table = .ok session ∧
      ∀ state, service.Reaches (.ofConfig config session) state → state.permits ≠ some 0 →
        ∀ request asked, service.asked? request = some asked → request.method ≠ .head →
          ∃ reply, (service.respond request state).1.body = .json (Wire.ofSearchReply reply) ∧
            Answers config.search table store asked
              (state.session.search asked.query (config.search.resolveLimit asked.limit)).1
              (service.respond request state).1.status reply := by
  intro service
  obtain ⟨engine, weights⟩ := Command.engine_of_validate valid
  have kinded := Snapshot.toStore_wellKinded delivered
  refine ⟨engine.weights, ⟨store, engine⟩, weights, Command.ofWeights_engine store engine, ?_⟩
  intro state reached within request asked wanted shown
  have keeps := reached.keeps kinded
  have found := Session.search_congr keeps.content keeps.engine kinded asked.query
    (config.search.resolveLimit asked.limit)
  have answered := service.respond_let_in wanted within
  rw [answered, Service.wrap, status_complete, body_complete shown]
  exact @searchReply_answers config.search asked ⟨store, engine⟩ kinded _ found.symm

-- The last request that the limit lets in, after others.
theorem searches_are_answered_in_north :
    let service := Service.ofConfig threeASecond none
    let request : Request := { target := "/search/north" }
    threeASecond.validate = .ok () ∧ northSite.toStore = .ok northStore ∧
      service.asked? request = some ⟨"north", none⟩ ∧
      ∃ session reply, Session.ofWeights northStore .stock = .ok session ∧
        service.Reaches (.ofConfig threeASecond session) ⟨session, some 1⟩ ∧
        (service.respond request ⟨session, some 1⟩).1.status = .ok ∧
        (service.respond request ⟨session, some 1⟩).1.body = .json (Wire.ofSearchReply reply) ∧
        reply.count = 1 ∧ ∀ hit ∈ reply.results, hit.score = 50 := by
  have valid : threeASecond.validate = .ok () := rfl
  have delivered : northSite.toStore = .ok northStore := rfl
  obtain ⟨table, session, weights, opened, answers⟩ := searches_are_answered valid delivered none
  obtain rfl : WeightTable.stock = table := Except.ok.inj weights
  have reached : (Service.ofConfig threeASecond none).Reaches (.ofConfig threeASecond session)
      ⟨session, some 1⟩ := .renewed .start (some 1)
  obtain ⟨reply, told, answered⟩ := answers _ reached nofun _ _ asked?_north nofun
  have complete : ¬ ∃ kind, northStore.collection kind = none := by
    rintro ⟨kind, absent⟩
    cases kind <;> cases absent
  have fine := answered.otherwise
    (fun bad => not_unfit (by decide) (answered.badRequest.mp bad))
    (fun failed => complete (answered.serverError.mp failed).2)
  have granted := answered.granted fine
  refine ⟨valid, delivered, asked?_north, session, reply, opened, reached, fine, told,
    granted.count, fun hit listed => ?_⟩
  obtain ⟨node, here, rfl⟩ := granted.scored hit listed
  obtain rfl := List.mem_singleton.mp here
  decide +kernel

end Http

end SiteSearch
