import Mathlib.Data.List.Basic
import SiteSearch.Proofs.Session.Outcome
import SiteSearch.Stepwise

-- A search taken apart, move by move, gives the answer of the whole search. It may set out from any
-- scores, as long as the content is that of the store it is compared on.
namespace SiteSearch

namespace Ranking

-- The store after some of the steps of a ranking.
def partly (table : WeightTable) (query : String) (store : Store) (done : List Step) : Store :=
  store.mapNodes fun node => node.resetScore.addScores (gains table query store done node)

def counted (table : WeightTable) (query : String) (store : Store) (done : List Step) : Summary :=
  done.foldl (fun counters step => counters.record (step.found table query store) step) {}

theorem partly_content (table : WeightTable) (query : String) (store : Store)
    (done : List Step) : (partly table query store done).SameContent store :=
  store.sameContent_mapNodes fun node => node.resetScore.resetScore_addScores _

theorem partly_loaded {store : Store} (loaded : store.Loaded) (table : WeightTable)
    (query : String) (done : List Step) : (partly table query store done).Loaded :=
  Store.loaded_mapNodes loaded _

theorem partly_concat (table : WeightTable) (query : String) (store : Store) (done : List Step)
    (step : Step) :
    ((partly table query store done).mapNodes fun node =>
        node.addScores (step.gainAt table query store node)) =
      partly table query store (done ++ [step]) := by
  unfold partly
  rw [Store.mapNodes_mapNodes]
  refine Store.mapNodes_congr fun _ node _ => ?_
  have blind : step.gainAt table query store
      (node.resetScore.addScores (gains table query store done node)) =
        step.gainAt table query store node :=
    Step.gainAt_congr (.refl store) (node.resetScore.resetScore_addScores _) table query step
  have later : gains table query store (done ++ [step]) node =
      gains table query store done node ++ step.gainAt table query store node := by
    unfold gains
    rw [List.flatMap_append, List.flatMap_singleton]
  rw [blind, later, Node.addScores_append]

theorem counted_concat (table : WeightTable) (query : String) (store : Store) (done : List Step)
    (step : Step) :
    counted table query store (done ++ [step]) =
      (counted table query store done).record (step.found table query store) step := by
  unfold counted
  rw [List.foldl_append]
  rfl

-- Steps of one sort add up in one counter.
theorem foldl_record {α : Type} (sort : α → Step) (bump : Summary → Nat → Summary)
    (records : ∀ counters found item, Summary.record counters found (sort item) =
      bump counters found)
    (nothing : ∀ counters, bump counters 0 = counters)
    (twice : ∀ counters one other, bump (bump counters one) other = bump counters (one + other))
    (found : Step → Nat) (items : List α) (counters : Summary) :
    (items.map sort).foldl (fun counters step => counters.record (found step) step) counters =
      bump counters ((items.map sort).map found).sum := by
  induction items generalizing counters with
  | nil => exact (nothing counters).symm
  | cons item rest ih =>
    rw [List.map_cons, List.foldl_cons, ih, List.map_cons, List.sum_cons, records, twice]

theorem counted_steps (table : WeightTable) (query : String) (store : Store) :
    counted table query store (steps table) =
      { summary table query store with scoredNodes := 0 } := by
  have direct := foldl_record Step.direct
    (fun counters found =>
      { counters with directMatches := counters.directMatches + found })
    (fun _ _ _ => rfl) (fun _ => rfl) (fun _ _ _ => by rw [Nat.add_assoc])
    (Step.found table query store) Kind.all
  have lending := foldl_record (fun entry : Relation × TransitiveRule =>
      Step.transitive entry.1 entry.2)
    (fun counters found =>
      { counters with transitiveBoosts := counters.transitiveBoosts + found })
    (fun _ _ _ => rfl) (fun _ => rfl) (fun _ _ _ => by rw [Nat.add_assoc])
    (Step.found table query store) table.rules
  unfold counted steps directSteps lendingSteps
  rw [List.foldl_append, direct, lending]
  simp only [Nat.zero_add]
  rfl

end Ranking

-- How a search under way stands to the whole search of an origin: some steps are done, and the
-- counters and the scores are those of these steps, from cleared scores.
structure Search.Midway (origin : Session) (query : String) (count : Nat) (search : Search)
    (now : Session) : Prop where
  accepted : checkQuery query = .ok ()
  loaded : origin.store.Loaded
  sought : search.query = Text.lowercase query
  limit : search.count = count
  engine : now.engine = origin.engine
  steps : ∃ done, done ++ search.pending = Ranking.steps origin.engine.weights ∧
    search.summary = Ranking.counted origin.engine.weights
      (Text.lowercase (Text.lowercase query)) origin.store done ∧
    now.store = Ranking.partly origin.engine.weights
      (Text.lowercase (Text.lowercase query)) origin.store done

theorem Search.Midway.content {origin : Session} {query : String} {count : Nat} {search : Search}
    {now : Session} (midway : search.Midway origin query count now) :
    now.store.SameContent origin.store := by
  obtain ⟨done, _, _, scored⟩ := midway.steps
  rw [scored]
  exact Ranking.partly_content _ _ _ done

theorem Search.Midway.pending_le {origin : Session} {query : String} {count : Nat}
    {search : Search} {now : Session} (midway : search.Midway origin query count now) :
    search.pending.length ≤ (Ranking.steps origin.engine.weights).length := by
  obtain ⟨done, split, _, _⟩ := midway.steps
  rw [← split, List.length_append]
  exact Nat.le_add_left _ _

-- What holds after each move.
def Progress.Follows (origin : Session) (query : String) (count : Nat) (now : Session) :
    Progress → Prop
  | .underway search => search.Midway origin query count now
  | .finished answer =>
    answer = (origin.search query count).1 ∧ now.engine = origin.engine ∧
      now.store.SameContent origin.store

theorem Progress.Follows.keeps {origin : Session} {query : String} {count : Nat} {now : Session}
    {progress : Progress} (follows : progress.Follows origin query count now) :
    now.engine = origin.engine ∧ now.store.SameContent origin.store := by
  cases progress with
  | underway search => exact ⟨follows.engine, follows.content⟩
  | finished answer => exact follows.2

namespace Session

theorem start_follows {origin session : Session}
    (same : session.store.SameContent origin.store) (engine : session.engine = origin.engine)
    (query : String) (count : Nat) :
    (session.start query count).1.Follows origin query count
      (session.start query count).2 := by
  unfold start
  cases checked : checkQuery query with
  | error fault => exact ⟨by rw [search_refused checked], engine, same⟩
  | ok _ =>
    rw [Store.ensureLoaded_eq]
    cases absent : session.store.firstAbsent? with
    | some kind =>
      exact ⟨by rw [search_absent checked (same.firstAbsent?.symm.trans absent)], engine, same⟩
    | none =>
      have loaded := origin.store.firstAbsent?_eq_none_iff.mp (same.firstAbsent?.symm.trans absent)
      have all : [] ++ Ranking.steps session.engine.weights =
          Ranking.steps origin.engine.weights := by rw [List.nil_append, engine]
      exact ⟨checked, loaded, rfl, rfl, engine, [], all, rfl, same⟩

theorem select_follows {origin now : Session} (kinded : origin.store.WellKinded)
    {query : String} {count : Nat} {search : Search}
    (midway : search.Midway origin query count now) (last : search.pending = []) :
    now.select search = (origin.search query count).1 := by
  obtain ⟨accepted, loaded, sought, limit, engine, done, split, summed, scored⟩ := midway
  rw [last, List.append_nil] at split
  subst split
  have every : now.store = Ranking.ranked origin.engine.weights
      (Text.lowercase (Text.lowercase query)) origin.store := scored
  have ready : now.store.Loaded := by
    rw [every]
    exact Ranking.ranked_loaded loaded _ _
  unfold select
  rw [search_loaded accepted loaded kinded, ready.selection, ready.best, summed,
    Ranking.counted_steps, sought, limit, every]
  rfl

theorem advance_follows {origin now : Session} (kinded : origin.store.WellKinded)
    {query : String} {count : Nat} {search : Search}
    (midway : search.Midway origin query count now) :
    (now.advance search).1.Follows origin query count (now.advance search).2 := by
  have answer := select_follows kinded midway
  have content := midway.content
  obtain ⟨accepted, loaded, sought, limit, engine, done, split, summed, scored⟩ := midway
  unfold advance
  cases pending : search.pending with
  | nil => exact ⟨answer pending, engine, content⟩
  | cons step later =>
    rw [pending] at split
    have listed : step ∈ Ranking.steps origin.engine.weights := by
      rw [← split]
      exact List.mem_append_right done List.mem_cons_self
    have ready : now.store.Loaded := by
      rw [scored]
      exact Ranking.partly_loaded loaded _ _ done
    have ran := Ranking.Step.run_midway (Ranking.steps_fit origin.engine.fits listed) content ready
      (content.wellKinded kinded) (Text.lowercase (Text.lowercase query))
    dsimp only
    rw [engine, sought, ran]
    refine ⟨accepted, loaded, rfl, limit, rfl, done ++ [step], ?_, ?_, ?_⟩
    · rw [List.append_assoc]
      exact split
    · rw [Ranking.counted_concat, ← summed]
    · rw [← Ranking.partly_concat, ← scored]

theorem advance_shorter {session : Session} {search next : Search}
    (moved : (session.advance search).1 = .underway next) :
    next.pending.length < search.pending.length := by
  unfold advance at moved
  cases pending : search.pending with
  | nil =>
    rw [pending] at moved
    cases moved
  | cons step later =>
    rw [pending] at moved
    dsimp only at moved
    split at moved
    · cases moved
    · cases moved
      exact Nat.lt_succ_self later.length

end Session

end SiteSearch
