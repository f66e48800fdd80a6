import Mathlib.Data.List.Basic
import SiteSearch.Proofs.Ranking.Passes

-- A whole ranking, as one map over the nodes: the scores are cleared and every node receives, step
-- by step, the points that the content gives it.
namespace SiteSearch

namespace Ranking

-- All points that steps add to a node.
def gains (table : WeightTable) (query : String) (store : Store) (steps : List Step)
    (node : Node) : List Score :=
  steps.flatMap (Step.gainAt table query store node)

theorem gains_congr {a b : Store} (same : a.SameContent b) {one other : Node}
    (alike : one.resetScore = other.resetScore) (table : WeightTable) (query : String)
    (steps : List Step) : gains table query a steps one = gains table query b steps other :=
  congrArg (List.flatMap · steps) (funext fun step => Step.gainAt_congr same alike table query step)

-- The store as a ranking leaves it, for a lowercase query.
def ranked (table : WeightTable) (query : String) (store : Store) : Store :=
  store.mapNodes fun node =>
    node.resetScore.addScores (gains table query store (steps table) node)

def summary (table : WeightTable) (query : String) (store : Store) : Summary where
  directMatches := (directSteps.map (Step.found table query store)).sum
  transitiveBoosts := ((lendingSteps table).map (Step.found table query store)).sum
  scoredNodes := (ranked table query store).listed.countP (0 < ·.score)

theorem steps_fit {table : WeightTable} (fits : table.Fits) {step : Step}
    (listed : step ∈ steps table) : step.Fits table := by
  rcases List.mem_append.mp listed with direct | lending
  · obtain ⟨kind, _, rfl⟩ := List.mem_map.mp direct
    exact fits.direct kind
  · obtain ⟨⟨relation, rule⟩, member, rfl⟩ := List.mem_map.mp lending
    exact fits.rule relation rule ((table.mem_rules relation rule).mp member)

-- A step in the middle of a ranking finds what it would find at the start.
theorem Step.run_midway {table : WeightTable} {step : Step} (fits : step.Fits table)
    {base store : Store} (same : store.SameContent base) (loaded : store.Loaded)
    (kinded : store.WellKinded) (query : String) :
    step.run table query store =
      (.ok (step.found table query base),
        store.mapNodes fun node => node.addScores (step.gainAt table query base node)) := by
  have alike (node : Node) :
      step.gainAt table query store node = step.gainAt table query base node :=
    Step.gainAt_congr same rfl table query step
  rw [Step.run_eq fits loaded kinded, Step.found_congr same]
  simp only [alike]

theorem sequence_steps {table : WeightTable} {pending : List Step}
    (fit : ∀ step ∈ pending, step.Fits table) {base store : Store}
    (same : store.SameContent base) (loaded : store.Loaded) (kinded : store.WellKinded)
    (query : String) :
    sequence (pending.map (Step.run table query)) store =
      (.ok (pending.map (Step.found table query base)).sum,
        store.mapNodes fun node => node.addScores (gains table query base pending node)) := by
  -- `base` stays where it is while the scores of `store` change under the steps
  induction pending generalizing store with
  | nil => exact congrArg (fun store => (Except.ok 0, store)) store.mapNodes_self.symm
  | cons step rest ih =>
    have keeps : ∀ node : Node,
        (node.addScores (step.gainAt table query base node)).resetScore = node.resetScore :=
      fun node => node.resetScore_addScores _
    have later := ih (fun other member => fit other (List.mem_cons_of_mem _ member))
      ((store.sameContent_mapNodes keeps).trans same) (Store.loaded_mapNodes loaded _)
      (Store.wellKinded_mapNodes kinded fun node => node.kind_addScores _)
    rw [List.map_cons, sequence, Step.run_midway (fit step List.mem_cons_self) same loaded kinded]
    dsimp only
    rw [later, Store.mapNodes_mapNodes]
    refine Prod.ext rfl (Store.mapNodes_congr fun _ node _ => ?_)
    have kept : gains table query base rest
        (node.addScores (step.gainAt table query base node)) =
          gains table query base rest node :=
      gains_congr (.refl base) (node.resetScore_addScores _) table query rest
    rw [kept, ← Node.addScores_append]
    rfl

theorem ranked_loaded {store : Store} (loaded : store.Loaded) (table : WeightTable)
    (query : String) : (ranked table query store).Loaded :=
  Store.loaded_mapNodes loaded _

theorem ranked_content (table : WeightTable) (query : String) (store : Store) :
    (ranked table query store).SameContent store :=
  store.sameContent_mapNodes fun node => node.resetScore.resetScore_addScores _

-- What the scores were before makes no difference.
theorem ranked_congr {a b : Store} (same : a.SameContent b) (table : WeightTable)
    (query : String) : ranked table query a = ranked table query b := by
  have cleared {store : Store} (like : store.SameContent a) :
      ranked table query store = store.resetScores.mapNodes fun node =>
        node.addScores (gains table query a (steps table) node) := by
    unfold ranked Store.resetScores
    rw [Store.mapNodes_mapNodes]
    refine Store.mapNodes_congr fun _ node _ => ?_
    have points : gains table query store (steps table) node =
        gains table query a (steps table) node.resetScore :=
      gains_congr like node.resetScore_resetScore.symm table query (steps table)
    rw [points]
  have scoreless : a.resetScores = b.resetScores := same
  rw [cleared (.refl a), cleared same.symm, scoreless]

theorem summary_congr {a b : Store} (same : a.SameContent b) (table : WeightTable)
    (query : String) : summary table query a = summary table query b := by
  have finds (steps : List Step) : steps.map (Step.found table query a) =
      steps.map (Step.found table query b) :=
    List.map_congr_left fun step _ => Step.found_congr same table query step
  unfold summary
  rw [finds, finds, ranked_congr same]

-- The direct passes and then the lending passes, from cleared scores.
theorem ranked_in_two (table : WeightTable) (query : String) (store : Store) :
    ((store.resetScores.mapNodes fun node =>
        node.addScores (gains table query store directSteps node)).mapNodes fun node =>
      node.addScores (gains table query store (lendingSteps table) node)) =
      ranked table query store := by
  unfold Store.resetScores ranked
  rw [Store.mapNodes_mapNodes, Store.mapNodes_mapNodes]
  refine Store.mapNodes_congr fun _ node _ => ?_
  have first : gains table query store directSteps node.resetScore =
      gains table query store directSteps node :=
    gains_congr (.refl store) node.resetScore_resetScore table query directSteps
  have second : gains table query store (lendingSteps table)
      (node.resetScore.addScores (gains table query store directSteps node)) =
        gains table query store (lendingSteps table) node :=
    gains_congr (.refl store) (node.resetScore.resetScore_addScores _) table query _
  rw [first, second, ← Node.addScores_append]
  exact congrArg _ List.flatMap_append.symm

theorem direct_sequence {table : WeightTable} (fits : table.Fits) {store : Store}
    (loaded : store.Loaded) (kinded : store.WellKinded) (query : String) :
    sequence (Kind.all.map (directPass table query)) store.resetScores =
      (.ok (directSteps.map (Step.found table query store)).sum,
        store.resetScores.mapNodes fun node =>
          node.addScores (gains table query store directSteps node)) := by
  have runs : directSteps.map (Step.run table query) = Kind.all.map (directPass table query) :=
    List.map_map
  rw [← runs]
  exact sequence_steps (fun step member => steps_fit fits (List.mem_append_left _ member))
    store.sameContent_resetScores (Store.loaded_resetScores loaded)
    (Store.wellKinded_resetScores kinded) query

theorem lending_sequence {table : WeightTable} (fits : table.Fits) {store : Store}
    (loaded : store.Loaded) (kinded : store.WellKinded) (query : String) :
    sequence (table.rules.map fun entry => transitivePass query entry.1 entry.2)
        (store.resetScores.mapNodes fun node =>
          node.addScores (gains table query store directSteps node)) =
      (.ok ((lendingSteps table).map (Step.found table query store)).sum,
        ranked table query store) := by
  have runs : (lendingSteps table).map (Step.run table query) =
      table.rules.map fun entry => transitivePass query entry.1 entry.2 :=
    List.map_map
  have same : (store.resetScores.mapNodes fun node =>
      node.addScores (gains table query store directSteps node)).SameContent store :=
    (Store.sameContent_mapNodes _ fun node => node.resetScore_addScores _).trans
      store.sameContent_resetScores
  rw [← runs, ← ranked_in_two]
  exact sequence_steps (fun step member => steps_fit fits (List.mem_append_right _ member)) same
    (Store.loaded_mapNodes (Store.loaded_resetScores loaded) _)
    (Store.wellKinded_mapNodes (Store.wellKinded_resetScores kinded)
      fun node => node.kind_addScores _) query

theorem passes_eq {table : WeightTable} (fits : table.Fits) {store : Store}
    (loaded : store.Loaded) (kinded : store.WellKinded) (query : String) :
    passes table query store.resetScores =
      (.ok (summary table query store), ranked table query store) := by
  unfold passes
  rw [direct_sequence fits loaded kinded]
  dsimp only
  rw [lending_sequence fits loaded kinded]
  dsimp only
  rw [(ranked_loaded loaded table query).selection]
  rfl

end Ranking

-- On a store with all collections a ranking is always granted, whatever the scores were.
theorem Engine.rank_eq (engine : Engine) {store : Store} (loaded : store.Loaded)
    (kinded : store.WellKinded) (query : String) :
    engine.rank query store =
      (.ok (Ranking.summary engine.weights (Text.lowercase query) store),
        Ranking.ranked engine.weights (Text.lowercase query) store) := by
  unfold Engine.rank
  rw [loaded.ensureLoaded]
  exact Ranking.passes_eq engine.fits loaded kinded _

theorem Engine.rank_gives {engine : Engine} {store after : Store} (loaded : store.Loaded)
    (kinded : store.WellKinded) {query : String} {answer : Except SearchError Summary}
    (ran : engine.rank query store = (answer, after)) :
    answer = .ok (Ranking.summary engine.weights (Text.lowercase query) store) ∧
      after = Ranking.ranked engine.weights (Text.lowercase query) store :=
  Prod.mk.inj (ran.symm.trans (engine.rank_eq loaded kinded query))

-- On any other store it is refused before a score is touched.
theorem Engine.rank_absent (engine : Engine) {store : Store} {kind : Kind}
    (absent : store.firstAbsent? = some kind) (query : String) :
    engine.rank query store = (.error (.dataNotLoaded kind), store) := by
  unfold Engine.rank
  rw [store.ensureLoaded_eq, absent]

end SiteSearch
