import Mathlib.Algebra.Order.BigOperators.Group.List
import Mathlib.Algebra.Order.Ring.Nat
import Mathlib.Data.List.Forall2
import SiteSearch.Proofs.Ranking.Counts

-- A query and a narrower one that contains it. Wherever the narrower one occurs the wider one does
-- too, so every step of a ranking finds at least as much for the wider query. Scores may still fall:
-- what was a whole match for the narrower query is a part for the wider one.
namespace SiteSearch

-- A whole match is an occurrence like any other.
theorem worth_pos_iff (value : Option String) (weight : Weight) (query : String) :
    0 < worth value weight query ↔
      0 < weight.toNat ∧ query.toList <:+: (Text.lowercase (value.getD "")).toList := by
  unfold worth
  dsimp only
  by_cases whole : Text.lowercase (value.getD "") = query
  · rw [if_pos whole, whole]
    constructor
    · intro positive
      exact ⟨Nat.pos_of_mul_pos_left positive, List.infix_rfl⟩
    · rintro ⟨positive, _⟩
      omega
  · rw [if_neg whole]
    by_cases part : query.toList <:+: (Text.lowercase (value.getD "")).toList
    · rw [if_pos part]
      exact (and_iff_left part).symm
    · rw [if_neg part]
      exact iff_of_false (Nat.lt_irrefl 0) fun found => part found.2

section Narrowed

variable {wide narrow : String} (inside : wide.toList <:+: narrow.toList)

include inside

theorem worth_pos_widened {value : Option String} {weight : Weight}
    (found : 0 < worth value weight narrow) : 0 < worth value weight wide := by
  obtain ⟨positive, occurs⟩ := (worth_pos_iff value weight narrow).mp found
  exact (worth_pos_iff value weight wide).mpr ⟨positive, inside.trans occurs⟩

theorem length_points_widened (weights : FieldWeights) (node : Node) :
    (weights.points narrow node).length ≤ (weights.points wide node).length := by
  rw [length_points, length_points]
  refine List.countP_mono_left fun entry _ found => ?_
  exact decide_eq_true (worth_pos_widened inside (of_decide_eq_true found))

namespace Ranking

theorem length_lent_widened (weights : FieldWeights) (donors : List Node) (key : Option String) :
    (lent weights narrow donors key).length ≤ (lent weights wide donors key).length := by
  unfold lent
  rw [List.length_flatMap, List.length_flatMap]
  exact List.sum_le_sum fun donor _ => length_points_widened inside weights donor

theorem Step.length_gainAt_widened (table : WeightTable) (store : Store) (node : Node)
    (step : Step) :
    (step.gainAt table narrow store node).length ≤ (step.gainAt table wide store node).length := by
  unfold gainAt
  split
  · cases step with
    | direct kind => exact length_points_widened inside (table.direct kind) node
    | transitive relation rule => exact length_lent_widened inside rule.weights _ _
  · exact Nat.le_refl 0

theorem length_gains_widened (table : WeightTable) (store : Store) (steps : List Step)
    (node : Node) :
    (gains table narrow store steps node).length ≤ (gains table wide store steps node).length := by
  unfold gains
  rw [List.length_flatMap, List.length_flatMap]
  exact List.sum_le_sum fun step _ => step.length_gainAt_widened inside table store node

theorem found_widened {store : Store} (kinded : store.WellKinded) (table : WeightTable)
    (steps : List Step) :
    (steps.map (Step.found table narrow store)).sum ≤
      (steps.map (Step.found table wide store)).sum := by
  rw [sum_found kinded, sum_found kinded]
  exact List.sum_le_sum fun node _ => length_gains_widened inside table store steps node

theorem scoredNodes_widened (table : WeightTable) (store : Store) :
    (summary table narrow store).scoredNodes ≤ (summary table wide store).scoredNodes := by
  rw [scoredNodes_eq, scoredNodes_eq]
  refine List.countP_mono_left fun node _ scored => decide_eq_true ?_
  exact Nat.lt_of_lt_of_le (of_decide_eq_true scored)
    (length_gains_widened inside table store (steps table) node)

theorem scored_widened (table : WeightTable) (store : Store) (node : Node)
    (scored : 0 < (node.resetScore.addScores (gains table narrow store (steps table) node)).score) :
    0 < (node.resetScore.addScores (gains table wide store (steps table) node)).score := by
  rw [scored_iff] at scored ⊢
  exact Nat.lt_of_lt_of_le scored (length_gains_widened inside table store (steps table) node)

end Ranking

end Narrowed

-- Narrowing a query never brings in a node that the wider query did not score, and never raises a
-- counter. The wider query may be ranked before the narrower one or after it.
theorem narrowing_brings_nothing_new {table : WeightTable} {engine : Engine}
    (accepted : Engine.ofWeights table = .ok engine) {store : Store} (loaded : store.Loaded)
    (kinded : store.WellKinded) {wide narrow : String}
    (inside : (Text.lowercase wide).toList <:+: (Text.lowercase narrow).toList) :
    ∃ many few widened narrowed,
      engine.rank wide store = (.ok many, widened) ∧
      engine.rank narrow store = (.ok few, narrowed) ∧
      engine.rank wide narrowed = (.ok many, widened) ∧
      (∀ kind, List.Forall₂ (fun one other : Node =>
          one.resetScore = other.resetScore ∧ (0 < one.score → 0 < other.score))
        ((narrowed.collection kind).getD []) ((widened.collection kind).getD [])) ∧
      few.directMatches ≤ many.directMatches ∧
      few.transitiveBoosts ≤ many.transitiveBoosts ∧
      few.scoredNodes ≤ many.scoredNodes := by
  obtain rfl := (Engine.ofWeights_ok_iff table engine).mp accepted
  have content := Ranking.ranked_content engine.weights (Text.lowercase narrow) store
  refine ⟨_, _, _, _, engine.rank_eq loaded kinded wide, engine.rank_eq loaded kinded narrow,
    ?_, fun kind => ?_, Ranking.found_widened inside kinded engine.weights Ranking.directSteps,
    Ranking.found_widened inside kinded engine.weights (Ranking.lendingSteps engine.weights),
    Ranking.scoredNodes_widened inside engine.weights store⟩
  · rw [engine.rank_eq (Ranking.ranked_loaded loaded _ _) (content.wellKinded kinded),
      Ranking.summary_congr content, Ranking.ranked_congr content]
  · unfold Ranking.ranked
    rw [Store.getD_collection_mapNodes, Store.getD_collection_mapNodes, List.forall₂_map_left_iff,
      List.forall₂_map_right_iff, List.forall₂_same]
    intro node _
    refine ⟨?_, Ranking.scored_widened inside engine.weights store node⟩
    rw [Node.resetScore_addScores, Node.resetScore_addScores]

-- The lock that the towers lend to is found by either query; by the narrower one, which is the whole
-- name of a building, it scores higher.
theorem narrowing_of_twinTowers :
    Engine.ofWeights .stock = .ok .stock ∧ twinTowers.Loaded ∧ twinTowers.WellKinded ∧
      (Text.lowercase "Nor").toList <:+: (Text.lowercase "NORTH").toList ∧
      ∃ many few widened narrowed,
        Engine.stock.rank "Nor" twinTowers = (.ok many, widened) ∧
        Engine.stock.rank "NORTH" twinTowers = (.ok few, narrowed) ∧
        few.scoredNodes ≤ many.scoredNodes ∧
        (narrowed.locks.getD []).map (·.score) = [88, 0] ∧
        (widened.locks.getD []).map (·.score) = [16, 0] := by
  have accepted : Engine.ofWeights .stock = .ok .stock := rfl
  have inside : (Text.lowercase "Nor").toList <:+: (Text.lowercase "NORTH").toList := by
    decide +kernel
  obtain ⟨many, few, widened, narrowed, first, second, _, _, _, _, fewer⟩ :=
    narrowing_brings_nothing_new accepted twinTowers_loaded twinTowers_wellKinded inside
  refine ⟨accepted, twinTowers_loaded, twinTowers_wellKinded, inside, many, few, widened, narrowed,
    first, second, fewer, ?_, ?_⟩
  · rw [(Engine.rank_gives twinTowers_loaded twinTowers_wellKinded second).2]
    decide +kernel
  · rw [(Engine.rank_gives twinTowers_loaded twinTowers_wellKinded first).2]
    decide +kernel

end SiteSearch
