import Mathlib.Algebra.BigOperators.Group.List.Basic
import SiteSearch.Proofs.Ranking.Scores
import SiteSearch.Proofs.Selection

-- The counters of a ranking against its scores. Every step adds points above zero only, so a node
-- is scored exactly if some step has found something for it, and the counters are the sums over
-- all nodes of what the steps have found.
namespace SiteSearch

-- Every node with every weighted field of its kind.
def weightedFields (table : WeightTable) (store : Store) : List (Node × Field × Weight) :=
  store.listed.flatMap fun node => (table.direct node.kind).entries.map (node, ·)

-- What a donor may lend to an acceptor by one of its fields.
structure Loan where
  donor : Node
  field : Field
  weight : Weight
  acceptor : Node
  key : Field

-- The acceptor names the donor, and the donor's field matches with some weight.
def Loan.counts (query : String) (loan : Loan) : Bool :=
  loan.acceptor.get? loan.key = some loan.donor.id ∧
    0 < worth (loan.donor.get? loan.field) loan.weight query

def loansOf (store : Store) (relation : Relation) (rule : TransitiveRule) : List Loan :=
  ((store.collection relation.acceptor).getD []).flatMap fun acceptor =>
    ((store.collection relation.donor).getD []).flatMap fun donor =>
      rule.weights.entries.map fun entry =>
        { donor, field := entry.1, weight := entry.2, acceptor, key := rule.foreignKey }

def loans (table : WeightTable) (store : Store) : List Loan :=
  table.rules.flatMap fun entry => loansOf store entry.1 entry.2

theorem length_points (weights : FieldWeights) (query : String) (node : Node) :
    (weights.points query node).length =
      weights.entries.countP fun entry => 0 < worth (node.get? entry.1) entry.2 query := by
  unfold FieldWeights.points
  rw [← List.countP_eq_length_filter, List.countP_map]
  refine List.countP_congr fun entry _ => ?_
  rw [← toNat_matchPoints]
  simp [UInt64.lt_iff_toNat_lt]

namespace Ranking

theorem length_lent (weights : FieldWeights) (query : String) (donors : List Node)
    (key : Option String) :
    (lent weights query donors key).length =
      (donors.map fun donor => weights.entries.countP fun entry =>
        key = some donor.id ∧ 0 < worth (donor.get? entry.1) entry.2 query).sum := by
  unfold lent
  induction donors with
  | nil => rfl
  | cons donor rest ih =>
    rw [List.map_cons, List.sum_cons, ← ih]
    by_cases named : key = some donor.id
    · simp [named, length_points]
    · simp [named]

-- What a step finds is what it gives to all nodes: outside its target it gives nothing.
theorem Step.found_eq_sum {store : Store} (kinded : store.WellKinded) (table : WeightTable)
    (query : String) (step : Step) :
    step.found table query store =
      (store.listed.map fun node => (step.gainAt table query store node).length).sum := by
  have part (kind : Kind) :
      (((store.collection kind).getD []).map fun node =>
        (step.gainAt table query store node).length).sum =
          if kind = step.target then step.found table query store else 0 := by
    have kindOf := kinded kind
    unfold gainAt
    split
    · next same =>
      subst same
      refine congrArg List.sum (List.map_congr_left fun node member => ?_)
      rw [if_pos (kindOf node member)]
    · next apart =>
      refine List.sum_eq_zero_iff_forall_eq_nat.mpr fun count member => ?_
      obtain ⟨node, listed, rfl⟩ := List.mem_map.mp member
      rw [kindOf node listed, if_neg apart]
      rfl
  simp only [Store.listed, Store.selectionOrder, List.flatMap_cons, List.flatMap_nil,
    List.map_append, List.sum_append, part]
  cases step.target <;> simp

theorem sum_found {store : Store} (kinded : store.WellKinded) (table : WeightTable)
    (query : String) (steps : List Step) :
    (steps.map (Step.found table query store)).sum =
      (store.listed.map fun node => (gains table query store steps node).length).sum := by
  induction steps with
  | nil => simp [gains]
  | cons step rest ih =>
    rw [List.map_cons, List.sum_cons, ih, step.found_eq_sum kinded, ← List.sum_map_add]
    refine congrArg List.sum (List.map_congr_left fun node _ => ?_)
    rw [← List.length_append]
    rfl

theorem directMatches_eq {store : Store} (kinded : store.WellKinded) (table : WeightTable)
    (query : String) :
    (summary table query store).directMatches = (weightedFields table store).countP fun found =>
      0 < worth (found.1.get? found.2.1) found.2.2 query := by
  unfold weightedFields
  rw [List.countP_flatMap]
  refine (sum_found kinded table query directSteps).trans ?_
  refine congrArg List.sum (List.map_congr_left fun node _ => ?_)
  rw [gains_directSteps, length_points, Function.comp_apply, List.countP_map]
  rfl

theorem found_transitive (table : WeightTable) (query : String) (store : Store)
    (relation : Relation) (rule : TransitiveRule) :
    Step.found table query store (.transitive relation rule) =
      (loansOf store relation rule).countP (Loan.counts query) := by
  unfold loansOf
  rw [List.countP_flatMap]
  refine congrArg List.sum (List.map_congr_left fun acceptor _ => ?_)
  refine (length_lent _ _ _ _).trans ?_
  rw [Function.comp_apply, List.countP_flatMap]
  refine congrArg List.sum (List.map_congr_left fun donor _ => ?_)
  rw [Function.comp_apply, List.countP_map]
  rfl

theorem transitiveBoosts_eq (table : WeightTable) (query : String) (store : Store) :
    (summary table query store).transitiveBoosts =
      (loans table store).countP (Loan.counts query) := by
  unfold loans summary lendingSteps
  rw [List.countP_flatMap, List.map_map]
  refine congrArg List.sum (List.map_congr_left fun entry _ => ?_)
  exact found_transitive table query store entry.1 entry.2

theorem gains_positive (table : WeightTable) (query : String) (store : Store) (steps : List Step)
    (node : Node) : ∀ points ∈ gains table query store steps node, 0 < points := by
  have direct (weights : FieldWeights) (giver : Node) :
      ∀ points ∈ weights.points query giver, 0 < points := by
    intro points member
    simpa using (List.mem_filter.mp member).2
  intro points member
  obtain ⟨step, _, given⟩ := List.mem_flatMap.mp member
  unfold Step.gainAt at given
  split at given
  · cases step with
    | direct kind => exact direct _ _ points given
    | transitive relation rule =>
      obtain ⟨donor, _, lends⟩ := List.mem_flatMap.mp given
      exact direct _ _ points lends
  · exact absurd given List.not_mem_nil

-- A node ends with a score exactly if something was found for it.
theorem scored_iff (table : WeightTable) (query : String) (store : Store) (node : Node) :
    0 < (node.resetScore.addScores (gains table query store (steps table) node)).score ↔
      0 < (gains table query store (steps table) node).length := by
  have positive := gains_positive table query store (steps table) node
  rw [UInt64.lt_iff_toNat_lt, toNat_score_addScores]
  cases given : gains table query store (steps table) node with
  | nil => simp [Node.resetScore]
  | cons points rest =>
    have first := positive points (by rw [given]; exact List.mem_cons_self)
    rw [UInt64.lt_iff_toNat_lt] at first
    have room : 0 < Score.limit.toNat := by decide
    rw [List.map_cons, List.sum_cons, List.length_cons]
    simp only [UInt64.toNat_zero] at first ⊢
    omega

theorem listed_ranked (table : WeightTable) (query : String) (store : Store) :
    (ranked table query store).listed = store.listed.map fun node =>
      node.resetScore.addScores (gains table query store (steps table) node) :=
  store.listed_mapNodes _

theorem scoredNodes_eq (table : WeightTable) (query : String) (store : Store) :
    (summary table query store).scoredNodes = store.listed.countP fun node =>
      0 < (gains table query store (steps table) node).length := by
  refine (congrArg (List.countP _) (listed_ranked table query store)).trans ?_
  rw [List.countP_map]
  refine List.countP_congr fun node _ => ?_
  simpa using scored_iff table query store node

theorem found_in_all {store : Store} (kinded : store.WellKinded) (table : WeightTable)
    (query : String) :
    (summary table query store).directMatches + (summary table query store).transitiveBoosts =
      (store.listed.map fun node => (gains table query store (steps table) node).length).sum := by
  rw [← sum_found kinded, steps, List.map_append, List.sum_append]
  rfl

theorem countP_le_sum {α : Type} (items : List α) (size : α → Nat) :
    items.countP (0 < size ·) ≤ (items.map size).sum := by
  induction items with
  | nil => exact Nat.le_refl 0
  | cons item rest ih =>
    rw [List.countP_cons, List.map_cons, List.sum_cons]
    split
    · next positive =>
      have counted := of_decide_eq_true positive
      omega
    · omega

theorem countP_eq_zero_iff {α : Type} (items : List α) (size : α → Nat) :
    items.countP (0 < size ·) = 0 ↔ (items.map size).sum = 0 := by
  rw [List.countP_eq_zero, List.sum_eq_zero_iff_forall_eq_nat, List.forall_mem_map]
  simp

end Ranking

namespace Selection

-- In descending order the scored nodes stand first.
theorem sorted_splits {nodes : List Node}
    (sorted : nodes.Pairwise fun one two => two.score ≤ one.score) (count : Nat) :
    ∃ scored rest, nodes.take count = scored ++ rest ∧ (∀ node ∈ scored, 0 < node.score) ∧
      (∀ node ∈ rest, node.score = 0) ∧
        scored.length = min count (nodes.countP (0 < ·.score)) := by
  induction nodes generalizing count with
  | nil => exact ⟨[], [], by simp⟩
  | cons node later ih =>
    obtain ⟨below, sorted⟩ := List.pairwise_cons.mp sorted
    by_cases positive : 0 < node.score
    · cases count with
      | zero => exact ⟨[], [], by simp⟩
      | succ count =>
        obtain ⟨scored, rest, taken, above, zero, size⟩ := ih sorted count
        refine ⟨node :: scored, rest, ?_, ?_, zero, ?_⟩
        · rw [List.take_succ_cons, taken, List.cons_append]
        · exact List.forall_mem_cons.mpr ⟨positive, above⟩
        · rw [List.length_cons, size, List.countP_cons_of_pos (by simpa using positive)]
          omega
    · have zero : node.score = 0 := UInt64.le_zero_iff.mp (UInt64.not_lt.mp positive)
      have all : ∀ other ∈ node :: later, other.score = 0 := by
        refine List.forall_mem_cons.mpr ⟨zero, fun other member => ?_⟩
        have under := below other member
        rw [zero] at under
        exact UInt64.le_zero_iff.mp under
      refine ⟨[], (node :: later).take count, rfl, List.forall_mem_nil _, ?_, ?_⟩
      · exact fun other member => all other (List.mem_of_mem_take member)
      · have none : (node :: later).countP (0 < ·.score) = 0 := by
          refine List.countP_eq_zero.mpr fun other member => ?_
          simp [all other member]
        rw [none, Nat.min_zero, List.length_nil]

end Selection

-- The hits of an accepted search begin with as many scored nodes as there are and as fit.
theorem Session.search_scored_first (engine : Engine) {store : Store} (loaded : store.Loaded)
    (kinded : store.WellKinded) {query : String} (accepted : checkQuery query = .ok ())
    (count : Nat) :
    ∃ outcome after, Session.search ⟨store, engine⟩ query count = (.ok outcome, after) ∧
      engine.rank (Text.lowercase query) store = (.ok outcome.summary, after.store) ∧
      ∃ scored rest, outcome.hits = scored ++ rest ∧ (∀ node ∈ scored, 0 < node.score) ∧
        (∀ node ∈ rest, node.score = 0) ∧
          scored.length = min count outcome.summary.scoredNodes := by
  refine ⟨_, _, search_loaded accepted loaded kinded count, engine.rank_eq loaded kinded _, ?_⟩
  obtain ⟨scored, rest, hits, above, zero, size⟩ :=
    Selection.sorted_splits (Selection.sorted_pairwise
      (Ranking.ranked engine.weights (Text.lowercase (Text.lowercase query)) store).listed) count
  refine ⟨scored, rest, hits, above, zero, size.trans ?_⟩
  rw [(List.mergeSort_perm _ _).countP_eq]
  rfl

-- The counters of a ranking are true to the content and to the scores, and a search shows the
-- scored nodes first.
theorem rank_counts_what_it_scores {table : WeightTable} {engine : Engine}
    (accepted : Engine.ofWeights table = .ok engine) {store : Store} (loaded : store.Loaded)
    (kinded : store.WellKinded) (query : String) :
    (∃ summary ranked, engine.rank query store = (.ok summary, ranked) ∧
      summary.directMatches = ((weightedFields table store).countP fun found =>
        0 < worth (found.1.get? found.2.1) found.2.2 (Text.lowercase query)) ∧
      summary.transitiveBoosts =
        (loans table store).countP (Loan.counts (Text.lowercase query)) ∧
      summary.scoredNodes = ranked.listed.countP (0 < ·.score) ∧
      summary.scoredNodes ≤ summary.directMatches + summary.transitiveBoosts ∧
      (summary.scoredNodes = 0 ↔ summary.directMatches = 0 ∧ summary.transitiveBoosts = 0)) ∧
    ∀ count, query ≠ "" → query.utf8ByteSize ≤ 256 →
      ∃ outcome after, Session.search ⟨store, engine⟩ query count = (.ok outcome, after) ∧
        engine.rank (Text.lowercase query) store = (.ok outcome.summary, after.store) ∧
        ∃ scored rest, outcome.hits = scored ++ rest ∧ (∀ node ∈ scored, 0 < node.score) ∧
          (∀ node ∈ rest, node.score = 0) ∧
            scored.length = min count outcome.summary.scoredNodes := by
  obtain rfl := (Engine.ofWeights_ok_iff table engine).mp accepted
  constructor
  · refine ⟨_, _, engine.rank_eq loaded kinded query, Ranking.directMatches_eq kinded _ _,
      Ranking.transitiveBoosts_eq _ _ store, rfl, ?_, ?_⟩
    · rw [Ranking.found_in_all kinded, Ranking.scoredNodes_eq]
      exact Ranking.countP_le_sum _ _
    · rw [← Nat.add_eq_zero_iff, Ranking.found_in_all kinded, Ranking.scoredNodes_eq]
      exact Ranking.countP_eq_zero_iff _ _
  · intro count something fits
    exact Session.search_scored_first engine loaded kinded
      ((checkQuery_eq_ok_iff query).mpr ⟨something, fits⟩) count

-- Two buildings match, both lend to one lock, and so three nodes are scored.
theorem rank_counts_of_twinTowers :
    Engine.ofWeights .stock = .ok .stock ∧ twinTowers.Loaded ∧ twinTowers.WellKinded ∧
      ∃ summary ranked, Engine.stock.rank "NORTH" twinTowers = (.ok summary, ranked) ∧
        summary.directMatches = 2 ∧ summary.transitiveBoosts = 2 ∧ summary.scoredNodes = 3 := by
  have accepted : Engine.ofWeights .stock = .ok .stock := rfl
  obtain ⟨⟨summary, ranked, ran, direct, boosts, _⟩, _⟩ :=
    rank_counts_what_it_scores accepted twinTowers_loaded twinTowers_wellKinded "NORTH"
  refine ⟨accepted, twinTowers_loaded, twinTowers_wellKinded, summary, ranked, ran,
    direct.trans (by decide +kernel), boosts.trans (by decide +kernel), ?_⟩
  have counted : summary = Ranking.summary .stock (Text.lowercase "NORTH") twinTowers := by
    exact Except.ok.inj (Engine.rank_gives twinTowers_loaded twinTowers_wellKinded ran).1
  rw [counted]
  decide +kernel

end SiteSearch
