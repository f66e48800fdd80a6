import Mathlib.Data.List.Basic
import SiteSearch.Proofs.Ranking.Ranked

-- The score of every node after a ranking, said without passes and donations: what its own texts
-- are worth and what the texts of the donors that it names are worth.
namespace SiteSearch

-- What reaches a node over all relations that end in its kind. Every donor with the identifier
-- counts, also where several have it.
def lentWorth (table : WeightTable) (query : String) (store : Store) (node : Node) : Nat :=
  ((table.rules.filter fun entry => entry.1.acceptor = node.kind).map fun entry =>
    ((((store.collection entry.1.donor).getD []).filter fun donor =>
        node.get? entry.2.foreignKey = some donor.id).map (entry.2.weights.worth query)).sum).sum

def relevance (table : WeightTable) (query : String) (store : Store) (node : Node) : Nat :=
  (table.direct node.kind).worth query node + lentWorth table query store node

-- The plain loop over every donor, every weighted field of it and every acceptor.
def lendByLoop (rule : TransitiveRule) (query : String) (donors acceptors : List Node) :
    List Node :=
  donors.foldl (fun acceptors donor =>
    rule.weights.entries.foldl (fun acceptors entry =>
      acceptors.map fun node =>
        if node.get? rule.foreignKey = some donor.id then
          node.addScore (matchPoints (donor.get? entry.1) entry.2 query)
        else node) acceptors) acceptors

namespace Ranking

theorem sum_flatMap {α : Type} (items : List α) (points : α → List Score) :
    ((items.flatMap points).map UInt64.toNat).sum =
      (items.map fun item => ((points item).map UInt64.toNat).sum).sum := by
  induction items with
  | nil => rfl
  | cons item rest ih =>
    rw [List.flatMap_cons, List.map_append, List.sum_append, ih, List.map_cons, List.sum_cons]

theorem sum_lent (weights : FieldWeights) (query : String) (donors : List Node)
    (key : Option String) :
    ((lent weights query donors key).map UInt64.toNat).sum =
      ((donors.filter fun donor => key = some donor.id).map (weights.worth query)).sum := by
  unfold lent
  rw [sum_flatMap]
  exact congrArg List.sum (List.map_congr_left fun donor _ => sum_points weights query donor)

theorem gains_directSteps (table : WeightTable) (query : String) (store : Store) (node : Node) :
    gains table query store directSteps node = (table.direct node.kind).points query node := by
  unfold gains directSteps
  rw [List.flatMap_map]
  simp only [Kind.all, List.flatMap_cons, List.flatMap_nil, Step.gainAt_direct]
  cases node.kind <;> simp

theorem sum_gains_lendingSteps (table : WeightTable) (query : String) (store : Store)
    (node : Node) :
    ((gains table query store (lendingSteps table) node).map UInt64.toNat).sum =
      lentWorth table query store node := by
  unfold gains lendingSteps lentWorth
  rw [sum_flatMap, List.map_map]
  simp only [Function.comp_def, Step.gainAt_transitive]
  induction table.rules with
  | nil => rfl
  | cons entry rest ih =>
    rw [List.map_cons, List.sum_cons, ih]
    by_cases reached : entry.1.acceptor = node.kind
    · rw [if_pos reached.symm, sum_lent, List.filter_cons_of_pos (by simpa using reached),
        List.map_cons, List.sum_cons]
    · rw [if_neg (Ne.symm reached), List.filter_cons_of_neg (by simpa using reached)]
      exact Nat.zero_add _

theorem sum_gains (table : WeightTable) (query : String) (store : Store) (node : Node) :
    ((gains table query store (steps table) node).map UInt64.toNat).sum =
      relevance table query store node := by
  have split : gains table query store (steps table) node =
      gains table query store directSteps node ++
        gains table query store (lendingSteps table) node :=
    List.flatMap_append
  rw [split, List.map_append, List.sum_append, gains_directSteps, sum_points,
    sum_gains_lendingSteps]
  rfl

theorem toNat_score_ranked (table : WeightTable) (query : String) (store : Store) (node : Node) :
    (node.resetScore.addScores (gains table query store (steps table) node)).score.toNat =
      min Score.limit.toNat (relevance table query store node) := by
  rw [toNat_score_addScores, sum_gains]
  exact congrArg (min _) (Nat.zero_add _)

theorem ranked_eq (table : WeightTable) (query : String) (store : Store) :
    ranked table query store = store.mapNodes fun node =>
      { node with score := .ofNat (min Score.limit.toNat (relevance table query store node)) } := by
  refine Store.mapNodes_congr fun _ node _ => ?_
  rw [← toNat_score_ranked, UInt64.ofNat_toNat, Node.addScores_eq]
  rfl

theorem plus_zero (score : Score) : score.plus 0 = score := by
  refine UInt64.toNat_inj.mp ?_
  rw [Score.toNat_plus]
  exact Nat.min_eq_right score.toNat_le_limit

-- Points of zero change nothing, so it does not matter whether they are left out before.
theorem addScores_filter_positive (node : Node) (points : List Score) :
    node.addScores (points.filter (0 < ·)) = node.addScores points := by
  induction points generalizing node with
  | nil => rfl
  | cons head rest ih =>
    by_cases positive : 0 < head
    · rw [List.filter_cons_of_pos (by simpa using positive)]
      exact ih (node.addScore head)
    · have zero : head = 0 := UInt64.le_zero_iff.mp (UInt64.not_lt.mp positive)
      have still : node.addScore 0 = node := by
        unfold Node.addScore
        rw [plus_zero]
      rw [List.filter_cons_of_neg (by simpa using positive), ih, zero]
      exact congrArg (Node.addScores · rest) still.symm

theorem lend_fields (key : Node → Option String) (blind : ∀ node points,
      key (node.addScore points) = key node) (id : String) (points : List Score)
    (acceptors : List Node) :
    points.foldl (fun acceptors score =>
        acceptors.map fun node => if key node = some id then node.addScore score else node)
        acceptors =
      acceptors.map fun node => if key node = some id then node.addScores points else node := by
  induction points generalizing acceptors with
  | nil =>
    rw [List.foldl_nil]
    refine (List.map_id'' (fun node => ?_) acceptors).symm
    rw [Node.addScores_nil, ite_self]
  | cons head rest ih =>
    rw [List.foldl_cons, ih, List.map_map]
    refine List.map_congr_left fun node _ => ?_
    by_cases named : key node = some id
    · rw [Function.comp_apply, if_pos named, if_pos named, blind, if_pos named]
      rfl
    · rw [Function.comp_apply, if_neg named, if_neg named, if_neg named]

theorem lendByLoop_eq (rule : TransitiveRule) (query : String) (donors acceptors : List Node) :
    lendByLoop rule query donors acceptors = acceptors.map fun node =>
      node.addScores (lent rule.weights query donors (node.get? rule.foreignKey)) := by
  have blind (node : Node) (points : Score) :
      (node.addScore points).get? rule.foreignKey = node.get? rule.foreignKey :=
    node.get?_addScores [points] rule.foreignKey
  unfold lendByLoop
  induction donors generalizing acceptors with
  | nil => exact (List.map_id' acceptors).symm
  | cons donor rest ih =>
    have fields := lend_fields (Node.get? · rule.foreignKey) blind donor.id
      (rule.weights.entries.map fun entry =>
        matchPoints (donor.get? entry.1) entry.2 query) acceptors
    rw [List.foldl_map] at fields
    rw [List.foldl_cons, fields, ih, List.map_map]
    refine List.map_congr_left fun node _ => ?_
    unfold lent
    by_cases named : node.get? rule.foreignKey = some donor.id
    · rw [Function.comp_apply, if_pos named, Node.get?_addScores,
        List.filter_cons_of_pos (by simpa using named), List.flatMap_cons,
        Node.addScores_append]
      exact congrArg (Node.addScores · _) (addScores_filter_positive node _).symm
    · rw [Function.comp_apply, if_neg named, List.filter_cons_of_neg (by simpa using named)]

end Ranking

-- A ranking of a store with all collections is granted and gives every node its relevance, or the
-- largest word where that is less; and the passes that look donors up by identifier do what the
-- plain loop over donors, fields and acceptors does.
theorem rank_scores_by_relevance {table : WeightTable} {engine : Engine}
    (accepted : Engine.ofWeights table = .ok engine) {store : Store} (loaded : store.Loaded)
    (kinded : store.WellKinded) (query : String) :
    (∃ summary, engine.rank query store = (.ok summary, store.mapNodes fun node =>
      { node with
        score := .ofNat (min (UInt64.size - 1)
          (relevance table (Text.lowercase query) store node)) })) ∧
    ∀ relation rule, table.rule? relation = some rule →
      ∃ boosts, Ranking.transitivePass (Text.lowercase query) relation rule store =
        (.ok boosts, store.put relation.acceptor (lendByLoop rule (Text.lowercase query)
          ((store.collection relation.donor).getD [])
          ((store.collection relation.acceptor).getD []))) := by
  obtain rfl := (Engine.ofWeights_ok_iff table engine).mp accepted
  constructor
  · refine ⟨Ranking.summary engine.weights (Text.lowercase query) store, ?_⟩
    rw [engine.rank_eq loaded kinded, Ranking.ranked_eq]
    rfl
  · intro relation rule configured
    have fits := engine.fits.rule relation rule configured
    obtain ⟨nodes, here⟩ := Option.isSome_iff_exists.mp (loaded relation.acceptor)
    have donorsFit : ∀ donor ∈ (store.collection relation.donor).getD [],
        rule.weights.Fits donor.kind := by
      intro donor member
      rw [kinded relation.donor donor member]
      exact fits.weights
    have carried : ∀ node ∈ nodes, node.kind.carries rule.foreignKey = true := by
      intro node member
      have all := kinded relation.acceptor
      rw [here] at all
      rw [all node member]
      exact fits.carried
    have pass := Ranking.transitivePass_eq (Text.lowercase query) loaded here donorsFit carried
    refine ⟨_, pass.trans (Prod.ext rfl ?_)⟩
    rw [here, Ranking.lendByLoop_eq]
    rfl

-- Two buildings with one identifier, a lock that names them and a lock whose key leads nowhere.
def twinTowers : Store where
  buildings := some
    [{ kind := .building, id := "b1", attributes := { name := some "North" }, score := 7 },
      { kind := .building, id := "b1", attributes := { name := some "Northern gate" } }]
  locks := some
    [{ kind := .lock, id := "l1", attributes := { buildingId := some "b1" }, score := 500 },
      { kind := .lock, id := "l2", attributes := { buildingId := some "B1" } }]
  groups := some []
  media := some []

theorem twinTowers_loaded : twinTowers.Loaded := by
  decide

theorem twinTowers_wellKinded : twinTowers.WellKinded := by
  decide

-- Both buildings lend to the lock that names them: 80 for the whole name, 8 for the part.
theorem rank_scores_of_twinTowers :
    Engine.ofWeights .stock = .ok .stock ∧ twinTowers.Loaded ∧ twinTowers.WellKinded ∧
      ∃ summary ranked, Engine.stock.rank "NORTH" twinTowers = (.ok summary, ranked) ∧
        (ranked.locks.getD []).map (·.score) = [88, 0] := by
  have accepted : Engine.ofWeights .stock = .ok .stock := rfl
  obtain ⟨⟨summary, ran⟩, _⟩ := rank_scores_by_relevance accepted twinTowers_loaded
    twinTowers_wellKinded "NORTH"
  exact ⟨accepted, twinTowers_loaded, twinTowers_wellKinded, summary, _, ran, by decide⟩

end SiteSearch
