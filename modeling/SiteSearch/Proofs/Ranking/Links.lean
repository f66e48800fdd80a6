import Mathlib.Data.List.Forall2
import SiteSearch.Proofs.Metrics
import SiteSearch.Proofs.Ranking.Counts

-- The links that metrics count against the links that a ranking follows. Metrics look at the key of
-- the relation, a ranking at the key of its rule; a table that is accepted has no other key than
-- that of the relation, so an acceptor that metrics count as lost receives nothing.
namespace SiteSearch

theorem Relation.acceptor_inj {one other : Relation} (same : one.acceptor = other.acceptor) :
    one = other := by
  revert same
  cases one <;> cases other <;> decide

-- The acceptors of a relation carry one foreign key only.
theorem TransitiveRule.Fits.foreignKey_eq {rule : TransitiveRule} {relation : Relation}
    (fits : rule.Fits relation) : rule.foreignKey = relation.foreignKey := by
  have only : ∀ field ∈ Field.all, field.isForeignKey = true →
      relation.acceptor.carries field = true → field = relation.foreignKey := by
    cases relation <;> decide
  exact only rule.foreignKey (Field.mem_all _) fits.isKey fits.carried

theorem Node.key?_eq {node : Node} {field : Field} (carried : node.kind.carries field = true) :
    node.key? field = node.get? field := by
  unfold key?
  rw [(node.read_eq_ok_iff field _).mpr ⟨carried, rfl⟩]
  rfl

section Lost

variable {table : WeightTable} {store : Store} {relation : Relation} {node : Node}

-- The rule asks for the same key as the metrics do.
theorem names_nobody {rule : TransitiveRule} (fits : rule.Fits relation)
    (kinded : node.kind = relation.acceptor) {donors : List Node}
    (lost : ¬ relation.Resolves donors node) :
    ∀ donor ∈ donors, node.get? rule.foreignKey ≠ some donor.id := by
  intro donor member named
  have carried : node.kind.carries relation.foreignKey = true :=
    kinded ▸ relation.acceptor_carries_foreignKey
  refine lost ⟨donor, member, ?_⟩
  rw [Node.key?_eq carried, ← fits.foreignKey_eq]
  exact named

-- An acceptor is reached along its own relation only, and there by the donors that it names.
theorem lentWorth_eq_zero (fits : table.Fits) (query : String)
    (kinded : node.kind = relation.acceptor)
    (lost : ¬ relation.Resolves ((store.collection relation.donor).getD []) node) :
    lentWorth table query store node = 0 := by
  unfold lentWorth
  refine List.sum_eq_zero_iff_forall_eq_nat.mpr fun worth listed => ?_
  obtain ⟨⟨other, rule⟩, entry, rfl⟩ := List.mem_map.mp listed
  obtain ⟨configured, reaches⟩ := List.mem_filter.mp entry
  obtain rfl : other = relation :=
    Relation.acceptor_inj ((of_decide_eq_true reaches).trans kinded)
  have ruled := fits.rule other rule ((table.mem_rules other rule).mp configured)
  have unnamed := names_nobody ruled kinded lost
  have nobody : (((store.collection other.donor).getD []).filter fun donor =>
      node.get? rule.foreignKey = some donor.id) = [] :=
    List.filter_eq_nil_iff.mpr fun donor member named =>
      unnamed donor member (of_decide_eq_true named)
  dsimp only
  rw [nobody]
  rfl

theorem relevance_of_lost (fits : table.Fits) (query : String)
    (kinded : node.kind = relation.acceptor)
    (lost : ¬ relation.Resolves ((store.collection relation.donor).getD []) node) :
    relevance table query store node = (table.direct relation.acceptor).worth query node := by
  unfold relevance
  rw [lentWorth_eq_zero fits query kinded lost, kinded, Nat.add_zero]

theorem transitiveBoosts_eq_zero (fits : table.Fits) (kinded : store.WellKinded) (query : String)
    (lost : ∀ relation : Relation, ∀ node ∈ (store.collection relation.acceptor).getD [],
      ¬ relation.Resolves ((store.collection relation.donor).getD []) node) :
    (Ranking.summary table query store).transitiveBoosts = 0 := by
  rw [Ranking.transitiveBoosts_eq, List.countP_eq_zero]
  intro loan lent counts
  obtain ⟨⟨relation, rule⟩, configured, lent⟩ := List.mem_flatMap.mp lent
  obtain ⟨acceptor, accepts, lent⟩ := List.mem_flatMap.mp lent
  obtain ⟨donor, gives, lent⟩ := List.mem_flatMap.mp lent
  obtain ⟨entry, _, rfl⟩ := List.mem_map.mp lent
  have ruled := fits.rule relation rule ((table.mem_rules relation rule).mp configured)
  have unnamed := names_nobody ruled (kinded _ acceptor accepts) (lost relation acceptor accepts)
  exact unnamed donor gives (of_decide_eq_true counts).1

end Lost

-- Metrics are true to the store, and they agree with every ranking of it: an acceptor that they count
-- as orphaned or unlinked keeps to its own texts, and where all acceptors are, nothing is lent.
theorem metrics_agree_with_ranking (store : Store) :
    (Metrics.ofStore store).Describes store ∧
    ∀ table engine, Engine.ofWeights table = .ok engine → store.Loaded → store.WellKinded →
      ∀ query, ∃ summary ranked, engine.rank query store = (.ok summary, ranked) ∧
        (∀ relation : Relation, List.Forall₂ (fun before after : Node =>
            relation.Orphans ((store.collection relation.donor).getD []) before ∨
                relation.Unlinks before →
              after = { before with
                score := .ofNat (min (UInt64.size - 1)
                  ((table.direct relation.acceptor).worth (Text.lowercase query) before)) })
          ((store.collection relation.acceptor).getD [])
          ((ranked.collection relation.acceptor).getD [])) ∧
        ((∀ relation : Relation, ∀ node ∈ (store.collection relation.acceptor).getD [],
            relation.Orphans ((store.collection relation.donor).getD []) node ∨
              relation.Unlinks node) →
          summary.transitiveBoosts = 0) := by
  refine ⟨Metrics.ofStore_describes store, fun table engine accepted loaded kinded query => ?_⟩
  obtain rfl := (Engine.ofWeights_ok_iff table engine).mp accepted
  refine ⟨_, _, engine.rank_eq loaded kinded query, fun relation => ?_, fun lost => ?_⟩
  · rw [Ranking.ranked_eq, Store.getD_collection_mapNodes, List.forall₂_map_right_iff,
      List.forall₂_same]
    intro node member lost
    rw [relevance_of_lost engine.fits _ (kinded _ node member) (Relation.not_resolves lost)]
    rfl
  · exact transitiveBoosts_eq_zero engine.fits kinded _ fun relation node member =>
      Relation.not_resolves (lost relation node member)

-- A lock whose key leads nowhere and a lock without a key, beside a building that matches.
def strandedLocks : Store where
  buildings := some [{ kind := .building, id := "b1", attributes := { name := some "North" } }]
  locks := some
    [{ kind := .lock, id := "l1",
        attributes := { buildingId := some "b2", name := some "North gate" } },
      { kind := .lock, id := "l2", attributes := { name := some "North" }, score := 3 }]
  groups := some []
  media := some []

theorem metrics_agree_of_strandedLocks :
    (Metrics.ofStore strandedLocks).orphans =
        [⟨.buildingLock, 1, 1⟩, ⟨.groupMedium, 0, 0⟩] ∧
      (Metrics.ofStore strandedLocks).Describes strandedLocks ∧
      Engine.ofWeights .stock = .ok .stock ∧ strandedLocks.Loaded ∧ strandedLocks.WellKinded ∧
      ∃ summary ranked, Engine.stock.rank "north" strandedLocks = (.ok summary, ranked) ∧
        (ranked.locks.getD []).map (·.score) = [10, 100] ∧ summary.transitiveBoosts = 0 := by
  have accepted : Engine.ofWeights .stock = .ok .stock := rfl
  have loaded : strandedLocks.Loaded := by decide
  have kinded : strandedLocks.WellKinded := by decide
  have lost : ∀ relation : Relation,
      ∀ node ∈ (strandedLocks.collection relation.acceptor).getD [],
        relation.Orphans ((strandedLocks.collection relation.donor).getD []) node ∨
          relation.Unlinks node := by
    intro relation
    cases relation <;> decide
  obtain ⟨described, agrees⟩ := metrics_agree_with_ranking strandedLocks
  obtain ⟨summary, ranked, ran, _, unlent⟩ :=
    agrees .stock .stock accepted loaded kinded "north"
  refine ⟨by decide, described, accepted, loaded, kinded, summary, ranked, ran, ?_, unlent lost⟩
  rw [(Engine.rank_gives loaded kinded ran).2]
  decide +kernel

end SiteSearch
