import Mathlib.Algebra.Order.BigOperators.Group.List
import Mathlib.Algebra.Order.Ring.Nat
import Mathlib.Data.List.Basic
import Mathlib.Tactic.Ring
import SiteSearch.Proofs.Ranking.Scores
import SiteSearch.Proofs.Store.Extent

-- How large the sum of a node can get. A weighed field is worth ten times the largest weight at
-- most, a kind has eight fields at most and a donor kind four, and an acceptor hears from each
-- donor once. For all nodes that a snapshot file has room for this stays below the largest word, so
-- no sum is ever cut off.
namespace SiteSearch

-- What one field of one node is worth at most.
def mostWorth : Nat := 10 * (UInt32.size - 1)

theorem worth_le (value : Option String) (weight : Weight) (query : String) :
    worth value weight query ≤ mostWorth := by
  have bound : weight.toNat ≤ UInt32.size - 1 := Nat.le_pred_of_lt weight.toNat_lt
  unfold worth mostWorth
  dsimp only
  split
  · exact Nat.mul_le_mul_left 10 bound
  · split
    · exact bound.trans (Nat.le_mul_of_pos_left _ (by decide))
    · exact Nat.zero_le _

theorem sum_map_le {α : Type} {items : List α} {size : α → Nat} {most : Nat}
    (each : ∀ item ∈ items, size item ≤ most) : (items.map size).sum ≤ items.length * most := by
  have bound := List.sum_le_card_nsmul (items.map size) most (List.forall_mem_map.mpr each)
  rwa [List.length_map, Nat.nsmul_eq_mul] at bound

namespace FieldWeights

variable {weights : FieldWeights} {kind : Kind}

theorem length_entries_le (fits : weights.Fits kind) :
    weights.entries.length ≤ kind.fields.length := by
  have inside : weights.fields ⊆ kind.fields := fun field listed => by
    simpa [Kind.carries] using fits field listed
  have bound := (List.subperm_of_subset weights.nodup_fields inside).length_le
  rwa [fields, List.length_map] at bound

theorem worth_le (fits : weights.Fits kind) (query : String) (node : Node) :
    weights.worth query node ≤ kind.fields.length * mostWorth :=
  calc weights.worth query node
      ≤ weights.entries.length * mostWorth :=
        sum_map_le fun entry _ => SiteSearch.worth_le (node.get? entry.1) entry.2 query
    _ ≤ kind.fields.length * mostWorth := Nat.mul_le_mul_right _ (length_entries_le fits)

end FieldWeights

theorem Kind.length_fields_le (kind : Kind) : kind.fields.length ≤ 8 := by
  cases kind <;> decide

theorem Relation.length_donor_fields_le (relation : Relation) :
    relation.donor.fields.length ≤ 4 := by
  cases relation <;> decide

-- A kind is the acceptor of one relation at most.
theorem WeightTable.length_rules_to (table : WeightTable) (kind : Kind) :
    (table.rules.filter fun entry => entry.1.acceptor = kind).length ≤ 1 := by
  cases one : table.rule? .buildingLock <;> cases two : table.rule? .groupMedium <;>
    cases kind <;> simp [WeightTable.rules, Relation.all, one, two, Relation.acceptor]

namespace WeightTable.Fits

variable {table : WeightTable}

theorem lentWorth_le (fits : table.Fits) (query : String) (store : Store) (node : Node) :
    lentWorth table query store node ≤ store.nodeCount * (4 * mostWorth) := by
  have lends : ∀ entry ∈ table.rules.filter fun entry => entry.1.acceptor = node.kind,
      ((((store.collection entry.1.donor).getD []).filter fun donor =>
        node.get? entry.2.foreignKey = some donor.id).map (entry.2.weights.worth query)).sum ≤
          store.nodeCount * (4 * mostWorth) := by
    rintro ⟨relation, rule⟩ member
    have configured := (table.mem_rules relation rule).mp (List.mem_of_mem_filter member)
    have donors := (List.length_filter_le (fun donor : Node =>
      node.get? rule.foreignKey = some donor.id) _).trans (store.length_collection_le relation.donor)
    have each (donor : Node) : rule.weights.worth query donor ≤ 4 * mostWorth :=
      (FieldWeights.worth_le (fits.rule relation rule configured).weights query donor).trans
        (Nat.mul_le_mul_right _ relation.length_donor_fields_le)
    exact (sum_map_le fun donor _ => each donor).trans (Nat.mul_le_mul_right _ donors)
  have once := (sum_map_le lends).trans (Nat.mul_le_mul_right _ (table.length_rules_to node.kind))
  rwa [Nat.one_mul] at once

theorem relevance_le (fits : table.Fits) (query : String) (store : Store) (node : Node) :
    relevance table query store node ≤ mostWorth * (8 + 4 * store.nodeCount) :=
  calc relevance table query store node
      ≤ 8 * mostWorth + store.nodeCount * (4 * mostWorth) :=
        Nat.add_le_add ((FieldWeights.worth_le (fits.direct node.kind) query node).trans
          (Nat.mul_le_mul_right _ node.kind.length_fields_le)) (fits.lentWorth_le query store node)
    _ = mostWorth * (8 + 4 * store.nodeCount) := by ring

theorem relevance_lt (fits : table.Fits) {store : Store}
    (small : store.nodeCount ≤ maxSnapshotBytes) (query : String) (node : Node) :
    relevance table query store node < UInt64.size - 1 := by
  have most : mostWorth = 42949672950 := rfl
  have room : maxSnapshotBytes = 67108864 := rfl
  have size : UInt64.size = 18446744073709551616 := rfl
  have bound := fits.relevance_le query store node
  rw [most] at bound
  omega

end WeightTable.Fits

-- A node with its true sum for a score.
def Node.scoredBy (table : WeightTable) (query : String) (store : Store) (node : Node) : Node :=
  { node with score := .ofNat (relevance table query store node) }

section Exact

variable {table : WeightTable} {store : Store} {query : String}
  (fits : ∀ node, relevance table query store node < UInt64.size - 1)

include fits

theorem toNat_scoredBy (node : Node) :
    (node.scoredBy table query store).score.toNat = relevance table query store node :=
  UInt64.toNat_ofNat_of_lt' (Nat.lt_of_lt_of_le (fits node) (Nat.sub_le _ _))

theorem ranked_exact :
    Ranking.ranked table query store = store.mapNodes (Node.scoredBy table query store) := by
  rw [Ranking.ranked_eq]
  refine Store.mapNodes_congr fun _ node _ => ?_
  have whole : min Score.limit.toNat (relevance table query store node) =
      relevance table query store node :=
    Nat.min_eq_right (Nat.le_of_lt (fits node))
  rw [whole, Node.scoredBy]

theorem scores_exact (kind : Kind) :
    ((store.mapNodes (Node.scoredBy table query store)).collection kind).map
        (·.map fun node => node.score.toNat) =
      (store.collection kind).map (·.map (relevance table query store)) := by
  rw [Store.collection_mapNodes, Option.map_map]
  refine congrArg (Option.map · _) (funext fun nodes => ?_)
  exact List.map_map.trans (List.map_congr_left fun node _ => toNat_scoredBy fits node)

-- The best by score are the best by true sum.
theorem best_exact (loaded : store.Loaded) (count : Nat) :
    (store.mapNodes (Node.scoredBy table query store)).best count =
      .ok (((store.listed.mergeSort fun one two =>
        relevance table query store two ≤ relevance table query store one).take count).map
          (Node.scoredBy table query store)) := by
  rw [(Store.loaded_mapNodes loaded _).best, Store.listed_mapNodes, List.map_take]
  refine congrArg (fun sorted => Except.ok (List.take count sorted)) ?_
  refine (List.map_mergeSort fun one _ two _ => ?_).symm
  rw [decide_eq_decide, UInt64.le_iff_toNat_le, toNat_scoredBy fits one, toNat_scoredBy fits two]

end Exact

-- On all that the program loads, scores are the true sums and order the nodes as these do.
theorem scores_are_true_sums {table : WeightTable} {engine : Engine}
    (accepted : Engine.ofWeights table = .ok engine) {store : Store} (loaded : store.Loaded)
    (kinded : store.WellKinded) (small : store.nodeCount ≤ maxSnapshotBytes) (query : String) :
    let sum := relevance table (Text.lowercase query) store
    (∀ node, sum node < UInt64.size - 1) ∧
    (∃ summary ranked, engine.rank query store = (.ok summary, ranked) ∧
      (∀ kind, (ranked.collection kind).map (·.map fun node => node.score.toNat) =
        (store.collection kind).map (·.map sum)) ∧
      ∀ count, ranked.best count =
        .ok (((store.listed.mergeSort fun one two => sum two ≤ sum one).take count).map fun node =>
          { node with score := .ofNat (sum node) })) ∧
    ∀ look path delivered, Command.loadStore look path = .ok delivered →
      delivered.WellKinded ∧ delivered.nodeCount ≤ maxSnapshotBytes := by
  intro sum
  obtain rfl := (Engine.ofWeights_ok_iff table engine).mp accepted
  have fits := engine.fits.relevance_lt small (Text.lowercase query)
  refine ⟨fits, ⟨_, _, engine.rank_eq loaded kinded query, ?_, ?_⟩, ?_⟩
  · rw [ranked_exact fits]
    exact scores_exact fits
  · rw [ranked_exact fits]
    exact best_exact fits loaded
  · intro look path delivered found
    obtain ⟨⟨snapshot, made⟩, few⟩ := Command.loadStore_delivers found
    exact ⟨Snapshot.toStore_wellKinded made, few⟩

-- Parents lend by one field, as heavily as they can.
def heavyTable : WeightTable :=
  WeightTable.empty.withRule .buildingLock
    (.ofRelation .buildingLock (.ofList [(.name, 0xFFFFFFFF)]))

-- A whole name and a part of a name under one identifier: eleven times the largest weight.
theorem scores_are_true_sums_in_twinTowers :
    let engine : Engine := ⟨heavyTable, rfl⟩
    Engine.ofWeights heavyTable = .ok engine ∧ twinTowers.Loaded ∧ twinTowers.WellKinded ∧
      twinTowers.nodeCount ≤ maxSnapshotBytes ∧
      ∃ summary ranked, engine.rank "NORTH" twinTowers = (.ok summary, ranked) ∧
        ranked.locks.map (·.map fun node => node.score.toNat) = some [11 * 0xFFFFFFFF, 0] := by
  intro engine
  have accepted : Engine.ofWeights heavyTable = .ok engine := rfl
  have small : twinTowers.nodeCount ≤ maxSnapshotBytes := by decide
  obtain ⟨_, ⟨summary, ranked, ran, scores, _⟩, _⟩ := scores_are_true_sums accepted
    twinTowers_loaded twinTowers_wellKinded small "NORTH"
  exact ⟨accepted, twinTowers_loaded, twinTowers_wellKinded, small, summary, ranked, ran,
    (scores .lock).trans (by decide +kernel)⟩

end SiteSearch
