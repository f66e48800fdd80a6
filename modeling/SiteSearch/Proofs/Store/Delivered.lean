import Mathlib.Data.List.Forall2
import Mathlib.Data.Option.Basic
import SiteSearch.Proofs.Traversal
import SiteSearch.Snapshot

-- What holds of every store made from a snapshot: each node stands in the collection of its kind
-- and has texts only where its kind carries a field.
namespace SiteSearch

theorem Record.toNode_ok {record : Record} {kind : Kind} {node : Node}
    (made : record.toNode kind = .ok node) : node.kind = kind ∧ node.Conforms := by
  unfold toNode at made
  split at made
  · cases made
  · cases made
    refine ⟨rfl, fun field missing => ?_⟩
    rw [Attributes.get?_restrict]
    exact if_neg (Bool.eq_false_iff.mp missing)

namespace Snapshot

-- A node for each record of a list that is there, in its place.
theorem nodesOf_ok_iff {snapshot : Snapshot} {kind : Kind} {nodes : Option (List Node)} :
    snapshot.nodesOf kind = .ok nodes ↔
      Option.Rel (List.Forall₂ fun record node => record.toNode kind = .ok node)
        (snapshot.records kind) nodes := by
  unfold nodesOf
  cases snapshot.records kind with
  | none =>
    constructor
    · intro made
      cases made
      exact .none
    · intro alike
      cases alike
      rfl
  | some records =>
    dsimp only
    constructor
    · intro made
      cases built : records.mapM (·.toNode kind) with
      | error fault =>
        rw [built] at made
        cases made
      | ok members =>
        rw [built] at made
        cases made
        exact .some (mapM_ok_iff.mp built)
    · intro alike
      cases alike with
      | some each =>
        rw [mapM_ok_iff.mpr each]
        rfl

theorem nodesOf_ok {snapshot : Snapshot} {kind : Kind} {nodes : Option (List Node)}
    (made : snapshot.nodesOf kind = .ok nodes) :
    ∀ node ∈ nodes.getD [], node.kind = kind ∧ node.Conforms := by
  intro node member
  have alike := nodesOf_ok_iff.mp made
  generalize snapshot.records kind = records at alike
  cases alike with
  | none => exact absurd member List.not_mem_nil
  | some each =>
    obtain ⟨record, _, source⟩ := mapM_produced (mapM_ok_iff.mpr each) node member
    exact Record.toNode_ok source

theorem nodesOf_collection {snapshot : Snapshot} {store : Store}
    (made : snapshot.toStore = .ok store) (kind : Kind) :
    snapshot.nodesOf kind = .ok (store.collection kind) := by
  unfold toStore at made
  obtain ⟨buildingNodes, buildings, made⟩ := bind_eq_ok_iff.mp made
  obtain ⟨lockNodes, locks, made⟩ := bind_eq_ok_iff.mp made
  obtain ⟨groupNodes, groups, made⟩ := bind_eq_ok_iff.mp made
  obtain ⟨mediumNodes, media, made⟩ := bind_eq_ok_iff.mp made
  cases made
  cases kind with
  | building => exact buildings
  | lock => exact locks
  | group => exact groups
  | medium => exact media

theorem toStore_wellKinded {snapshot : Snapshot} {store : Store}
    (made : snapshot.toStore = .ok store) : store.WellKinded :=
  fun kind node member => (nodesOf_ok (nodesOf_collection made kind) node member).1

theorem toStore_conforms {snapshot : Snapshot} {store : Store}
    (made : snapshot.toStore = .ok store) : store.Conforms :=
  fun kind node member => (nodesOf_ok (nodesOf_collection made kind) node member).2

end Snapshot

end SiteSearch
