import Mathlib.Data.List.Basic
import SiteSearch.Proofs.Store.Content
import SiteSearch.Ranking

-- What a ranking may write to. A pass writes scores in one collection, and a ranking writes scores
-- only, however it ends. Nothing is asked of the store: its nodes may be of any kind.
namespace SiteSearch

open Store (RescoredAt SameContent)

theorem Store.require_collection {store : Store} {kind : Kind} {nodes : List Node}
    (granted : store.require kind = .ok nodes) : store.collection kind = some nodes := by
  unfold require at granted
  split at granted
  · cases granted
    assumption
  · cases granted

namespace Ranking

theorem addEach_resetScore (due : Node → Except SearchError (List Score)) (nodes : List Node) :
    (addEach due nodes).2.map Node.resetScore = nodes.map Node.resetScore := by
  induction nodes with
  | nil => rfl
  | cons node rest ih =>
    unfold addEach
    cases due node with
    | error fault => rfl
    | ok points => simp [ih]

theorem addTo_rescored (kind : Kind) (due : Node → Except SearchError (List Score))
    (store : Store) : RescoredAt kind store (addTo kind due store).2 := by
  unfold addTo
  cases granted : store.require kind with
  | error fault => exact .refl kind store
  | ok nodes =>
    exact Store.rescoredAt_put (Store.require_collection granted) (addEach_resetScore due nodes)

theorem directPass_rescored (table : WeightTable) (query : String) (kind : Kind) (store : Store) :
    RescoredAt kind store (directPass table query kind store).2 :=
  addTo_rescored kind _ store

theorem transitivePass_rescored (query : String) (relation : Relation) (rule : TransitiveRule)
    (store : Store) :
    RescoredAt relation.acceptor store (transitivePass query relation rule store).2 := by
  unfold transitivePass
  split
  · exact .refl relation.acceptor store
  · split
    · exact .refl relation.acceptor store
    · exact addTo_rescored relation.acceptor _ store

-- Passes in a row write no more than each of them does.
theorem sequence_content {passes : List Pass}
    (keep : ∀ pass ∈ passes, ∀ store, (pass store).2.SameContent store) (store : Store) :
    (sequence passes store).2.SameContent store := by
  induction passes generalizing store with
  | nil => exact .refl store
  | cons pass later ih =>
    have first := keep pass List.mem_cons_self store
    unfold sequence
    cases ran : pass store with
    | mk answer next =>
      rw [ran] at first
      cases answer with
      | error fault => exact first
      | ok count =>
        have rest := ih (fun other member => keep other (List.mem_cons_of_mem _ member)) next
        exact rest.trans first

theorem passes_content (table : WeightTable) (query : String) (store : Store) :
    (passes table query store).2.SameContent store := by
  have directs : (sequence (Kind.all.map (directPass table query)) store).2.SameContent store := by
    refine sequence_content (fun pass member store => ?_) store
    obtain ⟨kind, _, rfl⟩ := List.mem_map.mp member
    exact (directPass_rescored table query kind store).content
  have lendings (middle : Store) :
      (sequence (table.rules.map fun entry => transitivePass query entry.1 entry.2)
        middle).2.SameContent middle := by
    refine sequence_content (fun pass member store => ?_) middle
    obtain ⟨entry, _, rfl⟩ := List.mem_map.mp member
    exact (transitivePass_rescored query entry.1 entry.2 store).content
  unfold passes
  split
  · next ran =>
    rw [ran] at directs
    exact directs
  · next middle ran =>
    rw [ran] at directs
    exact (lendings middle).trans directs

end Ranking

-- Whether it is refused at the start, refused midway or granted.
theorem Engine.rank_content (engine : Engine) (query : String) (store : Store) :
    (engine.rank query store).2.SameContent store := by
  unfold Engine.rank
  cases store.ensureLoaded with
  | error fault => exact .refl store
  | ok _ =>
    have ran := Ranking.passes_content engine.weights (Text.lowercase query) store.resetScores
    exact ran.trans store.sameContent_resetScores

end SiteSearch
