import Mathlib.Data.List.Basic
import SiteSearch.Digest.Hash
import SiteSearch.Proofs.Digest.Content
import SiteSearch.Proofs.Metrics
import SiteSearch.Proofs.Ranking.Frame
import SiteSearch.Proofs.Session.Outcome

-- Rankings and searches in a row. Whatever is asked, and whether it is granted or refused, the
-- store that comes out holds what went in, so all that is read off its content is the same.
namespace SiteSearch

inductive Call where
  | rank (query : String)
  | search (query : String) (count : Nat)

namespace Call

def after (engine : Engine) (store : Store) : Call → Store
  | .rank query => (engine.rank query store).2
  | .search query count => (Session.search ⟨store, engine⟩ query count).2.store

theorem after_content (engine : Engine) (store : Store) (call : Call) :
    (call.after engine store).SameContent store := by
  cases call with
  | rank query => exact engine.rank_content query store
  | search query count => exact (Session.search_keeps ⟨store, engine⟩ query count).1

def afterAll (engine : Engine) (store : Store) (calls : List Call) : Store :=
  calls.foldl (after engine) store

theorem afterAll_content (engine : Engine) (store : Store) (calls : List Call) :
    (afterAll engine store calls).SameContent store := by
  induction calls generalizing store with
  | nil => exact .refl store
  | cons call later ih =>
    exact (ih (call.after engine store)).trans (call.after_content engine store)

end Call

theorem calls_change_scores_only (engine : Engine) (store : Store) (calls : List Call) :
    let after := Call.afterAll engine store calls
    (∀ kind, (after.collection kind).map (·.map fun node => (node.kind, node.id, node.attributes)) =
      (store.collection kind).map (·.map fun node => (node.kind, node.id, node.attributes))) ∧
    Digest.canonicalBytes after = Digest.canonicalBytes store ∧
    Digest.checksum after = Digest.checksum store ∧
    Digest.hashText after = Digest.hashText store ∧
    Metrics.ofStore after = Metrics.ofStore store ∧
    (∀ table query kind,
      Store.RescoredAt kind store (Ranking.directPass table query kind store).2) ∧
    ∀ query relation rule,
      Store.RescoredAt relation.acceptor store
        (Ranking.transitivePass query relation rule store).2 := by
  intro after
  have same : after.SameContent store := Call.afterAll_content engine store calls
  have bytes := Digest.canonicalBytes_congr same
  refine ⟨same.view _ fun _ => rfl, bytes, ?_, ?_, Metrics.ofStore_congr same, ?_, ?_⟩
  · unfold Digest.checksum
    rw [bytes]
  · unfold Digest.hashText
    rw [bytes]
  · exact fun table query kind => Ranking.directPass_rescored table query kind store
  · exact fun query relation rule => Ranking.transitivePass_rescored query relation rule store

-- A group that stands among the buildings, where nobody looks for one.
def strayGroup : Store where
  buildings := some
    [{ kind := .building, id := "b1", attributes := { name := some "North" }, score := 7 },
      { kind := .group, id := "g1", attributes := { name := some "North" }, score := 3 }]
  locks := some []
  groups := some []
  media := some []

-- The ranking is refused at the group, with the building before it already scored; the search is
-- refused at once. Other scores are all that they leave behind.
theorem calls_of_strayGroup :
    let after := Call.afterAll .stock strayGroup [.rank "NORTH", .search "" 5]
    (Engine.stock.rank "NORTH" strayGroup).1 = .error (.schemaMismatch .group .shortCut) ∧
      (after.buildings.getD []).map (·.score) = [90, 0] ∧
      Digest.hashText after = Digest.hashText strayGroup ∧
      Store.RescoredAt .building strayGroup
        (Ranking.directPass .stock "north" .building strayGroup).2 := by
  intro after
  obtain ⟨_, _, _, hashes, _, direct, _⟩ :=
    calls_change_scores_only .stock strayGroup [.rank "NORTH", .search "" 5]
  exact ⟨by decide +kernel, by decide +kernel, hashes, direct .stock "north" .building⟩

end SiteSearch
