import Mathlib.Data.List.Basic
import SiteSearch.Proofs.Ranking.Frame
import SiteSearch.Proofs.Ranking.Ranked
import SiteSearch.Session

-- What a search gives, case by case: it is refused for its query, refused for the first absent
-- collection, or it gives the best nodes of the ranked store.
namespace SiteSearch

-- Why a query cannot be searched, if it cannot.
inductive QueryFault.Of (query : String) : QueryFault → Prop where
  | empty (nothing : query = "") : Of query .empty
  | tooLong (excess : 256 < query.utf8ByteSize) : Of query (.tooLong query.utf8ByteSize)

theorem QueryFault.Of.unfit {query : String} {cause : QueryFault} (because : Of query cause) :
    query = "" ∨ 256 < query.utf8ByteSize := by
  cases because with
  | empty nothing => exact .inl nothing
  | tooLong excess => exact .inr excess

theorem not_unfit {query : String} (fit : query ≠ "" ∧ query.utf8ByteSize ≤ 256) :
    ¬ (query = "" ∨ 256 < query.utf8ByteSize) := by
  rintro (nothing | excess)
  · exact fit.1 nothing
  · exact Nat.not_lt.mpr fit.2 excess

theorem checkQuery_eq_error_iff (query : String) (fault : SearchError) :
    checkQuery query = .error fault ↔
      ∃ cause, QueryFault.Of query cause ∧ fault = .invalidQuery cause := by
  unfold checkQuery
  constructor
  · intro refused
    split at refused
    · next empty =>
      cases refused
      exact ⟨.empty, .empty (String.isEmpty_iff.mp empty), rfl⟩
    · split at refused
      · next excess =>
        cases refused
        exact ⟨_, .tooLong excess, rfl⟩
      · cases refused
  · rintro ⟨cause, because, rfl⟩
    cases because with
    | empty nothing =>
      rw [if_pos (String.isEmpty_iff.mpr nothing)]
    | tooLong excess =>
      have something : ¬ query.isEmpty = true := by
        rw [String.isEmpty_iff]
        rintro rfl
        exact absurd excess (by decide)
      rw [if_neg something]
      exact if_pos excess

theorem checkQuery_eq_ok_iff (query : String) :
    checkQuery query = .ok () ↔ query ≠ "" ∧ query.utf8ByteSize ≤ 256 := by
  unfold checkQuery
  by_cases empty : query.isEmpty = true
  · rw [if_pos empty]
    exact ⟨fun accepted => (nomatch accepted),
      fun fine => absurd (String.isEmpty_iff.mp empty) fine.1⟩
  · have something : query ≠ "" := mt String.isEmpty_iff.mpr empty
    rw [if_neg empty]
    by_cases excess : query.utf8ByteSize > maxQueryBytes
    · rw [if_pos excess]
      exact ⟨fun accepted => (nomatch accepted), fun fine => absurd fine.2 (Nat.not_le.mpr excess)⟩
    · rw [if_neg excess]
      exact ⟨fun _ => ⟨something, Nat.not_lt.mp excess⟩, fun _ => rfl⟩

namespace Session

theorem ofWeights_ok {store : Store} {weights : WeightTable} {session : Session}
    (opened : Session.ofWeights store weights = .ok session) :
    session.store = store ∧ session.engine.weights = weights := by
  unfold ofWeights at opened
  obtain ⟨engine, made, opened⟩ := bind_eq_ok_iff.mp opened
  cases opened
  exact ⟨rfl, (Engine.ofWeights_ok_iff weights engine).mp made⟩

-- What a search of a store with all collections gives, for an accepted query.
def outcome (session : Session) (query : String) (count : Nat) : Outcome :=
  let sought := Text.lowercase (Text.lowercase query)
  let ranked := Ranking.ranked session.engine.weights sought session.store
  { query := Text.lowercase query
    summary := Ranking.summary session.engine.weights sought session.store
    hits := (ranked.listed.mergeSort fun a b => b.score ≤ a.score).take count }

def afterSearch (session : Session) (query : String) : Session :=
  { session with
    store := Ranking.ranked session.engine.weights (Text.lowercase (Text.lowercase query))
      session.store }

theorem search_refused {session : Session} {query : String} {fault : SearchError}
    (refused : checkQuery query = .error fault) (count : Nat) :
    session.search query count = (.error fault, session) := by
  unfold search
  rw [refused]

theorem search_absent {session : Session} {query : String} (accepted : checkQuery query = .ok ())
    {kind : Kind} (absent : session.store.firstAbsent? = some kind) (count : Nat) :
    session.search query count = (.error (.dataNotLoaded kind), session) := by
  unfold search
  rw [accepted]
  dsimp only
  rw [session.engine.rank_absent absent]
  rfl

theorem search_loaded {session : Session} {query : String} (accepted : checkQuery query = .ok ())
    (loaded : session.store.Loaded) (kinded : session.store.WellKinded) (count : Nat) :
    session.search query count =
      (.ok (session.outcome query count), session.afterSearch query) := by
  unfold search
  rw [accepted]
  dsimp only
  rw [session.engine.rank_eq loaded kinded]
  dsimp only [bind, Except.bind]
  rw [(Ranking.ranked_loaded loaded _ _).best]
  rfl

-- A search changes scores and nothing else.
theorem search_keeps (session : Session) (query : String) (count : Nat) :
    (session.search query count).2.store.SameContent session.store ∧
      (session.search query count).2.engine = session.engine := by
  unfold search
  cases checkQuery query with
  | error fault => exact ⟨.refl session.store, rfl⟩
  | ok _ => exact ⟨session.engine.rank_content (Text.lowercase query) session.store, rfl⟩

theorem outcome_congr {a b : Session} (same : a.store.SameContent b.store)
    (engines : a.engine = b.engine) (query : String) (count : Nat) :
    a.outcome query count = b.outcome query count := by
  unfold outcome
  dsimp only
  rw [engines, Ranking.summary_congr same, Ranking.ranked_congr same]

-- A search does not answer by what searches before it have left in the scores.
theorem search_congr {a b : Session} (same : a.store.SameContent b.store)
    (engines : a.engine = b.engine) (kinded : b.store.WellKinded) (query : String) (count : Nat) :
    (a.search query count).1 = (b.search query count).1 := by
  cases checked : checkQuery query with
  | error fault => rw [search_refused checked, search_refused checked]
  | ok _ =>
    cases absent : a.store.firstAbsent? with
    | some kind =>
      rw [search_absent checked absent, search_absent checked (same.firstAbsent?.symm.trans absent)]
    | none =>
      have aLoaded := a.store.firstAbsent?_eq_none_iff.mp absent
      have bLoaded := b.store.firstAbsent?_eq_none_iff.mp (same.firstAbsent?.symm.trans absent)
      rw [search_loaded checked aLoaded (same.wellKinded kinded),
        search_loaded checked bLoaded kinded]
      exact congrArg Except.ok (outcome_congr same engines query count)

end Session

end SiteSearch
