import Mathlib.Data.List.Basic
import SiteSearch.Proofs.Session.Outcome

-- When ranking and searching are refused, and that a refusal leaves everything as it was. After the
-- scores are cleared there are many more places that could refuse; none of them ever does, since an
-- engine weighs only carried fields and a collection holds only nodes of its kind.
namespace SiteSearch

theorem Store.absent_or_loaded (store : Store) :
    (∃ kind, store.firstAbsent? = some kind) ∨ store.Loaded := by
  cases found : store.firstAbsent? with
  | none => exact .inr (store.firstAbsent?_eq_none_iff.mp found)
  | some kind => exact .inl ⟨kind, rfl⟩

theorem Store.firstAbsent_exists_iff (store : Store) :
    (∃ kind, store.FirstAbsent kind) ↔ ∃ kind, store.collection kind = none := by
  constructor
  · rintro ⟨kind, absent, _⟩
    exact ⟨kind, absent⟩
  · rintro ⟨kind, absent⟩
    rcases store.absent_or_loaded with ⟨first, found⟩ | loaded
    · exact ⟨first, (store.firstAbsent?_eq_some_iff first).mp found⟩
    · have present := loaded kind
      rw [absent] at present
      cases present

theorem Engine.rank_error_iff (engine : Engine) {store : Store} (kinded : store.WellKinded)
    (query : String) (fault : SearchError) :
    (engine.rank query store).1 = .error fault ↔
      ∃ kind, store.FirstAbsent kind ∧ fault = .dataNotLoaded kind := by
  rcases store.absent_or_loaded with ⟨first, found⟩ | loaded
  · rw [engine.rank_absent found]
    constructor
    · intro refused
      cases refused
      exact ⟨first, (store.firstAbsent?_eq_some_iff first).mp found, rfl⟩
    · rintro ⟨kind, absent, rfl⟩
      have same := (store.firstAbsent?_eq_some_iff kind).mpr absent
      rw [found] at same
      cases same
      rfl
  · rw [engine.rank_eq loaded kinded]
    refine ⟨fun refused => (nomatch refused), ?_⟩
    rintro ⟨kind, absent, _⟩
    have present := loaded kind
    rw [absent.1] at present
    cases present

theorem Engine.rank_error_keeps (engine : Engine) {store : Store} (kinded : store.WellKinded)
    {query : String} {fault : SearchError} (refused : (engine.rank query store).1 = .error fault) :
    (engine.rank query store).2 = store := by
  obtain ⟨kind, absent, _⟩ := (engine.rank_error_iff kinded query fault).mp refused
  rw [engine.rank_absent ((store.firstAbsent?_eq_some_iff kind).mpr absent)]

theorem Engine.loaded_of_rank {engine : Engine} {store ranked : Store} {query : String}
    {summary : Summary} (granted : engine.rank query store = (.ok summary, ranked)) :
    store.Loaded := by
  rcases store.absent_or_loaded with ⟨kind, absent⟩ | loaded
  · rw [engine.rank_absent absent] at granted
    cases granted
  · exact loaded

theorem Engine.rank_ok_selects (engine : Engine) {store ranked : Store}
    (kinded : store.WellKinded) {query : String} {summary : Summary}
    (granted : engine.rank query store = (.ok summary, ranked)) (count : Nat) :
    ∃ hits, ranked.best count = .ok hits := by
  have loaded := Engine.loaded_of_rank granted
  rw [engine.rank_eq loaded kinded] at granted
  cases granted
  exact ⟨_, (Ranking.ranked_loaded loaded _ _).best count⟩

theorem Session.search_error_iff (session : Session) (kinded : session.store.WellKinded)
    (query : String) (count : Nat) (fault : SearchError) :
    (session.search query count).1 = .error fault ↔
      (∃ cause, QueryFault.Of query cause ∧ fault = .invalidQuery cause) ∨
      ((query ≠ "" ∧ query.utf8ByteSize ≤ 256) ∧
        ∃ kind, session.store.FirstAbsent kind ∧ fault = .dataNotLoaded kind) := by
  rw [← checkQuery_eq_error_iff, ← checkQuery_eq_ok_iff]
  cases checked : checkQuery query with
  | error cause =>
    rw [search_refused checked]
    constructor
    · intro refused
      cases refused
      exact .inl rfl
    · rintro (same | ⟨accepted, _⟩)
      · exact congrArg Except.error (Except.error.inj same)
      · cases accepted
  | ok _ =>
    rcases session.store.absent_or_loaded with ⟨first, found⟩ | loaded
    · rw [search_absent checked found]
      constructor
      · intro refused
        cases refused
        exact .inr ⟨rfl, first, (session.store.firstAbsent?_eq_some_iff first).mp found, rfl⟩
      · rintro (refused | ⟨_, kind, absent, rfl⟩)
        · cases refused
        · have same := (session.store.firstAbsent?_eq_some_iff kind).mpr absent
          rw [found] at same
          cases same
          rfl
    · rw [search_loaded checked loaded kinded]
      refine ⟨fun refused => (nomatch refused), ?_⟩
      rintro (refused | ⟨_, kind, absent, _⟩)
      · cases refused
      · have present := loaded kind
        rw [absent.1] at present
        cases present

-- A search ends in one of three ways.
theorem Session.search_cases (session : Session) (kinded : session.store.WellKinded) (query : String)
    (count : Nat) :
    (∃ cause, QueryFault.Of query cause ∧
      (session.search query count).1 = .error (.invalidQuery cause)) ∨
    ((query ≠ "" ∧ query.utf8ByteSize ≤ 256) ∧ ∃ kind, session.store.FirstAbsent kind ∧
      (session.search query count).1 = .error (.dataNotLoaded kind)) ∨
    ((query ≠ "" ∧ query.utf8ByteSize ≤ 256) ∧ session.store.Loaded ∧
      (session.search query count).1 = .ok (session.outcome query count)) := by
  cases found : (session.search query count).1 with
  | error fault =>
    rcases (session.search_error_iff kinded query count fault).mp found with
      ⟨cause, because, rfl⟩ | ⟨accepted, kind, absent, rfl⟩
    · exact .inl ⟨cause, because, rfl⟩
    · exact .inr (.inl ⟨accepted, kind, absent, rfl⟩)
  | ok outcome =>
    cases checked : checkQuery query with
    | error fault =>
      rw [search_refused checked] at found
      cases found
    | ok _ =>
      rcases session.store.absent_or_loaded with ⟨kind, absent⟩ | loaded
      · rw [search_absent checked absent] at found
        cases found
      · rw [search_loaded checked loaded kinded] at found
        cases found
        exact .inr (.inr ⟨(checkQuery_eq_ok_iff query).mp checked, loaded, rfl⟩)

theorem Session.search_error_keeps (session : Session) (kinded : session.store.WellKinded)
    {query : String} {count : Nat} {fault : SearchError}
    (refused : (session.search query count).1 = .error fault) :
    (session.search query count).2 = session := by
  cases checked : checkQuery query with
  | error cause => rw [search_refused checked]
  | ok _ =>
    rcases session.store.absent_or_loaded with ⟨first, found⟩ | loaded
    · rw [search_absent checked found]
    · rw [search_loaded checked loaded kinded] at refused
      cases refused

theorem refusals_leave_all_untouched (engine : Engine) {store : Store}
    (kinded : store.WellKinded) (query : String) (count : Nat) :
    ((∃ fault, (engine.rank query store).1 = .error fault) ↔
      ∃ kind, store.collection kind = none) ∧
    (∀ fault, (engine.rank query store).1 = .error fault ↔
      ∃ kind, store.FirstAbsent kind ∧ fault = .dataNotLoaded kind) ∧
    (∀ fault, (engine.rank query store).1 = .error fault →
      (engine.rank query store).2 = store) ∧
    (∀ summary ranked, engine.rank query store = (.ok summary, ranked) →
      ∃ hits, ranked.best count = .ok hits) ∧
    (∀ fault, (Session.search ⟨store, engine⟩ query count).1 = .error fault ↔
      (∃ cause, QueryFault.Of query cause ∧ fault = .invalidQuery cause) ∨
      ((query ≠ "" ∧ query.utf8ByteSize ≤ 256) ∧
        ∃ kind, store.FirstAbsent kind ∧ fault = .dataNotLoaded kind)) ∧
    (∀ fault, (Session.search ⟨store, engine⟩ query count).1 = .error fault →
      (Session.search ⟨store, engine⟩ query count).2 = ⟨store, engine⟩) := by
  refine ⟨?_, engine.rank_error_iff kinded query, ?_, ?_, ?_, ?_⟩
  · rw [← store.firstAbsent_exists_iff]
    constructor
    · rintro ⟨fault, refused⟩
      obtain ⟨kind, absent, _⟩ := (engine.rank_error_iff kinded query fault).mp refused
      exact ⟨kind, absent⟩
    · rintro ⟨kind, absent⟩
      exact ⟨_, (engine.rank_error_iff kinded query _).mpr ⟨kind, absent, rfl⟩⟩
  · exact fun fault => engine.rank_error_keeps kinded
  · exact fun summary ranked granted => engine.rank_ok_selects kinded granted count
  · exact Session.search_error_iff ⟨store, engine⟩ kinded query count
  · exact fun fault => Session.search_error_keeps ⟨store, engine⟩ kinded

-- Scores of an earlier search, and no collection of groups.
def withoutGroups : Store where
  buildings := some [{ kind := .building, id := "b1", score := 90 }]
  locks := some [{ kind := .lock, id := "l1", score := 80 }]
  media := some []

theorem withoutGroups_wellKinded : withoutGroups.WellKinded := by
  decide

theorem refusals_of_withoutGroups :
    withoutGroups.WellKinded ∧
      Engine.stock.rank "north" withoutGroups = (.error (.dataNotLoaded .group), withoutGroups) ∧
      (Session.search ⟨withoutGroups, .stock⟩ "" 5).1 = .error (.invalidQuery .empty) := by
  obtain ⟨_, reason, kept, _, searched, _⟩ :=
    refusals_leave_all_untouched .stock withoutGroups_wellKinded "north" 5
  obtain ⟨_, _, _, _, empty, _⟩ :=
    refusals_leave_all_untouched .stock withoutGroups_wellKinded "" 5
  have absent : withoutGroups.FirstAbsent .group := by
    refine ⟨rfl, fun earlier => ?_⟩
    cases earlier <;> decide
  have refused := (reason (.dataNotLoaded .group)).mpr ⟨.group, absent, rfl⟩
  exact ⟨withoutGroups_wellKinded, Prod.ext refused (kept _ refused),
    (empty _).mpr (.inl ⟨.empty, .empty rfl, rfl⟩)⟩

end SiteSearch
