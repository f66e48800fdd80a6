import SiteSearch.Proofs.Ranking.Scores
import SiteSearch.Proofs.Session.Refusals
import SiteSearch.Proofs.Text.Growth

-- Asking again for the query that a search has reported. It is lowercase, so lowercasing it once or
-- twice more leaves it as it is, and it finds what was found before. Only its length is another one:
-- the limit is on the query as it was asked, and a query can grow when it is lowercased.
namespace SiteSearch

theorem Store.SameContent.ensureLoaded {a b : Store} (same : a.SameContent b) :
    a.ensureLoaded = b.ensureLoaded := by
  rw [ensureLoaded_eq, ensureLoaded_eq, same.firstAbsent?]

namespace Engine

variable {engine : Engine} {query : String} {summary : Summary} {store ranked : Store}

@[simp] theorem rank_lowercase (engine : Engine) (query : String) (store : Store) :
    engine.rank (Text.lowercase query) store = engine.rank query store := by
  unfold rank
  rw [Text.lowercase_lowercase]

-- A granted ranking is a run of the passes, from cleared scores and for the lowercase query.
theorem passes_of_rank (granted : engine.rank query store = (.ok summary, ranked)) :
    Ranking.passes engine.weights (Text.lowercase query) store.resetScores =
      (.ok summary, ranked) := by
  unfold rank at granted
  split at granted
  · cases granted
  · exact granted

-- What the scores were makes no difference to a ranking that is granted.
theorem rank_again {other : Store} (same : other.SameContent store)
    (granted : engine.rank query store = (.ok summary, ranked)) :
    engine.rank query other = (.ok summary, ranked) := by
  have cleared : other.resetScores = store.resetScores := same
  unfold rank at granted ⊢
  rw [same.ensureLoaded, cleared]
  split at granted
  · cases granted
  · exact granted

end Engine

namespace Session

-- A search that is granted, part by part.
structure Finds (session : Session) (query : String) (count : Nat) (outcome : Outcome)
    (next : Session) : Prop where
  accepted : checkQuery query = .ok ()
  reported : outcome.query = Text.lowercase query
  ranked : session.engine.rank query session.store = (.ok outcome.summary, next.store)
  selected : next.store.best count = .ok outcome.hits
  engine : next.engine = session.engine

variable {session next : Session} {query : String} {count : Nat} {outcome : Outcome}

theorem search_ok_iff :
    session.search query count = (.ok outcome, next) ↔
      session.Finds query count outcome next := by
  unfold search
  constructor
  · intro found
    cases accepted : checkQuery query with
    | error fault =>
      rw [accepted] at found
      cases found
    | ok _ =>
      rw [accepted] at found
      simp only [session.engine.rank_lowercase] at found
      obtain ⟨answer, rfl⟩ := Prod.mk.inj found
      obtain ⟨summary, granted, answer⟩ := bind_eq_ok_iff.mp answer
      obtain ⟨hits, selected, answer⟩ := bind_eq_ok_iff.mp answer
      cases answer
      exact ⟨accepted, rfl, Prod.ext granted rfl, selected, rfl⟩
  · rintro ⟨accepted, reported, ranked, selected, engine⟩
    simp only [accepted, session.engine.rank_lowercase, ranked]
    obtain ⟨store, engine⟩ := next
    obtain ⟨reported, summary, hits⟩ := outcome
    simp_all [bind, Except.bind, pure, Except.pure]

-- The reported query is searched with the same outcome, wherever the scores stand by then.
theorem Finds.again (found : session.Finds query count outcome next)
    (accepted : checkQuery outcome.query = .ok ()) {later : Session}
    (engine : later.engine = session.engine) (same : later.store.SameContent session.store) :
    later.Finds outcome.query count outcome next where
  accepted := accepted
  reported := by rw [found.reported, Text.lowercase_lowercase]
  ranked := by
    rw [found.reported, later.engine.rank_lowercase, engine]
    exact Engine.rank_again same found.ranked
  selected := found.selected
  engine := found.engine.trans engine.symm

theorem Finds.content (found : session.Finds query count outcome next) :
    next.store.SameContent session.store := by
  have content := session.engine.rank_content query session.store
  rwa [found.ranked] at content

theorem Finds.something (found : session.Finds query count outcome next) : outcome.query ≠ "" := by
  have asked := ((checkQuery_eq_ok_iff query).mp found.accepted).1
  rw [found.reported]
  exact mt (Text.lowercase_eq_empty_iff query).mp asked

theorem Finds.fits_iff (found : session.Finds query count outcome next) :
    checkQuery outcome.query = .ok () ↔ outcome.query.utf8ByteSize ≤ 256 := by
  rw [checkQuery_eq_ok_iff, and_iff_right found.something]

end Session

-- Ranking by the lowercase query is ranking by the query, and what a search reports is the text that
-- the passes have compared all values with.
theorem lowercasing_again_is_harmless (engine : Engine) (store : Store) (query : String) :
    Text.lowercase (Text.lowercase query) = Text.lowercase query ∧
    engine.rank (Text.lowercase query) store = engine.rank query store ∧
    ∀ count outcome next, Session.search ⟨store, engine⟩ query count = (.ok outcome, next) →
      outcome.query = Text.lowercase query ∧
      Ranking.passes engine.weights outcome.query store.resetScores =
        (.ok outcome.summary, next.store) ∧
      (store.WellKinded → next.store = store.mapNodes fun node =>
        { node with
          score := .ofNat (min (UInt64.size - 1)
            (relevance engine.weights outcome.query store node)) }) ∧
      (checkQuery outcome.query = .ok () →
        Session.search ⟨store, engine⟩ outcome.query count = (.ok outcome, next) ∧
        next.search outcome.query count = (.ok outcome, next)) := by
  refine ⟨Text.lowercase_lowercase query, engine.rank_lowercase query store,
    fun count outcome next searched => ?_⟩
  have found := Session.search_ok_iff.mp searched
  have passed := Engine.passes_of_rank found.ranked
  rw [← found.reported] at passed
  refine ⟨found.reported, passed, fun kinded => ?_, fun accepted => ⟨?_, ?_⟩⟩
  · have loaded := Engine.loaded_of_rank found.ranked
    rw [(Engine.rank_gives loaded kinded found.ranked).2, ← found.reported, Ranking.ranked_eq]
    rfl
  · exact Session.search_ok_iff.mpr (found.again accepted rfl (.refl store))
  · exact Session.search_ok_iff.mpr (found.again accepted found.engine found.content)

-- A name with the dotted capital I, which becomes two characters, and a sigma at the end of a word.
def dottedName : Store where
  buildings := some
    [{ kind := .building, id := "b1", attributes := { name := some "İΣΟΣ" }, score := 3 }]
  locks := some []
  groups := some []
  media := some []

theorem dottedName_loaded : dottedName.Loaded := by
  decide

theorem dottedName_wellKinded : dottedName.WellKinded := by
  decide

theorem search_dottedName {query : String} (fits : query ≠ "" ∧ query.utf8ByteSize ≤ 256) :
    Session.search ⟨dottedName, .stock⟩ query 1 =
      (.ok (Session.outcome ⟨dottedName, .stock⟩ query 1),
        Session.afterSearch ⟨dottedName, .stock⟩ query) :=
  Session.search_loaded ((checkQuery_eq_ok_iff query).mpr fits) dottedName_loaded
    dottedName_wellKinded 1

theorem lowercasing_again_of_dottedName :
    ∃ outcome next,
      Session.search ⟨dottedName, .stock⟩ "İΣΟΣ" 1 = (.ok outcome, next) ∧
      outcome.query = "i̇σος" ∧ outcome.hits.map (·.score) = [90] ∧
      next.search "i̇σος" 1 = (.ok outcome, next) := by
  have searched := search_dottedName (show "İΣΟΣ" ≠ "" ∧ "İΣΟΣ".utf8ByteSize ≤ 256 by decide)
  have reported : Text.lowercase "İΣΟΣ" = "i̇σος" := by decide +kernel
  have accepted : checkQuery "i̇σος" = .ok () := (checkQuery_eq_ok_iff _).mpr (by decide)
  rw [← reported] at accepted
  obtain ⟨_, _, harmless⟩ := lowercasing_again_is_harmless .stock dottedName "İΣΟΣ"
  obtain ⟨_, _, _, again⟩ := harmless 1 _ _ searched
  refine ⟨_, _, searched, reported, by decide +kernel, ?_⟩
  rw [← reported]
  exact (again accepted).2

-- What a search that is granted reports, as a query of its own: it is longer than the query that was
-- asked by a byte for each capital that grows, at most, and it can be asked again where that is within
-- the limit.
structure Outcome.Repeatable (outcome : Outcome) (session : Session) (query : String) (count : Nat)
    (next : Session) : Prop where
  accepted : checkQuery query = .ok ()
  lowercase : outcome.query = Text.lowercase query
  something : outcome.query ≠ ""
  grown : outcome.query.utf8ByteSize ≤ query.utf8ByteSize + query.toList.countP Text.grows
  bounded : outcome.query.utf8ByteSize ≤ 384
  fits_iff : checkQuery outcome.query = .ok () ↔ outcome.query.utf8ByteSize ≤ 256
  fits : query.utf8ByteSize + query.toList.countP Text.grows ≤ 256 →
    checkQuery outcome.query = .ok ()
  again : ∀ later : Session, later.engine = session.engine →
    later.store.SameContent session.store → checkQuery outcome.query = .ok () →
      later.search outcome.query count = (.ok outcome, next)

theorem reported_queries_can_be_asked_again {session next : Session} {query : String} {count : Nat}
    {outcome : Outcome} (searched : session.search query count = (.ok outcome, next)) :
    outcome.Repeatable session query count next := by
  have found := Session.search_ok_iff.mp searched
  have within := ((checkQuery_eq_ok_iff query).mp found.accepted).2
  have grown := Text.utf8ByteSize_lowercase_le query
  have half := Text.two_mul_countP_grows_le query
  rw [← found.reported] at grown
  refine ⟨found.accepted, found.reported, found.something, grown, by omega, found.fits_iff,
    fun room => ?_, ?_⟩
  · apply found.fits_iff.mpr
    omega
  · intro later engine same accepted
    exact Session.search_ok_iff.mpr (found.again accepted engine same)

-- One of the four letters grows.
theorem dottedName_can_be_asked_again :
    ∃ outcome next,
      Session.search ⟨dottedName, .stock⟩ "İΣΟΣ" 1 = (.ok outcome, next) ∧
      outcome.query.utf8ByteSize ≤ 9 ∧
      next.search outcome.query 1 = (.ok outcome, next) := by
  have searched := search_dottedName (show "İΣΟΣ" ≠ "" ∧ "İΣΟΣ".utf8ByteSize ≤ 256 by decide)
  have reported := reported_queries_can_be_asked_again searched
  exact ⟨_, _, searched, reported.grown,
    reported.again _ rfl (Ranking.ranked_content _ _ _) (reported.fits (by decide))⟩

def dottedCapitals : String :=
  String.ofList (List.replicate 128 'İ')

-- Each letter of the query grows, so that at the limit it is granted and what it reports is not.
theorem dottedCapitals_cannot_be_asked_again :
    ∃ outcome next,
      Session.search ⟨dottedName, .stock⟩ dottedCapitals 1 = (.ok outcome, next) ∧
      checkQuery outcome.query = .error (.invalidQuery (.tooLong 384)) ∧
      (next.search outcome.query 1).1 = .error (.invalidQuery (.tooLong 384)) := by
  have fits : dottedCapitals ≠ "" ∧ dottedCapitals.utf8ByteSize ≤ 256 := by decide +kernel
  have size : (Text.lowercase dottedCapitals).utf8ByteSize = 384 := by
    unfold Text.lowercase dottedCapitals
    rw [String.toList_ofList, String.utf8ByteSize_ofList]
    decide +kernel
  have searched := search_dottedName fits
  have refused : checkQuery (Text.lowercase dottedCapitals) =
      .error (.invalidQuery (.tooLong 384)) := by
    have excess : 256 < (Text.lowercase dottedCapitals).utf8ByteSize := by omega
    apply (checkQuery_eq_error_iff _ _).mpr
    exact ⟨_, .tooLong excess, by rw [size]⟩
  refine ⟨_, _, searched, refused, ?_⟩
  exact congrArg Prod.fst (Session.search_refused refused 1)

end SiteSearch
