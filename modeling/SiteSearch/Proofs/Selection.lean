import Mathlib.Data.List.FinRange
import Mathlib.Data.List.Permutation
import SiteSearch.Proofs.Session.Outcome

-- The order in which nodes are selected. Nodes are told apart by their places, since a node may
-- stand in a store twice: the higher score goes first, and of equal scores the earlier place.
namespace SiteSearch

def Ahead (nodes : List Node) (place other : Fin nodes.length) : Prop :=
  nodes[other].score < nodes[place].score ∨
    nodes[place].score = nodes[other].score ∧ place < other

instance (nodes : List Node) (place other : Fin nodes.length) :
    Decidable (Ahead nodes place other) :=
  inferInstanceAs (Decidable (_ ∨ _))

-- The places that hits were taken from, best first: at most `count` of them, and none of those
-- left is ahead of one that was taken.
structure TakenFrom (nodes : List Node) (count : Nat) (hits : List Node)
    (places : List (Fin nodes.length)) : Prop where
  holds : hits = places.map fun place => nodes[place]
  size : places.length = min count nodes.length
  distinct : places.Nodup
  order : ∀ first second : Fin places.length,
    first < second ↔ Ahead nodes places[first] places[second]
  rest : ∀ left, left ∉ places → ∀ taken ∈ places, Ahead nodes taken left

namespace Ahead

variable {nodes : List Node} {one two : Fin nodes.length}

theorem asymm (ahead : Ahead nodes one two) : ¬ Ahead nodes two one := by
  intro behind
  unfold Ahead at ahead behind
  rw [UInt64.lt_iff_toNat_lt, ← UInt64.toNat_inj] at ahead behind
  omega

theorem of_not (behind : ¬ Ahead nodes two one) (apart : one ≠ two) : Ahead nodes one two := by
  unfold Ahead at behind ⊢
  rw [UInt64.lt_iff_toNat_lt, ← UInt64.toNat_inj] at behind ⊢
  omega

end Ahead

namespace Selection

variable (nodes : List Node)

def higher (one two : Node) : Bool := two.score ≤ one.score

-- The order of a stable sort, on places.
def inOrder (one two : Fin nodes.length) : Bool :=
  !decide (Ahead nodes two one)

def placed (place : Fin nodes.length) : Node × Nat :=
  (nodes[place], place)

theorem inOrder_eq (one two : Fin nodes.length) :
    inOrder nodes one two = List.zipIdxLE higher (placed nodes one) (placed nodes two) := by
  rw [Bool.eq_iff_iff]
  unfold inOrder List.zipIdxLE higher placed Ahead
  simp only [UInt64.lt_iff_toNat_lt, UInt64.le_iff_toNat_le, ← UInt64.toNat_inj, Fin.lt_def]
  grind

theorem placed_finRange : (List.finRange nodes.length).map (placed nodes) = nodes.zipIdx := by
  refine List.ext_getElem (by simp) fun place _ _ => ?_
  simp [placed]

def ordered : List (Fin nodes.length) :=
  (List.finRange nodes.length).mergeSort (inOrder nodes)

theorem ordered_holds :
    (ordered nodes).map (fun place => nodes[place]) = nodes.mergeSort higher := by
  have sorted : (ordered nodes).map (placed nodes) =
      nodes.zipIdx.mergeSort (List.zipIdxLE higher) := by
    rw [← placed_finRange]
    exact List.map_mergeSort fun one _ two _ => inOrder_eq nodes one two
  rw [← List.mergeSort_zipIdx, ← sorted, List.map_map]
  rfl

theorem ordered_perm : (ordered nodes).Perm (List.finRange nodes.length) :=
  List.mergeSort_perm _ _

theorem ordered_nodup : (ordered nodes).Nodup :=
  (ordered_perm nodes).nodup_iff.mpr (List.nodup_finRange _)

theorem higher_total (one two : Node) : (higher one two || higher two one) = true := by
  unfold higher
  simpa using UInt64.le_total two.score one.score

theorem higher_trans (one two three : Node) (first : higher one two = true)
    (second : higher two three = true) : higher one three = true := by
  unfold higher at *
  simp only [decide_eq_true_eq] at *
  exact UInt64.le_trans second first

theorem ordered_pairwise : (ordered nodes).Pairwise (Ahead nodes) := by
  have sorted : (ordered nodes).Pairwise fun one two => inOrder nodes one two = true := by
    refine List.pairwise_mergeSort ?_ ?_ _
    · intro one two three
      simp only [inOrder_eq]
      exact List.zipIdxLE_trans higher_trans _ _ _
    · intro one two
      simp only [inOrder_eq]
      exact List.zipIdxLE_total higher_total _ _
  refine (sorted.and (ordered_nodup nodes)).imp ?_
  rintro one two ⟨before, apart⟩
  refine Ahead.of_not ?_ apart
  simpa [inOrder] using before

theorem takenFrom_take (count : Nat) :
    TakenFrom nodes count ((nodes.mergeSort higher).take count) ((ordered nodes).take count) := by
  have pairs := ordered_pairwise nodes
  refine ⟨?_, ?_, (ordered_nodup nodes).sublist (List.take_sublist _ _), ?_, ?_⟩
  · rw [← ordered_holds, List.map_take]
  · rw [List.length_take, (ordered_perm nodes).length_eq, List.length_finRange]
  · have taken := List.pairwise_iff_getElem.mp (pairs.sublist (List.take_sublist count _))
    intro first second
    constructor
    · intro before
      exact taken first second first.isLt second.isLt before
    · intro ahead
      rcases Nat.lt_trichotomy first second with before | same | after
      · exact before
      · rw [Fin.ext same] at ahead
        exact absurd ahead ahead.asymm
      · exact absurd (taken second first second.isLt first.isLt after) ahead.asymm
  · intro left missing taken member
    have listed : left ∈ (ordered nodes).take count ++ (ordered nodes).drop count := by
      rw [List.take_append_drop, (ordered_perm nodes).mem_iff]
      exact List.mem_finRange left
    rw [← List.take_append_drop count (ordered nodes)] at pairs
    have later := (List.mem_append.mp listed).resolve_left missing
    exact (List.pairwise_append.mp pairs).2.2 taken member left later

theorem sorted_pairwise :
    (nodes.mergeSort higher).Pairwise fun one two => two.score ≤ one.score :=
  (List.pairwise_mergeSort higher_trans higher_total nodes).imp fun before => by
    simpa [higher] using before

end Selection

-- The hits of a search are the best nodes of the store that its ranking has left, and selecting
-- them changes nothing.
theorem Session.search_selects {session after : Session} {query : String} {count : Nat}
    {outcome : Outcome} (answered : session.search query count = (.ok outcome, after)) :
    after.store = (session.engine.rank (Text.lowercase query) session.store).2 ∧
      after.store.best count = .ok outcome.hits := by
  unfold Session.search at answered
  split at answered
  · cases answered
  · cases ranked : session.engine.rank (Text.lowercase query) session.store with
    | mk summary store =>
      dsimp only at answered
      rw [ranked] at answered
      obtain ⟨answer, rfl⟩ := Prod.mk.inj answered
      obtain ⟨counters, _, answer⟩ := bind_eq_ok_iff.mp answer
      obtain ⟨hits, selected, made⟩ := bind_eq_ok_iff.mp answer
      cases made
      exact ⟨rfl, selected⟩

theorem best_takes_in_order {store : Store} (loaded : store.Loaded) (count : Nat) :
    store.listed = store.buildings.getD [] ++ store.locks.getD [] ++ store.media.getD [] ++
      store.groups.getD [] ∧
    (∃ hits places, store.best count = .ok hits ∧ TakenFrom store.listed count hits places ∧
      ∀ fewer ≤ count, ∃ first, store.best fewer = .ok first ∧ first <+: hits) ∧
    ∀ (engine : Engine) (query : String) (outcome : Outcome) (after : Session),
      Session.search ⟨store, engine⟩ query count = (.ok outcome, after) →
        after.store = (engine.rank (Text.lowercase query) store).2 ∧
          after.store.best count = .ok outcome.hits := by
  refine ⟨?_, ?_, ?_⟩
  · simp [Store.listed, Store.selectionOrder, Store.collection]
  · refine ⟨_, _, loaded.best count, Selection.takenFrom_take store.listed count, ?_⟩
    intro fewer fits
    exact ⟨_, loaded.best fewer, List.take_prefix_take_left fits⟩
  · intro engine query outcome after answered
    exact Session.search_selects answered

-- Equal scores in three collections, and two locks with one identifier.
def tiedScores : Store where
  buildings := some [{ kind := .building, id := "b1", score := 5 }]
  locks :=
    some [{ kind := .lock, id := "l1", score := 5 }, { kind := .lock, id := "l1", score := 9 }]
  groups := some [{ kind := .group, id := "g1", score := 9 }]
  media := some [{ kind := .medium, id := "m1", score := 5 }]

theorem best_of_tiedScores :
    tiedScores.Loaded ∧ ∃ hits places, tiedScores.best 3 = .ok hits ∧
      TakenFrom tiedScores.listed 3 hits places ∧
      hits.map (·.kind) = [.lock, .group, .building] := by
  have loaded : tiedScores.Loaded := by decide
  obtain ⟨_, ⟨hits, places, selected, taken, _⟩, _⟩ := best_takes_in_order loaded 3
  refine ⟨loaded, hits, places, selected, taken, ?_⟩
  have found : (tiedScores.best 3).map (·.map (·.kind)) = .ok [.lock, .group, .building] := by
    cbv
  rw [selected] at found
  exact Except.ok.inj found

end SiteSearch
