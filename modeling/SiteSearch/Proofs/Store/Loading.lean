import Mathlib.Data.List.Basic
import SiteSearch.Proofs.Traversal
import SiteSearch.Proofs.Store.Content

-- Which collections of a store are there. A ranking asks once, before it touches a score; what it
-- asks for later is then there too.
namespace SiteSearch

theorem Kind.getElem?_index (kind : Kind) : Kind.all[kind.index]? = some kind := by
  cases kind <;> rfl

theorem Kind.index_of_getElem? {place : Nat} {kind : Kind} (here : Kind.all[place]? = some kind) :
    place = kind.index := by
  have inside : place < 4 := List.getElem?_eq_some_iff.mp here |>.1
  have only : ∀ place < 4, ∀ kind ∈ Kind.all,
      Kind.all[place]? = some kind → place = kind.index := by
    decide
  exact only place inside kind kind.mem_all here

theorem Kind.collection_inj {kind other : Kind} (same : kind.collection = other.collection) :
    kind = other := by
  revert same
  cases kind <;> cases other <;> decide

instance {holds : Kind → Prop} [DecidablePred holds] : Decidable (∀ kind, holds kind) :=
  decidable_of_iff (∀ kind ∈ Kind.all, holds kind)
    ⟨fun all kind => all kind kind.mem_all, fun all kind _ => all kind⟩

namespace Store

instance (store : Store) : Decidable store.Loaded :=
  inferInstanceAs (Decidable (∀ kind, (store.collection kind).isSome = true))

instance (store : Store) : Decidable store.WellKinded :=
  inferInstanceAs (Decidable (∀ kind, ∀ node ∈ (store.collection kind).getD [], node.kind = kind))

def firstAbsent? (store : Store) : Option Kind :=
  Kind.all.find? fun kind => (store.collection kind).isNone

theorem firstAbsent?_eq_none_iff (store : Store) : store.firstAbsent? = none ↔ store.Loaded := by
  unfold firstAbsent? Loaded
  rw [List.find?_eq_none]
  constructor
  · intro none kind
    simpa only [Option.isNone_iff_eq_none, ← Option.isSome_iff_ne_none] using
      none kind (Kind.mem_all kind)
  · intro loaded kind _ absent
    rw [Option.isNone_iff_eq_none] at absent
    have present := loaded kind
    rw [absent] at present
    cases present

-- The nodes of the kind were never loaded, those of every earlier kind were.
def FirstAbsent (store : Store) (kind : Kind) : Prop :=
  store.collection kind = none ∧
    ∀ earlier : Kind, earlier.index < kind.index → (store.collection earlier).isSome = true

theorem firstAbsent?_eq_some_iff (store : Store) (kind : Kind) :
    store.firstAbsent? = some kind ↔ store.FirstAbsent kind := by
  unfold firstAbsent? FirstAbsent
  rw [List.find?_eq_some_iff_getElem, Option.isNone_iff_eq_none]
  refine and_congr_right fun _ => ?_
  constructor
  · rintro ⟨place, inside, here, before⟩ earlier less
    obtain rfl := Kind.index_of_getElem? (List.getElem?_eq_some_iff.mpr ⟨inside, here⟩)
    have present := before earlier.index less
    rw [(List.getElem?_eq_some_iff.mp earlier.getElem?_index).2] at present
    simpa using present
  · intro before
    obtain ⟨inside, here⟩ := List.getElem?_eq_some_iff.mp kind.getElem?_index
    refine ⟨kind.index, inside, here, fun place less => ?_⟩
    have known : Kind.all[place]? = some Kind.all[place] :=
      List.getElem?_eq_getElem (Nat.lt_trans less inside)
    have present := before Kind.all[place] (Kind.index_of_getElem? known ▸ less)
    simpa using present

theorem SameContent.firstAbsent? {a b : Store} (same : a.SameContent b) :
    a.firstAbsent? = b.firstAbsent? := by
  unfold Store.firstAbsent?
  refine congrArg (Kind.all.find? ·) (funext fun kind => ?_)
  rw [← Option.not_isSome, ← Option.not_isSome, same.isSome_collection kind]

theorem require_eq_ok {store : Store} {kind : Kind} {nodes : List Node}
    (found : store.collection kind = some nodes) : store.require kind = .ok nodes := by
  unfold require
  rw [found]

theorem Loaded.require {store : Store} (loaded : store.Loaded) (kind : Kind) :
    store.require kind = .ok ((store.collection kind).getD []) := by
  obtain ⟨nodes, found⟩ := Option.isSome_iff_exists.mp (loaded kind)
  rw [require_eq_ok found, found]
  rfl

theorem requireAll_eq (store : Store) (kinds : List Kind) :
    (kinds.forM fun kind => discard (store.require kind)) =
      match kinds.find? fun kind => (store.collection kind).isNone with
      | none => .ok ()
      | some kind => .error (.dataNotLoaded kind) := by
  induction kinds with
  | nil => rfl
  | cons kind rest ih =>
    change (discard (store.require kind) >>= fun _ =>
      rest.forM fun kind => discard (store.require kind)) = _
    cases found : store.collection kind with
    | none =>
      have refused : store.require kind = .error (.dataNotLoaded kind) := by
        unfold Store.require
        rw [found]
      rw [refused, List.find?_cons_of_pos (by rw [found]; rfl)]
      rfl
    | some nodes =>
      rw [require_eq_ok found, List.find?_cons_of_neg (by rw [found]; exact Bool.false_ne_true)]
      exact ih

theorem ensureLoaded_eq (store : Store) :
    store.ensureLoaded =
      match store.firstAbsent? with
      | none => .ok ()
      | some kind => .error (.dataNotLoaded kind) :=
  store.requireAll_eq Kind.all

theorem Loaded.ensureLoaded {store : Store} (loaded : store.Loaded) :
    store.ensureLoaded = .ok () := by
  rw [ensureLoaded_eq, (firstAbsent?_eq_none_iff store).mpr loaded]

def listed (store : Store) : List Node :=
  selectionOrder.flatMap fun kind => (store.collection kind).getD []

theorem listed_mapNodes (store : Store) (change : Node → Node) :
    (store.mapNodes change).listed = store.listed.map change := by
  unfold listed
  rw [List.map_flatMap]
  exact congrArg (selectionOrder.flatMap ·) (funext (store.getD_collection_mapNodes change))

theorem length_listed (store : Store) : store.listed.length = store.nodeCount := by
  simp [listed, nodeCount, loadedNodes, selectionOrder, Kind.all]
  omega

theorem length_collection_le (store : Store) (kind : Kind) :
    ((store.collection kind).getD []).length ≤ store.nodeCount := by
  have listed : (store.collection kind).getD [] ∈
      selectionOrder.map fun kind => (store.collection kind).getD [] :=
    List.mem_map_of_mem (by cases kind <;> decide)
  rw [← store.length_listed, Store.listed, List.flatMap_def]
  exact (List.sublist_flatten_of_mem listed).length_le

theorem Loaded.selection {store : Store} (loaded : store.Loaded) :
    store.selection = .ok store.listed := by
  have granted : selectionOrder.mapM store.require =
      .ok (selectionOrder.map fun kind => (store.collection kind).getD []) :=
    mapM_granted fun kind _ => loaded.require kind
  unfold Store.selection listed
  rw [granted, List.flatMap_def]
  rfl

theorem Loaded.best {store : Store} (loaded : store.Loaded) (count : Nat) :
    store.best count =
      .ok ((store.listed.mergeSort fun a b => b.score ≤ a.score).take count) := by
  unfold Store.best
  rw [loaded.selection]
  rfl

end Store

end SiteSearch
