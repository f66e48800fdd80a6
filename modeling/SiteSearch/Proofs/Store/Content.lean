import Mathlib.Algebra.GroupWithZero.Nat
import Mathlib.Data.List.Basic
import SiteSearch.Proofs.Ranking.TableFit

-- What a store holds apart from its scores. Ranking writes scores and nothing else, so all that
-- depends on the content alone is the same before and after.
namespace SiteSearch

namespace Node

theorem get?_of_ne_id (node : Node) {field : Field} (apart : field ≠ .id) :
    node.get? field = node.attributes.get? field := by
  cases field with
  | id => exact absurd rfl apart
  | _ => rfl

theorem write_gives {node next : Node} {field : Field} {value : String}
    (written : node.write field value = .ok next) :
    node.kind.carries field = true ∧ next.kind = node.kind ∧
      ∀ other, next.get? other = if other = field then some value else node.get? other := by
  obtain ⟨_, granted, written⟩ := bind_eq_ok_iff.mp written
  refine ⟨(node.kind.require_ok_iff field).mp granted, ?_⟩
  cases field <;> cases written <;> refine ⟨rfl, fun other => ?_⟩ <;> cases other <;> rfl

@[simp] theorem get?_resetScore (node : Node) (field : Field) :
    node.resetScore.get? field = node.get? field := by
  cases field <;> rfl

@[simp] theorem resetScore_resetScore (node : Node) :
    node.resetScore.resetScore = node.resetScore := rfl

theorem addScores_eq (node : Node) (points : List Score) :
    node.addScores points = { node with score := points.foldl Score.plus node.score } := by
  induction points generalizing node with
  | nil => rfl
  | cons head rest ih => exact ih (node.addScore head)

@[simp] theorem addScores_nil (node : Node) : node.addScores [] = node := rfl

theorem addScores_append (node : Node) (front back : List Score) :
    node.addScores (front ++ back) = (node.addScores front).addScores back :=
  List.foldl_append

@[simp] theorem kind_addScores (node : Node) (points : List Score) :
    (node.addScores points).kind = node.kind := by
  rw [addScores_eq]

@[simp] theorem resetScore_addScores (node : Node) (points : List Score) :
    (node.addScores points).resetScore = node.resetScore := by
  rw [addScores_eq]
  rfl

@[simp] theorem get?_addScores (node : Node) (points : List Score) (field : Field) :
    (node.addScores points).get? field = node.get? field := by
  rw [← get?_resetScore, resetScore_addScores, get?_resetScore]

end Node

namespace Store

@[simp] theorem mapNodes_self (store : Store) : (store.mapNodes fun node => node) = store := by
  refine ext_collection fun kind => ?_
  rw [collection_mapNodes]
  cases store.collection kind with
  | none => rfl
  | some nodes => exact congrArg some (List.map_id' nodes)

theorem getD_collection_mapNodes (store : Store) (change : Node → Node) (kind : Kind) :
    ((store.mapNodes change).collection kind).getD [] =
      ((store.collection kind).getD []).map change := by
  rw [collection_mapNodes]
  exact Option.getD_map _ [] _

theorem nodeCount_eq_sum (store : Store) :
    store.nodeCount = (Kind.all.map fun kind => ((store.collection kind).getD []).length).sum :=
  List.length_flatMap

theorem mapNodes_mapNodes (store : Store) (first second : Node → Node) :
    (store.mapNodes first).mapNodes second = store.mapNodes fun node => second (first node) := by
  refine ext_collection fun kind => ?_
  simp only [collection_mapNodes, Option.map_map]
  exact congrArg (Option.map · _) (funext fun nodes => List.map_map)

theorem mapNodes_congr {store : Store} {one other : Node → Node}
    (same : ∀ kind, ∀ node ∈ (store.collection kind).getD [], one node = other node) :
    store.mapNodes one = store.mapNodes other := by
  refine ext_collection fun kind => ?_
  rw [collection_mapNodes, collection_mapNodes]
  cases found : store.collection kind with
  | none => rfl
  | some nodes =>
    have equal := same kind
    rw [found] at equal
    exact congrArg some (List.map_congr_left equal)

theorem put_collection {store : Store} {kind : Kind} {nodes : List Node}
    (here : store.collection kind = some nodes) : store.put kind nodes = store := by
  refine ext_collection fun other => ?_
  rw [collection_put]
  split
  · next same => rw [same, here]
  · rfl

-- Changing one collection is changing all nodes of its kind.
theorem put_eq_mapNodes {store : Store} (kinded : store.WellKinded) {kind : Kind}
    {nodes : List Node} (found : store.collection kind = some nodes) (change : Node → Node) :
    store.put kind (nodes.map change) =
      store.mapNodes fun node => if node.kind = kind then change node else node := by
  refine ext_collection fun other => ?_
  rw [collection_put, collection_mapNodes]
  cases here : store.collection other with
  | none =>
    have apart : other ≠ kind := by
      rintro rfl
      rw [here] at found
      cases found
    rw [if_neg apart]
    rfl
  | some members =>
    have kindOf : ∀ node ∈ members, node.kind = other := by
      have all := kinded other
      rwa [here] at all
    by_cases same : other = kind
    · subst same
      obtain rfl : members = nodes := Option.some.inj (here.symm.trans found)
      rw [if_pos rfl]
      refine congrArg some (List.map_congr_left fun node member => ?_)
      rw [if_pos (kindOf node member)]
    · have kept : members.map (fun node => if node.kind = kind then change node else node) =
          members.map id :=
        List.map_congr_left fun node member => by rw [kindOf node member, if_neg same]; rfl
      rw [if_neg same, Option.map_some, kept, List.map_id]

theorem loaded_mapNodes {store : Store} (loaded : store.Loaded) (change : Node → Node) :
    (store.mapNodes change).Loaded := by
  intro kind
  rw [collection_mapNodes, Option.isSome_map]
  exact loaded kind

theorem wellKinded_mapNodes {store : Store} (kinded : store.WellKinded) {change : Node → Node}
    (keeps : ∀ node, (change node).kind = node.kind) : (store.mapNodes change).WellKinded := by
  intro kind node member
  rw [collection_mapNodes] at member
  cases found : store.collection kind with
  | none =>
    rw [found] at member
    exact absurd member List.not_mem_nil
  | some nodes =>
    rw [found] at member
    obtain ⟨before, listed, rfl⟩ := List.mem_map.mp member
    rw [keeps]
    have all := kinded kind
    rw [found] at all
    exact all before listed

theorem loaded_resetScores {store : Store} (loaded : store.Loaded) : store.resetScores.Loaded :=
  loaded_mapNodes loaded Node.resetScore

theorem wellKinded_resetScores {store : Store} (kinded : store.WellKinded) :
    store.resetScores.WellKinded :=
  wellKinded_mapNodes kinded fun _ => rfl

-- The same collections, present or absent, with the same nodes in the same order; only the
-- scores may differ.
def SameContent (a b : Store) : Prop :=
  a.resetScores = b.resetScores

theorem SameContent.refl (store : Store) : store.SameContent store := rfl

theorem SameContent.symm {a b : Store} (same : a.SameContent b) : b.SameContent a :=
  Eq.symm same

theorem SameContent.trans {a b c : Store} (one : a.SameContent b) (two : b.SameContent c) :
    a.SameContent c :=
  Eq.trans one two

theorem sameContent_mapNodes (store : Store) {change : Node → Node}
    (keeps : ∀ node, (change node).resetScore = node.resetScore) :
    (store.mapNodes change).SameContent store := by
  unfold SameContent resetScores
  rw [mapNodes_mapNodes]
  exact mapNodes_congr fun _ node _ => keeps node

theorem sameContent_resetScores (store : Store) : store.resetScores.SameContent store :=
  store.sameContent_mapNodes fun _ => rfl

theorem SameContent.collection {a b : Store} (same : a.SameContent b) (kind : Kind) :
    (a.collection kind).map (·.map Node.resetScore) =
      (b.collection kind).map (·.map Node.resetScore) := by
  rw [← collection_mapNodes, ← collection_mapNodes]
  exact congrArg (·.collection kind) same

-- What a reading of the nodes shows of a collection, if the reading does not look at scores.
theorem SameContent.view {α : Type} {a b : Store} (same : a.SameContent b) (view : Node → α)
    (blind : ∀ node, view node.resetScore = view node) (kind : Kind) :
    (a.collection kind).map (·.map view) = (b.collection kind).map (·.map view) := by
  have unscored : view ∘ Node.resetScore = view := funext blind
  have reset (store : Store) : (store.collection kind).map (·.map view) =
      ((store.collection kind).map (·.map Node.resetScore)).map (·.map view) := by
    cases store.collection kind with
    | none => rfl
    | some nodes => simp only [Option.map_some, List.map_map, unscored]
  rw [reset a, reset b, same.collection kind]

theorem map_eq_of_map_eq {α β γ : Type} {view : α → β} {other : α → γ} {xs ys : List α}
    (settled : ∀ x ∈ xs, ∀ y ∈ ys, view x = view y → other x = other y)
    (same : xs.map view = ys.map view) : xs.map other = ys.map other := by
  induction xs generalizing ys with
  | nil => rw [List.map_eq_nil_iff.mp same.symm, List.map_nil]
  | cons x xs ih =>
    cases ys with
    | nil => cases same
    | cons y ys =>
      obtain ⟨heads, tails⟩ := List.cons.inj same
      have first := settled x List.mem_cons_self y List.mem_cons_self heads
      have later := ih (fun one left two right =>
        settled one (List.mem_cons_of_mem _ left) two (List.mem_cons_of_mem _ right)) tails
      rw [List.map_cons, List.map_cons, first, later]

-- The converse, for a reading that tells nodes of one collection apart.
theorem sameContent_of_view {α : Type} {a b : Store} {view : Node → α}
    (settled : ∀ kind, ∀ x ∈ (a.collection kind).getD [], ∀ y ∈ (b.collection kind).getD [],
      view x = view y → x.resetScore = y.resetScore)
    (same : ∀ kind, (a.collection kind).map (·.map view) =
      (b.collection kind).map (·.map view)) : a.SameContent b := by
  refine ext_collection fun kind => ?_
  unfold resetScores
  rw [collection_mapNodes, collection_mapNodes]
  have settledHere := settled kind
  have sameHere := same kind
  cases left : a.collection kind with
  | none =>
    cases right : b.collection kind with
    | none => rfl
    | some ys =>
      rw [left, right] at sameHere
      cases sameHere
  | some xs =>
    cases right : b.collection kind with
    | none =>
      rw [left, right] at sameHere
      cases sameHere
    | some ys =>
      rw [left, right] at sameHere settledHere
      exact congrArg some (map_eq_of_map_eq settledHere (Option.some.inj sameHere))

-- What holds of every node of a collection, if it does not look at scores.
theorem SameContent.all {a b : Store} (same : a.SameContent b) {holds : Node → Prop}
    (blind : ∀ node, holds node.resetScore = holds node) {kind : Kind}
    (all : ∀ node ∈ (b.collection kind).getD [], holds node) :
    ∀ node ∈ (a.collection kind).getD [], holds node := by
  have views := congrArg (Option.getD · []) (same.view holds blind kind)
  have shown (store : Store) : ((store.collection kind).map (·.map holds)).getD [] =
      ((store.collection kind).getD []).map holds :=
    Option.getD_map _ [] _
  rw [shown, shown] at views
  intro node member
  have listed : holds node ∈ ((b.collection kind).getD []).map holds := by
    rw [← views]
    exact List.mem_map_of_mem member
  obtain ⟨found, inside, equal⟩ := List.mem_map.mp listed
  rw [← equal]
  exact all found inside

theorem SameContent.wellKinded {a b : Store} (same : a.SameContent b) (kinded : b.WellKinded) :
    a.WellKinded :=
  fun kind => same.all (fun _ => rfl) (kinded kind)

-- Some of the nodes of one kind may have other scores than before; nothing else is different.
structure RescoredAt (kind : Kind) (before after : Store) : Prop where
  content : after.SameContent before
  others : ∀ other, other ≠ kind → after.collection other = before.collection other

theorem RescoredAt.refl (kind : Kind) (store : Store) : RescoredAt kind store store :=
  ⟨.refl store, fun _ _ => rfl⟩

theorem rescoredAt_put {store : Store} {kind : Kind} {nodes scored : List Node}
    (here : store.collection kind = some nodes)
    (same : scored.map Node.resetScore = nodes.map Node.resetScore) :
    RescoredAt kind store (store.put kind scored) := by
  refine ⟨ext_collection fun other => ?_, fun other apart => ?_⟩
  · unfold resetScores
    rw [collection_mapNodes, collection_mapNodes, collection_put]
    by_cases target : other = kind
    · subst target
      rw [if_pos rfl, here, Option.map_some, Option.map_some, same]
    · rw [if_neg target]
  · rw [collection_put, if_neg apart]

theorem SameContent.isSome_collection {a b : Store} (same : a.SameContent b) (kind : Kind) :
    (a.collection kind).isSome = (b.collection kind).isSome := by
  simpa only [Option.isSome_map] using congrArg Option.isSome (same.collection kind)

end Store

end SiteSearch
