import Mathlib.Data.List.Basic
import SiteSearch.Proofs.Session.Calls
import SiteSearch.Proofs.Store.Delivered

-- The schema along every run of operations on a store. Nodes come into a store in two ways only,
-- delivered or drafted and installed, and both keep to the fields of a kind; whatever else is done
-- to a store writes scores.
namespace SiteSearch

namespace Node

theorem conforms_new (kind : Kind) (id : String) : Conforms { kind, id } := by
  intro field _
  cases field <;> rfl

theorem write_conforms {node next : Node} {field : Field} {value : String}
    (conforms : node.Conforms) (written : node.write field value = .ok next) : next.Conforms := by
  obtain ⟨carried, kinds, texts⟩ := write_gives written
  intro other missing
  rw [kinds] at missing
  have apart : other ≠ field := by
    rintro rfl
    exact absurd carried (Bool.eq_false_iff.mp missing)
  have carriable : other ≠ .id := by
    rintro rfl
    exact absurd node.kind.carries_id (Bool.eq_false_iff.mp missing)
  rw [← next.get?_of_ne_id carriable, texts, if_neg apart, node.get?_of_ne_id carriable]
  exact conforms other missing

theorem get?_eq_none {node : Node} (conforms : node.Conforms) {field : Field}
    (missing : node.kind.carries field = false) : node.get? field = none := by
  cases field with
  | id => exact absurd node.kind.carries_id (Bool.eq_false_iff.mp missing)
  | _ => exact conforms _ missing

end Node

-- A node as it is put together: new, then given texts one after another.
structure Draft where
  kind : Kind
  id : String
  entries : List (Field × String)

def Draft.node (draft : Draft) : Except SearchError Node :=
  Node.writeAll { kind := draft.kind, id := draft.id } draft.entries

theorem Draft.node_conforms {draft : Draft} {node : Node} (made : draft.node = .ok node) :
    node.Conforms :=
  foldlM_keeps Node.Conforms (fun _ _ _ _ => Node.write_conforms)
    (Node.conforms_new draft.kind draft.id) made

namespace Store

theorem setCollection_cases (store : Store) (kind : Kind) (nodes : List Node) :
    (∃ stray ∈ nodes, stray.kind ≠ kind ∧ store.setCollection kind nodes =
      (.error (.invalidSnapshot (.strayNode stray.id stray.kind kind)), store)) ∨
    ((∀ node ∈ nodes, node.kind = kind) ∧
      store.setCollection kind nodes = (.ok (), store.put kind nodes)) := by
  unfold setCollection
  cases found : nodes.find? fun node => node.kind != kind with
  | some stray =>
    have apart := List.find?_some found
    exact .inl ⟨stray, List.mem_of_find?_eq_some found, by simpa using apart, rfl⟩
  | none =>
    have all := List.find?_eq_none.mp found
    exact .inr ⟨fun node member => by simpa using all node member, rfl⟩

theorem addScore_content {store next : Store} {kind : Kind} {id : String} {points : Score}
    {count : Nat} (added : store.addScore kind id points = .ok (count, next)) :
    next.SameContent store := by
  obtain ⟨nodes, granted, added⟩ := bind_eq_ok_iff.mp added
  cases added
  refine (rescoredAt_put (require_collection granted) ?_).content
  rw [List.map_map]
  refine List.map_congr_left fun node _ => ?_
  rw [Function.comp_apply]
  split <;> rfl

theorem addScoreAt_content {store next : Store} {kind : Kind} {place : Nat} {points : Score}
    (added : store.addScoreAt kind place points = .ok next) : next.SameContent store := by
  obtain ⟨nodes, granted, added⟩ := bind_eq_ok_iff.mp added
  cases added
  refine (rescoredAt_put (require_collection granted) ?_).content
  refine List.ext_getElem (by simp) fun other _ _ => ?_
  simp only [List.getElem_map, List.getElem_modify]
  split <;> rfl

-- Every node stands in the collection of its kind and has texts only under the fields it carries.
structure Formed (store : Store) : Prop where
  kinded : store.WellKinded
  conforms : store.Conforms

theorem formed_empty : empty.Formed := by
  constructor <;> intro kind node member <;> cases kind <;> cases member

theorem formed_toStore {snapshot : Snapshot} {store : Store}
    (made : snapshot.toStore = .ok store) : store.Formed :=
  ⟨Snapshot.toStore_wellKinded made, Snapshot.toStore_conforms made⟩

theorem SameContent.formed {a b : Store} (same : a.SameContent b) (formed : b.Formed) :
    a.Formed :=
  ⟨same.wellKinded formed.kinded, fun kind => same.all (fun _ => rfl) (formed.conforms kind)⟩

-- What holds of all nodes beside those that are put in, and of these, holds of all afterwards.
theorem forall_put {store : Store} {kind : Kind} {nodes : List Node} {holds : Kind → Node → Prop}
    (before : ∀ kind, ∀ node ∈ (store.collection kind).getD [], holds kind node)
    (given : ∀ node ∈ nodes, holds kind node) :
    ∀ other, ∀ node ∈ ((store.put kind nodes).collection other).getD [], holds other node := by
  intro other node member
  rw [collection_put] at member
  by_cases target : other = kind
  · subst target
    rw [if_pos rfl] at member
    exact given node member
  · rw [if_neg target] at member
    exact before other node member

theorem Formed.put {store : Store} (formed : store.Formed) {kind : Kind} {nodes : List Node}
    (kindOf : ∀ node ∈ nodes, node.kind = kind) (conform : ∀ node ∈ nodes, node.Conforms) :
    (store.put kind nodes).Formed where
  kinded := forall_put formed.kinded kindOf
  conforms := forall_put formed.conforms conform

theorem Formed.setCollection {store : Store} (formed : store.Formed) (kind : Kind)
    {nodes : List Node} (conform : ∀ node ∈ nodes, node.Conforms) :
    (store.setCollection kind nodes).2.Formed := by
  rcases store.setCollection_cases kind nodes with ⟨_, _, _, refused⟩ | ⟨kindOf, installed⟩
  · rw [refused]
    exact formed
  · rw [installed]
    exact formed.put kindOf conform

end Store

-- What can be done to a store.
inductive Operation where
  | install (kind : Kind) (drafts : List Draft)
  | resetScores
  | addScore (kind : Kind) (id : String) (points : Score)
  | addScoreAt (kind : Kind) (place : Nat) (points : Score)
  | ask (engine : Engine) (call : Call)

namespace Operation

-- What is there after an attempt on a store: a refusal changes nothing.
def settled (store : Store) : Except SearchError Store → Store
  | .ok next => next
  | .error _ => store

theorem settled_formed {store : Store} (formed : store.Formed) {attempt : Except SearchError Store}
    (granted : ∀ next, attempt = .ok next → next.Formed) : (settled store attempt).Formed := by
  cases attempt with
  | error _ => exact formed
  | ok next => exact granted next rfl

def after (store : Store) : Operation → Store
  | .install kind drafts => settled store do
      let nodes ← drafts.mapM Draft.node
      pure (store.setCollection kind nodes).2
  | .resetScores => store.resetScores
  | .addScore kind id points => settled store do
      let (_, next) ← store.addScore kind id points
      pure next
  | .addScoreAt kind place points => settled store (store.addScoreAt kind place points)
  | .ask engine call => call.after engine store

theorem after_formed {store : Store} (formed : store.Formed) (operation : Operation) :
    (operation.after store).Formed := by
  cases operation with
  | install kind drafts =>
    refine settled_formed formed fun next installed => ?_
    obtain ⟨nodes, drafted, installed⟩ := bind_eq_ok_iff.mp installed
    cases installed
    refine formed.setCollection kind fun node member => ?_
    obtain ⟨draft, _, made⟩ := mapM_produced drafted node member
    exact Draft.node_conforms made
  | resetScores =>
    have same : store.resetScores.SameContent store := store.sameContent_resetScores
    exact same.formed formed
  | addScore kind id points =>
    refine settled_formed formed fun next scored => ?_
    obtain ⟨⟨count, _⟩, added, scored⟩ := bind_eq_ok_iff.mp scored
    cases scored
    exact (Store.addScore_content added).formed formed
  | addScoreAt kind place points =>
    exact settled_formed formed fun next added => (Store.addScoreAt_content added).formed formed
  | ask engine call =>
    have same : (call.after engine store).SameContent store := call.after_content engine store
    exact same.formed formed

def afterAll (store : Store) (operations : List Operation) : Store :=
  operations.foldl after store

theorem afterAll_formed {store : Store} (formed : store.Formed) (operations : List Operation) :
    (afterAll store operations).Formed := by
  induction operations generalizing store with
  | nil => exact formed
  | cons operation later ih => exact ih (operation.after_formed formed)

end Operation

-- What a store is made of at first: nothing, or a snapshot.
inductive Store.Made : Store → Prop where
  | empty : Made .empty
  | delivered {snapshot : Snapshot} {store : Store} (taken : snapshot.toStore = .ok store) :
      Made store

theorem Store.Made.formed {store : Store} (made : store.Made) : store.Formed := by
  cases made with
  | empty => exact formed_empty
  | delivered taken => exact formed_toStore taken

theorem operations_keep_to_schema {start : Store} (made : start.Made)
    (operations : List Operation) :
    (∀ kind, ∀ node ∈ ((Operation.afterAll start operations).collection kind).getD [],
      node.kind = kind ∧
      (∀ field, kind.carries field = false → node.get? field = none) ∧
      ∀ field, (∃ value, node.read field = .ok value) ↔ kind.carries field = true) ∧
    ∀ store kind nodes,
      ((∃ fault, (Store.setCollection store kind nodes).1 = .error fault) ↔
        ∃ node ∈ nodes, node.kind ≠ kind) ∧
      ∀ fault, (Store.setCollection store kind nodes).1 = .error fault →
        ∀ other, (Store.setCollection store kind nodes).2.collection other =
          store.collection other := by
  have formed := Operation.afterAll_formed made.formed operations
  constructor
  · intro kind node member
    obtain rfl := formed.kinded kind node member
    refine ⟨rfl, fun field => Node.get?_eq_none (formed.conforms _ node member), fun field => ?_⟩
    simp only [node.read_eq_ok_iff, exists_and_left, exists_eq', and_true]
  · intro store kind nodes
    rcases store.setCollection_cases kind nodes with ⟨stray, listed, apart, refused⟩ | ⟨all, put⟩
    · rw [refused]
      exact ⟨⟨fun _ => ⟨stray, listed, apart⟩, fun _ => ⟨_, rfl⟩⟩, fun _ _ _ => rfl⟩
    · rw [put]
      refine ⟨⟨?_, ?_⟩, fun fault refused => (nomatch refused)⟩
      · rintro ⟨fault, refused⟩
        cases refused
      · rintro ⟨node, listed, apart⟩
        exact absurd (all node listed) apart

-- A building goes in beside a group that may not stand there, is scored and is asked for.
def lonelyTower : List Operation :=
  [.install .building
      [{ kind := .building, id := "b1", entries := [(.name, "North"), (.shortCut, "N")] }],
    .install .building [{ kind := .group, id := "g1", entries := [(.name, "Staff")] }],
    .addScore .building "b1" 7, .addScoreAt .building 0 5, .ask .stock (.search "north" 5)]

theorem operations_of_lonelyTower :
    Store.empty.Made ∧
      ((Operation.afterAll .empty lonelyTower).buildings.getD []).map (·.score) = [12] ∧
      ∀ node ∈ (Operation.afterAll .empty lonelyTower).buildings.getD [],
        node.kind = .building ∧ node.get? .owner = none := by
  obtain ⟨schema, _⟩ := operations_keep_to_schema .empty lonelyTower
  refine ⟨.empty, by decide +kernel, fun node member => ?_⟩
  obtain ⟨kindOf, missing, _⟩ := schema .building node member
  exact ⟨kindOf, missing .owner rfl⟩

end SiteSearch
