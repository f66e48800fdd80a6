import Mathlib.Algebra.BigOperators.Group.List.Basic
import Mathlib.Algebra.GroupWithZero.Nat
import Mathlib.Data.List.Basic
import SiteSearch.Proofs.Ranking.Points
import SiteSearch.Proofs.Store.Loading
import SiteSearch.Stepwise

-- What one pass does to a store and what passes in a row do. A pass adds points to the nodes of
-- one kind, and which points it adds depends on the content of the store only: what earlier passes
-- have added does not matter to it.
namespace SiteSearch.Ranking

-- What donors lend under a key, donor by donor.
def lent (weights : FieldWeights) (query : String) (donors : List Node) (key : Option String) :
    List Score :=
  (donors.filter fun donor => key = some donor.id).flatMap (weights.points query)

theorem Donations.getD_lend (donations : Donations) (id key : String) (points : List Score) :
    (donations.lend id points).getD key [] =
      donations.getD key [] ++ (if id = key then points else []) := by
  unfold Donations.lend
  by_cases empty : points.isEmpty = true
  · rw [if_pos empty, List.isEmpty_iff.mp empty, ite_self, List.append_nil]
  · rw [if_neg empty, Std.HashMap.getD_insert]
    by_cases same : id = key
    · subst same
      rw [if_pos (beq_self_eq_true id), if_pos rfl]
    · rw [if_neg (by simpa using same), if_neg same, List.append_nil]

-- The map that is keyed by identifiers keeps for each of them what a walk over all donors finds.
theorem Donations.getD_foldl (weights : FieldWeights) (query : String) (donors : List Node)
    (donations : Donations) (key : String) :
    (donors.foldl (fun donations donor => donations.lend donor.id (weights.points query donor))
      donations).getD key [] =
      donations.getD key [] ++ lent weights query donors (some key) := by
  induction donors generalizing donations with
  | nil => exact (List.append_nil _).symm
  | cons donor rest ih =>
    rw [List.foldl_cons, ih, Donations.getD_lend, List.append_assoc]
    refine congrArg _ ?_
    unfold lent
    by_cases same : donor.id = key
    · rw [if_pos same, List.filter_cons_of_pos (by simpa using same.symm), List.flatMap_cons]
    · rw [if_neg same, List.filter_cons_of_neg (by simpa using Ne.symm same), List.nil_append]

theorem Donations.received_of_isEmpty (donations : Donations) (none : donations.isEmpty = true)
    (key : Option String) : donations.received key = [] := by
  cases key with
  | none => rfl
  | some id => exact Std.HashMap.getD_of_isEmpty none

theorem Donations.gather_eq {weights : FieldWeights} {donors : List Node}
    (fits : ∀ donor ∈ donors, weights.Fits donor.kind) (query : String) :
    ∃ donations, Donations.gather weights query donors = .ok donations ∧
      ∀ key, donations.received key = lent weights query donors key := by
  refine ⟨donors.foldl (fun donations donor =>
    donations.lend donor.id (weights.points query donor)) ∅, ?_, ?_⟩
  · refine foldlM_granted (fun donations donor member => ?_) ∅
    rw [contributions_eq (fits donor member)]
    rfl
  · intro key
    cases key with
    | none =>
      have nobody : (donors.filter fun donor => (none : Option String) = some donor.id) = [] :=
        List.filter_eq_nil_iff.mpr fun donor _ => by simp
      unfold lent
      rw [nobody]
      rfl
    | some key =>
      change Std.HashMap.getD _ key [] = _
      rw [Donations.getD_foldl, Std.HashMap.getD_empty, List.nil_append]

theorem lent_map_resetScore (weights : FieldWeights) (query : String) (donors : List Node)
    (key : Option String) :
    lent weights query (donors.map Node.resetScore) key = lent weights query donors key := by
  unfold lent
  rw [List.filter_map, List.flatMap_map]
  exact congrArg (List.flatMap · _) (funext fun node => points_resetScore weights query node)

-- What a pass comes to that adds points to the nodes of a kind: the number of additions, and the
-- store after them.
def addPoints (store : Store) (kind : Kind) (nodes : List Node) (gain : Node → List Score) :
    Except SearchError Nat × Store :=
  (.ok (nodes.map fun node => (gain node).length).sum,
    store.put kind (nodes.map fun node => node.addScores (gain node)))

section Granted

variable {store : Store} {kind : Kind} {nodes : List Node} {gain : Node → List Score}

theorem addEach_granted {due : Node → Except SearchError (List Score)}
    (granted : ∀ node ∈ nodes, due node = .ok (gain node)) :
    addEach due nodes = (.ok (nodes.map fun node => (gain node).length).sum,
      nodes.map fun node => node.addScores (gain node)) := by
  induction nodes with
  | nil => rfl
  | cons node rest ih =>
    have later := ih fun other member => granted other (List.mem_cons_of_mem _ member)
    rw [addEach, granted node List.mem_cons_self, later]
    rfl

theorem addTo_granted (here : store.collection kind = some nodes)
    {due : Node → Except SearchError (List Score)}
    (granted : ∀ node ∈ nodes, due node = .ok (gain node)) :
    addTo kind due store = addPoints store kind nodes gain := by
  unfold addTo
  rw [Store.require_eq_ok here]
  dsimp only
  rw [addEach_granted granted]
  rfl

theorem addPoints_nothing (here : store.collection kind = some nodes)
    (nothing : ∀ node, gain node = []) : addPoints store kind nodes gain = (.ok 0, store) := by
  unfold addPoints
  simp only [nothing, Node.addScores_nil, List.map_id', Store.put_collection here]
  simp

end Granted

theorem directPass_eq {table : WeightTable} {kind : Kind} {store : Store} {nodes : List Node}
    (query : String) (here : store.collection kind = some nodes)
    (fits : ∀ node ∈ nodes, (table.direct kind).Fits node.kind) :
    directPass table query kind store =
      addPoints store kind nodes ((table.direct kind).points query) :=
  addTo_granted here fun node member => contributions_eq (fits node member) query

theorem transitivePass_eq {relation : Relation} {rule : TransitiveRule} {store : Store}
    {nodes : List Node} (query : String) (loaded : store.Loaded)
    (here : store.collection relation.acceptor = some nodes)
    (fits : ∀ donor ∈ (store.collection relation.donor).getD [], rule.weights.Fits donor.kind)
    (carried : ∀ node ∈ nodes, node.kind.carries rule.foreignKey = true) :
    transitivePass query relation rule store =
      addPoints store relation.acceptor nodes fun node =>
        lent rule.weights query ((store.collection relation.donor).getD [])
          (node.get? rule.foreignKey) := by
  obtain ⟨donations, gathered, received⟩ := Donations.gather_eq fits query
  have gathers : store.require relation.donor >>= Donations.gather rule.weights query =
      .ok donations :=
    bind_granted (loaded.require relation.donor) gathered
  unfold transitivePass
  rw [gathers]
  dsimp only
  split
  · next none =>
    refine (addPoints_nothing here fun node => ?_).symm
    rw [← received]
    exact donations.received_of_isEmpty none _
  · refine addTo_granted here fun node member => ?_
    rw [(node.read_eq_ok_iff rule.foreignKey _).mpr ⟨carried node member, rfl⟩, ← received]
    rfl

namespace Step

-- The kind whose nodes a step adds points to.
def target : Step → Kind
  | .direct kind => kind
  | .transitive relation _ => relation.acceptor

def gain (table : WeightTable) (query : String) (store : Store) (node : Node) : Step → List Score
  | .direct kind => (table.direct kind).points query node
  | .transitive relation rule =>
      lent rule.weights query ((store.collection relation.donor).getD [])
        (node.get? rule.foreignKey)

def gainAt (table : WeightTable) (query : String) (store : Store) (node : Node) (step : Step) :
    List Score :=
  if node.kind = step.target then step.gain table query store node else []

@[simp] theorem gainAt_direct (table : WeightTable) (query : String) (store : Store)
    (node : Node) (kind : Kind) :
    gainAt table query store node (.direct kind) =
      if node.kind = kind then (table.direct kind).points query node else [] := rfl

@[simp] theorem gainAt_transitive (table : WeightTable) (query : String) (store : Store)
    (node : Node) (relation : Relation) (rule : TransitiveRule) :
    gainAt table query store node (.transitive relation rule) =
      if node.kind = relation.acceptor then
        lent rule.weights query ((store.collection relation.donor).getD [])
          (node.get? rule.foreignKey)
      else [] := rfl

def found (table : WeightTable) (query : String) (store : Store) (step : Step) : Nat :=
  (((store.collection step.target).getD []).map fun node =>
    (step.gain table query store node).length).sum

def Fits (table : WeightTable) : Step → Prop
  | .direct kind => (table.direct kind).Fits kind
  | .transitive relation rule => rule.Fits relation

theorem gain_congr {a b : Store} (same : a.SameContent b) {one other : Node}
    (alike : one.resetScore = other.resetScore) (table : WeightTable) (query : String)
    (step : Step) : step.gain table query a one = step.gain table query b other := by
  cases step with
  | direct kind =>
    calc (table.direct kind).points query one
        = (table.direct kind).points query one.resetScore := (points_resetScore _ _ _).symm
      _ = (table.direct kind).points query other := by rw [alike, points_resetScore]
  | transitive relation rule =>
    have key : one.get? rule.foreignKey = other.get? rule.foreignKey := by
      rw [← Node.get?_resetScore, alike, Node.get?_resetScore]
    have donors : ((a.collection relation.donor).getD []).map Node.resetScore =
        ((b.collection relation.donor).getD []).map Node.resetScore := by
      have content := congrArg (Option.getD · []) (same.collection relation.donor)
      cases one : a.collection relation.donor <;> cases other : b.collection relation.donor <;>
        rw [one, other] at content <;> exact content
    unfold gain
    dsimp only
    rw [key, ← lent_map_resetScore, donors, lent_map_resetScore]

theorem gainAt_congr {a b : Store} (same : a.SameContent b) {one other : Node}
    (alike : one.resetScore = other.resetScore) (table : WeightTable) (query : String)
    (step : Step) : step.gainAt table query a one = step.gainAt table query b other := by
  have kinds : one.resetScore.kind = other.resetScore.kind := congrArg Node.kind alike
  change one.kind = other.kind at kinds
  unfold gainAt
  rw [kinds, gain_congr same alike]

theorem found_congr {a b : Store} (same : a.SameContent b) (table : WeightTable) (query : String)
    (step : Step) : step.found table query a = step.found table query b := by
  have blind (store : Store) (node : Node) :
      (step.gain table query store node).length =
        (step.gain table query store node.resetScore).length := by
    rw [gain_congr (Store.SameContent.refl store) (show node.resetScore =
      node.resetScore.resetScore from rfl)]
  have counts (store : Store) : step.found table query store =
      ((((store.collection step.target).map (·.map Node.resetScore)).getD []).map fun node =>
        (step.gain table query store node).length).sum := by
    unfold found
    cases store.collection step.target with
    | none => rfl
    | some nodes =>
      rw [Option.map_some, Option.getD_some, Option.getD_some, List.map_map]
      exact congrArg List.sum (List.map_congr_left fun node _ => blind store node)
  rw [counts a, counts b, same.collection step.target]
  refine congrArg List.sum (List.map_congr_left fun node _ => ?_)
  rw [gain_congr same rfl]

-- A step with weights that fit is granted on every store with all collections, whatever the
-- scores are: it adds to each node of its target what the content has to give.
theorem run_eq {table : WeightTable} {step : Step} (fits : step.Fits table) {store : Store}
    (loaded : store.Loaded) (kinded : store.WellKinded) (query : String) :
    step.run table query store =
      (.ok (step.found table query store),
        store.mapNodes fun node => node.addScores (step.gainAt table query store node)) := by
  obtain ⟨nodes, here⟩ := Option.isSome_iff_exists.mp (loaded step.target)
  have kindOf : ∀ node ∈ nodes, node.kind = step.target := by
    have all := kinded step.target
    rwa [here] at all
  have ran : step.run table query store =
      addPoints store step.target nodes fun node => step.gain table query store node := by
    cases step with
    | direct kind =>
      refine directPass_eq query here fun node member => ?_
      rw [kindOf node member]
      exact fits
    | transitive relation rule =>
      refine transitivePass_eq query loaded here ?_ fun node member => ?_
      · intro donor member
        rw [kinded relation.donor donor member]
        exact fits.weights
      · rw [kindOf node member]
        exact fits.carried
  rw [ran]
  refine Prod.ext ?_ ?_
  · unfold found
    rw [here]
    rfl
  · refine (Store.put_eq_mapNodes kinded here _).trans (Store.mapNodes_congr fun _ node _ => ?_)
    unfold gainAt
    split <;> rfl

end Step

end SiteSearch.Ranking
