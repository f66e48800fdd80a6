import SiteSearch.Node

-- The store: one collection of nodes per kind. A collection that was never loaded is
-- absent, which is not the same as empty.
namespace SiteSearch

structure Store where
  buildings : Option (List Node) := none
  locks : Option (List Node) := none
  groups : Option (List Node) := none
  media : Option (List Node) := none
  deriving DecidableEq

namespace Store

def empty : Store := {}

def collection (store : Store) : Kind → Option (List Node)
  | .building => store.buildings
  | .lock => store.locks
  | .group => store.groups
  | .medium => store.media

def put (store : Store) (kind : Kind) (nodes : List Node) : Store :=
  match kind with
  | .building => { store with buildings := some nodes }
  | .lock => { store with locks := some nodes }
  | .group => { store with groups := some nodes }
  | .medium => { store with media := some nodes }

@[simp] theorem collection_put (store : Store) (kind other : Kind) (nodes : List Node) :
    (store.put kind nodes).collection other =
      if other = kind then some nodes else store.collection other := by
  cases kind <;> cases other <;> rfl

theorem ext_collection {a b : Store} (same : ∀ kind, a.collection kind = b.collection kind) :
    a = b := by
  cases a
  cases b
  simp only [mk.injEq]
  exact ⟨same .building, same .lock, same .group, same .medium⟩

-- Puts a collection in place of any earlier one. The store stands beside the answer: a node of
-- another kind is looked for before anything is written.
def setCollection (store : Store) (kind : Kind) (nodes : List Node) :
    Except SearchError Unit × Store :=
  match nodes.find? fun node => node.kind != kind with
  | some stray => (.error (.invalidSnapshot (.strayNode stray.id stray.kind kind)), store)
  | none => (.ok (), store.put kind nodes)

def install (store : Store) (kind : Kind) (nodes : List Node) : Except SearchError Store :=
  let (answer, next) := store.setCollection kind nodes
  answer.map fun () => next

def require (store : Store) (kind : Kind) : Except SearchError (List Node) :=
  match store.collection kind with
  | some nodes => .ok nodes
  | none => .error (.dataNotLoaded kind)

def ensureLoaded (store : Store) : Except SearchError Unit :=
  Kind.all.forM fun kind => discard (store.require kind)

def isLoaded (store : Store) : Bool :=
  Kind.all.all fun kind => (store.collection kind).isSome

def loadedNodes (store : Store) : List Node :=
  Kind.all.flatMap fun kind => (store.collection kind).getD []

def nodeCount (store : Store) : Nat :=
  store.loadedNodes.length

def find? (store : Store) (kind : Kind) (id : String) : Option Node :=
  (store.collection kind).bind fun nodes => nodes.find? fun node => node.id == id

def mapNodes (store : Store) (change : Node → Node) : Store :=
  { buildings := store.buildings.map (·.map change)
    locks := store.locks.map (·.map change)
    groups := store.groups.map (·.map change)
    media := store.media.map (·.map change) }

@[simp] theorem collection_mapNodes (store : Store) (change : Node → Node) (kind : Kind) :
    (store.mapNodes change).collection kind = (store.collection kind).map (·.map change) := by
  cases kind <;> rfl

def resetScores (store : Store) : Store :=
  store.mapNodes Node.resetScore

def addScore (store : Store) (kind : Kind) (id : String) (points : Score) :
    Except SearchError (Nat × Store) := do
  let nodes ← store.require kind
  let named (node : Node) := node.id == id
  let scored := nodes.map fun node => if named node then node.addScore points else node
  pure (nodes.countP named, store.put kind scored)

def addScoreAt (store : Store) (kind : Kind) (place : Nat) (points : Score) :
    Except SearchError Store := do
  let nodes ← store.require kind
  pure (store.put kind (nodes.modify place (·.addScore points)))

-- The order in which the collections are strung together for selection, so that
-- nodes of equal score always come back in one order.
def selectionOrder : List Kind :=
  [.building, .lock, .medium, .group]

def selection (store : Store) : Except SearchError (List Node) := do
  let collections ← selectionOrder.mapM store.require
  pure collections.flatten

-- At most `count` nodes, best first; equal scores keep the selection order. Nodes are values, so
-- these are also the copies that outlive the store.
def best (store : Store) (count : Nat) : Except SearchError (List Node) := do
  let nodes ← store.selection
  pure ((nodes.mergeSort fun a b => b.score ≤ a.score).take count)

def Loaded (store : Store) : Prop :=
  ∀ kind, (store.collection kind).isSome = true

def WellKinded (store : Store) : Prop :=
  ∀ kind, ∀ node ∈ (store.collection kind).getD [], node.kind = kind

def Conforms (store : Store) : Prop :=
  ∀ kind, ∀ node ∈ (store.collection kind).getD [], node.Conforms

end Store

end SiteSearch
