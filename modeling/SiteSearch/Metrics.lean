import SiteSearch.Store

-- Metrics: how many nodes a store holds, and how many children name no parent.
namespace SiteSearch

structure CollectionCount where
  kind : Kind
  -- `none` if the collection was never loaded
  count : Option Nat
  deriving DecidableEq

structure OrphanCount where
  relation : Relation
  orphans : Nat
  unlinked : Nat
  deriving DecidableEq

structure Metrics where
  collections : List CollectionCount
  nodeCount : Nat
  loaded : Bool
  orphans : List OrphanCount
  deriving DecidableEq

-- The identifier under a field; a node whose kind does not carry the field names nobody.
def Node.key? (node : Node) (field : Field) : Option String :=
  (node.read field).toOption.join

inductive Link where
  | resolved
  | orphaned
  | unlinked
  deriving DecidableEq

def Link.of (donors : List Node) (key : Option String) : Link :=
  match key with
  | none => .unlinked
  | some id => if donors.any (·.id == id) then .resolved else .orphaned

def Store.links? (store : Store) (relation : Relation) : Option (List Link) := do
  let donors ← store.collection relation.donor
  let acceptors ← store.collection relation.acceptor
  pure (acceptors.map fun node => Link.of donors (node.key? relation.foreignKey))

def OrphanCount.of? (store : Store) (relation : Relation) : Option OrphanCount :=
  (store.links? relation).map fun links =>
    { relation, orphans := links.count .orphaned, unlinked := links.count .unlinked }

namespace Metrics

def ofStore (store : Store) : Metrics where
  collections := Kind.all.map fun kind => ⟨kind, (store.collection kind).map List.length⟩
  nodeCount := store.nodeCount
  loaded := store.isLoaded
  orphans := Relation.all.filterMap (OrphanCount.of? store)

def count (metrics : Metrics) (kind : Kind) : Option Nat :=
  (metrics.collections.find? (·.kind == kind)).bind (·.count)

def totalOrphans (metrics : Metrics) : Nat :=
  metrics.orphans.foldl (fun total entry => total + entry.orphans) 0

end Metrics

end SiteSearch
