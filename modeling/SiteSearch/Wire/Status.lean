import SiteSearch.Metrics
import SiteSearch.Wire.Basic

-- Metrics as JSON: the metrics themselves, and the status report that clients see.
namespace SiteSearch.Wire

open Json

def ofCount (count : Nat) : Value := .number count

def countedKind : Member Kind := .required "kind" kind

def countOfKind : Member (Option Nat) := .nullable "count" Reading.count

def collectionCount : Reader CollectionCount :=
  Reading.record [countedKind.check, countOfKind.check] fun found => do
    pure { kind := ← found.get countedKind, count := ← found.get countOfKind }

def ofCollectionCount (entry : CollectionCount) : Value :=
  .object [("kind", ofKind entry.kind), ("count", .ofOption ofCount entry.count)]

def orphans : Member Nat := .required "orphans" Reading.count

def unlinked : Member Nat := .required "unlinked" Reading.count

def countedRelation : Member Relation := .required "relation" relation

def orphanCount : Reader OrphanCount :=
  Reading.record [countedRelation.check, orphans.check, unlinked.check] fun found => do
    pure {
      relation := ← found.get countedRelation
      orphans := ← found.get orphans
      unlinked := ← found.get unlinked }

def ofOrphanCount (entry : OrphanCount) : Value :=
  .object [("relation", ofRelation entry.relation), ("orphans", ofCount entry.orphans),
    ("unlinked", ofCount entry.unlinked)]

def nodeCount : Member Nat := .required "node_count" Reading.count

def loaded : Member Bool := .required "loaded" Reading.truth

def collectionCounts : Member (List CollectionCount) :=
  .required "collections" (Reading.list collectionCount)

def orphanCounts : Member (List OrphanCount) := .required "orphans" (Reading.list orphanCount)

def metrics : Reader Metrics :=
  Reading.record [collectionCounts.check, nodeCount.check, loaded.check, orphanCounts.check]
    fun found => do
      pure {
        collections := ← found.get collectionCounts
        nodeCount := ← found.get nodeCount
        loaded := ← found.get loaded
        orphans := ← found.get orphanCounts }

def ofMetrics (metrics : Metrics) : Value :=
  .object [("collections", .ofList ofCollectionCount metrics.collections),
    ("node_count", ofCount metrics.nodeCount), ("loaded", .bool metrics.loaded),
    ("orphans", .ofList ofOrphanCount metrics.orphans)]

structure CollectionStatus where
  collection : String
  loaded : Bool
  count : Nat
  deriving DecidableEq

structure OrphanStatus where
  relation : String
  orphans : Nat
  unlinked : Nat
  deriving DecidableEq

structure StatusReport where
  loaded : Bool
  nodeCount : Nat
  collections : List CollectionStatus
  orphans : List OrphanStatus
  deriving DecidableEq

-- An absent collection is reported as not loaded and holding nothing.
def CollectionStatus.of (entry : CollectionCount) : CollectionStatus :=
  { collection := entry.kind.collection
    loaded := entry.count.isSome
    count := entry.count.getD 0 }

def OrphanStatus.of (entry : OrphanCount) : OrphanStatus :=
  { relation := entry.relation.name, orphans := entry.orphans, unlinked := entry.unlinked }

def StatusReport.of (metrics : Metrics) : StatusReport :=
  { loaded := metrics.loaded
    nodeCount := metrics.nodeCount
    collections := metrics.collections.map .of
    orphans := metrics.orphans.map .of }

def collectionName : Member String := .required "collection" Reading.string

def count : Member Nat := .required "count" Reading.count

def collectionStatus : Reader CollectionStatus :=
  Reading.record [collectionName.check, loaded.check, count.check] fun found => do
    pure {
      collection := ← found.get collectionName
      loaded := ← found.get loaded
      count := ← found.get count }

def ofCollectionStatus (status : CollectionStatus) : Value :=
  .object [("collection", .text status.collection), ("loaded", .bool status.loaded),
    ("count", ofCount status.count)]

def relationName : Member String := .required "relation" Reading.string

def orphanStatus : Reader OrphanStatus :=
  Reading.record [relationName.check, orphans.check, unlinked.check] fun found => do
    pure {
      relation := ← found.get relationName
      orphans := ← found.get orphans
      unlinked := ← found.get unlinked }

def ofOrphanStatus (status : OrphanStatus) : Value :=
  .object [("relation", .text status.relation), ("orphans", ofCount status.orphans),
    ("unlinked", ofCount status.unlinked)]

def collectionStatuses : Member (List CollectionStatus) :=
  .required "collections" (Reading.list collectionStatus)

def orphanStatuses : Member (List OrphanStatus) :=
  .required "orphans" (Reading.list orphanStatus)

def statusReport : Reader StatusReport :=
  Reading.record [loaded.check, nodeCount.check, collectionStatuses.check, orphanStatuses.check]
    fun found => do
      pure {
        loaded := ← found.get loaded
        nodeCount := ← found.get nodeCount
        collections := ← found.get collectionStatuses
        orphans := ← found.get orphanStatuses }

def ofStatusReport (report : StatusReport) : Value :=
  .object [("loaded", .bool report.loaded), ("node_count", ofCount report.nodeCount),
    ("collections", .ofList ofCollectionStatus report.collections),
    ("orphans", .ofList ofOrphanStatus report.orphans)]

end SiteSearch.Wire
