import SiteSearch.Store

-- A snapshot: the records of a site as they are delivered, one optional list per kind.
namespace SiteSearch

structure Record where
  id : String
  attributes : Attributes := {}
  deriving DecidableEq

structure Snapshot where
  buildings : Option (List Record) := none
  locks : Option (List Record) := none
  groups : Option (List Record) := none
  media : Option (List Record) := none
  deriving DecidableEq

-- The node a record stands for: unscored, without the texts its kind does not carry.
def Record.toNode (record : Record) (kind : Kind) : Except SearchError Node :=
  if record.id.isEmpty then .error (.invalidSnapshot (.emptyId kind))
  else .ok { kind, id := record.id, attributes := record.attributes.restrict kind }

def Node.toRecord (node : Node) : Record :=
  { id := node.id, attributes := node.attributes }

namespace Snapshot

def records (snapshot : Snapshot) : Kind → Option (List Record)
  | .building => snapshot.buildings
  | .lock => snapshot.locks
  | .group => snapshot.groups
  | .medium => snapshot.media

def nodesOf (snapshot : Snapshot) (kind : Kind) : Except SearchError (Option (List Node)) :=
  match snapshot.records kind with
  | none => .ok none
  | some records => some <$> records.mapM (·.toNode kind)

def toStore (snapshot : Snapshot) : Except SearchError Store := do
  let buildings ← snapshot.nodesOf .building
  let locks ← snapshot.nodesOf .lock
  let groups ← snapshot.nodesOf .group
  let media ← snapshot.nodesOf .medium
  pure { buildings, locks, groups, media }

end Snapshot

end SiteSearch
