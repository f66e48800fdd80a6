import SiteSearch.Snapshot
import SiteSearch.Wire.Basic

-- Snapshots and stored nodes as JSON.
namespace SiteSearch.Wire

open Json

def attributeMember (field : Field) : Member (Option String) :=
  .defaulted field.key Reading.string

def attributes (found : Found) : Except Fault Attributes := do
  pure {
    buildingId := ← found.get (attributeMember .buildingId)
    groupId := ← found.get (attributeMember .groupId)
    type := ← found.get (attributeMember .type)
    shortCut := ← found.get (attributeMember .shortCut)
    name := ← found.get (attributeMember .name)
    description := ← found.get (attributeMember .description)
    serialNumber := ← found.get (attributeMember .serialNumber)
    floor := ← found.get (attributeMember .floor)
    roomNumber := ← found.get (attributeMember .roomNumber)
    owner := ← found.get (attributeMember .owner) }

def attributeFields : List Field :=
  Field.all.filter (· != .id)

def recordId : Member String := .required "id" Reading.string

def record : Reader Record :=
  Reading.record (recordId.check :: attributeFields.map fun field => (attributeMember field).check)
    fun found => do
      pure { id := ← found.get recordId, attributes := ← attributes found }

def ofText? (value : Option String) : Value := .ofOption .text value

def ofRecord (record : Record) : Value :=
  .object (("id", .text record.id)
    :: attributeFields.map fun field => (field.key, ofText? (record.attributes.get? field)))

def records (kind : Kind) : Member (Option (List Record)) :=
  .defaulted kind.collection (Reading.list record)

def snapshot : Reader Snapshot :=
  Reading.record (Kind.all.map fun kind => (records kind).check) fun found => do
    pure {
      buildings := ← found.get (records .building)
      locks := ← found.get (records .lock)
      groups := ← found.get (records .group)
      media := ← found.get (records .medium) }

def ofSnapshot (snapshot : Snapshot) : Value :=
  .object (Kind.all.map fun kind =>
    (kind.collection, .ofOption (.ofList ofRecord) (snapshot.records kind)))

def dumpKey : Field → String
  | .id => "id"
  | .buildingId => "building_id"
  | .groupId => "group_id"
  | .type => "node_type"
  | .shortCut => "short_cut"
  | .name => "name"
  | .description => "description"
  | .serialNumber => "serial_number"
  | .floor => "floor"
  | .roomNumber => "room_number"
  | .owner => "owner"

def dumped (field : Field) : Member (Option String) :=
  .nullable (dumpKey field) Reading.string

def nodeKind : Member Kind := .required "kind" kind

def nodeScore : Member UInt64 := .required "score" Reading.word64

def node : Reader Node :=
  Reading.record
    (recordId.check :: nodeKind.check ::
      (attributeFields.map fun field => (dumped field).check) ++ [nodeScore.check])
    fun found => do
      pure {
        id := ← found.get recordId
        kind := ← found.get nodeKind
        attributes := {
          buildingId := ← found.get (dumped .buildingId)
          groupId := ← found.get (dumped .groupId)
          type := ← found.get (dumped .type)
          shortCut := ← found.get (dumped .shortCut)
          name := ← found.get (dumped .name)
          description := ← found.get (dumped .description)
          serialNumber := ← found.get (dumped .serialNumber)
          floor := ← found.get (dumped .floor)
          roomNumber := ← found.get (dumped .roomNumber)
          owner := ← found.get (dumped .owner) }
        score := ← found.get nodeScore }

def ofNode (node : Node) : Value :=
  .object (("id", .text node.id) :: ("kind", ofKind node.kind) ::
    (attributeFields.map fun field => (dumpKey field, ofText? (node.attributes.get? field)))
      ++ [("score", ofWord64 node.score)])

def storeOfDocument (document : Document) : Except SearchError Store :=
  match document.decode snapshot with
  | .ok found => found.toStore
  | .error _ => .error (.unreadable .malformedSnapshot)

def storeOfBytes (bytes : List UInt8) : Except SearchError Store :=
  storeOfDocument (.ofBytes bytes)

end SiteSearch.Wire
