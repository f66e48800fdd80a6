-- The closed schema of a site: the kinds of node, the fields each kind carries,
-- and the links along which a match on a parent reaches its children.
namespace SiteSearch

inductive Kind where
  | building
  | lock
  | group
  | medium
  deriving DecidableEq

inductive Field where
  | id
  | buildingId
  | groupId
  | type
  | shortCut
  | name
  | description
  | serialNumber
  | floor
  | roomNumber
  | owner
  deriving DecidableEq

-- The two parent-to-child links. The parent (donor) lends its matches to each
-- child (acceptor) that names it.
inductive Relation where
  | buildingLock
  | groupMedium
  deriving DecidableEq

namespace Field

-- The order of this list is the order in which fields are written and weighed.
def all : List Field :=
  [.id, .buildingId, .groupId, .type, .shortCut, .name, .description, .serialNumber,
    .floor, .roomNumber, .owner]

def key : Field → String
  | .id => "id"
  | .buildingId => "buildingId"
  | .groupId => "groupId"
  | .type => "type"
  | .shortCut => "shortCut"
  | .name => "name"
  | .description => "description"
  | .serialNumber => "serialNumber"
  | .floor => "floor"
  | .roomNumber => "roomNumber"
  | .owner => "owner"

def ofKey? (text : String) : Option Field :=
  all.find? fun field => field.key == text

def isForeignKey : Field → Bool
  | .buildingId | .groupId => true
  | _ => false

def index (field : Field) : Nat :=
  all.idxOf field

theorem mem_all (field : Field) : field ∈ all := by
  cases field <;> decide

theorem ofKey?_key (field : Field) : ofKey? field.key = some field := by
  cases field <;> decide

end Field

namespace Kind

def all : List Kind :=
  [.building, .lock, .group, .medium]

def name : Kind → String
  | .building => "building"
  | .lock => "lock"
  | .group => "group"
  | .medium => "medium"

def ofName? (text : String) : Option Kind :=
  all.find? fun kind => kind.name == text

def collection : Kind → String
  | .building => "buildings"
  | .lock => "locks"
  | .group => "groups"
  | .medium => "media"

def fields : Kind → List Field
  | .building => [.id, .shortCut, .name, .description]
  | .lock =>
      [.id, .buildingId, .type, .name, .serialNumber, .floor, .roomNumber, .description]
  | .group => [.id, .name, .description]
  | .medium => [.id, .groupId, .type, .owner, .serialNumber, .description]

def carries (kind : Kind) (field : Field) : Bool :=
  kind.fields.contains field

def index (kind : Kind) : Nat :=
  all.idxOf kind

theorem mem_all (kind : Kind) : kind ∈ all := by
  cases kind <;> decide

theorem ofName?_name (kind : Kind) : ofName? kind.name = some kind := by
  cases kind <;> decide

theorem carries_id (kind : Kind) : kind.carries .id = true := by
  cases kind <;> rfl

end Kind

namespace Relation

def all : List Relation :=
  [.buildingLock, .groupMedium]

def name : Relation → String
  | .buildingLock => "building_lock"
  | .groupMedium => "group_medium"

def ofName? (text : String) : Option Relation :=
  all.find? fun relation => relation.name == text

def donor : Relation → Kind
  | .buildingLock => .building
  | .groupMedium => .group

def acceptor : Relation → Kind
  | .buildingLock => .lock
  | .groupMedium => .medium

-- The acceptor's field that names its donor.
def foreignKey : Relation → Field
  | .buildingLock => .buildingId
  | .groupMedium => .groupId

def text (relation : Relation) : String :=
  relation.donor.name ++ " -> " ++ relation.acceptor.name

theorem mem_all (relation : Relation) : relation ∈ all := by
  cases relation <;> decide

theorem ofName?_name (relation : Relation) : ofName? relation.name = some relation := by
  cases relation <;> decide

theorem acceptor_carries_foreignKey (relation : Relation) :
    relation.acceptor.carries relation.foreignKey = true := by
  cases relation <;> rfl

end Relation

end SiteSearch
