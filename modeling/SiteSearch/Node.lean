import SiteSearch.Error

-- A node: one building, lock, group or medium, with the texts it carries and the
-- score of the last search.
namespace SiteSearch

-- Points of a node; sums stop at the largest word.
abbrev Score := UInt64

def Score.limit : Score := 0xFFFFFFFFFFFFFFFF

def Score.plus (a b : Score) : Score :=
  if b ≤ Score.limit - a then a + b else Score.limit

theorem Score.toNat_plus (a b : Score) :
    (a.plus b).toNat = min Score.limit.toNat (a.toNat + b.toNat) := by
  have la := a.toNat_lt
  have lb := b.toNat_lt
  have top : Score.limit.toNat = UInt64.size - 1 := rfl
  have size : UInt64.size = 18446744073709551616 := rfl
  have room : (Score.limit - a).toNat = UInt64.size - 1 - a.toNat := by
    rw [UInt64.toNat_sub_of_le _ _ (UInt64.le_iff_toNat_le.mpr (by omega)), top]
  unfold Score.plus
  split
  · next fits =>
    rw [UInt64.le_iff_toNat_le, room] at fits
    rw [UInt64.toNat_add]
    omega
  · next excess =>
    rw [UInt64.le_iff_toNat_le, room] at excess
    omega

structure Attributes where
  buildingId : Option String := none
  groupId : Option String := none
  type : Option String := none
  shortCut : Option String := none
  name : Option String := none
  description : Option String := none
  serialNumber : Option String := none
  floor : Option String := none
  roomNumber : Option String := none
  owner : Option String := none
  deriving DecidableEq

namespace Attributes

-- The text under a field; the identifier is not among the attributes.
def get? (attributes : Attributes) : Field → Option String
  | .id => none
  | .buildingId => attributes.buildingId
  | .groupId => attributes.groupId
  | .type => attributes.type
  | .shortCut => attributes.shortCut
  | .name => attributes.name
  | .description => attributes.description
  | .serialNumber => attributes.serialNumber
  | .floor => attributes.floor
  | .roomNumber => attributes.roomNumber
  | .owner => attributes.owner

def set (attributes : Attributes) (field : Field) (value : Option String) : Attributes :=
  match field with
  | .id => attributes
  | .buildingId => { attributes with buildingId := value }
  | .groupId => { attributes with groupId := value }
  | .type => { attributes with type := value }
  | .shortCut => { attributes with shortCut := value }
  | .name => { attributes with name := value }
  | .description => { attributes with description := value }
  | .serialNumber => { attributes with serialNumber := value }
  | .floor => { attributes with floor := value }
  | .roomNumber => { attributes with roomNumber := value }
  | .owner => { attributes with owner := value }

def restrict (attributes : Attributes) (kind : Kind) : Attributes :=
  let kept (field : Field) (value : Option String) := value.filter fun _ => kind.carries field
  { buildingId := kept .buildingId attributes.buildingId
    groupId := kept .groupId attributes.groupId
    type := kept .type attributes.type
    shortCut := kept .shortCut attributes.shortCut
    name := kept .name attributes.name
    description := kept .description attributes.description
    serialNumber := kept .serialNumber attributes.serialNumber
    floor := kept .floor attributes.floor
    roomNumber := kept .roomNumber attributes.roomNumber
    owner := kept .owner attributes.owner }

theorem get?_restrict (attributes : Attributes) (kind : Kind) (field : Field) :
    (attributes.restrict kind).get? field =
      if kind.carries field then attributes.get? field else none := by
  cases kind <;> cases field <;>
    simp [restrict, get?, Kind.carries, Kind.fields, Option.filter] <;> split <;> simp_all

theorem ext_get? {a b : Attributes} (same : ∀ field, a.get? field = b.get? field) : a = b := by
  cases a
  cases b
  simp only [mk.injEq]
  exact ⟨same .buildingId, same .groupId, same .type, same .shortCut, same .name,
    same .description, same .serialNumber, same .floor, same .roomNumber, same .owner⟩

end Attributes

structure Node where
  kind : Kind
  id : String
  attributes : Attributes := {}
  score : Score := 0
  deriving DecidableEq

def Kind.require (kind : Kind) (field : Field) : Except SearchError Unit :=
  if kind.carries field then .ok () else .error (.schemaMismatch kind field)

namespace Node

-- The text under a field, whether or not the kind carries it.
def get? (node : Node) (field : Field) : Option String :=
  match field with
  | .id => some node.id
  | field => node.attributes.get? field

-- The text under a carried field; `none` if it was never given.
def read (node : Node) (field : Field) : Except SearchError (Option String) := do
  node.kind.require field
  pure (node.get? field)

def write (node : Node) (field : Field) (value : String) : Except SearchError Node := do
  node.kind.require field
  match field with
  | .id => pure { node with id := value }
  | field => pure { node with attributes := node.attributes.set field (some value) }

def writeAll (node : Node) (entries : List (Field × String)) : Except SearchError Node :=
  entries.foldlM (fun node entry => node.write entry.1 entry.2) node

-- The carried fields that have a text, in schema order.
def present (node : Node) : List (Field × String) :=
  node.kind.fields.filterMap fun field => (node.get? field).map (field, ·)

def presentAttributes (node : Node) : List (Field × String) :=
  node.present.filter fun entry => entry.1 != .id

def addScore (node : Node) (points : Score) : Node :=
  { node with score := node.score.plus points }

def resetScore (node : Node) : Node :=
  { node with score := 0 }

def Conforms (node : Node) : Prop :=
  ∀ field, node.kind.carries field = false → node.attributes.get? field = none

theorem read_eq_ok_iff (node : Node) (field : Field) (value : Option String) :
    node.read field = .ok value ↔ node.kind.carries field = true ∧ node.get? field = value := by
  unfold read Kind.require
  by_cases carried : node.kind.carries field = true <;>
    simp [carried, bind, Except.bind, pure, Except.pure]

end Node

end SiteSearch
