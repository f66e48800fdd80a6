import SiteSearch.Matching

-- Weight tables: how much a match counts, per kind and field, and what a parent lends to
-- its children along each relation.
namespace SiteSearch

structure FieldWeights where
  weight? : Field → Option Weight

namespace FieldWeights

def empty : FieldWeights := ⟨fun _ => none⟩

def insert (weights : FieldWeights) (field : Field) (weight : Weight) : FieldWeights :=
  ⟨fun other => if other = field then some weight else weights.weight? other⟩

def ofList (entries : List (Field × Weight)) : FieldWeights :=
  entries.foldl (fun weights entry => weights.insert entry.1 entry.2) empty

def entries (weights : FieldWeights) : List (Field × Weight) :=
  Field.all.filterMap fun field => (weights.weight? field).map (field, ·)

def fields (weights : FieldWeights) : List Field :=
  weights.entries.map (·.1)

theorem ext_weight? {a b : FieldWeights} (same : ∀ field, a.weight? field = b.weight? field) :
    a = b := by
  cases a
  cases b
  exact congrArg _ (funext same)

theorem mem_entries (weights : FieldWeights) (field : Field) (weight : Weight) :
    (field, weight) ∈ weights.entries ↔ weights.weight? field = some weight := by
  simp only [entries, List.mem_filterMap, Option.map_eq_some_iff, Prod.mk.injEq]
  constructor
  · rintro ⟨_, _, _, found, rfl, rfl⟩
    exact found
  · intro found
    exact ⟨field, Field.mem_all field, weight, found, rfl, rfl⟩

end FieldWeights

structure TransitiveRule where
  foreignKey : Field
  weights : FieldWeights

def TransitiveRule.ofRelation (relation : Relation) (weights : FieldWeights) : TransitiveRule :=
  { foreignKey := relation.foreignKey, weights }

structure WeightTable where
  direct? : Kind → Option FieldWeights
  rule? : Relation → Option TransitiveRule

namespace WeightTable

def empty : WeightTable :=
  { direct? := fun _ => none, rule? := fun _ => none }

def withDirect (table : WeightTable) (kind : Kind) (weights : FieldWeights) : WeightTable :=
  { table with
    direct? := fun other => if other = kind then some weights else table.direct? other }

def withRule (table : WeightTable) (relation : Relation) (rule : TransitiveRule) : WeightTable :=
  { table with
    rule? := fun other => if other = relation then some rule else table.rule? other }

def direct (table : WeightTable) (kind : Kind) : FieldWeights :=
  (table.direct? kind).getD .empty

def lent (table : WeightTable) (relation : Relation) : FieldWeights :=
  ((table.rule? relation).map (·.weights)).getD .empty

def rules (table : WeightTable) : List (Relation × TransitiveRule) :=
  Relation.all.filterMap fun relation => (table.rule? relation).map (relation, ·)

def stockDirect : Kind → FieldWeights
  | .building => .ofList [(.id, 0), (.shortCut, 7), (.name, 9), (.description, 5)]
  | .lock =>
      .ofList [(.id, 0), (.buildingId, 0), (.type, 3), (.name, 10), (.serialNumber, 8),
        (.floor, 6), (.roomNumber, 6), (.description, 6)]
  | .group => .ofList [(.name, 9), (.description, 5)]
  | .medium =>
      .ofList [(.id, 0), (.groupId, 0), (.type, 3), (.owner, 10), (.serialNumber, 8),
        (.description, 6)]

def stockLent : Relation → FieldWeights
  | .buildingLock => .ofList [(.name, 8), (.shortCut, 5)]
  | .groupMedium => .ofList [(.name, 8)]

def stock : WeightTable :=
  { direct? := fun kind => some (stockDirect kind)
    rule? := fun relation => some (.ofRelation relation (stockLent relation)) }

-- A rule must name a foreign key of its acceptor and weigh fields of its donor.
def checkRule (relation : Relation) (rule : TransitiveRule) : Except SearchError Unit := do
  if rule.foreignKey.isForeignKey && relation.acceptor.carries rule.foreignKey then
    rule.weights.fields.forM relation.donor.require
  else throw (.relationMisconfigured relation rule.foreignKey)

-- Checks every table against the schema: direct weights first, then the rules.
def validate (table : WeightTable) : Except SearchError Unit := do
  Kind.all.forM fun kind => (table.direct kind).fields.forM kind.require
  table.rules.forM fun entry => checkRule entry.1 entry.2

theorem ext_lookup {a b : WeightTable} (direct : ∀ kind, a.direct? kind = b.direct? kind)
    (rule : ∀ relation, a.rule? relation = b.rule? relation) : a = b := by
  cases a
  cases b
  simp only [mk.injEq]
  exact ⟨funext direct, funext rule⟩

end WeightTable

end SiteSearch
