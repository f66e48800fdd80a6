import SiteSearch.Wire.Basic

-- Weight tables as JSON.
namespace SiteSearch.Wire

open Json

def foreignKey : Member Field := .required "foreign_key" field

def lentWeights : Member FieldWeights := .required "weights" fieldWeights

def rule : Reader TransitiveRule :=
  Reading.record [foreignKey.check, lentWeights.check] fun found => do
    pure { foreignKey := ← found.get foreignKey, weights := ← found.get lentWeights }

def ofRule (rule : TransitiveRule) : Value :=
  .object [("foreign_key", ofField rule.foreignKey), ("weights", ofFieldWeights rule.weights)]

def directTables : Reader WeightTable :=
  Reading.foldMembers .empty fun table key value => do
    let kind ← known Kind.ofName? key
    pure (table.withDirect kind (← fieldWeights value))

def ruleTables : Reader WeightTable :=
  Reading.foldMembers .empty fun table key value => do
    let relation ← known Relation.ofName? key
    pure (table.withRule relation (← rule value))

def directMember : Member WeightTable := .required "direct" directTables

def transitiveMember : Member WeightTable := .required "transitive" ruleTables

def weightTable : Reader WeightTable :=
  Reading.record [directMember.check, transitiveMember.check] fun found => do
    let direct ← found.get directMember
    let transitive ← found.get transitiveMember
    pure { direct? := direct.direct?, rule? := transitive.rule? }

-- Only the kinds and relations that have a table are written.
def ofWeightTable (table : WeightTable) : Value :=
  .object [
    ("direct", .object (Kind.all.filterMap fun kind =>
      (table.direct? kind).map fun weights => (kind.name, ofFieldWeights weights))),
    ("transitive", .object (table.rules.map fun entry => (entry.1.name, ofRule entry.2)))]

end SiteSearch.Wire
