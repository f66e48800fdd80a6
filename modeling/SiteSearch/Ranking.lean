import SiteSearch.Store
import SiteSearch.Weights
import Std.Data.HashMap

-- Ranking: every node of a store is scored against a query, first by its own texts, then
-- by the texts of the donor it names.
namespace SiteSearch

structure Summary where
  directMatches : Nat := 0
  transitiveBoosts : Nat := 0
  scoredNodes : Nat := 0
  deriving DecidableEq

def contributions (weights : FieldWeights) (query : String) (node : Node) :
    Except SearchError (List Score) := do
  let points ← weights.entries.mapM fun (field, weight) => do
    let value ← node.read field
    pure (matchPoints value weight query)
  pure (points.filter (0 < ·))

def Node.addScores (node : Node) (points : List Score) : Node :=
  points.foldl Node.addScore node

namespace Ranking

-- The answer of a pass stands beside the store, which keeps what was written before a refusal.
abbrev Pass := Store → Except SearchError Nat × Store

-- Adds to one node after another the points it is due and counts them. A refusal leaves the nodes
-- before it scored and the others as they were.
def addEach (due : Node → Except SearchError (List Score)) :
    List Node → Except SearchError Nat × List Node
  | [] => (.ok 0, [])
  | node :: rest =>
    match due node with
    | .error fault => (.error fault, node :: rest)
    | .ok points =>
      let (answer, scored) := addEach due rest
      (answer.map (points.length + ·), node.addScores points :: scored)

def addTo (kind : Kind) (due : Node → Except SearchError (List Score)) : Pass := fun store =>
  match store.require kind with
  | .error fault => (.error fault, store)
  | .ok nodes =>
    let (answer, scored) := addEach due nodes
    (answer, store.put kind scored)

def directPass (table : WeightTable) (query : String) (kind : Kind) : Pass :=
  addTo kind (contributions (table.direct kind) query)

abbrev Donations := Std.HashMap String (List Score)

def Donations.lend (donations : Donations) (id : String) (points : List Score) : Donations :=
  if points.isEmpty then donations else donations.insert id (donations.getD id [] ++ points)

def Donations.gather (weights : FieldWeights) (query : String) (donors : List Node) :
    Except SearchError Donations :=
  donors.foldlM (fun donations donor => do
    pure (donations.lend donor.id (← contributions weights query donor))) ∅

def Donations.received (donations : Donations) (key : Option String) : List Score :=
  match key with
  | some id => donations.getD id []
  | none => []

-- Where no donor matches, the acceptors are not even looked at.
def transitivePass (query : String) (relation : Relation) (rule : TransitiveRule) : Pass :=
  fun store =>
    match store.require relation.donor >>= Donations.gather rule.weights query with
    | .error fault => (.error fault, store)
    | .ok donations =>
      if donations.isEmpty then (.ok 0, store)
      else
        addTo relation.acceptor (fun node => donations.received <$> node.read rule.foreignKey) store

def sequence : List Pass → Pass
  | [], store => (.ok 0, store)
  | pass :: later, store =>
    match pass store with
    | (.error fault, store) => (.error fault, store)
    | (.ok count, store) =>
      let (answer, store) := sequence later store
      (answer.map (count + ·), store)

def passes (table : WeightTable) (query : String) (store : Store) :
    Except SearchError Summary × Store :=
  match sequence (Kind.all.map (directPass table query)) store with
  | (.error fault, store) => (.error fault, store)
  | (.ok directMatches, store) =>
    let lending := table.rules.map fun entry => transitivePass query entry.1 entry.2
    let (lent, store) := sequence lending store
    let answer := do
      let transitiveBoosts ← lent
      let nodes ← store.selection
      pure { directMatches, transitiveBoosts, scoredNodes := nodes.countP (0 < ·.score) }
    (answer, store)

end Ranking

-- An engine holds weights that fit the schema.
structure Engine where
  weights : WeightTable
  valid : weights.validate = .ok ()

namespace Engine

def ofWeights (weights : WeightTable) : Except SearchError Engine :=
  match valid : weights.validate with
  | .ok () => .ok { weights, valid }
  | .error fault => .error fault

def stock : Engine where
  weights := .stock
  valid := rfl

def rank (engine : Engine) (query : String) (store : Store) :
    Except SearchError Summary × Store :=
  match store.ensureLoaded with
  | .error fault => (.error fault, store)
  | .ok () => Ranking.passes engine.weights (Text.lowercase query) store.resetScores

end Engine

end SiteSearch
