import SiteSearch.Dictionary
import SiteSearch.Weights

-- The configuration: where to listen, what to search, and which weights replace the stock.
namespace SiteSearch

structure ServerConfig where
  host : String := "127.0.0.1"
  port : UInt16 := 8080
  -- requests per second; zero for no limit
  rateLimit : UInt32 := 100
  -- `none` for the origins of the local machine
  corsOrigins : Option (List String) := none
  deriving DecidableEq

structure SearchConfig where
  data : String := "lockscout.json"
  topK : Nat := 10
  maxTopK : Nat := 100
  deriving DecidableEq

structure RuleConfig where
  foreignKey : Option String := none
  weights : Dictionary Weight := .empty

structure WeightsConfig where
  direct : Kind → Option (Dictionary Weight) := fun _ => none
  rules : Relation → Option RuleConfig := fun _ => none

structure Config where
  server : ServerConfig := {}
  search : SearchConfig := {}
  weights : WeightsConfig := {}

def SearchConfig.resolveLimit (search : SearchConfig) (requested : Option Nat) : Nat :=
  min (requested.getD search.topK) search.maxTopK

def Field.named (name : String) : Except SearchError Field :=
  match Field.ofKey? name with
  | some field => .ok field
  | none => .error (.unreadable (.unknownField name))

def FieldWeights.ofNamed (named : Dictionary Weight) : Except SearchError FieldWeights := do
  let entries ← named.entries.mapM fun (name, weight) => do
    pure (← Field.named name, weight)
  pure (.ofList entries)

namespace RuleConfig

def toRule (config : RuleConfig) (relation : Relation) : Except SearchError TransitiveRule := do
  let rule := TransitiveRule.ofRelation relation (← FieldWeights.ofNamed config.weights)
  match config.foreignKey with
  | none => pure rule
  | some name => pure { rule with foreignKey := ← Field.named name }

end RuleConfig

namespace WeightsConfig

-- The stock table with every configured section in place of the stock one, unchecked.
def overlay (config : WeightsConfig) : Except SearchError WeightTable := do
  let table ← Kind.all.foldlM (fun table kind => do
    match config.direct kind with
    | none => pure table
    | some named => pure (table.withDirect kind (← FieldWeights.ofNamed named))) WeightTable.stock
  Relation.all.foldlM (fun table relation => do
    match config.rules relation with
    | none => pure table
    | some rule => pure (table.withRule relation (← rule.toRule relation))) table

end WeightsConfig

namespace Config

def weightTable (config : Config) : Except SearchError WeightTable := do
  let table ← config.weights.overlay
  table.validate
  pure table

def validate (config : Config) : Except SearchError Unit := do
  if config.search.maxTopK = 0 then throw (.unreadable .noResultsAllowed)
  if config.search.topK > config.search.maxTopK then
    throw (.unreadable (.defaultAboveMaximum config.search.topK config.search.maxTopK))
  discard config.weightTable

def address (config : Config) : String :=
  s!"{config.server.host}:{config.server.port}"

def splitOrigins (text : String) : List String :=
  ((Text.divide ',' text.toList).map Text.trim).filterMap fun entry =>
    if entry.isEmpty then none else some (String.ofList entry)

-- A limit that is no number of 32 bits is no limit at all.
def parseRate? (text : String) : Option UInt32 :=
  ((Text.signedDecimal? (Text.trim text.toList)).filter (· < UInt32.size)).map UInt32.ofNat

def withOverrides (config : Config) (origins rate : Option String) : Config :=
  let server := config.server
  { config with
    server := { server with
      corsOrigins := (origins.map fun text => some (splitOrigins text)).getD server.corsOrigins
      rateLimit := (rate.bind parseRate?).getD server.rateLimit } }

def withData (config : Config) (path : Option String) : Config :=
  let search := config.search
  { config with search := { search with data := path.getD search.data } }

def withAddress (config : Config) (host : Option String) (port : Option UInt16) : Config :=
  let server := config.server
  { config with
    server := { server with host := host.getD server.host, port := port.getD server.port } }

end Config

end SiteSearch
