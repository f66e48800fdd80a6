import SiteSearch.Command.Arguments
import SiteSearch.Command.Listening

-- The commands: each loads what it needs, prints, and ends.
namespace SiteSearch.Command

open Json (Value)

def shown (json : Bool) (value : Value) (lines : List String) : List String :=
  if json then [value.pretty] else lines

def findOutcome (look : Lookup) (config : Config) (query : String) (count : Nat) :
    Except SearchError Outcome := do
  ((← loadSession look config).search query count).1

def runSearch (look : Lookup) (config : Config) (json : Bool) (query : String)
    (limit : Option Nat) : Report :=
  let count := config.search.resolveLimit limit
  .after (findOutcome look config query count) fun outcome =>
    .done (shown json (ofOutcome outcome) (outcomeLines outcome count))

def runStatus (look : Lookup) (config : Config) (json : Bool) : Report :=
  let data := config.search.data
  .after (loadMetrics look config) fun metrics =>
    .done (shown json (ofStatus data metrics) (statusLines data metrics))

-- The verdict is printed even if a list is missing.
def runValidate (look : Lookup) (config : Config) (json : Bool) : Report :=
  let loaded := do
    config.validate
    loadStore look config.search.data
  .after loaded fun store =>
    let metrics := Metrics.ofStore store
    { lines := shown json (ofValidity metrics) (validityLines metrics)
      ending := .of store.ensureLoaded }

def runWeights (config : Config) (json : Bool) : Report :=
  .after config.weightTable fun table =>
    let report := Wire.WeightsReport.of table
    .done (shown json (Wire.ofWeightsReport report) (weightsLines report))

def runHash (look : Lookup) (config : Config) (json : Bool) : Report :=
  .after (loadStore look config.search.data) fun store =>
    let checksum := Digest.checksum store
    let hash := Digest.hashText store
    .done (shown json (ofHash checksum hash) (hashLines checksum hash))

def runTask (around : Surroundings) (config : Config) (json : Bool) : Task → Report
  | .serve host port => runServer around (config.withAddress host port)
  | .search query limit => runSearch around.look config json query limit
  | .status => runStatus around.look config json
  | .validate => runValidate around.look config json
  | .weights => runWeights config json
  | .hash => runHash around.look config json

def run (around : Surroundings) (invocation : Invocation) : Report :=
  .after (loadConfig around invocation.configPath invocation.dataPath) fun config =>
    runTask around config invocation.json invocation.task

end SiteSearch.Command
