import SiteSearch.Config.Basic
import SiteSearch.Wire.Weights

-- What is configured, as JSON: the report on the weights in force that clients see, and the
-- configuration with every setting written.
namespace SiteSearch.Wire

open Json

structure RuleReport where
  donor : Kind
  acceptor : Kind
  foreignKey : String
  weights : Dictionary Weight

structure WeightsReport where
  direct : Dictionary (Dictionary Weight)
  transitive : Dictionary RuleReport

def namedWeights (weights : FieldWeights) : Dictionary Weight :=
  .ofList (weights.entries.map fun entry => (entry.1.key, entry.2))

def RuleReport.of (relation : Relation) (rule : TransitiveRule) : RuleReport :=
  { donor := relation.donor
    acceptor := relation.acceptor
    foreignKey := rule.foreignKey.key
    weights := namedWeights rule.weights }

-- Reports every kind, with or without weights, and the relations that have a rule.
def WeightsReport.of (table : WeightTable) : WeightsReport :=
  { direct := .ofList (Kind.all.map fun kind => (kind.name, namedWeights (table.direct kind)))
    transitive := .ofList (table.rules.map fun entry =>
      (entry.1.name, .of entry.1 entry.2)) }

def namedWords : Reader (Dictionary Weight) := dictionary Reading.word32

def ofNamedWords : Dictionary Weight → Value := ofDictionary ofWord32

def reportedDonor : Member Kind := .required "donor" kind

def reportedAcceptor : Member Kind := .required "acceptor" kind

def reportedKey : Member String := .required "foreign_key" Reading.string

def reportedWeights : Member (Dictionary Weight) := .required "weights" namedWords

def ruleReport : Reader RuleReport :=
  Reading.record
    [reportedDonor.check, reportedAcceptor.check, reportedKey.check, reportedWeights.check]
    fun found => do
      pure {
        donor := ← found.get reportedDonor
        acceptor := ← found.get reportedAcceptor
        foreignKey := ← found.get reportedKey
        weights := ← found.get reportedWeights }

def ofRuleReport (report : RuleReport) : Value :=
  .object [("donor", ofKind report.donor), ("acceptor", ofKind report.acceptor),
    ("foreign_key", .text report.foreignKey), ("weights", ofNamedWords report.weights)]

def reportedDirect : Member (Dictionary (Dictionary Weight)) :=
  .required "direct" (dictionary namedWords)

def reportedRules : Member (Dictionary RuleReport) :=
  .required "transitive" (dictionary ruleReport)

def weightsReport : Reader WeightsReport :=
  Reading.record [reportedDirect.check, reportedRules.check] fun found => do
    pure { direct := ← found.get reportedDirect, transitive := ← found.get reportedRules }

def ofWeightsReport (report : WeightsReport) : Value :=
  .object [("direct", ofDictionary ofNamedWords report.direct),
    ("transitive", ofDictionary ofRuleReport report.transitive)]

def ofServerConfig (server : ServerConfig) : Value :=
  .object [("host", .text server.host), ("port", .number server.port.toNat),
    ("rate_limit", .number server.rateLimit.toNat),
    ("cors_origins", .ofOption (.ofList .text) server.corsOrigins)]

def ofSearchConfig (search : SearchConfig) : Value :=
  .object [("data", .text search.data), ("top_k", .number search.topK),
    ("max_top_k", .number search.maxTopK)]

def ofRuleConfig (rule : RuleConfig) : Value :=
  .object [("foreign_key", .ofOption .text rule.foreignKey), ("weights", ofNamedWords rule.weights)]

def ofWeightsConfig (weights : WeightsConfig) : Value :=
  .object ((Kind.all.map fun kind =>
      (kind.name, Value.ofOption ofNamedWords (weights.direct kind)))
    ++ [("transitive", .object (Relation.all.map fun relation =>
      (relation.name, .ofOption ofRuleConfig (weights.rules relation))))])

def ofConfig (config : Config) : Value :=
  .object [("server", ofServerConfig config.server), ("search", ofSearchConfig config.search),
    ("weights", ofWeightsConfig config.weights)]

end SiteSearch.Wire
