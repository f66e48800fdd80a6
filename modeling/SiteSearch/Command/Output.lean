import SiteSearch.Config.Basic
import SiteSearch.Metrics
import SiteSearch.Text.Quoted
import SiteSearch.Wire.Search
import SiteSearch.Wire.Status
import SiteSearch.Wire.Config

-- What the commands print: for people in lines, for programs as one JSON value.
namespace SiteSearch.Command

open Json (Value)

def toLeft (width : Nat) (text : String) : String :=
  String.ofList (text.toList.rightpad width ' ')

def toRight (width : Nat) (text : String) : String :=
  String.ofList (text.toList.leftpad width ' ')

def heading (title : String) : List String :=
  [title, String.ofList (List.replicate title.length '=')]

-- The number of hits that were allowed stands beside the query.
def outcomeHead (outcome : Outcome) (count : Nat) : List String :=
  let summary := outcome.summary
  [s!"Search: \"{outcome.query}\" (top {count})",
    s!"{summary.directMatches} direct matches, {summary.transitiveBoosts} transitive boosts, "
      ++ s!"{summary.scoredNodes} scored nodes",
    ""]

-- What a node is called: its name, or else its owner.
def label (node : Node) : String :=
  (node.attributes.name <|> node.attributes.owner).getD "-"

def hitLine (rank : Nat) (node : Node) : String :=
  let place := toRight 3 (toString rank)
  let kind := toLeft 8 node.kind.name
  let score := toRight 6 (toString node.score)
  s!"{place}. [{kind}] {score}  {label node}  ({node.id})"

def outcomeLines (outcome : Outcome) (count : Nat) : List String :=
  outcomeHead outcome count ++ outcome.hits.mapIdx fun place node => hitLine (place + 1) node

def ofOutcome (outcome : Outcome) : Value :=
  .object [("query", .text outcome.query), ("count", .number outcome.hits.length),
    ("direct_matches", .number outcome.summary.directMatches),
    ("transitive_boosts", .number outcome.summary.transitiveBoosts),
    ("scored_nodes", .number outcome.summary.scoredNodes),
    ("results", .ofList (fun node => Wire.ofHit (.of node)) outcome.hits)]

def countLine (name count : String) : String :=
  toLeft 10 name ++ " " ++ count

def collectionLine (entry : CollectionCount) : String :=
  countLine entry.kind.collection ((entry.count.map toString).getD "not loaded")

def orphanLine (entry : OrphanCount) : String :=
  s!"{entry.relation.text}: {entry.orphans} orphaned, {entry.unlinked} unlinked"

def statusLines (data : String) (metrics : Metrics) : List String :=
  heading "Lockscout Snapshot Status"
    ++ ["Data: " ++ Text.quoted data, ""]
    ++ metrics.collections.map collectionLine
    ++ [countLine "total" (toString metrics.nodeCount), ""]
    ++ metrics.orphans.map orphanLine

def ofStatus (data : String) (metrics : Metrics) : Value :=
  .object [("data", .text data), ("status", Wire.ofStatusReport (.of metrics))]

def missingKinds (metrics : Metrics) : List Kind :=
  Kind.all.filter fun kind => (metrics.count kind).isNone

def missingNames (metrics : Metrics) : List String :=
  (missingKinds metrics).map Kind.collection

def snapshotLine (metrics : Metrics) : String :=
  match missingNames metrics with
  | [] => s!"Snapshot:      ok ({metrics.nodeCount} nodes)"
  | names => "Snapshot:      missing " ++ ", ".intercalate names

def orphanWarning (metrics : Metrics) : List String :=
  if metrics.totalOrphans = 0 then []
  else [s!"Warning:       {metrics.totalOrphans} nodes reference a parent that does not exist"]

def validityLines (metrics : Metrics) : List String :=
  "Configuration: ok" :: snapshotLine metrics :: orphanWarning metrics

def ofValidity (metrics : Metrics) : Value :=
  .object [("valid", .bool (missingKinds metrics).isEmpty),
    ("missing_collections", .ofList .text (missingNames metrics)),
    ("orphans", .number metrics.totalOrphans), ("node_count", .number metrics.nodeCount)]

def weightLines (weights : Dictionary Weight) : List String :=
  weights.entries.map fun entry => "  " ++ toLeft 14 entry.1 ++ s!" {entry.2}"

def ruleLine (relation : String) (rule : Wire.RuleReport) : String :=
  s!"{relation} ({rule.donor.name} -> {rule.acceptor.name} via {rule.foreignKey}):"

def weightsLines (report : Wire.WeightsReport) : List String :=
  heading "Direct Weights"
    ++ report.direct.entries.flatMap (fun entry => (entry.1 ++ ":") :: weightLines entry.2)
    ++ "" :: heading "Transitive Weights"
    ++ report.transitive.entries.flatMap fun entry =>
      ruleLine entry.1 entry.2 :: weightLines entry.2.weights

def hashLines (checksum : UInt64) (hash : String) : List String :=
  [s!"Checksum: {checksum}", s!"BLAKE3:   {hash}"]

def ofHash (checksum : UInt64) (hash : String) : Value :=
  .object [("checksum", Wire.ofWord64 checksum), ("hash", .text hash),
    ("algorithm", .text "blake3")]

def serverLines (config : Config) : List String :=
  let server := config.server
  let search := config.search
  ["Lockscout Search Server Starting...",
    "",
    "Configuration:",
    s!"  Host:     {server.host}",
    s!"  Port:     {server.port}",
    s!"  Data:     {Text.quoted search.data}",
    s!"  Top K:    {search.topK} (max {search.maxTopK})",
    "",
    "Endpoints:",
    "  GET  /search/\x7bquery\x7d - Search (query in path)",
    "  POST /search         - Search (query in body)",
    "  GET  /status         - Snapshot status",
    "  GET  /weights        - Weight tables",
    "  GET  /hash           - Snapshot hash",
    "  GET  /health         - Health check",
    "",
    "Press Ctrl+C to stop",
    ""]

end SiteSearch.Command
