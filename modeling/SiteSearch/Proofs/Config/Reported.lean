import Mathlib.Data.List.Basic
import SiteSearch.Proofs.Command.Validation
import SiteSearch.Proofs.Config.Overlay
import SiteSearch.Proofs.Wire.Shown

-- The report on a table, taken for the sections of a configuration. It names fields by their keys
-- and in the order of the keys, but what it says of a kind or a relation is read as what the table
-- holds there, and it says something of each. So the report on the table of a configuration
-- configures what that configuration does, and no command tells the two apart.
namespace SiteSearch

namespace Wire

def RuleReport.toConfig (report : RuleReport) : RuleConfig where
  foreignKey := some report.foreignKey
  weights := report.weights

def WeightsReport.toConfig (report : WeightsReport) : WeightsConfig where
  direct kind := report.direct.find? kind.name
  rules relation := (report.transitive.find? relation.name).map RuleReport.toConfig

theorem perm_namedWeights (weights : FieldWeights) :
    (namedWeights weights).entries.Perm
      (weights.entries.map fun entry => (entry.1.key, entry.2)) := by
  refine Dictionary.perm_ofList ?_
  have keys : (weights.entries.map fun entry => (entry.1.key, entry.2)).map (·.1) =
      weights.fields.map Field.key := by
    rw [FieldWeights.fields, List.map_map, List.map_map]
    rfl
  rw [keys]
  exact weights.nodup_fields.map fun _ _ => Field.key_inj

-- The entries are read in the order of their keys, which is not that of the schema.
theorem ofNamed_namedWeights (weights : FieldWeights) :
    FieldWeights.ofNamed (namedWeights weights) = .ok weights := by
  let read (entry : String × Weight) : Field × Weight :=
    ((Field.ofKey? entry.1).getD .id, entry.2)
  have perm := perm_namedWeights weights
  have granted : (namedWeights weights).entries.mapM (fun entry => do
      pure (← Field.named entry.1, entry.2)) = .ok ((namedWeights weights).entries.map read) := by
    refine mapM_granted fun entry listed => ?_
    obtain ⟨⟨field, weight⟩, _, rfl⟩ := List.mem_map.mp (perm.mem_iff.mp listed)
    simp only [read, Field.named, Field.ofKey?_key]
    rfl
  have same : ((namedWeights weights).entries.map read).Perm weights.entries := by
    have written : (weights.entries.map fun entry => (entry.1.key, entry.2)).map read =
        weights.entries := by
      simp [read, Function.comp_def, Field.ofKey?_key]
    exact written ▸ perm.map read
  refine bind_granted granted (congrArg Except.ok (FieldWeights.ext_weight? fun field => ?_))
  exact foldl_put_all FieldWeights.weight? FieldWeights.insert (fun _ _ _ _ => rfl)
    (fun place given => same.mem_iff.trans (weights.mem_entries place given)) rfl

theorem toRule_of (relation : Relation) (rule : TransitiveRule) :
    (RuleReport.of relation rule).toConfig.toRule relation = .ok rule := by
  have key : Field.named rule.foreignKey.key = .ok rule.foreignKey := by
    rw [Field.named, Field.ofKey?_key]
  exact bind_granted (ofNamed_namedWeights rule.weights) (bind_granted key rfl)

section Sections

variable (table : WeightTable)

theorem direct_of (kind : Kind) :
    (WeightsReport.of table).toConfig.direct kind = some (namedWeights (table.direct kind)) := by
  refine Dictionary.find?_ofList ?_ (List.mem_map.mpr ⟨kind, Kind.mem_all kind, rfl⟩)
  rw [List.map_map]
  exact (by decide : (Kind.all.map Kind.name).Nodup)

theorem rules_of {relation : Relation} {rule : TransitiveRule}
    (held : table.rule? relation = some rule) :
    (WeightsReport.of table).toConfig.rules relation =
      some (RuleReport.of relation rule).toConfig := by
  have names : (table.rules.map fun entry => entry.1.name).Nodup := by
    refine List.pairwise_map.mpr (.filterMap _ ?_
      (List.pairwise_map.mp (by decide : (Relation.all.map Relation.name).Nodup)))
    intro relation other apart entry here later there
    obtain ⟨_, _, rfl⟩ := Option.map_eq_some_iff.mp here
    obtain ⟨_, _, rfl⟩ := Option.map_eq_some_iff.mp there
    exact apart
  have listed := (table.mem_rules relation rule).mpr held
  refine congrArg (Option.map RuleReport.toConfig)
    (Dictionary.find?_ofList ?_ (List.mem_map.mpr ⟨_, listed, rfl⟩))
  rw [List.map_map]
  exact names

end Sections

end Wire

open Wire (WeightsReport)

-- Only a table that lacks nothing is told whole by its report: what is missing would be filled in
-- from the stock. A table that is configured lacks nothing.
theorem WeightsConfig.Gives.of_report {config : WeightsConfig} {table : WeightTable}
    (gives : config.Gives table) : (WeightsReport.of table).toConfig.Gives table where
  direct := by
    intro kind
    obtain ⟨weights, _, held⟩ := gives.direct kind
    have told : table.direct kind = weights := by
      rw [WeightTable.direct, held]
      rfl
    refine ⟨weights, ?_, held⟩
    unfold weightsOf settled
    rw [Wire.direct_of, told]
    exact Wire.ofNamed_namedWeights weights
  rules := by
    intro relation
    obtain ⟨rule, _, held⟩ := gives.rules relation
    refine ⟨rule, ?_, held⟩
    unfold ruleOf settled
    rw [Wire.rules_of table held]
    exact Wire.toRule_of relation rule

theorem Config.weightTable_of_report {config : Config} {table : WeightTable}
    (made : config.weightTable = .ok table) :
    ({ config with weights := (WeightsReport.of table).toConfig } : Config).weightTable =
      .ok table := by
  obtain ⟨gives, fits⟩ := weightTable_ok_iff.mp made
  exact weightTable_ok_iff.mpr ⟨gives.of_report, fits⟩

-- The same settings and the same table, whatever the sections that give it.
structure Config.Alike (a b : Config) : Prop where
  server : a.server = b.server
  search : a.search = b.search
  table : a.weightTable = b.weightTable

namespace Config.Alike

variable {a b : Config} (alike : a.Alike b)

include alike

theorem validate : a.validate = b.validate := by
  unfold Config.validate
  rw [alike.search, alike.table]

theorem withAddress (host : Option String) (port : Option UInt16) :
    (a.withAddress host port).Alike (b.withAddress host port) where
  server := congrArg (fun server : ServerConfig =>
    { server with host := host.getD server.host, port := port.getD server.port }) alike.server
  search := alike.search
  table := alike.table

end Config.Alike

namespace Command

section Tasks

variable {a b : Config} (alike : a.Alike b)

include alike

theorem loadSession_alike (look : Lookup) : loadSession look a = loadSession look b := by
  unfold loadSession
  rw [alike.table, alike.search]

theorem runServer_alike (around : Surroundings) : runServer around a = runServer around b := by
  unfold runServer Http.Service.ofConfig Http.State.ofConfig serverLines
  rw [alike.validate, loadSession_alike alike, alike.server, alike.search]

-- The sections themselves are looked at only to make the table.
theorem runTask_alike (around : Surroundings) (json : Bool) (task : Task) :
    runTask around a json task = runTask around b json task := by
  cases task with
  | serve host port => exact runServer_alike (alike.withAddress host port) around
  | search query limit =>
    unfold runTask runSearch findOutcome
    rw [loadSession_alike alike, alike.search]
  | status =>
    unfold runTask runStatus loadMetrics
    rw [alike.search]
  | validate =>
    unfold runTask runValidate
    rw [alike.validate, alike.search]
  | weights =>
    unfold runTask runWeights
    rw [alike.table]
  | hash =>
    unfold runTask runHash
    rw [alike.search]

end Tasks

section Serving

variable {config : Config} {around : Surroundings} {lines : List String} {service : Http.Service}
  {start : Http.State}

theorem loadSession_granted {look : Lookup} {session : Session}
    (opened : loadSession look config = .ok session) :
    config.weightTable = .ok session.engine.weights ∧ session.store.WellKinded := by
  obtain ⟨table, made, opened⟩ := bind_eq_ok_iff.mp opened
  obtain ⟨store, loaded, opened⟩ := bind_eq_ok_iff.mp opened
  obtain ⟨rfl, rfl⟩ := Session.ofWeights_ok opened
  exact ⟨made, loadStore_wellKinded loaded⟩

theorem runServer_serving (served : runServer around config = ⟨lines, .serving service start⟩) :
    ∃ session, loadSession around.look config = .ok session ∧
      start = .ofConfig config session := by
  unfold runServer at served
  cases checked : config.validate with
  | error fault =>
    rw [checked] at served
    cases served
  | ok _ =>
    cases opened : loadSession around.look config with
    | error fault =>
      rw [checked, opened] at served
      cases served
    | ok session =>
      rw [checked, opened] at served
      obtain ⟨_, ending⟩ := Report.mk.inj served
      split at ending
      · cases ending
        exact ⟨session, rfl, rfl⟩
      · cases ending

-- Whatever a server was asked before, it tells the weights that it was configured with.
theorem serves_report {table : WeightTable} (made : config.weightTable = .ok table)
    (served : runServer around config = ⟨lines, .serving service start⟩) {state : Http.State}
    (reached : service.Reaches start state) (within : state.permits ≠ some 0)
    {request : Http.Request} (wanted : service.reached? request = some .weights)
    (shown : request.method ≠ .head) :
    (service.respond request state).1.body =
      .json (Wire.ofWeightsReport (WeightsReport.of table)) := by
  obtain ⟨session, opened, rfl⟩ := runServer_serving served
  obtain ⟨weights, kinded⟩ := loadSession_granted opened
  have engine := (reached.keeps kinded).engine
  cases made.symm.trans weights
  obtain ⟨current, permits⟩ := state
  obtain ⟨left, answered⟩ := service.respond_within request current within
  rw [answered, Http.Service.respond_reached wanted, Http.Service.wrap, Http.body_complete shown]
  exact congrArg (fun engine : Engine =>
    Http.Body.json (Wire.ofWeightsReport (WeightsReport.of engine.weights))) engine

end Serving

-- The value that stands for the weights of a configuration, wherever they are asked for.
structure TellsWeights (config : Config) (value : Json.Value) : Prop where
  command : runWeights config true = .done [value.pretty]
  service : ∀ around lines service start,
    runServer around config = ⟨lines, .serving service start⟩ →
    ∀ state request, service.Reaches start state → state.permits ≠ some 0 →
      service.reached? request = some .weights → request.method ≠ .head →
      (service.respond request state).1.body = .json value

theorem tellsWeights_of {config : Config} {table : WeightTable}
    (made : config.weightTable = .ok table) :
    TellsWeights config (Wire.ofWeightsReport (WeightsReport.of table)) where
  command := by
    unfold runWeights
    rw [made]
    rfl
  service := by
    intro around lines service start served state request reached within wanted shown
    exact serves_report made served reached within wanted shown

end Command

open Command in
-- What is told of the weights is read back as the report on the table. As the sections of a
-- configuration the report gives the same table and the same sessions, and no command tells the
-- two configurations apart.
theorem reported_weights_configure_alike {config : Config} {table : WeightTable}
    (made : config.weightTable = .ok table) :
    let report := WeightsReport.of table
    let value := Wire.ofWeightsReport report
    let pasted : Config := { config with weights := report.toConfig }
    TellsWeights config value ∧
    (∀ text ∈ value.texts,
      Json.decodeBytes Wire.weightsReport text.toUTF8.toList = .ok report) ∧
    pasted.weightTable = .ok table ∧
    (∀ store, ∃ session, session.engine.weights = table ∧
      (config.weightTable >>= Session.ofWeights store) = .ok session ∧
      (pasted.weightTable >>= Session.ofWeights store) = .ok session) ∧
    ∀ around json task, runTask around pasted json task = runTask around config json task := by
  intro report value pasted
  have same : pasted.weightTable = .ok table := Config.weightTable_of_report made
  have valid := (table.validate_ok_iff).mpr (Config.weightTable_ok_iff.mp made).2
  have alike : pasted.Alike config := ⟨rfl, rfl, same.trans made.symm⟩
  refine ⟨tellsWeights_of made, fun text written => ?_, same, fun store => ?_, runTask_alike alike⟩
  · exact (Wire.means_weightsReport report).decodes written
  · have opened := ofWeights_engine store ⟨table, valid⟩
    exact ⟨⟨store, ⟨table, valid⟩⟩, rfl, bind_granted made opened, bind_granted same opened⟩

-- Some sections are left out, one is there and empty, and one rule leaves out its key.
def mixedConfig : Config :=
  { weights := {
      direct := fun
        | .lock => some (.ofList [("name", 3), ("floor", 1)])
        | .group => some .empty
        | _ => none
      rules := fun
        | .buildingLock => some { weights := .ofList [("shortCut", 2)] }
        | .groupMedium => none } }

def mixedTable : WeightTable :=
  ((WeightTable.stock.withDirect .lock (.ofList [(.floor, 1), (.name, 3)])).withDirect .group
    .empty).withRule .buildingLock (.ofRelation .buildingLock (.ofList [(.shortCut, 2)]))

open Command in
theorem mixed_weights_configure_alike :
    let sections := (WeightsReport.of mixedTable).toConfig
    let pasted := { mixedConfig with weights := sections }
    let around := aroundFile (buildingFile [southBuilding] 0)
    mixedConfig.weightTable = .ok mixedTable ∧ pasted.weightTable = .ok mixedTable ∧
      (sections.direct .lock).map (·.entries) = some [("floor", 1), ("name", 3)] ∧
      (sections.direct .group).map (·.entries) = some [] ∧
      ((sections.rules .buildingLock).bind (·.foreignKey)) = some "buildingId" ∧
      (∃ lines service start, runServer around mixedConfig = ⟨lines, .serving service start⟩ ∧
        (service.respond { target := "/weights" } start).1.body =
          .json (Wire.ofWeightsReport (WeightsReport.of mixedTable))) ∧
      runTask around pasted true (.search "north" none) =
        runTask around mixedConfig true (.search "north" none) := by
  intro sections pasted around
  have made : mixedConfig.weightTable = .ok mixedTable := rfl
  have valid : mixedConfig.validate = .ok () := rfl
  have loaded : loadStore around.look mixedConfig.search.data = .ok southStore :=
    loadStore_small rfl (by decide +kernel) southBuilding_loads
  obtain ⟨engine, weights⟩ := engine_of_validate valid
  have opened : loadSession around.look mixedConfig = .ok ⟨southStore, engine⟩ :=
    loadSession_loaded weights loaded
  obtain ⟨tells, _, same, _, tasks⟩ := reported_weights_configure_alike made
  have served : runServer around mixedConfig = ⟨serverLines mixedConfig,
      .serving (.ofConfig mixedConfig none) (.ofConfig mixedConfig ⟨southStore, engine⟩)⟩ := by
    unfold runServer
    rw [valid, opened]
    rfl
  have told :=
    tells.service around _ _ _ served _ { target := "/weights" } .start nofun (by decide) nofun
  exact ⟨made, same, by decide +kernel, by decide +kernel, by decide +kernel,
    ⟨_, _, _, served, told⟩, tasks around true _⟩

end SiteSearch
