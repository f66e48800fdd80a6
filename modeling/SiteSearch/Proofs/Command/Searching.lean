import Mathlib.Data.List.Basic
import SiteSearch.Command.Run
import SiteSearch.Proofs.Config.Overlay
import SiteSearch.Proofs.Http.Asking
import SiteSearch.Proofs.Store.Extent

-- One search, asked of the command and of the service. The command opens a session of its own over
-- the same data, and its report tells what an answer of the service tells.
namespace SiteSearch

open Json (Value)

def Json.Value.member? (value : Value) (name : String) : Option Value :=
  match value with
  | .object members => members.lookup name
  | _ => none

namespace Command

-- A report for programs that tells what a response tells.
structure Retells (report : Report) (status : Http.Status) (body : Value) : Prop where
  succeeds : report.ending = .done ↔ status = .ok
  found : status = .ok → ∃ printed : Value, report.lines = [printed.pretty] ∧
    ∀ name ∈ ["query", "count", "results"], ∃ value,
      printed.member? name = some value ∧ body.member? name = some value
  refused : status ≠ .ok → ∃ fault, report = { lines := [], ending := .failed fault } ∧
    body.member? "error" = some (.text fault.message)

theorem retells_outcome (outcome : Outcome) (lines : List String) :
    Retells (.done (shown true (ofOutcome outcome) lines)) .ok
      (Wire.ofSearchReply (.ofOutcome outcome)) := by
  have results : Value.ofList Wire.ofHit (outcome.hits.map .of) =
      Value.ofList (fun node => Wire.ofHit (.of node)) outcome.hits := by
    unfold Value.ofList
    rw [List.map_map]
    rfl
  refine ⟨⟨fun _ => rfl, fun _ => rfl⟩, fun _ => ⟨ofOutcome outcome, rfl, ?_⟩,
    fun other => absurd rfl other⟩
  refine List.forall_mem_cons.mpr ⟨⟨_, rfl, rfl⟩, List.forall_mem_cons.mpr ⟨⟨_, rfl, ?_⟩,
    List.forall_mem_cons.mpr ⟨⟨_, rfl, congrArg some results⟩, List.forall_mem_nil _⟩⟩⟩
  rfl

theorem retells_fault (query : String) (fault : SearchError) :
    Retells { lines := [], ending := .failed fault } (Http.statusOf fault)
      (Wire.ofSearchReply (.ofFault query fault)) := by
  have refused : Http.statusOf fault ≠ .ok := by
    unfold Http.statusOf
    split <;> decide
  refine ⟨⟨fun done => (nomatch done), fun found => absurd found refused⟩,
    fun found => absurd found refused, fun _ => ⟨fault, rfl, rfl⟩⟩

-- The weights of a valid configuration make an engine.
theorem engine_of_validate {config : Config} (valid : config.validate = .ok ()) :
    ∃ engine : Engine, config.weightTable = .ok engine.weights := by
  have table : discard config.weightTable = .ok () := by
    unfold Config.validate at valid
    by_cases nothing : config.search.maxTopK = 0
    · simp only [if_pos nothing] at valid
      cases valid
    · by_cases above : config.search.topK > config.search.maxTopK
      · simp only [if_neg nothing, if_pos above] at valid
        cases valid
      · simpa only [if_neg nothing, if_neg above] using valid
  cases made : config.weightTable with
  | error fault =>
    rw [made] at table
    cases table
  | ok table =>
    have checked := table.validate_ok_iff.mpr (Config.weightTable_ok_iff.mp made).2
    exact ⟨⟨table, checked⟩, rfl⟩

section Loading

variable {look : Lookup} {config : Config} {content : Content} {store : Store}

theorem loadStore_small (here : look config.search.data = .ok (.file content))
    (small : content.size ≤ maxSnapshotBytes)
    (parsed : Wire.storeOfBytes content.bytes = .ok store) :
    loadStore look config.search.data = .ok store := by
  unfold loadStore
  rw [here]
  dsimp only
  rw [if_neg (Nat.not_lt.mpr small), storeOfContent_eq, parsed]

theorem loadStore_large (here : look config.search.data = .ok (.file content))
    (large : maxSnapshotBytes < content.size) :
    loadStore look config.search.data = .error (.invalidSnapshot (.oversized content.size)) := by
  unfold loadStore
  rw [here]
  exact if_pos large

theorem ofWeights_engine (store : Store) (engine : Engine) :
    Session.ofWeights store engine.weights = .ok ⟨store, engine⟩ := by
  unfold Session.ofWeights
  rw [(Engine.ofWeights_ok_iff engine.weights engine).mpr rfl]
  rfl

theorem runSearch_small {engine : Engine} (weights : config.weightTable = .ok engine.weights)
    (here : look config.search.data = .ok (.file content)) (small : content.size ≤ maxSnapshotBytes)
    (parsed : Wire.storeOfBytes content.bytes = .ok store) (json : Bool) (query : String)
    (limit : Option Nat) :
    runSearch look config json query limit =
      .after (Session.search ⟨store, engine⟩ query (config.search.resolveLimit limit)).1
        fun outcome => .done (shown json (ofOutcome outcome)
          (outcomeLines outcome (config.search.resolveLimit limit))) := by
  unfold runSearch findOutcome loadSession
  rw [weights, loadStore_small here small parsed]
  dsimp only [bind, Except.bind]
  rw [ofWeights_engine]

theorem runSearch_large {engine : Engine} (weights : config.weightTable = .ok engine.weights)
    (here : look config.search.data = .ok (.file content)) (large : maxSnapshotBytes < content.size)
    (json : Bool) (query : String) (limit : Option Nat) :
    runSearch look config json query limit =
      { lines := [], ending := .failed (.invalidSnapshot (.oversized content.size)) } := by
  unfold runSearch findOutcome loadSession
  rw [weights, loadStore_large here large]
  rfl

end Loading

theorem storeOfBytes_wellKinded {bytes : List UInt8} {store : Store}
    (parsed : Wire.storeOfBytes bytes = .ok store) : store.WellKinded := by
  obtain ⟨⟨snapshot, delivered⟩, _⟩ := Wire.storeOfBytes_delivers parsed
  exact Snapshot.toStore_wellKinded delivered

-- What a written snapshot loads as, whatever space stands behind it.
theorem storeOfBytes_compact {value : Value} (fits : value.Fits) {snapshot : Snapshot}
    (read : Wire.snapshot value.reading = .ok snapshot) {gap : List Char}
    (spaces : ∀ c ∈ gap, Json.isSpace c = true) :
    Wire.storeOfBytes (String.ofList (value.compact ++ gap)).toUTF8.toList = snapshot.toStore := by
  unfold Wire.storeOfBytes Wire.storeOfDocument Json.Document.decode
  rw [Json.Document.ofBytes_compact fits spaces]
  dsimp only
  rw [read]
  rfl

-- What a search on a session is answered, and what the command makes of the same outcome.
theorem retells_search (found : Except SearchError Outcome) (query : String)
    (lines : Outcome → List String) :
    ∃ body, (Http.searchReply query found).body = .json body ∧
      Retells (.after found fun outcome => .done (shown true (ofOutcome outcome) (lines outcome)))
        (Http.searchReply query found).status body := by
  cases found with
  | ok outcome => exact ⟨_, rfl, retells_outcome outcome (lines outcome)⟩
  | error fault => exact ⟨_, rfl, retells_fault query fault⟩

end Command

open Http Command in
-- Asked in a path, in a body or on the command line, a search gives the same, whatever the service
-- was asked before. Only the command looks at the size of the data first.
theorem search_entries_agree {config : Config} (valid : config.validate = .ok ())
    (unlimited : config.server.rateLimit = 0) {key : Option String}
    (unlocked : keyOfSetting key = none) {content : Content} {store : Store}
    (parsed : Wire.storeOfBytes content.bytes = .ok store) {query : String}
    (something : query ≠ "") (limit : Option UInt64) :
    let wanted := limit.map UInt64.toNat
    ∃ table session status body, config.weightTable = .ok table ∧
      Session.ofWeights store table = .ok session ∧
      (∀ request earlier, InPath query wanted request ∨ InBody query wanted request →
        (answerAfter config key session earlier request).status = status ∧
          (answerAfter config key session earlier request).body = .json body) ∧
      (∀ request, InPath query wanted request → InBody query wanted (plainSearch query wanted)) ∧
      ∀ look, look config.search.data = .ok (.file content) →
        (content.size ≤ maxSnapshotBytes →
          Retells (runSearch look config true query wanted) status body) ∧
        (maxSnapshotBytes < content.size →
          runSearch look config true query wanted =
            { lines := [], ending := .failed (.invalidSnapshot (.oversized content.size)) }) := by
  intro wanted
  have bound : ∀ n ∈ wanted, n < UInt64.size := by
    intro n member
    obtain ⟨word, _, rfl⟩ := Option.mem_map.mp member
    exact word.toNat_lt
  obtain ⟨engine, weights⟩ := engine_of_validate valid
  have kinded := storeOfBytes_wellKinded parsed
  have opened := ofWeights_engine store engine
  let found := (Session.search ⟨store, engine⟩ query (config.search.resolveLimit wanted)).1
  obtain ⟨body, replied, retells⟩ := retells_search found query
    fun outcome => outcomeLines outcome (config.search.resolveLimit wanted)
  refine ⟨engine.weights, ⟨store, engine⟩, (searchReply query found).status, body,
    weights, opened, ?_, ?_, ?_⟩
  · intro request earlier asks
    rw [← replied]
    rcases asks with inPath | inBody
    · have shown : request.method ≠ .head := by
        rw [inPath.method]
        decide
      exact answerAfter_asked unlimited (inPath.asked something bound unlocked) shown kinded earlier
    · have shown : request.method ≠ .head := by
        rw [inBody.method]
        decide
      exact answerAfter_asked unlimited (inBody.asked bound unlocked) shown kinded earlier
  · exact fun request inPath => plainSearch_inBody inPath bound
  · intro look here
    constructor
    · intro small
      rw [runSearch_small weights here small parsed]
      exact retells
    · exact fun large => runSearch_large weights here large true query wanted

def unlimitedConfig : Config :=
  { server := { rateLimit := 0 } }

-- A site that has buildings at most.
def buildingSite (buildings : List Value) : Value :=
  .object [("buildings", .array buildings), ("locks", .array []), ("groups", .array []),
    ("media", .array [])]

def buildingStore (buildings : List Node) : Store where
  buildings := some buildings
  locks := some []
  groups := some []
  media := some []

-- Its file, with spaces behind it.
def buildingFile (buildings : List Value) (spaces : Nat) : Command.Content :=
  .written (String.ofList
    ((buildingSite buildings).compact ++ List.replicate spaces ' ')).toUTF8.toList

theorem buildingFile_loads {buildings : List Value} (fits : ∀ each ∈ buildings, each.Fits)
    {snapshot : Snapshot} (read : Wire.snapshot (buildingSite buildings).reading = .ok snapshot)
    (spaces : Nat) :
    Wire.storeOfBytes (buildingFile buildings spaces).bytes = snapshot.toStore := by
  have empty : (Value.array []).Fits := .array (List.forall_mem_nil _)
  have site : (buildingSite buildings).Fits :=
    .object (List.forall_mem_cons.mpr ⟨.array fits, List.forall_mem_cons.mpr ⟨empty,
      List.forall_mem_cons.mpr ⟨empty, List.forall_mem_singleton.mpr empty⟩⟩⟩)
  refine Command.storeOfBytes_compact site read fun c member => ?_
  rw [List.eq_of_mem_replicate member]
  rfl

-- A building with a name that no path holds as it is.
def southBuilding : Value :=
  .object [("id", .text "b1"), ("name", .text "Süd/Ost 50%")]

def southStore : Store :=
  buildingStore [{ kind := .building, id := "b1", attributes := { name := some "Süd/Ost 50%" } }]

theorem southBuilding_loads :
    Wire.storeOfBytes (buildingFile [southBuilding] 0).bytes = .ok southStore := by
  have fits : southBuilding.Fits :=
    .object (List.forall_mem_cons.mpr ⟨.text _, List.forall_mem_singleton.mpr (.text _)⟩)
  exact buildingFile_loads (List.forall_mem_singleton.mpr fits) rfl 0

def southRequest : Http.Request where
  target := "/search/s%C3%BCd%2fost%2050%25?limit=1"

theorem southRequest_asks : Http.InPath "süd/ost 50%" (some 1) southRequest := by
  obtain ⟨bytes, spells, same⟩ : ∃ bytes, Http.Spells ['s', '%', 'C', '3', '%', 'B', 'C', 'd', '%',
      '2', 'f', 'o', 's', 't', '%', '2', '0', '5', '0', '%', '2', '5'] bytes ∧
      bytes = "süd/ost 50%".toUTF8.toList := by
    refine ⟨_, .bare (by decide) <| .escaped rfl rfl <| .escaped rfl rfl <| .bare (by decide) <|
      .escaped rfl rfl <| .bare (by decide) <| .bare (by decide) <| .bare (by decide) <|
      .escaped rfl rfl <| .bare (by decide) <| .bare (by decide) <| .escaped rfl rfl .nothing, ?_⟩
    decide +kernel
  exact ⟨rfl, ⟨_, same ▸ spells, rfl⟩, by decide⟩

open Http Command in
theorem search_entries_agree_in_south :
    let query := "süd/ost 50%"
    let file := buildingFile [southBuilding] 0
    unlimitedConfig.validate = .ok () ∧ unlimitedConfig.server.rateLimit = 0 ∧
      keyOfSetting none = none ∧ Wire.storeOfBytes file.bytes = .ok southStore ∧ query ≠ "" ∧
      InPath query (some 1) southRequest ∧ InBody query (some 1) (plainSearch query (some 1)) ∧
      ∃ session status body, session.store = southStore ∧
        (∀ earlier, ∀ request ∈ [southRequest, plainSearch query (some 1)],
          (answerAfter unlimitedConfig none session earlier request).status = status ∧
            (answerAfter unlimitedConfig none session earlier request).body = .json body) ∧
        Retells (runSearch (fun _ => .ok (.file file)) unlimitedConfig true query (some 1))
          status body := by
  intro query file
  have valid : unlimitedConfig.validate = .ok () := rfl
  have unlocked : keyOfSetting none = none := rfl
  have something : query ≠ "" := by decide
  have small : file.size ≤ maxSnapshotBytes := by decide +kernel
  obtain ⟨_, session, status, body, _, opened, answers, plain, command⟩ :=
    search_entries_agree valid rfl unlocked southBuilding_loads something (some 1)
  have inPath := southRequest_asks
  have inBody := plain southRequest inPath
  refine ⟨valid, rfl, unlocked, southBuilding_loads, something, inPath, inBody, session, status,
    body, (Session.ofWeights_ok opened).1, fun earlier => ?_, (command _ rfl).1 small⟩
  exact List.forall_mem_cons.mpr ⟨answers _ earlier (.inl inPath),
    List.forall_mem_singleton.mpr (answers _ earlier (.inr inBody))⟩

theorem spaces_lt_size (buildings : List Value) (spaces : Nat) :
    spaces < (buildingFile buildings spaces).size := by
  have opening : 0 < (buildingSite buildings).compact.length := Nat.succ_pos _
  unfold buildingFile Command.Content.size
  dsimp only
  rw [Text.toUTF8_toList, String.toList_ofList]
  refine Nat.lt_of_lt_of_le ?_ (Text.length_encoded_bounds _).1
  rw [List.length_append, List.length_replicate]
  exact Nat.lt_add_of_pos_left opening

-- Past the bound on files the service would still answer what the command refuses.
theorem search_entries_differ_when_oversized :
    let data := buildingFile [] maxSnapshotBytes
    let request : Http.Request := { target := "/search/x" }
    unlimitedConfig.validate = .ok () ∧ Wire.storeOfBytes data.bytes = .ok (buildingStore []) ∧
      Http.InPath "x" none request ∧
      (∃ session, Session.ofWeights (buildingStore []) WeightTable.stock = .ok session ∧
        (Http.answerAfter unlimitedConfig none session [] request).status = .ok) ∧
      (Command.runSearch (fun _ => .ok (.file data)) unlimitedConfig true "x" none).ending ≠
        .done := by
  intro data request
  have valid : unlimitedConfig.validate = .ok () := rfl
  have parsed : Wire.storeOfBytes data.bytes = .ok (buildingStore []) :=
    buildingFile_loads (List.forall_mem_nil _) rfl maxSnapshotBytes
  have shown := List.all_eq_true.mp (show ['x'].all Http.isSegmentChar = true by decide)
  have asks : Http.InPath "x" none request :=
    ⟨rfl, ⟨_, @Http.Spells.of_isSegmentChar ['x'] shown, by decide⟩, by decide⟩
  obtain ⟨engine, weights⟩ := Command.engine_of_validate valid
  have stock : WeightTable.stock = engine.weights := Except.ok.inj weights
  refine ⟨valid, parsed, asks, ⟨⟨buildingStore [], engine⟩, ?_, ?_⟩, ?_⟩
  · rw [stock]
    exact Command.ofWeights_engine (buildingStore []) engine
  · have kinded := Command.storeOfBytes_wellKinded parsed
    have loaded : (buildingStore []).Loaded := by decide
    have wanted : (Http.Service.ofConfig unlimitedConfig none).asked? request = some ⟨"x", none⟩ :=
      asks.asked (by decide) nofun rfl
    rw [(Http.answerAfter_asked rfl wanted (by decide) kinded []).1,
      Session.search_loaded rfl loaded kinded]
    rfl
  · rw [Command.runSearch_large weights rfl (spaces_lt_size [] _)]
    nofun

end SiteSearch
