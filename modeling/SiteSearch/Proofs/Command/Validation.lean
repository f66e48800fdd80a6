import Mathlib.Data.List.Basic
import SiteSearch.Proofs.Command.Searching
import SiteSearch.Proofs.Http.Passage
import SiteSearch.Proofs.Store.Records

-- Checking a configuration and its data against serving them. The check looks at the settings,
-- loads the data and counts what there is; a server goes through the settings again and opens a
-- session. Both are refused for the same causes in the same order, but for a missing collection,
-- which a server learns of from its first search.
namespace SiteSearch

-- What a configuration can be refused for.
inductive Config.Blamed : SearchError → Prop where
  | unknownField (name : String) : Blamed (.unreadable (.unknownField name))
  | uncarried (kind : Kind) (field : Field) : Blamed (.schemaMismatch kind field)
  | misconfigured (relation : Relation) (key : Field) : Blamed (.relationMisconfigured relation key)
  | noResultsAllowed : Blamed (.unreadable .noResultsAllowed)
  | defaultAboveMaximum (topK maxTopK : Nat) :
      Blamed (.unreadable (.defaultAboveMaximum topK maxTopK))

section Settings

open Config (Blamed)

variable {fault : SearchError}

theorem Field.named_blamed {name : String} (refused : Field.named name = .error fault) :
    Blamed fault := by
  unfold named at refused
  split at refused
  · cases refused
  · cases refused
    exact .unknownField name

theorem FieldWeights.ofNamed_blamed {weights : Dictionary Weight}
    (refused : ofNamed weights = .error fault) : Blamed fault := by
  rcases bind_eq_error_iff.mp refused with unnamed | ⟨_, _, done⟩
  · obtain ⟨entry, _, unknown⟩ := mapM_refused unnamed
    rcases bind_eq_error_iff.mp unknown with unknown | ⟨_, _, done⟩
    · exact Field.named_blamed unknown
    · cases done
  · cases done

theorem RuleConfig.toRule_blamed {config : RuleConfig} {relation : Relation}
    (refused : config.toRule relation = .error fault) : Blamed fault := by
  rcases bind_eq_error_iff.mp refused with unweighed | ⟨_, _, refused⟩
  · exact FieldWeights.ofNamed_blamed unweighed
  · split at refused
    · cases refused
    · rcases bind_eq_error_iff.mp refused with unknown | ⟨_, _, done⟩
      · exact Field.named_blamed unknown
      · cases done

theorem WeightsConfig.overlay_blamed {config : WeightsConfig}
    (refused : config.overlay = .error fault) : Blamed fault := by
  rcases bind_eq_error_iff.mp refused with direct | ⟨_, _, rules⟩
  · obtain ⟨table, kind, _, refused⟩ := foldlM_refused direct
    split at refused
    · cases refused
    · rcases bind_eq_error_iff.mp refused with unweighed | ⟨_, _, done⟩
      · exact FieldWeights.ofNamed_blamed unweighed
      · cases done
  · obtain ⟨table, relation, _, refused⟩ := foldlM_refused rules
    split at refused
    · cases refused
    · rcases bind_eq_error_iff.mp refused with unruled | ⟨_, _, done⟩
      · exact RuleConfig.toRule_blamed unruled
      · cases done

theorem Kind.require_blamed {kind : Kind} {field : Field}
    (refused : kind.require field = .error fault) : Blamed fault := by
  unfold require at refused
  split at refused
  · cases refused
  · cases refused
    exact .uncarried kind field

theorem WeightTable.validate_blamed {table : WeightTable}
    (refused : table.validate = .error fault) : Blamed fault := by
  rcases bind_eq_error_iff.mp refused with direct | ⟨_, _, rules⟩
  · obtain ⟨kind, _, refused⟩ := forM_refused direct
    obtain ⟨field, _, refused⟩ := forM_refused refused
    exact Kind.require_blamed refused
  · obtain ⟨entry, _, refused⟩ := forM_refused rules
    unfold checkRule at refused
    split at refused
    · obtain ⟨field, _, refused⟩ := forM_refused refused
      exact Kind.require_blamed refused
    · cases refused
      exact .misconfigured entry.1 entry.2.foreignKey

theorem Config.weightTable_blamed {config : Config}
    (refused : config.weightTable = .error fault) : Blamed fault := by
  rcases bind_eq_error_iff.mp refused with unread | ⟨_, _, refused⟩
  · exact WeightsConfig.overlay_blamed unread
  · rcases bind_eq_error_iff.mp refused with unfit | ⟨_, _, done⟩
    · exact WeightTable.validate_blamed unfit
    · cases done

theorem Config.validate_blamed {config : Config} (refused : config.validate = .error fault) :
    Blamed fault := by
  unfold validate at refused
  by_cases nothing : config.search.maxTopK = 0
  · simp only [if_pos nothing] at refused
    cases refused
    exact .noResultsAllowed
  · by_cases above : config.search.topK > config.search.maxTopK
    · simp only [if_neg nothing, if_pos above] at refused
      cases refused
      exact .defaultAboveMaximum _ _
    · have table : discard config.weightTable = .error fault := by
        simpa only [if_neg nothing, if_neg above] using refused
      cases made : config.weightTable with
      | error cause =>
        rw [made] at table
        cases table
        exact weightTable_blamed made
      | ok weights =>
        rw [made] at table
        cases table

end Settings

namespace Command

open Json (Value)

-- What data can be refused for.
inductive DataBlamed : SearchError → Prop where
  | inaccessible (fault : AccessFault) : DataBlamed (.inaccessible fault)
  | invalid (fault : SnapshotFault) : DataBlamed (.invalidSnapshot fault)
  | malformed : DataBlamed (.unreadable .malformedSnapshot)

theorem toStore_blamed {snapshot : Snapshot} {fault : SearchError}
    (refused : snapshot.toStore = .error fault) : DataBlamed fault := by
  obtain ⟨kind, _, rfl⟩ := (Snapshot.toStore_eq_error_iff_firstNameless fault).mp refused
  exact .invalid (.emptyId kind)

theorem loadStore_blamed {look : Lookup} {path : String} {fault : SearchError}
    (refused : loadStore look path = .error fault) : DataBlamed fault := by
  unfold loadStore at refused
  split at refused
  · cases refused
    exact .inaccessible _
  · cases refused
    exact .inaccessible _
  · split at refused
    · cases refused
      exact .invalid _
    · rw [storeOfContent_eq] at refused
      unfold Wire.storeOfBytes Wire.storeOfDocument at refused
      split at refused
      · exact toStore_blamed refused
      · cases refused
        exact .malformed

-- What the check says for programs, beside how it ends.
structure Tells (verdict : Value) (ending : Ending) : Prop where
  valid : ∃ flag, verdict.member? "valid" = some (.bool flag) ∧ (flag = true ↔ ending = .done)
  missing : ∃ names, verdict.member? "missing_collections" = some (.ofList .text names) ∧
    ∀ kind, ending = .failed (.dataNotLoaded kind) ↔ names.head? = some kind.collection

theorem count_ofStore (store : Store) (kind : Kind) :
    (Metrics.ofStore store).count kind = (store.collection kind).map List.length := by
  cases kind <;> rfl

theorem missingKinds_ofStore (store : Store) :
    missingKinds (.ofStore store) = Kind.all.filter fun kind => (store.collection kind).isNone := by
  unfold missingKinds
  simp only [count_ofStore, Option.isNone_map]

theorem head?_missingKinds (store : Store) :
    (missingKinds (.ofStore store)).head? = store.firstAbsent? := by
  rw [missingKinds_ofStore, List.head?_filter]
  rfl

theorem tells_ofValidity (store : Store) :
    Tells (ofValidity (.ofStore store)) (.of store.ensureLoaded) := by
  have first := head?_missingKinds store
  have named : (missingNames (.ofStore store)).head? =
      store.firstAbsent?.map Kind.collection := by
    rw [missingNames, List.head?_map, first]
  rw [store.ensureLoaded_eq]
  refine ⟨⟨_, rfl, ?_⟩, ⟨_, rfl, fun kind => ?_⟩⟩
  · rw [List.isEmpty_iff, ← List.head?_eq_none_iff, first]
    cases store.firstAbsent? with
    | none => exact iff_of_true rfl rfl
    | some kind => exact iff_of_false nofun nofun
  · rw [named]
    cases store.firstAbsent? with
    | none => exact iff_of_false nofun nofun
    | some absent =>
      constructor
      · intro failed
        cases failed
        rfl
      · intro same
        rw [Kind.collection_inj (Option.some.inj same)]
        rfl

section Outcomes

variable {look : Lookup} {config : Config} {fault : SearchError} {store : Store}

theorem runValidate_unset (refused : config.validate = .error fault) (json : Bool) :
    runValidate look config json = { lines := [], ending := .failed fault } := by
  unfold runValidate
  rw [refused]
  rfl

theorem runValidate_unloaded (valid : config.validate = .ok ())
    (refused : loadStore look config.search.data = .error fault) (json : Bool) :
    runValidate look config json = { lines := [], ending := .failed fault } := by
  unfold runValidate
  rw [valid, refused]
  rfl

theorem runValidate_loaded (valid : config.validate = .ok ())
    (loaded : loadStore look config.search.data = .ok store) (json : Bool) :
    runValidate look config json =
      { lines := shown json (ofValidity (.ofStore store)) (validityLines (.ofStore store))
        ending := .of store.ensureLoaded } := by
  unfold runValidate
  rw [valid, loaded]
  rfl

theorem runServer_unset {around : Surroundings} (refused : config.validate = .error fault) :
    runServer around config = { lines := [], ending := .failed fault } := by
  unfold runServer
  rw [refused]
  rfl

theorem runServer_unloaded {around : Surroundings} (valid : config.validate = .ok ())
    (refused : loadStore around.look config.search.data = .error fault) :
    runServer around config = { lines := [], ending := .failed fault } := by
  obtain ⟨engine, weights⟩ := engine_of_validate valid
  unfold runServer loadSession
  rw [valid, weights, refused]
  rfl

theorem loadSession_loaded {engine : Engine} (weights : config.weightTable = .ok engine.weights)
    (loaded : loadStore look config.search.data = .ok store) :
    loadSession look config = .ok ⟨store, engine⟩ := by
  unfold loadSession
  rw [weights, loaded]
  exact ofWeights_engine store engine

theorem loadStore_wellKinded {path : String} (loaded : loadStore look path = .ok store) :
    store.WellKinded := by
  obtain ⟨⟨snapshot, delivered⟩, _⟩ := loadStore_delivers loaded
  exact Snapshot.toStore_wellKinded delivered

-- The check either ends before it prints, for a cause that stops a server too and names no missing
-- collection, or it reports on the very store that a server opens its session with.
theorem stopped_alike_or_opened (around : Surroundings) (config : Config) (json : Bool) :
    (∃ fault, (∀ kind, fault ≠ .dataNotLoaded kind) ∧
      runValidate around.look config json = { lines := [], ending := .failed fault } ∧
      runServer around config = { lines := [], ending := .failed fault }) ∨
    ∃ session, loadSession around.look config = .ok session ∧ session.store.WellKinded ∧
      runValidate around.look config json =
        { lines := shown json (ofValidity (.ofStore session.store))
            (validityLines (.ofStore session.store))
          ending := .of session.store.ensureLoaded } := by
  cases checked : config.validate with
  | error fault =>
    refine .inl ⟨fault, ?_, runValidate_unset checked json, runServer_unset checked⟩
    rintro kind rfl
    cases Config.validate_blamed checked
  | ok _ =>
    cases loaded : loadStore around.look config.search.data with
    | error fault =>
      refine .inl ⟨fault, ?_, runValidate_unloaded checked loaded json,
        runServer_unloaded checked loaded⟩
      rintro kind rfl
      cases loadStore_blamed loaded
    | ok store =>
      obtain ⟨engine, weights⟩ := engine_of_validate checked
      exact .inr ⟨⟨store, engine⟩, loadSession_loaded weights loaded, loadStore_wellKinded loaded,
        runValidate_loaded checked loaded json⟩

end Outcomes

-- What a session serves whose data is all there, from a server with any key and at any rate.
structure Serves (config : Config) (session : Session) : Prop where
  searches : ∀ query count, checkQuery query = .ok () →
    ∃ outcome, (session.search query count).1 = .ok outcome
  answers : ∀ key state request, (Http.Service.ofConfig config key).Reaches
      (.ofConfig config session) state →
    ((Http.Service.ofConfig config key).respond request state).1.status.code < 500

theorem serves_of_loaded (config : Config) {session : Session} (loaded : session.store.Loaded)
    (kinded : session.store.WellKinded) : Serves config session where
  searches := fun _ count accepted =>
    ⟨_, congrArg Prod.fst (Session.search_loaded accepted loaded kinded count)⟩
  answers := by
    intro key state request reached
    have keeps := reached.keeps kinded
    rw [Http.Status.code_lt_iff]
    exact Http.Service.respond_blameless _ request (keeps.content.loaded loaded)
      (keeps.content.wellKinded kinded)

theorem validation_foretells_serving (around : Surroundings) (config : Config) (json : Bool) :
    let report := runValidate around.look config json
    (report.ending = .done ∨ ∃ fault, report.ending = .failed fault) ∧
    (report.ending = .done → ∃ session, loadSession around.look config = .ok session ∧
      Serves config session) ∧
    (∀ kind, report.ending = .failed (.dataNotLoaded kind) →
      ∃ session, loadSession around.look config = .ok session ∧
        ∀ query count, checkQuery query = .ok () →
          (session.search query count).1 = .error (.dataNotLoaded kind)) ∧
    (∀ fault, report.ending = .failed fault → (∀ kind, fault ≠ .dataNotLoaded kind) →
      report.lines = [] ∧
        runTask around config json (.serve none none) = { lines := [], ending := .failed fault }) ∧
    (json = true → (report.ending = .done ∨ ∃ kind, report.ending = .failed (.dataNotLoaded kind)) →
      ∃ verdict, report.lines = [verdict.pretty] ∧ Tells verdict report.ending) := by
  intro report
  have unaddressed : runTask around config json (.serve none none) = runServer around config := rfl
  rw [unaddressed]
  rcases stopped_alike_or_opened around config json with
    ⟨fault, loading, ended, refused⟩ | ⟨session, opened, kinded, ended⟩
  · change report = _ at ended
    rw [ended, refused]
    refine ⟨.inr ⟨fault, rfl⟩, nofun, fun kind failed => ?_, fun cause failed _ => ?_, ?_⟩
    · cases failed
      exact absurd rfl (loading kind)
    · cases failed
      exact ⟨rfl, rfl⟩
    · rintro _ (done | ⟨kind, failed⟩)
      · cases done
      · cases failed
        exact absurd rfl (loading kind)
  · change report = _ at ended
    have printed : json = true →
        ∃ verdict, report.lines = [verdict.pretty] ∧ Tells verdict report.ending := by
      rintro rfl
      rw [ended]
      exact ⟨_, rfl, tells_ofValidity session.store⟩
    have ending : report.ending = .of session.store.ensureLoaded := by rw [ended]
    rw [ending] at printed ⊢
    rcases session.store.absent_or_loaded with ⟨first, absent⟩ | complete
    · have ends : session.store.ensureLoaded = .error (.dataNotLoaded first) := by
        rw [session.store.ensureLoaded_eq, absent]
      rw [ends] at printed ⊢
      refine ⟨.inr ⟨_, rfl⟩, nofun, fun kind failed => ?_, fun fault failed other => ?_,
        fun asked _ => printed asked⟩
      · cases failed
        exact ⟨session, opened, fun query count accepted =>
          congrArg Prod.fst (Session.search_absent accepted absent count)⟩
      · cases failed
        exact absurd rfl (other first)
    · rw [complete.ensureLoaded] at printed ⊢
      exact ⟨.inl rfl, fun _ => ⟨session, opened, serves_of_loaded config complete kinded⟩, nofun,
        nofun, fun asked _ => printed asked⟩

-- Commands that find one file, whatever path they follow.
def aroundFile (content : Content) : Surroundings where
  look := fun _ => .ok (.file content)
  listens := fun _ => true

-- A site whose groups were left out.
def grouplessSite : Value :=
  .object [("media", .array []), ("locks", .array []), ("buildings", .array [])]

def grouplessFile : Content :=
  .written grouplessSite.render.toUTF8.toList

def grouplessStore : Store where
  buildings := some []
  locks := some []
  media := some []

theorem grouplessFile_loads : Wire.storeOfBytes grouplessFile.bytes = .ok grouplessStore := by
  have empty : (Value.array []).Fits := .array (List.forall_mem_nil _)
  have site : grouplessSite.Fits :=
    .object (List.forall_mem_cons.mpr ⟨empty,
      List.forall_mem_cons.mpr ⟨empty, List.forall_mem_singleton.mpr empty⟩⟩)
  unfold grouplessFile Value.render
  rw [← List.append_nil grouplessSite.compact]
  exact storeOfBytes_compact site rfl (List.forall_mem_nil _)

def resultlessConfig : Config :=
  { search := { maxTopK := 0 } }

theorem validation_foretells_serving_of_south :
    let south := aroundFile (buildingFile [southBuilding] 0)
    let groupless := aroundFile grouplessFile
    (runValidate south.look unlimitedConfig true).ending = .done ∧
      (∃ session, loadSession south.look unlimitedConfig = .ok session ∧
        Serves unlimitedConfig session) ∧
      (∃ verdict, (runValidate south.look unlimitedConfig true).lines = [verdict.pretty] ∧
        Tells verdict .done) ∧
      (runValidate groupless.look unlimitedConfig true).ending = .failed (.dataNotLoaded .group) ∧
      (∃ session, loadSession groupless.look unlimitedConfig = .ok session ∧
        (session.search "north" 5).1 = .error (.dataNotLoaded .group)) ∧
      (∃ verdict, (runValidate groupless.look unlimitedConfig true).lines = [verdict.pretty] ∧
        Tells verdict (.failed (.dataNotLoaded .group))) ∧
      (runValidate south.look resultlessConfig true).ending =
        .failed (.unreadable .noResultsAllowed) ∧
      runTask south resultlessConfig true (.serve none none) =
        { lines := [], ending := .failed (.unreadable .noResultsAllowed) } := by
  intro south groupless
  have valid : unlimitedConfig.validate = .ok () := rfl
  have refused : resultlessConfig.validate = .error (.unreadable .noResultsAllowed) := rfl
  have southLoads : loadStore south.look unlimitedConfig.search.data = .ok southStore :=
    loadStore_small rfl (by decide +kernel) southBuilding_loads
  have grouplessLoads :
      loadStore groupless.look unlimitedConfig.search.data = .ok grouplessStore :=
    loadStore_small rfl (by decide +kernel) grouplessFile_loads
  have done : (runValidate south.look unlimitedConfig true).ending = .done := by
    rw [runValidate_loaded valid southLoads]
    rfl
  have missing : (runValidate groupless.look unlimitedConfig true).ending =
      .failed (.dataNotLoaded .group) := by
    rw [runValidate_loaded valid grouplessLoads]
    rfl
  have unset : (runValidate south.look resultlessConfig true).ending =
      .failed (.unreadable .noResultsAllowed) := by
    rw [runValidate_unset refused]
  obtain ⟨_, served, _, _, approved⟩ := validation_foretells_serving south unlimitedConfig true
  obtain ⟨_, _, lacking, _, faulted⟩ := validation_foretells_serving groupless unlimitedConfig true
  obtain ⟨_, _, _, blamed, _⟩ := validation_foretells_serving south resultlessConfig true
  obtain ⟨session, opened, searches⟩ := lacking .group missing
  have fine := approved rfl (.inl done)
  have wanting := faulted rfl (.inr ⟨.group, missing⟩)
  rw [done] at fine
  rw [missing] at wanting
  exact ⟨done, served done, fine, missing, ⟨session, opened, searches "north" 5 (by decide)⟩,
    wanting, unset, (blamed _ unset nofun).2⟩

end Command

end SiteSearch
