import Mathlib.Data.List.Basic
import Mathlib.Data.List.Nodup
import SiteSearch.Proofs.Digest.Content
import SiteSearch.Proofs.Store.Loading
import SiteSearch.Proofs.Wire.Counted

-- Nodes as clients see them, taken for records. The keys of a hit are those of a record, beside a
-- kind and a score that no record has, so what a client was shown can be loaded as it is.
namespace SiteSearch

theorem Field.key_inj {field other : Field} (same : field.key = other.key) : field = other := by
  have named := field.ofKey?_key
  rw [same, other.ofKey?_key] at named
  exact (Option.some.inj named).symm

theorem Field.key_notMem_hitKeys {field : Field} (apart : field ≠ .id) :
    field.key ∉ Wire.hitKeys := by
  revert apart
  cases field <;> decide

namespace Node

variable (node : Node)

theorem nodup_presentAttributes : (node.presentAttributes.map (·.1)).Nodup :=
  (List.filter_sublist.map _).nodup node.nodup_present

def toTexts : List (String × String) :=
  node.presentAttributes.map fun entry => (entry.1.key, entry.2)

theorem texts_perm : (Wire.Hit.of node).texts.entries.Perm node.toTexts := by
  have keys : node.toTexts.map (·.1) = (node.presentAttributes.map (·.1)).map Field.key := by
    rw [toTexts, List.map_map, List.map_map]
    rfl
  refine Dictionary.perm_ofList ?_
  change (node.toTexts.map (·.1)).Nodup
  rw [keys]
  exact node.nodup_presentAttributes.map fun _ _ => Field.key_inj

theorem mem_texts (field : Field) (text : String) :
    (field.key, text) ∈ (Wire.Hit.of node).texts.entries ↔
      (field, text) ∈ node.presentAttributes := by
  rw [node.texts_perm.mem_iff, toTexts, List.mem_map]
  constructor
  · rintro ⟨entry, listed, same⟩
    obtain ⟨keys, rfl⟩ := Prod.mk.inj same
    rwa [← Field.key_inj keys]
  · intro listed
    exact ⟨_, listed, rfl⟩

-- Every text of a hit stands under the key of an attribute.
theorem texts_keyed {entry : String × String} (listed : entry ∈ (Wire.Hit.of node).texts.entries) :
    ∃ field : Field, field ≠ .id ∧ field.key = entry.1 := by
  obtain ⟨⟨field, text⟩, present, rfl⟩ := List.mem_map.mp (node.texts_perm.mem_iff.mp listed)
  exact ⟨field, ((node.mem_presentAttributes field text).mp present).2, rfl⟩

theorem textsApart : Wire.TextsApart (Wire.Hit.of node).texts := by
  intro entry listed
  obtain ⟨field, apart, key⟩ := node.texts_keyed listed
  rw [← key]
  exact Field.key_notMem_hitKeys apart

theorem Conforms.restrict_eq {node : Node} (conforms : node.Conforms) :
    node.attributes.restrict node.kind = node.attributes := by
  refine Attributes.ext_get? fun field => ?_
  rw [Attributes.get?_restrict]
  split
  · rfl
  · next missing => exact (conforms field (Bool.eq_false_iff.mpr missing)).symm

theorem toNode_toRecord {node : Node} (conforms : node.Conforms) (named : node.id ≠ "") :
    node.toRecord.toNode node.kind = .ok node.resetScore := by
  unfold Record.toNode toRecord
  rw [if_neg (by simpa using named), conforms.restrict_eq]
  rfl

end Node

namespace Wire

open Json

def hitReadings (node : Node) : List (String × Reading) :=
  ("id", .text (some node.id)) :: ("kind", (ofKind node.kind).reading) ::
    ("score", (ofWord64 node.score).reading) ::
    (Hit.of node).texts.entries.map fun entry => (entry.1, .text (some entry.2))

theorem nodup_hitReadings (node : Node) : ((hitReadings node).map (·.1)).Nodup := by
  have keys : (hitReadings node).map (·.1) =
      hitKeys ++ (Hit.of node).texts.entries.map (·.1) := by
    simp only [hitReadings, hitKeys, List.map_cons, List.map_map, List.cons_append,
      List.nil_append]
    rfl
  rw [keys]
  refine List.nodup_append.mpr ⟨by decide, (Hit.of node).texts.nodup_keys, ?_⟩
  rintro key known _ text rfl
  obtain ⟨entry, listed, rfl⟩ := List.mem_map.mp text
  exact node.textsApart entry listed known

theorem mem_hitReadings {node : Node} {key : String} (free : key ∉ hitKeys) (reading : Reading) :
    (key, reading) ∈ hitReadings node ↔
      ∃ text, reading = .text (some text) ∧ (key, text) ∈ (Hit.of node).texts.entries := by
  simp only [hitKeys, List.mem_cons, List.not_mem_nil, or_false, not_or] at free
  simp only [hitReadings, List.mem_cons, Prod.mk.injEq, free, false_and, false_or, List.mem_map]
  constructor
  · rintro ⟨entry, listed, rfl, rfl⟩
    exact ⟨entry.2, rfl, listed⟩
  · rintro ⟨text, rfl, listed⟩
    exact ⟨_, listed, rfl, rfl⟩

def recordChecks : List Member.Check :=
  recordId.check :: attributeFields.map fun field => (attributeMember field).check

theorem find?_recordChecks {field : Field} (apart : field ≠ .id) :
    recordChecks.find? (·.name == field.key) = some (attributeMember field).check := by
  have listed : field ∈ attributeFields :=
    List.mem_filter.mpr ⟨field.mem_all, bne_iff_ne.mpr apart⟩
  have known : (attributeMember field).check ∈ recordChecks :=
    List.mem_cons_of_mem _ (List.mem_map_of_mem listed)
  exact find?_check (by decide) known

-- The kind and the score are passed over, and the rest is taken in.
theorem hitReadings_taken (node : Node) :
    ∀ member ∈ hitReadings node, Reading.Taken recordChecks member := by
  intro member written
  simp only [hitReadings, List.mem_cons, List.mem_map] at written
  rcases written with rfl | rfl | rfl | ⟨entry, listed, rfl⟩
  · exact .inl ⟨recordId.check, rfl, rfl⟩
  · exact .inr ⟨rfl, intact_reading _⟩
  · exact .inr ⟨rfl, intact_reading _⟩
  · obtain ⟨field, apart, key⟩ := node.texts_keyed listed
    exact .inl ⟨_, key ▸ find?_recordChecks apart, rfl⟩

-- What a record finds in a hit.
def foundInHit (node : Node) : Found :=
  ⟨false, (hitReadings node).filter (Reading.isKnown recordChecks)⟩

theorem nodup_foundInHit (node : Node) : ((foundInHit node).members.map (·.1)).Nodup :=
  (nodup_hitReadings node).sublist (List.filter_sublist.map _)

theorem get_attribute {node : Node} (conforms : node.Conforms) {field : Field}
    (apart : field ≠ .id) :
    (foundInHit node).get (attributeMember field) = .ok (node.attributes.get? field) := by
  have free := Field.key_notMem_hitKeys apart
  have held (text : String) : (field.key, text) ∈ (Hit.of node).texts.entries ↔
      node.attributes.get? field = some text :=
    (node.mem_texts field text).trans (conforms.get?_eq_some_iff field text).symm
  cases given : node.attributes.get? field with
  | some text =>
    have written : (field.key, Reading.text (some text)) ∈ hitReadings node :=
      (mem_hitReadings free _).mpr ⟨text, rfl, (held text).mpr given⟩
    have known : Reading.isKnown recordChecks (field.key, .text (some text)) = true := by
      rw [Reading.isKnown, find?_recordChecks apart]
      rfl
    have found : ((attributeMember field).name, Reading.text (some text)) ∈
        (foundInHit node).members := List.mem_filter.mpr ⟨written, known⟩
    exact Found.get_of_mem (nodup_foundInHit node) found false
  | none =>
    refine Found.get_of_absent (fun reading found => ?_) rfl
    obtain ⟨text, _, listed⟩ := (mem_hitReadings free reading).mp (List.mem_of_mem_filter found)
    rw [(held text).mp listed] at given
    cases given

theorem means_shown {node : Node} (conforms : node.Conforms) :
    Means record (ofHit (.of node)) node.toRecord := by
  refine ⟨(means_hit node.textsApart).fits, ?_⟩
  have written : (ofHit (.of node)).reading =
      .object ((hitReadings node).map fun member => (some member.1, member.2)) true := by
    rw [ofHit, reading_object]
    simp only [hitReadings, List.map_cons, List.map_map]
    rfl
  rw [written]
  refine (Reading.record_among _ (hitReadings_taken node) (nodup_hitReadings node)).trans ?_
  have named : (recordId.name, Reading.text (some node.id)) ∈ (foundInHit node).members :=
    List.mem_filter.mpr ⟨.head _, rfl⟩
  have id : (foundInHit node).get recordId = .ok node.id :=
    Found.get_of_mem (nodup_foundInHit node) named false
  have get {field : Field} (apart : field ≠ .id) := get_attribute conforms apart
  exact bind_granted id <| bind_granted
    (bind_granted (get nofun) <| bind_granted (get nofun) <| bind_granted (get nofun) <|
      bind_granted (get nofun) <| bind_granted (get nofun) <| bind_granted (get nofun) <|
      bind_granted (get nofun) <| bind_granted (get nofun) <| bind_granted (get nofun) <|
      bind_granted (get nofun) rfl) rfl

end Wire

def Store.toSnapshot (store : Store) : Snapshot where
  buildings := store.buildings.map (·.map Node.toRecord)
  locks := store.locks.map (·.map Node.toRecord)
  groups := store.groups.map (·.map Node.toRecord)
  media := store.media.map (·.map Node.toRecord)

theorem Store.records_toSnapshot (store : Store) (kind : Kind) :
    store.toSnapshot.records kind = (store.collection kind).map (·.map Node.toRecord) := by
  cases kind <;> rfl

-- Every node has an identifier.
def Store.Identified (store : Store) : Prop :=
  ∀ kind, ∀ node ∈ (store.collection kind).getD [], node.id ≠ ""

theorem Store.toStore_toSnapshot {store : Store} (kinded : store.WellKinded)
    (conforms : store.Conforms) (identified : store.Identified) :
    store.toSnapshot.toStore = .ok store.resetScores := by
  have nodes (kind : Kind) : store.toSnapshot.nodesOf kind =
      .ok ((store.collection kind).map (·.map Node.resetScore)) := by
    have kindOf := kinded kind
    have conform := conforms kind
    have named := identified kind
    unfold Snapshot.nodesOf
    rw [store.records_toSnapshot]
    cases held : store.collection kind with
    | none => rfl
    | some nodes =>
      rw [held] at kindOf conform named
      have each : (nodes.map Node.toRecord).mapM (·.toNode kind) =
          .ok (nodes.map Node.resetScore) := by
        rw [List.mapM_map]
        refine mapM_granted fun node listed => ?_
        rw [Function.comp_apply, ← kindOf node listed]
        exact Node.toNode_toRecord (conform node listed) (named node listed)
      exact congrArg (some <$> ·) each
  exact bind_granted (nodes .building) <| bind_granted (nodes .lock) <|
    bind_granted (nodes .group) <| bind_granted (nodes .medium) rfl

namespace Wire

open Json

-- The nodes of a store as clients see them, in place of the records of a snapshot.
def ofShown (nodes : List Node) : Value :=
  .ofList (fun node => ofHit (.of node)) nodes

def shownMembers (store : Store) : List (String × Value) :=
  Kind.all.filterMap fun kind =>
    (store.collection kind).map fun nodes => (kind.collection, ofShown nodes)

-- A collection that is not there is left out.
def exported (store : Store) : Value :=
  .object (shownMembers store)

theorem mem_shownMembers {store : Store} {member : String × Value} :
    member ∈ shownMembers store ↔ ∃ kind nodes, store.collection kind = some nodes ∧
      member = (kind.collection, ofShown nodes) := by
  simp only [shownMembers, List.mem_filterMap, Kind.mem_all, true_and, Option.map_eq_some_iff]
  constructor
  · rintro ⟨kind, nodes, held, rfl⟩
    exact ⟨kind, nodes, held, rfl⟩
  · rintro ⟨kind, nodes, held, rfl⟩
    exact ⟨kind, nodes, held, rfl⟩

theorem nodup_shownMembers (store : Store) : ((shownMembers store).map (·.1)).Nodup := by
  refine List.pairwise_map.mpr (.filterMap _ ?_ (by decide : Kind.all.Nodup))
  intro kind other apart entry here later there same
  obtain ⟨_, _, rfl⟩ := Option.map_eq_some_iff.mp here
  obtain ⟨_, _, rfl⟩ := Option.map_eq_some_iff.mp there
  exact apart (Kind.collection_inj same)

theorem means_exported {store : Store} (conforms : store.Conforms) :
    Means snapshot (exported store) store.toSnapshot := by
  have shown {kind : Kind} {nodes : List Node} (held : store.collection kind = some nodes) :
      Means (records kind).read (ofShown nodes) (some (nodes.map Node.toRecord)) := by
    have conform := conforms kind
    rw [held] at conform
    exact means_some (means_map fun node listed => means_shown (conform node listed)) nofun
  have distinct : (((shownMembers store).map fun member => (member.1, member.2.reading)).map
      (·.1)).Nodup := by
    rw [List.map_map]
    exact nodup_shownMembers store
  have get (kind : Kind) :
      Found.get ⟨false, (shownMembers store).map fun member => (member.1, member.2.reading)⟩
        (records kind) = .ok ((store.collection kind).map (·.map Node.toRecord)) := by
    cases held : store.collection kind with
    | some nodes =>
      have written : ((records kind).name, (ofShown nodes).reading) ∈
          (shownMembers store).map fun member => (member.1, member.2.reading) :=
        List.mem_map.mpr ⟨_, mem_shownMembers.mpr ⟨kind, nodes, held, rfl⟩, rfl⟩
      exact (Found.get_of_mem distinct written false).trans (shown held).reads
    | none =>
      refine Found.get_of_absent (fun reading written => ?_) rfl
      obtain ⟨_, listed, same⟩ := List.mem_map.mp written
      obtain ⟨other, nodes, there, rfl⟩ := mem_shownMembers.mp listed
      rw [← Kind.collection_inj (Prod.mk.inj same).1, there] at held
      cases held
  refine means_members ?_ ?_ (nodup_shownMembers store) ?_
  · intro member written
    obtain ⟨kind, nodes, held, rfl⟩ := mem_shownMembers.mp written
    exact (shown held).fits
  · intro member written
    obtain ⟨kind, nodes, held, rfl⟩ := mem_shownMembers.mp written
    refine ⟨(records kind).check, by cases kind <;> rfl, ?_⟩
    exact (Entry.of (records kind) (shown held)).passes
  · exact bind_granted (get .building) <| bind_granted (get .lock) <|
      bind_granted (get .group) <| bind_granted (get .medium) rfl

theorem storeOfBytes_exported {store : Store} (kinded : store.WellKinded)
    (conforms : store.Conforms) (identified : store.Identified) {text : String}
    (written : text ∈ (exported store).texts) :
    storeOfBytes text.toUTF8.toList = .ok store.resetScores := by
  have read := (means_exported conforms).decodes written
  unfold decodeBytes at read
  unfold storeOfBytes storeOfDocument
  rw [read]
  exact store.toStore_toSnapshot kinded conforms identified

-- A store of one node.
def alone (node : Node) : Store :=
  Store.put {} node.kind [node]

theorem forall_alone {node : Node} (holds : Kind → Node → Prop) (here : holds node.kind node)
    (kind : Kind) : ∀ other ∈ ((alone node).collection kind).getD [], holds kind other := by
  intro other listed
  unfold alone at listed
  rw [Store.collection_put] at listed
  split at listed
  · next same =>
    obtain rfl := List.mem_singleton.mp listed
    rwa [same]
  · cases kind <;> cases listed

theorem exported_alone (node : Node) :
    exported (alone node) = .object [(node.kind.collection, .array [ofHit (.of node)])] := by
  unfold alone
  cases node.kind <;> rfl

theorem resetScores_alone (node : Node) : (alone node).resetScores = alone node.resetScore := by
  obtain ⟨kind, id, attributes, score⟩ := node
  cases kind <;> rfl

-- What clients were shown of a node is loaded as the node, but for its score, by itself and among
-- all nodes of a store.
theorem shown_nodes_load_back :
    (∀ node : Node, node.Conforms → node.id ≠ "" →
      ∀ text ∈ (Value.object [(node.kind.collection, .array [ofHit (.of node)])]).texts,
        storeOfBytes text.toUTF8.toList = .ok (alone node.resetScore)) ∧
    ∀ store : Store, store.WellKinded → store.Conforms → store.Identified →
      ∀ text ∈ (exported store).texts, ∃ loaded, storeOfBytes text.toUTF8.toList = .ok loaded ∧
        loaded = store.resetScores ∧
        Digest.canonicalBytes loaded = Digest.canonicalBytes store := by
  constructor
  · intro node conforms named text written
    rw [← exported_alone] at written
    rw [← resetScores_alone]
    exact storeOfBytes_exported (forall_alone (fun kind other => other.kind = kind) rfl)
      (forall_alone (fun _ other => other.Conforms) conforms)
      (forall_alone (fun _ other => other.id ≠ "") named) written
  · intro store kinded conforms identified text written
    exact ⟨_, storeOfBytes_exported kinded conforms identified written, rfl,
      Digest.canonicalBytes_resetScores store⟩

-- A lock whose name has quotes, a line break and a character beyond the first plane.
def oddLock : Node :=
  { kind := .lock, id := "l1", attributes := { name := some "\"west\"\n\\ 🔒" }, score := 70 }

theorem oddLock_loads_back :
    (oddLock.Conforms ∧ oddLock.id ≠ "" ∧
      storeOfBytes (Value.object [("locks", .array [ofHit (.of oddLock)])]).pretty.toUTF8.toList =
        .ok (alone oddLock.resetScore)) ∧
    (alone oddLock).WellKinded ∧ (alone oddLock).Conforms ∧ (alone oddLock).Identified ∧
      ∃ loaded, storeOfBytes (exported (alone oddLock)).render.toUTF8.toList = .ok loaded ∧
        loaded ≠ alone oddLock ∧
        Digest.canonicalBytes loaded = Digest.canonicalBytes (alone oddLock) := by
  have conforms : oddLock.Conforms := by
    intro field missing
    cases field <;> first | rfl | cases missing
  have named : oddLock.id ≠ "" := by decide
  have kinded : (alone oddLock).WellKinded :=
    forall_alone (fun kind other => other.kind = kind) rfl
  have conform : (alone oddLock).Conforms := forall_alone (fun _ other => other.Conforms) conforms
  have identified : (alone oddLock).Identified := forall_alone (fun _ other => other.id ≠ "") named
  obtain ⟨loaded, read, same, bytes⟩ :=
    shown_nodes_load_back.2 (alone oddLock) kinded conform identified _ List.mem_cons_self
  refine ⟨⟨conforms, named, ?_⟩, kinded, conform, identified, loaded, read, ?_, bytes⟩
  · exact shown_nodes_load_back.1 oddLock conforms named _
      (List.mem_cons_of_mem _ List.mem_cons_self)
  · rw [same]
    decide

end Wire

end SiteSearch
