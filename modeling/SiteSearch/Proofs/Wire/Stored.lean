import Mathlib.Data.List.Basic
import SiteSearch.Proofs.Dictionary
import SiteSearch.Proofs.Json.Meaning
import SiteSearch.Proofs.Ranking.TableFit
import SiteSearch.Wire.Snapshot
import SiteSearch.Wire.Config

-- Nodes, snapshots and weight tables as JSON, and the report on the weights. Whatever texts and
-- weights they hold, what is written of them means themselves.
namespace SiteSearch.Wire

open Json

variable {α : Type}

theorem means_kind (value : Kind) : Means kind (ofKind value) value :=
  means_named value.ofName?_name

theorem means_field (value : Field) : Means field (ofField value) value :=
  means_named value.ofKey?_key

theorem means_relation (value : Relation) : Means relation (ofRelation value) value :=
  means_named value.ofName?_name

theorem means_ofWord32 (word : UInt32) : Means Reading.word32 (ofWord32 word) word :=
  means_word32 word

theorem means_text? (value : Option String) :
    Means (Reading.optional Reading.string) (ofText? value) value :=
  means_optional (fun text _ => means_text text) fun _ _ => nofun

section Dictionaries

variable {read : Reader α} {write : α → Value}

theorem means_dictionary {held : Dictionary α}
    (means : ∀ entry ∈ held.entries, Means read (write entry.2) entry.2) :
    Means (dictionary read) (ofDictionary write held) held := by
  constructor
  · refine .object fun member written => ?_
    obtain ⟨entry, listed, rfl⟩ := List.mem_map.mp written
    exact (means entry listed).fits
  · unfold dictionary ofDictionary
    rw [foldMembers_object, List.foldlM_map]
    have each (found : Dictionary α) : ∀ entry ∈ held.entries, (do
        pure (found.insert entry.1 (← read (write entry.2).reading)) : Except Fault _) =
          .ok (found.insert entry.1 entry.2) := by
      intro entry listed
      rw [(means entry listed).reads]
      rfl
    rw [foldlM_granted each, held.foldl_insert_entries]

-- Tables under names, put together entry by entry.
theorem means_table {ι table : Type} {ofName? : String → Option ι} {name : ι → String}
    (named : ∀ place, ofName? (name place) = some place) (put : table → ι → α → table)
    (start : table) {entries : List (ι × α)}
    (means : ∀ entry ∈ entries, Means read (write entry.2) entry.2) :
    Means
      (Reading.foldMembers start fun found key value => do
        let place ← known ofName? key
        pure (put found place (← read value)))
      (.object (entries.map fun entry => (name entry.1, write entry.2)))
      (entries.foldl (fun held entry => put held entry.1 entry.2) start) := by
  constructor
  · refine .object fun member written => ?_
    obtain ⟨entry, listed, rfl⟩ := List.mem_map.mp written
    exact (means entry listed).fits
  · rw [foldMembers_object, List.foldlM_map]
    refine foldlM_granted (fun found entry listed => ?_) start
    have place : known ofName? (name entry.1) = .ok entry.1 := by
      unfold known
      rw [named]
    exact bind_granted place (bind_granted (means entry listed).reads rfl)

end Dictionaries

theorem means_fieldWeights (weights : FieldWeights) :
    Means fieldWeights (ofFieldWeights weights) weights := by
  have means := means_table Field.ofKey?_key FieldWeights.insert .empty
    fun entry (_ : entry ∈ weights.entries) => means_ofWord32 entry.2
  have same : weights.entries.foldl (fun held entry => held.insert entry.1 entry.2) .empty =
      weights :=
    FieldWeights.ext_weight? fun field =>
      foldl_put_all FieldWeights.weight? FieldWeights.insert (fun _ _ _ _ => rfl)
        weights.mem_entries rfl
  rw [same] at means
  exact means

theorem means_rule (stated : TransitiveRule) : Means rule (ofRule stated) stated :=
  means_whole [.of foreignKey (means_field stated.foreignKey),
      .of lentWeights (means_fieldWeights stated.weights)] rfl (by decide)
    fun get => bind_granted (get 0 rfl) (bind_granted (get 1 rfl) rfl)

section Tables

variable (table : WeightTable)

def directEntries : List (Kind × FieldWeights) :=
  Kind.all.filterMap fun kind => (table.direct? kind).map (kind, ·)

theorem mem_directEntries (kind : Kind) (weights : FieldWeights) :
    (kind, weights) ∈ directEntries table ↔ table.direct? kind = some weights := by
  simp [directEntries, Kind.mem_all]

theorem means_weightTable : Means weightTable (ofWeightTable table) table := by
  have direct := means_table Kind.ofName?_name WeightTable.withDirect .empty
    fun entry (_ : entry ∈ directEntries table) => means_fieldWeights entry.2
  have transitive := means_table Relation.ofName?_name WeightTable.withRule .empty
    fun entry (_ : entry ∈ table.rules) => means_rule entry.2
  have written : ((directEntries table).map fun entry =>
      (entry.1.name, ofFieldWeights entry.2)) = Kind.all.filterMap fun kind =>
        (table.direct? kind).map fun weights => (kind.name, ofFieldWeights weights) := by
    unfold directEntries
    simp only [List.map_filterMap, Option.map_map]
    rfl
  rw [written] at direct
  refine means_whole [.of directMember direct, .of transitiveMember transitive] rfl (by decide)
    fun get => bind_granted (get 0 rfl) (bind_granted (get 1 rfl) (congrArg Except.ok ?_))
  refine WeightTable.ext_lookup (fun kind => ?_) fun relation => ?_
  · exact foldl_put_all WeightTable.direct? WeightTable.withDirect (fun _ _ _ _ => rfl)
      (mem_directEntries table) rfl
  · exact foldl_put_all WeightTable.rule? WeightTable.withRule (fun _ _ _ _ => rfl)
      table.mem_rules rfl

end Tables

section Reports

theorem means_namedWords (weights : Dictionary Weight) :
    Means namedWords (ofNamedWords weights) weights :=
  means_dictionary fun entry _ => means_ofWord32 entry.2

theorem means_ruleReport (report : RuleReport) :
    Means ruleReport (ofRuleReport report) report :=
  means_whole [.of reportedDonor (means_kind report.donor),
      .of reportedAcceptor (means_kind report.acceptor),
      .of reportedKey (means_text report.foreignKey),
      .of reportedWeights (means_namedWords report.weights)] rfl (by decide)
    fun get => bind_granted (get 0 rfl) <| bind_granted (get 1 rfl) <| bind_granted (get 2 rfl) <|
      bind_granted (get 3 rfl) rfl

theorem means_weightsReport (report : WeightsReport) :
    Means weightsReport (ofWeightsReport report) report :=
  means_whole [.of reportedDirect (means_dictionary fun entry _ => means_namedWords entry.2),
      .of reportedRules (means_dictionary fun entry _ => means_ruleReport entry.2)] rfl (by decide)
    fun get => bind_granted (get 0 rfl) (bind_granted (get 1 rfl) rfl)

end Reports

section Nodes

theorem means_record_of (stored : Record) : Means record (ofRecord stored) stored :=
  means_whole (.of recordId (means_text stored.id) :: attributeFields.map fun field =>
      .of (attributeMember field) (means_text? (stored.attributes.get? field))) rfl (by decide)
    fun get => bind_granted (get 0 rfl) <| bind_granted
      (bind_granted (get 1 rfl) <| bind_granted (get 2 rfl) <| bind_granted (get 3 rfl) <|
        bind_granted (get 4 rfl) <| bind_granted (get 5 rfl) <| bind_granted (get 6 rfl) <|
        bind_granted (get 7 rfl) <| bind_granted (get 8 rfl) <| bind_granted (get 9 rfl) <|
        bind_granted (get 10 rfl) rfl) rfl

theorem means_snapshot (stored : Snapshot) : Means snapshot (ofSnapshot stored) stored :=
  means_whole (Kind.all.map fun kind => .of (records kind)
      (means_optional (fun items _ => means_list fun item _ => means_record_of item)
        fun _ _ => nofun)) rfl (by decide)
    fun get => bind_granted (get 0 rfl) <| bind_granted (get 1 rfl) <| bind_granted (get 2 rfl) <|
      bind_granted (get 3 rfl) rfl

def nodeEntries (stored : Node) : List Entry :=
  .of recordId (means_text stored.id) :: .of nodeKind (means_kind stored.kind) ::
    (attributeFields.map fun field =>
      .of (dumped field) (means_text? (stored.attributes.get? field)))
    ++ [.of nodeScore (means_word64 stored.score)]

theorem means_node (stored : Node) : Means node (ofNode stored) stored :=
  means_whole (nodeEntries stored) rfl (by decide)
    fun get => bind_granted (get 0 rfl) <| bind_granted (get 1 rfl) <| bind_granted (get 2 rfl) <|
      bind_granted (get 3 rfl) <| bind_granted (get 4 rfl) <| bind_granted (get 5 rfl) <|
      bind_granted (get 6 rfl) <| bind_granted (get 7 rfl) <| bind_granted (get 8 rfl) <|
      bind_granted (get 9 rfl) <| bind_granted (get 10 rfl) <| bind_granted (get 11 rfl) <|
      bind_granted (get 12 rfl) rfl

end Nodes

end SiteSearch.Wire
