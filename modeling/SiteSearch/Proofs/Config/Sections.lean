import SiteSearch.Proofs.Config.Overlay
import SiteSearch.Proofs.Dictionary
import SiteSearch.Proofs.Text.Written
import SiteSearch.Proofs.Wire.Shown

-- Which sections are accepted, what table they make and what they are refused for. The names of all
-- sections are read first, each table in the order of its names; the fields that they stand for are
-- checked only then, in the order of the schema.
namespace SiteSearch

namespace Dictionary

def keys {α : Type} (dictionary : Dictionary α) : List String :=
  dictionary.entries.map (·.1)

theorem keys_ascend {α : Type} (dictionary : Dictionary α) :
    dictionary.keys.Pairwise fun a b => a.toUTF8.toList < b.toUTF8.toList :=
  List.pairwise_map.mpr (dictionary.ascending.imp Text.toUTF8_lt)

theorem find?_eq_some_iff {α : Type} {dictionary : Dictionary α} {key : String} {value : α} :
    dictionary.find? key = some value ↔ (key, value) ∈ dictionary.entries := by
  refine ⟨fun found => ?_, lookup_of_mem dictionary.nodup_keys⟩
  obtain ⟨before, after, parts, _⟩ := List.lookup_eq_some_iff.mp found
  rw [parts]
  exact List.mem_append_right _ List.mem_cons_self

end Dictionary

namespace Field

theorem ofKey?_eq_some_iff {name : String} {field : Field} :
    ofKey? name = some field ↔ field.key = name := by
  constructor
  · intro found
    have same := List.find?_some found
    exact beq_iff_eq.mp same
  · rintro rfl
    exact field.ofKey?_key

-- Why a name is not that of a field, if it is not.
def nameFault? (name : String) : Option SearchError :=
  match ofKey? name with
  | some _ => none
  | none => some (.unreadable (.unknownField name))

theorem refusal?_named (name : String) : refusal? (named name) = nameFault? name := by
  unfold named nameFault?
  cases ofKey? name <;> rfl

theorem named_ok_iff {name : String} {field : Field} :
    named name = .ok field ↔ field.key = name := by
  rw [← ofKey?_eq_some_iff]
  unfold named
  cases ofKey? name with
  | none => exact ⟨fun made => (nomatch made), fun found => (nomatch found)⟩
  | some other => exact ⟨fun made => by cases made; rfl, fun found => by cases found; rfl⟩

end Field

namespace FieldWeights

-- The weights that stand under the keys of fields.
def under (named : Dictionary Weight) : FieldWeights :=
  ⟨fun field => named.find? field.key⟩

theorem refusal?_ofNamed (named : Dictionary Weight) :
    refusal? (ofNamed named) = (named.keys.filterMap Field.nameFault?).head? := by
  have read (entry : String × Weight) : refusal? (do pure (← Field.named entry.1, entry.2)) =
      (Field.nameFault? entry.1).toList.head? := by
    rw [refusal?_bind_pure (Field.named entry.1) (·, entry.2), Field.refusal?_named]
    cases Field.nameFault? entry.1 <;> rfl
  have names : named.keys.filterMap Field.nameFault? =
      named.entries.flatMap fun entry => (Field.nameFault? entry.1).toList := by
    rw [Dictionary.keys, List.filterMap_map]
    exact List.filterMap_eq_flatMap_toList _ _
  rw [names, ← refusal?_mapM read]
  exact refusal?_bind_pure _ FieldWeights.ofList

theorem ofNamed_eq_under {named : Dictionary Weight} {weights : FieldWeights}
    (made : ofNamed named = .ok weights) : weights = under named := by
  obtain ⟨entries, read, made⟩ := bind_eq_ok_iff.mp made
  cases made
  have names : entries.map (fun entry => (entry.1.key, entry.2)) = named.entries.map id := by
    refine mapM_view (fun item result told => ?_) read
    obtain ⟨field, known, told⟩ := bind_eq_ok_iff.mp told
    cases told
    exact Prod.ext (Field.named_ok_iff.mp known) rfl
  rw [List.map_id] at names
  refine ext_weight? fun field => foldl_put_all FieldWeights.weight? FieldWeights.insert
    (fun _ _ _ _ => rfl) (fun place given => ?_) rfl
  rw [under, Dictionary.find?_eq_some_iff, ← names]
  refine ⟨fun listed => List.mem_map.mpr ⟨_, listed, rfl⟩, fun told => ?_⟩
  obtain ⟨⟨other, weight⟩, listed, same⟩ := List.mem_map.mp told
  obtain ⟨keys, rfl⟩ := Prod.mk.inj same
  exact Field.key_inj keys ▸ listed

end FieldWeights
namespace RuleConfig

-- The names of a rule, in the order in which they are read.
def names (config : RuleConfig) : List String :=
  config.weights.keys ++ config.foreignKey.toList

-- What a rule stands for where all its names are known.
def meant (config : RuleConfig) (relation : Relation) : TransitiveRule where
  foreignKey := (config.foreignKey.bind Field.ofKey?).getD relation.foreignKey
  weights := .under config.weights

theorem refusal?_toRule (config : RuleConfig) (relation : Relation) :
    refusal? (config.toRule relation) = (config.names.filterMap Field.nameFault?).head? := by
  unfold names
  rw [List.filterMap_append]
  refine refusal?_bind (FieldWeights.refusal?_ofNamed config.weights) fun weights _ => ?_
  cases config.foreignKey with
  | none => rfl
  | some name =>
    refine (refusal?_bind_pure (Field.named name) _).trans ?_
    rw [Field.refusal?_named, Option.toList_some, List.filterMap_cons]
    cases Field.nameFault? name <;> rfl

theorem toRule_eq_meant {config : RuleConfig} {relation : Relation} {rule : TransitiveRule}
    (made : config.toRule relation = .ok rule) : rule = config.meant relation := by
  obtain ⟨weights, weighed, made⟩ := bind_eq_ok_iff.mp made
  obtain rfl := FieldWeights.ofNamed_eq_under weighed
  unfold meant
  cases given : config.foreignKey with
  | none =>
    rw [given] at made
    cases made
    rfl
  | some name =>
    rw [given] at made
    obtain ⟨field, known, made⟩ := bind_eq_ok_iff.mp made
    cases made
    rw [Option.bind_some, Field.ofKey?_eq_some_iff.mpr (Field.named_ok_iff.mp known)]
    rfl

end RuleConfig

-- What is wrong with a table, in the order in which it is checked.
section Misfits

def Kind.fieldFault? (kind : Kind) (field : Field) : Option SearchError :=
  if kind.carries field then none else some (.schemaMismatch kind field)

def Relation.keyFault? (relation : Relation) (field : Field) : Option SearchError :=
  if field = relation.foreignKey then none else some (.relationMisconfigured relation field)

def FieldWeights.misfits (weights : FieldWeights) (kind : Kind) : List SearchError :=
  weights.fields.filterMap kind.fieldFault?

def TransitiveRule.misfits (rule : TransitiveRule) (relation : Relation) : List SearchError :=
  (relation.keyFault? rule.foreignKey).toList ++ rule.weights.misfits relation.donor

def WeightTable.misfits (table : WeightTable) : List SearchError :=
  (Kind.all.flatMap fun kind => (table.direct kind).misfits kind) ++
    table.rules.flatMap fun entry => entry.2.misfits entry.1

theorem FieldWeights.refusal?_requireAll (weights : FieldWeights) (kind : Kind) :
    refusal? (weights.fields.forM kind.require) = (weights.misfits kind).head? := by
  have check (field : Field) :
      refusal? (kind.require field) = (kind.fieldFault? field).toList.head? := by
    unfold Kind.require Kind.fieldFault?
    cases kind.carries field <;> rfl
  rw [misfits, List.filterMap_eq_flatMap_toList]
  exact refusal?_forM check weights.fields

-- The only foreign key of an acceptor is that of its relation.
theorem Relation.fits_key_iff (relation : Relation) (field : Field) :
    (field.isForeignKey && relation.acceptor.carries field) = true ↔
      field = relation.foreignKey := by
  cases relation <;> cases field <;> decide

theorem WeightTable.refusal?_checkRule (relation : Relation) (rule : TransitiveRule) :
    refusal? (checkRule relation rule) = (rule.misfits relation).head? := by
  unfold checkRule TransitiveRule.misfits Relation.keyFault?
  by_cases fits : rule.foreignKey = relation.foreignKey
  · rw [if_pos ((relation.fits_key_iff _).mpr fits), if_pos fits]
    exact rule.weights.refusal?_requireAll relation.donor
  · rw [if_neg (mt (relation.fits_key_iff _).mp fits), if_neg fits]
    rfl

theorem WeightTable.refusal?_validate (table : WeightTable) :
    refusal? table.validate = table.misfits.head? :=
  refusal?_bind
    (refusal?_forM (fun kind => (table.direct kind).refusal?_requireAll kind) Kind.all)
    fun _ _ => refusal?_forM (fun entry => refusal?_checkRule entry.1 entry.2) table.rules

end Misfits

section Places

variable {table ι part value : Type} {put : table → ι → value → table}
  {read : ι → part → Except SearchError value} {sections : ι → Option part} {place : ι}

theorem refusal?_layOn {names : part → List String}
    (reads : ∀ place given, refusal? (read place given) =
      ((names given).filterMap Field.nameFault?).head?) (held : table) :
    refusal? (layOn put read sections held place) =
      (((sections place).elim [] names).filterMap Field.nameFault?).head? := by
  unfold layOn
  cases sections place with
  | none => rfl
  | some given =>
    exact (refusal?_bind_pure (read place given) (put held place)).trans (reads place given)

theorem settled_eq_meant {stock : ι → value} {meant : ι → part → value}
    (reads : ∀ place given made, read place given = .ok made → made = meant place given)
    {made : value} (chosen : settled read sections stock place = .ok made) :
    made = (sections place).elim (stock place) (meant place) := by
  unfold settled at chosen
  cases given : sections place with
  | none =>
    rw [given] at chosen
    cases chosen
    rfl
  | some part =>
    rw [given] at chosen
    exact reads place part made chosen

end Places

namespace WeightsConfig

-- All names of all sections, in the order in which they are read.
def names (config : WeightsConfig) : List String :=
  (Kind.all.flatMap fun kind => (config.direct kind).elim [] Dictionary.keys) ++
    Relation.all.flatMap fun relation => (config.rules relation).elim [] RuleConfig.names

-- The table that the sections stand for where all their names are known.
def meant (config : WeightsConfig) : WeightTable where
  direct? kind := some ((config.direct kind).elim (WeightTable.stockDirect kind) .under)
  rule? relation := some ((config.rules relation).elim
    (.ofRelation relation (WeightTable.stockLent relation)) (·.meant relation))

theorem direct_meant (config : WeightsConfig) (kind : Kind) : config.meant.direct kind =
    (config.direct kind).elim (WeightTable.stockDirect kind) .under :=
  rfl

theorem rule?_meant (config : WeightsConfig) (relation : Relation) : config.meant.rule? relation =
    some ((config.rules relation).elim
      (.ofRelation relation (WeightTable.stockLent relation)) (·.meant relation)) :=
  rfl

theorem refusal?_overlay (config : WeightsConfig) :
    refusal? config.overlay = (config.names.filterMap Field.nameFault?).head? := by
  rw [overlay_eq, names, List.filterMap_append, List.filterMap_flatMap, List.filterMap_flatMap]
  refine refusal?_bind (refusal?_foldlM (fun held kind => ?_) Kind.all _) fun table _ =>
    refusal?_foldlM (fun held relation => ?_) Relation.all table
  · exact refusal?_layOn (fun _ => FieldWeights.refusal?_ofNamed) held
  · exact refusal?_layOn (fun relation rule => rule.refusal?_toRule relation) held

theorem Gives.eq_meant {config : WeightsConfig} {table : WeightTable}
    (gives : config.Gives table) : table = config.meant := by
  refine WeightTable.ext_lookup (fun kind => ?_) fun relation => ?_
  · obtain ⟨weights, chosen, held⟩ := gives.direct kind
    rw [held]
    exact congrArg some
      (settled_eq_meant (fun _ _ _ made => FieldWeights.ofNamed_eq_under made) chosen)
  · obtain ⟨rule, chosen, held⟩ := gives.rules relation
    rw [held]
    exact congrArg some
      (settled_eq_meant (fun _ _ _ made => RuleConfig.toRule_eq_meant made) chosen)

end WeightsConfig

-- Unknown names come first, wherever they stand.
theorem Config.refusal?_weightTable (config : Config) :
    refusal? config.weightTable =
      (config.weights.names.filterMap Field.nameFault? ++ config.weights.meant.misfits).head? := by
  refine refusal?_bind config.weights.refusal?_overlay fun table made => ?_
  rw [(WeightsConfig.gives_of_overlay made).eq_meant]
  exact (refusal?_bind_pure config.weights.meant.validate fun _ => config.weights.meant).trans
    config.weights.meant.refusal?_validate

-- Every name of a section is the key of a field that the kind carries.
def Dictionary.KeyedBy (named : Dictionary Weight) (kind : Kind) : Prop :=
  ∀ name ∈ named.keys, ∃ field, field.key = name ∧ kind.carries field = true

-- The weights of a section, under the same names, and no others.
def FieldWeights.Tell (weights : FieldWeights) (named : Dictionary Weight) : Prop :=
  ∀ name weight, (name, weight) ∈ named.entries ↔
    ∃ field, field.key = name ∧ weights.weight? field = some weight

theorem Field.nameFault?_eq_none_iff {name : String} :
    nameFault? name = none ↔ ∃ field : Field, field.key = name := by
  unfold nameFault?
  cases found : ofKey? name with
  | none =>
    refine ⟨fun fault => (nomatch fault), fun ⟨field, same⟩ => ?_⟩
    exact nomatch found.symm.trans (ofKey?_eq_some_iff.mpr same)
  | some field => exact ⟨fun _ => ⟨field, ofKey?_eq_some_iff.mp found⟩, fun _ => rfl⟩

namespace FieldWeights

variable {named : Dictionary Weight} {kind : Kind}

theorem misfits_eq_nil_iff {weights : FieldWeights} :
    weights.misfits kind = [] ↔ weights.Fits kind := by
  unfold misfits Fits
  rw [List.filterMap_eq_nil_iff]
  refine forall₂_congr fun field _ => ?_
  unfold Kind.fieldFault?
  cases kind.carries field <;> simp

theorem mem_fields_under {field : Field} :
    field ∈ (under named).fields ↔ field.key ∈ named.keys := by
  rw [fields_eq, List.mem_filter, Option.isSome_iff_exists, Dictionary.keys, List.mem_map]
  constructor
  · rintro ⟨_, weight, found⟩
    exact ⟨_, Dictionary.find?_eq_some_iff.mp found, rfl⟩
  · rintro ⟨⟨name, weight⟩, listed, same⟩
    cases same
    exact ⟨field.mem_all, weight, Dictionary.find?_eq_some_iff.mpr listed⟩

-- Names and fields are checked apart, but together they say what each name must be.
theorem keyedBy_iff : named.KeyedBy kind ↔
    named.keys.filterMap Field.nameFault? = [] ∧ (under named).misfits kind = [] := by
  rw [List.filterMap_eq_nil_iff, misfits_eq_nil_iff]
  constructor
  · intro keyed
    refine ⟨fun name listed => ?_, fun field weighted => ?_⟩
    · obtain ⟨field, same, _⟩ := keyed name listed
      exact Field.nameFault?_eq_none_iff.mpr ⟨field, same⟩
    · obtain ⟨other, same, carried⟩ := keyed field.key (mem_fields_under.mp weighted)
      exact Field.key_inj same ▸ carried
  · rintro ⟨known, fits⟩ name listed
    obtain ⟨field, rfl⟩ := Field.nameFault?_eq_none_iff.mp (known name listed)
    exact ⟨field, rfl, fits field (mem_fields_under.mpr listed)⟩

theorem tell_under (keyed : named.KeyedBy kind) : (under named).Tell named := by
  intro name weight
  constructor
  · intro listed
    obtain ⟨field, rfl, _⟩ := keyed name (List.mem_map_of_mem listed)
    exact ⟨field, rfl, Dictionary.find?_eq_some_iff.mpr listed⟩
  · rintro ⟨field, rfl, found⟩
    exact Dictionary.find?_eq_some_iff.mp found

end FieldWeights

namespace RuleConfig

-- Every name of a rule is the key of a field of the donor, and the foreign key is the usual one.
structure Keyed (config : RuleConfig) (relation : Relation) : Prop where
  weights : config.weights.KeyedBy relation.donor
  foreignKey : ∀ name, config.foreignKey = some name → name = relation.foreignKey.key

theorem foreignKey_iff {config : RuleConfig} {relation : Relation} :
    (∀ name, config.foreignKey = some name → name = relation.foreignKey.key) ↔
      config.foreignKey.toList.filterMap Field.nameFault? = [] ∧
        (relation.keyFault? (config.meant relation).foreignKey).toList = [] := by
  unfold meant Relation.keyFault?
  dsimp only
  cases config.foreignKey with
  | none => simp
  | some name =>
    rw [Option.toList_some, List.filterMap_eq_nil_iff, List.forall_mem_singleton,
      Option.bind_some, Field.nameFault?_eq_none_iff]
    constructor
    · intro usual
      obtain rfl := usual name rfl
      rw [Field.ofKey?_key, Option.getD_some, if_pos rfl]
      exact ⟨⟨_, rfl⟩, rfl⟩
    · rintro ⟨⟨field, rfl⟩, fits⟩ _ ⟨rfl⟩
      rw [Field.ofKey?_key, Option.getD_some] at fits
      by_cases same : field = relation.foreignKey
      · rw [same]
      · rw [if_neg same] at fits
        cases fits

theorem keyed_iff {config : RuleConfig} {relation : Relation} :
    config.Keyed relation ↔
      config.names.filterMap Field.nameFault? = [] ∧
        (config.meant relation).misfits relation = [] := by
  unfold names TransitiveRule.misfits
  rw [List.filterMap_append, List.append_eq_nil_iff, List.append_eq_nil_iff]
  constructor
  · intro keyed
    obtain ⟨known, fits⟩ := FieldWeights.keyedBy_iff.mp keyed.weights
    obtain ⟨read, usual⟩ := foreignKey_iff.mp keyed.foreignKey
    exact ⟨⟨known, read⟩, usual, fits⟩
  · rintro ⟨⟨known, read⟩, usual, fits⟩
    exact ⟨FieldWeights.keyedBy_iff.mpr ⟨known, fits⟩, foreignKey_iff.mpr ⟨read, usual⟩⟩

end RuleConfig

theorem Kind.forall_mem_all {holds : Kind → Prop} :
    (∀ kind ∈ all, holds kind) ↔ ∀ kind, holds kind :=
  ⟨fun each kind => each kind kind.mem_all, fun each kind _ => each kind⟩

theorem Relation.forall_mem_all {holds : Relation → Prop} :
    (∀ relation ∈ all, holds relation) ↔ ∀ relation, holds relation :=
  ⟨fun each relation => each relation relation.mem_all, fun each relation _ => each relation⟩

namespace WeightsConfig

structure Keyed (config : WeightsConfig) : Prop where
  direct : ∀ kind named, config.direct kind = some named → named.KeyedBy kind
  rules : ∀ relation rule, config.rules relation = some rule → rule.Keyed relation

-- What the sections give stands in the table, and where there is no section, the stock.
structure Shown (config : WeightsConfig) (table : WeightTable) : Prop where
  direct : ∀ kind, ∃ weights, table.direct? kind = some weights ∧
    match config.direct kind with
    | none => weights = WeightTable.stockDirect kind
    | some named => weights.Tell named
  rules : ∀ relation, ∃ rule, table.rule? relation = some rule ∧
    rule.foreignKey = relation.foreignKey ∧
    match config.rules relation with
    | none => rule.weights = WeightTable.stockLent relation
    | some given => rule.weights.Tell given.weights

variable (config : WeightsConfig)

theorem direct_keyed_iff (kind : Kind) :
    (∀ named, config.direct kind = some named → named.KeyedBy kind) ↔
      ((config.direct kind).elim [] Dictionary.keys).filterMap Field.nameFault? = [] ∧
        (config.meant.direct kind).misfits kind = [] := by
  rw [direct_meant]
  cases config.direct kind with
  | none =>
    have stocked : (WeightTable.stockDirect kind).misfits kind = [] := by
      cases kind <;> rfl
    exact ⟨fun _ => ⟨rfl, stocked⟩, fun _ _ given => (nomatch given)⟩
  | some named =>
    rw [Option.elim_some, Option.elim_some, ← FieldWeights.keyedBy_iff]
    exact ⟨fun all => all named rfl, fun keyed _ same => Option.some.inj same ▸ keyed⟩

theorem rules_keyed_iff (relation : Relation) :
    (∀ rule, config.rules relation = some rule → rule.Keyed relation) ↔
      ((config.rules relation).elim [] RuleConfig.names).filterMap Field.nameFault? = [] ∧
        ∀ rule, config.meant.rule? relation = some rule → rule.misfits relation = [] := by
  rw [rule?_meant]
  cases config.rules relation with
  | none =>
    have stocked : (TransitiveRule.ofRelation relation (WeightTable.stockLent relation)).misfits
        relation = [] := by
      cases relation <;> rfl
    exact ⟨fun _ => ⟨rfl, fun _ same => Option.some.inj same ▸ stocked⟩,
      fun _ _ given => (nomatch given)⟩
  | some rule =>
    rw [Option.elim_some, Option.elim_some]
    constructor
    · intro all
      obtain ⟨known, fits⟩ := RuleConfig.keyed_iff.mp (all rule rfl)
      exact ⟨known, fun _ same => Option.some.inj same ▸ fits⟩
    · rintro ⟨known, fits⟩ _ ⟨rfl⟩
      exact RuleConfig.keyed_iff.mpr ⟨known, fits _ rfl⟩

theorem misfits_meant : config.meant.misfits = [] ↔
    (∀ kind, (config.meant.direct kind).misfits kind = []) ∧
      ∀ relation rule, config.meant.rule? relation = some rule → rule.misfits relation = [] := by
  unfold WeightTable.misfits
  rw [List.append_eq_nil_iff, List.flatMap_eq_nil_iff, List.flatMap_eq_nil_iff]
  refine and_congr Kind.forall_mem_all ?_
  constructor
  · intro all relation rule held
    exact all (relation, rule) ((WeightTable.mem_rules _ relation rule).mpr held)
  · rintro all ⟨relation, rule⟩ listed
    exact all relation rule ((WeightTable.mem_rules _ relation rule).mp listed)

theorem nameFaults_eq_nil_iff : config.names.filterMap Field.nameFault? = [] ↔
    (∀ kind, ((config.direct kind).elim [] Dictionary.keys).filterMap Field.nameFault? = []) ∧
      ∀ relation,
        ((config.rules relation).elim [] RuleConfig.names).filterMap Field.nameFault? = [] := by
  unfold names
  rw [List.filterMap_append, List.filterMap_flatMap, List.filterMap_flatMap,
    List.append_eq_nil_iff, List.flatMap_eq_nil_iff, List.flatMap_eq_nil_iff]
  exact and_congr Kind.forall_mem_all Relation.forall_mem_all

theorem keyed_iff : config.Keyed ↔
    config.names.filterMap Field.nameFault? ++ config.meant.misfits = [] := by
  rw [List.append_eq_nil_iff, nameFaults_eq_nil_iff, misfits_meant]
  constructor
  · intro keyed
    have direct kind := (config.direct_keyed_iff kind).mp (keyed.direct kind)
    have rules relation := (config.rules_keyed_iff relation).mp (keyed.rules relation)
    exact ⟨⟨fun kind => (direct kind).1, fun relation => (rules relation).1⟩,
      fun kind => (direct kind).2, fun relation => (rules relation).2⟩
  · rintro ⟨⟨directNames, ruleNames⟩, directFits, ruleFits⟩
    exact ⟨fun kind => (config.direct_keyed_iff kind).mpr ⟨directNames kind, directFits kind⟩,
      fun relation => (config.rules_keyed_iff relation).mpr ⟨ruleNames relation, ruleFits relation⟩⟩

variable {config}

theorem Keyed.shown (keyed : config.Keyed) : config.Shown config.meant where
  direct := by
    intro kind
    refine ⟨_, rfl, ?_⟩
    cases given : config.direct kind with
    | none => rfl
    | some named => exact FieldWeights.tell_under (keyed.direct kind named given)
  rules := by
    intro relation
    refine ⟨_, rfl, ?_⟩
    cases given : config.rules relation with
    | none => exact ⟨rfl, rfl⟩
    | some rule =>
      have kept := keyed.rules relation rule given
      refine ⟨?_, FieldWeights.tell_under kept.weights⟩
      change (rule.foreignKey.bind Field.ofKey?).getD relation.foreignKey = relation.foreignKey
      cases named : rule.foreignKey with
      | none => rfl
      | some name =>
        rw [kept.foreignKey name named, Option.bind_some, Field.ofKey?_key]
        rfl

end WeightsConfig

theorem Field.nameFault?_known {name : String} (known : (ofKey? name).isNone = false) :
    nameFault? name = none := by
  unfold nameFault?
  cases found : ofKey? name with
  | none =>
    rw [found] at known
    cases known
  | some field => rfl

theorem Field.nameFault?_unknown {name : String} (unknown : (ofKey? name).isNone = true) :
    nameFault? name = some (.unreadable (.unknownField name)) := by
  unfold nameFault?
  rw [Option.isNone_iff_eq_none.mp unknown]

theorem head?_nameFaults {names : List String} {name : String}
    (first : names.find? (fun name => (Field.ofKey? name).isNone) = some name) :
    (names.filterMap Field.nameFault?).head? = some (.unreadable (.unknownField name)) := by
  obtain ⟨unknown, early, late, rfl, known⟩ := List.find?_eq_some_iff_append.mp first
  have passed : early.filterMap Field.nameFault? = [] := by
    rw [List.filterMap_eq_nil_iff]
    intro other listed
    have told := known other listed
    rw [Bool.not_eq_true'] at told
    exact Field.nameFault?_known told
  rw [List.filterMap_append, passed, List.nil_append,
    List.filterMap_cons_some (Field.nameFault?_unknown unknown)]
  rfl

-- How a configuration is read. It is accepted exactly if all its names are keys of fields that fit
-- where they stand. It is refused for its first unknown name, wherever that is, and only without any
-- such name for the first field or foreign key that does not fit.
structure Config.Sectioned (config : Config) : Prop where
  accepts : (∃ table, config.weightTable = .ok table) ↔ config.weights.Keyed
  shows : ∀ table, config.weightTable = .ok table → config.weights.Shown table
  unknown : ∀ name,
    config.weights.names.find? (fun name => (Field.ofKey? name).isNone) = some name →
      config.weightTable = .error (.unreadable (.unknownField name))
  misfit : (∀ name ∈ config.weights.names, (Field.ofKey? name).isNone = false) →
    ∀ fault, config.weightTable = .error fault ↔
      config.weights.meant.misfits.head? = some fault
  directOrder : ∀ kind named, config.weights.direct kind = some named →
    named.keys.Pairwise fun a b => a.toUTF8.toList < b.toUTF8.toList
  lentOrder : ∀ relation rule, config.weights.rules relation = some rule →
    rule.weights.keys.Pairwise fun a b => a.toUTF8.toList < b.toUTF8.toList

theorem sections_make_the_table (config : Config) : config.Sectioned := by
  have refused := config.refusal?_weightTable
  have accepts : (∃ table, config.weightTable = .ok table) ↔ config.weights.Keyed := by
    rw [← refusal?_eq_none_iff, refused, List.head?_eq_none_iff, WeightsConfig.keyed_iff]
  refine ⟨accepts, fun table made => ?_, fun name first => ?_, fun known fault => ?_,
    fun _ named _ => named.keys_ascend, fun _ rule _ => rule.weights.keys_ascend⟩
  · rw [(Config.weightTable_ok_iff.mp made).1.eq_meant]
    exact (accepts.mp ⟨table, made⟩).shown
  · rw [← refusal?_eq_some_iff, refused, List.head?_append, head?_nameFaults first]
    rfl
  · have unfaulted : config.weights.names.filterMap Field.nameFault? = [] := by
      rw [List.filterMap_eq_nil_iff]
      exact fun name listed => Field.nameFault?_known (known name listed)
    rw [← refusal?_eq_some_iff, refused, unfaulted, List.nil_append]

-- The first section names a field that its kind does not carry, the last one no field at all.
def crossedSections : WeightsConfig where
  direct kind :=
    if kind = .building then some (.ofList [("floor", 4)])
    else if kind = .medium then some (.ofList [("colour", 2)])
    else none

-- One kind is left without weights, and one rule lends by names only.
def sparseSections : WeightsConfig where
  direct kind := if kind = .building then some .empty else none
  rules relation :=
    if relation = .groupMedium then some { weights := .ofList [("name", 2)] } else none

theorem sparseSections_keyed : sparseSections.Keyed where
  direct := by
    intro kind named given
    cases kind <;> cases given
    exact List.forall_mem_nil _
  rules := by
    intro relation rule given
    cases relation <;> cases given
    refine ⟨fun name listed => ?_, fun name given => (nomatch given)⟩
    obtain rfl := List.mem_singleton.mp listed
    exact ⟨.name, rfl, rfl⟩

-- The unknown name is told, although the misplaced field stands before it.
theorem sections_make_the_table_of_sparse :
    ({ weights := crossedSections } : Config).weightTable =
        .error (.unreadable (.unknownField "colour")) ∧
      ∃ table, ({ weights := sparseSections } : Config).weightTable = .ok table ∧
        sparseSections.Shown table := by
  have sparse := sections_make_the_table { weights := sparseSections }
  have crossed := sections_make_the_table { weights := crossedSections }
  obtain ⟨table, made⟩ := sparse.accepts.mpr sparseSections_keyed
  exact ⟨crossed.unknown "colour" (by decide +kernel), table, made, sparse.shows table made⟩

end SiteSearch
