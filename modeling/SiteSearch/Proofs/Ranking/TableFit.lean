import Mathlib.Data.List.Nodup
import SiteSearch.Proofs.Traversal
import SiteSearch.Ranking

-- Which weight tables are accepted: those that weigh only fields which the nodes they are read
-- from carry, and follow only foreign keys of the acceptors.
namespace SiteSearch

theorem Kind.require_ok_iff (kind : Kind) (field : Field) :
    kind.require field = .ok () ↔ kind.carries field = true := by
  unfold Kind.require
  split
  · next carried => exact ⟨fun _ => carried, fun _ => rfl⟩
  · next missing =>
    exact ⟨fun accepted => (nomatch accepted), fun carried => absurd carried missing⟩

def FieldWeights.Fits (weights : FieldWeights) (kind : Kind) : Prop :=
  ∀ field ∈ weights.fields, kind.carries field = true

structure TransitiveRule.Fits (rule : TransitiveRule) (relation : Relation) : Prop where
  isKey : rule.foreignKey.isForeignKey = true
  carried : relation.acceptor.carries rule.foreignKey = true
  weights : rule.weights.Fits relation.donor

structure WeightTable.Fits (table : WeightTable) : Prop where
  direct : ∀ kind, (table.direct kind).Fits kind
  rule : ∀ relation rule, table.rule? relation = some rule → rule.Fits relation

theorem FieldWeights.fields_eq (weights : FieldWeights) :
    weights.fields = Field.all.filter fun field => (weights.weight? field).isSome := by
  unfold fields entries
  induction Field.all with
  | nil => rfl
  | cons field rest ih =>
    cases found : weights.weight? field with
    | none => simpa [found] using ih
    | some weight => simpa [found] using ih

theorem FieldWeights.nodup_fields (weights : FieldWeights) : weights.fields.Nodup := by
  rw [fields_eq]
  exact List.Nodup.filter _ (by decide)

theorem FieldWeights.requireAll_ok_iff (weights : FieldWeights) (kind : Kind) :
    weights.fields.forM kind.require = .ok () ↔ weights.Fits kind := by
  rw [forM_ok_iff]
  exact forall₂_congr fun field _ => kind.require_ok_iff field

theorem TransitiveRule.check_ok_iff (relation : Relation) (rule : TransitiveRule) :
    WeightTable.checkRule relation rule = .ok () ↔ rule.Fits relation := by
  unfold WeightTable.checkRule
  by_cases key :
      (rule.foreignKey.isForeignKey && relation.acceptor.carries rule.foreignKey) = true
  · rw [if_pos key, rule.weights.requireAll_ok_iff]
    obtain ⟨isKey, carried⟩ := Bool.and_eq_true_iff.mp key
    exact ⟨fun weights => ⟨isKey, carried, weights⟩, fun fits => fits.weights⟩
  · rw [if_neg key]
    refine ⟨fun accepted => (nomatch accepted), fun fits => absurd ?_ key⟩
    rw [fits.isKey, fits.carried]
    rfl

theorem WeightTable.mem_rules (table : WeightTable) (relation : Relation) (rule : TransitiveRule) :
    (relation, rule) ∈ table.rules ↔ table.rule? relation = some rule := by
  unfold WeightTable.rules
  rw [List.mem_filterMap]
  constructor
  · rintro ⟨other, _, found⟩
    obtain ⟨_, kept, same⟩ := Option.map_eq_some_iff.mp found
    cases same
    exact kept
  · intro found
    exact ⟨relation, Relation.mem_all relation, by rw [found]; rfl⟩

theorem WeightTable.validate_ok_iff (table : WeightTable) :
    table.validate = .ok () ↔ table.Fits := by
  have direct : (Kind.all.forM fun kind => (table.direct kind).fields.forM kind.require) = .ok () ↔
      ∀ kind, (table.direct kind).Fits kind := by
    rw [forM_ok_iff]
    constructor
    · exact fun all kind => ((table.direct kind).requireAll_ok_iff kind).mp
        (all kind (Kind.mem_all kind))
    · exact fun all kind _ => ((table.direct kind).requireAll_ok_iff kind).mpr (all kind)
  have rules : (table.rules.forM fun entry => checkRule entry.1 entry.2) = .ok () ↔
      ∀ relation rule, table.rule? relation = some rule → rule.Fits relation := by
    rw [forM_ok_iff]
    constructor
    · intro all relation rule found
      exact (TransitiveRule.check_ok_iff relation rule).mp
        (all (relation, rule) ((table.mem_rules relation rule).mpr found))
    · rintro all ⟨relation, rule⟩ member
      exact (TransitiveRule.check_ok_iff relation rule).mpr
        (all relation rule ((table.mem_rules relation rule).mp member))
  unfold WeightTable.validate
  cases checked : Kind.all.forM fun kind => (table.direct kind).fields.forM kind.require with
  | error fault =>
    rw [checked] at direct
    refine ⟨fun accepted => (nomatch accepted), fun fits => ?_⟩
    exact nomatch direct.mpr fits.direct
  | ok _ =>
    change (table.rules.forM fun entry => checkRule entry.1 entry.2) = .ok () ↔ _
    rw [rules]
    exact ⟨fun all => ⟨direct.mp checked, all⟩, fun fits => fits.rule⟩

theorem Engine.fits (engine : Engine) : engine.weights.Fits :=
  (engine.weights.validate_ok_iff).mp engine.valid

-- An engine is made of every accepted table, and of no other.
theorem Engine.ofWeights_ok_iff (table : WeightTable) (engine : Engine) :
    Engine.ofWeights table = .ok engine ↔ engine.weights = table := by
  unfold Engine.ofWeights
  constructor
  · intro made
    split at made
    · cases made
      rfl
    · cases made
  · rintro rfl
    split
    · rfl
    · next fault refused => exact nomatch engine.valid.symm.trans refused

end SiteSearch
