import Mathlib.Data.List.Nodup
import SiteSearch.Config.Basic
import SiteSearch.Proofs.Ranking.TableFit

-- The table that a configuration gives. In each place it holds what the section of the place is
-- read as, or what the stock has there, whatever the other sections are.
namespace SiteSearch

section Sections

variable {table ι part value ε : Type}
  (put : table → ι → value → table) (read : ι → part → Except ε value) (sections : ι → Option part)

-- A table after the section of a place, if there is one.
def layOn (held : table) (place : ι) : Except ε table :=
  match sections place with
  | none => pure held
  | some given => do pure (put held place (← read place given))

-- What a place comes to hold.
def settled (stock : ι → value) (place : ι) : Except ε value :=
  match sections place with
  | none => pure (stock place)
  | some given => read place given

variable {read sections} {stock : ι → value}

theorem layOn_grants {place : ι} {made : value}
    (chosen : settled read sections stock place = .ok made) (held : table) :
    ∃ next, layOn put read sections held place = .ok next := by
  unfold layOn
  unfold settled at chosen
  cases given : sections place with
  | none => exact ⟨held, rfl⟩
  | some part =>
    rw [given] at chosen
    exact ⟨_, bind_granted chosen rfl⟩

theorem foldlM_layOn_grants {places : List ι}
    (chosen : ∀ place ∈ places, ∃ made, settled read sections stock place = .ok made)
    (start : table) : ∃ result, places.foldlM (layOn put read sections) start = .ok result := by
  induction places generalizing start with
  | nil => exact ⟨start, rfl⟩
  | cons place rest ih =>
    obtain ⟨⟨made, here⟩, others⟩ := List.forall_mem_cons.mp chosen
    obtain ⟨next, first⟩ := layOn_grants put here start
    obtain ⟨result, later⟩ := ih others next
    rw [List.foldlM_cons]
    exact ⟨result, bind_granted first later⟩

variable {put}

section Views

variable {shown : Type} (view : table → shown)

theorem layOn_keeps {held next : table} {place : ι}
    (kept : ∀ held given, view (put held place given) = view held)
    (granted : layOn put read sections held place = .ok next) : view next = view held := by
  unfold layOn at granted
  split at granted
  · cases granted
    rfl
  · obtain ⟨made, _, granted⟩ := bind_eq_ok_iff.mp granted
    cases granted
    exact kept held made

theorem foldlM_layOn_keeps {places : List ι}
    (kept : ∀ place ∈ places, ∀ held given, view (put held place given) = view held)
    {start result : table} (granted : places.foldlM (layOn put read sections) start = .ok result) :
    view result = view start := by
  refine foldlM_keeps (fun held => view held = view start) ?_ rfl granted
  intro held place listed next before laid
  rw [layOn_keeps view (kept place listed) laid, before]

end Views

section Places

variable [DecidableEq ι] (get : table → ι → Option value)
  (law : ∀ held place given other,
    get (put held place given) other = if other = place then some given else get held other)

include law

theorem layOn_here {held next : table} {place : ι}
    (granted : layOn put read sections held place = .ok next)
    (stocked : get held place = some (stock place)) :
    ∃ made, settled read sections stock place = .ok made ∧ get next place = some made := by
  unfold layOn at granted
  unfold settled
  cases given : sections place with
  | none =>
    rw [given] at granted
    cases granted
    exact ⟨stock place, rfl, stocked⟩
  | some part =>
    rw [given] at granted
    obtain ⟨made, read, granted⟩ := bind_eq_ok_iff.mp granted
    cases granted
    exact ⟨made, read, by rw [law, if_pos rfl]⟩

-- Each place is settled in its turn, and no other turn touches it.
theorem foldlM_layOn {places : List ι} (distinct : places.Nodup) {start result : table}
    (stocked : ∀ place ∈ places, get start place = some (stock place))
    (granted : places.foldlM (layOn put read sections) start = .ok result) :
    ∀ place ∈ places,
      ∃ made, settled read sections stock place = .ok made ∧ get result place = some made := by
  induction places generalizing start with
  | nil => exact List.forall_mem_nil _
  | cons place rest ih =>
    obtain ⟨fresh, distinct⟩ := List.nodup_cons.mp distinct
    obtain ⟨here, others⟩ := List.forall_mem_cons.mp stocked
    rw [List.foldlM_cons] at granted
    obtain ⟨next, first, later⟩ := bind_eq_ok_iff.mp granted
    refine List.forall_mem_cons.mpr ⟨?_, ih distinct (fun other listed => ?_) later⟩
    · obtain ⟨made, chosen, held⟩ := layOn_here get law first here
      refine ⟨made, chosen, ?_⟩
      rw [← held]
      refine foldlM_layOn_keeps (get · place) ?_ later
      intro other listed state given
      have apart : place ≠ other := fun same => fresh (same ▸ listed)
      rw [law, if_neg apart]
    · rw [← others other listed]
      refine layOn_keeps (get · other) ?_ first
      intro state given
      have apart : other ≠ place := fun same => fresh (same ▸ listed)
      rw [law, if_neg apart]

end Places

end Sections

namespace WeightsConfig

variable {config : WeightsConfig} {table : WeightTable}

def weightsOf (config : WeightsConfig) : Kind → Except SearchError FieldWeights :=
  settled (fun _ => FieldWeights.ofNamed) config.direct WeightTable.stockDirect

def ruleOf (config : WeightsConfig) : Relation → Except SearchError TransitiveRule :=
  settled (fun relation rule => rule.toRule relation) config.rules fun relation =>
    .ofRelation relation (WeightTable.stockLent relation)

-- The sections give the table, with weights for every kind and a rule for every relation.
structure Gives (config : WeightsConfig) (table : WeightTable) : Prop where
  direct : ∀ kind, ∃ weights, config.weightsOf kind = .ok weights ∧
    table.direct? kind = some weights
  rules : ∀ relation, ∃ rule, config.ruleOf relation = .ok rule ∧
    table.rule? relation = some rule

theorem Gives.unique {other : WeightTable} (gives : config.Gives table)
    (others : config.Gives other) : table = other := by
  refine WeightTable.ext_lookup (fun kind => ?_) fun relation => ?_
  · obtain ⟨weights, chosen, held⟩ := gives.direct kind
    obtain ⟨same, again, there⟩ := others.direct kind
    cases chosen.symm.trans again
    rw [held, there]
  · obtain ⟨rule, chosen, held⟩ := gives.rules relation
    obtain ⟨same, again, there⟩ := others.rules relation
    cases chosen.symm.trans again
    rw [held, there]

theorem overlay_eq (config : WeightsConfig) :
    config.overlay =
      (Kind.all.foldlM (layOn WeightTable.withDirect (fun _ => FieldWeights.ofNamed) config.direct)
          WeightTable.stock >>= fun table =>
        Relation.all.foldlM
          (layOn WeightTable.withRule (fun relation rule => rule.toRule relation) config.rules)
          table) := by
  unfold overlay layOn
  congr 1
  · congr 1
    funext held kind
    cases config.direct kind <;> rfl
  · funext table
    congr 1
    funext held relation
    cases config.rules relation <;> rfl

theorem gives_of_overlay (made : config.overlay = .ok table) : config.Gives table := by
  rw [overlay_eq] at made
  obtain ⟨weighed, direct, rules⟩ := bind_eq_ok_iff.mp made
  have unruled : weighed.rule? = WeightTable.stock.rule? := by
    refine foldlM_layOn_keeps WeightTable.rule? ?_ direct
    exact fun _ _ _ _ => rfl
  have undirected : table.direct? = weighed.direct? := by
    refine foldlM_layOn_keeps WeightTable.direct? ?_ rules
    exact fun _ _ _ _ => rfl
  constructor
  · intro kind
    rw [undirected]
    exact foldlM_layOn WeightTable.direct? (fun _ _ _ _ => rfl) (by decide)
      (fun _ _ => rfl) direct kind (Kind.mem_all kind)
  · intro relation
    exact foldlM_layOn WeightTable.rule? (fun _ _ _ _ => rfl) (by decide)
      (fun other _ => by rw [unruled]; rfl) rules relation (Relation.mem_all relation)

theorem overlay_ok_iff : config.overlay = .ok table ↔ config.Gives table := by
  refine ⟨gives_of_overlay, fun gives => ?_⟩
  have weighs (kind : Kind) : ∃ weights, config.weightsOf kind = .ok weights := by
    obtain ⟨weights, chosen, _⟩ := gives.direct kind
    exact ⟨weights, chosen⟩
  have lends (relation : Relation) : ∃ rule, config.ruleOf relation = .ok rule := by
    obtain ⟨rule, chosen, _⟩ := gives.rules relation
    exact ⟨rule, chosen⟩
  obtain ⟨weighed, direct⟩ := foldlM_layOn_grants WeightTable.withDirect
    (fun kind _ => weighs kind) WeightTable.stock
  obtain ⟨result, ruled⟩ := foldlM_layOn_grants WeightTable.withRule
    (fun relation _ => lends relation) weighed
  have made : config.overlay = .ok result := by
    rw [overlay_eq]
    exact bind_granted direct ruled
  rw [made, gives.unique (gives_of_overlay made)]

end WeightsConfig

-- A configuration is accepted where all its sections can be read and the table fits the schema.
theorem Config.weightTable_ok_iff {config : Config} {table : WeightTable} :
    config.weightTable = .ok table ↔ config.weights.Gives table ∧ table.Fits := by
  rw [← WeightsConfig.overlay_ok_iff, ← table.validate_ok_iff]
  unfold weightTable
  constructor
  · intro made
    obtain ⟨overlaid, laid, made⟩ := bind_eq_ok_iff.mp made
    obtain ⟨_, checked, made⟩ := bind_eq_ok_iff.mp made
    cases made
    exact ⟨laid, checked⟩
  · rintro ⟨laid, checked⟩
    exact bind_granted laid (bind_granted checked rfl)

end SiteSearch
