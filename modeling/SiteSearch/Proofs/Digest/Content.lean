import SiteSearch.Proofs.Digest.Delimited
import SiteSearch.Proofs.Store.Content

-- The canonical bytes of a store against its content. Whatever two stores write alike they hold
-- alike, collection by collection and field by field; scores are not written.
namespace SiteSearch

theorem Field.index_inj {field other : Field} (same : field.index = other.index) :
    field = other := by
  revert same
  cases field <;> cases other <;> decide

theorem Kind.nodup_fields (kind : Kind) : kind.fields.Nodup := by
  cases kind <;> decide

namespace Node

theorem mem_present (node : Node) (field : Field) (value : String) :
    (field, value) ∈ node.present ↔
      node.kind.carries field = true ∧ node.get? field = some value := by
  unfold present Kind.carries
  rw [List.mem_filterMap, List.contains_iff_mem]
  constructor
  · rintro ⟨carried, listed, entry⟩
    obtain ⟨text, found, pair⟩ := Option.map_eq_some_iff.mp entry
    obtain ⟨rfl, rfl⟩ := Prod.mk.inj pair
    exact ⟨listed, found⟩
  · rintro ⟨listed, found⟩
    exact ⟨field, listed, by rw [found]; rfl⟩

theorem fields_present_sublist (node : Node) :
    (node.present.map (·.1)).Sublist node.kind.fields := by
  have shown : node.present.map (·.1) =
      node.kind.fields.filter fun field => (node.get? field).isSome := by
    unfold present
    rw [List.map_filterMap, ← List.filterMap_eq_filter]
    apply List.filterMap_congr
    intro field _
    cases found : node.get? field <;> simp [Option.guard, found]
  rw [shown]
  exact List.filter_sublist

theorem nodup_present (node : Node) : (node.present.map (·.1)).Nodup :=
  node.fields_present_sublist.nodup node.kind.nodup_fields

theorem mem_presentAttributes (node : Node) (field : Field) (value : String) :
    (field, value) ∈ node.presentAttributes ↔
      (node.kind.carries field = true ∧ node.get? field = some value) ∧ field ≠ .id := by
  unfold presentAttributes
  rw [List.mem_filter, mem_present, bne_iff_ne]

-- A text under an attribute that the kind carries is among the written ones, and the others of a
-- conforming node are not there at all.
theorem Conforms.get?_eq_some_iff {node : Node} (conforms : node.Conforms) (field : Field)
    (value : String) :
    node.attributes.get? field = some value ↔ (field, value) ∈ node.presentAttributes := by
  rw [mem_presentAttributes]
  constructor
  · intro found
    have apart : field ≠ .id := by
      rintro rfl
      cases found
    have carried : node.kind.carries field = true := by
      by_contra missing
      rw [conforms field (Bool.eq_false_iff.mpr missing)] at found
      cases found
    exact ⟨⟨carried, (node.get?_of_ne_id apart).trans found⟩, apart⟩
  · rintro ⟨⟨-, found⟩, apart⟩
    exact (node.get?_of_ne_id apart).symm.trans found

theorem Conforms.attributes_eq {a b : Node} (one : a.Conforms) (two : b.Conforms)
    (same : a.presentAttributes = b.presentAttributes) : a.attributes = b.attributes := by
  refine Attributes.ext_get? fun field => Option.ext fun value => ?_
  rw [one.get?_eq_some_iff, two.get?_eq_some_iff, same]

theorem presentAttributes_resetScore (node : Node) :
    node.resetScore.presentAttributes = node.presentAttributes := by
  unfold presentAttributes present
  simp only [get?_resetScore]
  rfl

theorem present_resetScore (node : Node) : node.resetScore.present = node.present := by
  unfold present
  simp only [get?_resetScore]
  rfl

end Node

namespace Digest

theorem writeEntry_delimited : Delimited id writeEntry := by
  intro x y rest other same
  have pair := (writeNat_delimited.comp fun entry : Field × String => entry.1.index).append
    (writeText_delimited.comp fun entry : Field × String => entry.2)
  obtain ⟨views, tails⟩ := pair x y rest other same
  obtain ⟨fields, texts⟩ := Prod.mk.inj views
  exact ⟨Prod.ext (Field.index_inj fields) texts, tails⟩

theorem writeNode_delimited :
    Delimited (fun node : Node => (node.id, node.presentAttributes)) writeNode := by
  intro x y rest other same
  have pair := (writeText_delimited.comp Node.id).append
    ((writeList_delimited writeEntry_delimited).comp Node.presentAttributes)
  obtain ⟨views, tails⟩ := pair x y rest other same
  obtain ⟨ids, attributes⟩ := Prod.mk.inj views
  rw [List.map_id, List.map_id] at attributes
  exact ⟨Prod.ext ids attributes, tails⟩

def written (store : Store) (kind : Kind) : Option (List (String × List (Field × String))) :=
  (store.collection kind).map (·.map fun node => (node.id, node.presentAttributes))

theorem writeCollection_delimited (kind : Kind) :
    Delimited (fun store => written store kind)
      (fun store => writeCollection kind (store.collection kind)) := by
  intro a b rest other same
  have nodes := (writeOption_delimited (writeList_delimited writeNode_delimited)).comp
    fun store : Store => store.collection kind
  unfold writeCollection at same
  rw [List.append_assoc, List.append_assoc] at same
  exact nodes a b rest other (List.append_cancel_left same)

theorem written_eq {a b : Store} (same : canonicalBytes a = canonicalBytes b) (kind : Kind) :
    written a kind = written b kind := by
  have bodies := List.append_cancel_left same
  have all := (Delimited.inTurn writeCollection_delimited Kind.all).view_eq bodies
  exact List.map_inj_left.mp all kind kind.mem_all

theorem writeNode_resetScore (node : Node) : writeNode node.resetScore = writeNode node := by
  unfold writeNode
  rw [Node.presentAttributes_resetScore]
  rfl

theorem writeCollection_resetScores (store : Store) (kind : Kind) :
    writeCollection kind (store.resetScores.collection kind) =
      writeCollection kind (store.collection kind) := by
  unfold Store.resetScores
  rw [Store.collection_mapNodes]
  cases store.collection kind with
  | none => rfl
  | some nodes =>
    simp only [writeCollection, writeOption, writeList, Option.map_some, List.length_map,
      List.flatMap_map, writeNode_resetScore]

theorem canonicalBytes_resetScores (store : Store) :
    canonicalBytes store.resetScores = canonicalBytes store := by
  unfold canonicalBytes
  exact congrArg (writeList · Kind.all) (funext (writeCollection_resetScores store))

theorem resetScore_eq_of_written {x y : Node} (kinds : x.kind = y.kind) (one : x.Conforms)
    (two : y.Conforms) (same : (x.id, x.presentAttributes) = (y.id, y.presentAttributes)) :
    x.resetScore = y.resetScore := by
  obtain ⟨ids, entries⟩ := Prod.mk.inj same
  unfold Node.resetScore
  rw [Node.mk.injEq]
  exact ⟨kinds, ids, one.attributes_eq two entries, rfl⟩

theorem canonicalBytes_congr {a b : Store} (same : a.SameContent b) :
    canonicalBytes a = canonicalBytes b := by
  rw [← canonicalBytes_resetScores a, ← canonicalBytes_resetScores b]
  exact congrArg canonicalBytes same

theorem canonicalBytes_inj {a b : Store} (aKinded : a.WellKinded) (bKinded : b.WellKinded)
    (aConforms : a.Conforms) (bConforms : b.Conforms)
    (same : canonicalBytes a = canonicalBytes b) : a.SameContent b := by
  refine Store.sameContent_of_view (fun kind x left y right equal => ?_) (written_eq same)
  have kinds := (aKinded kind x left).trans (bKinded kind y right).symm
  exact resetScore_eq_of_written kinds (aConforms kind x left) (bConforms kind y right) equal

theorem canonicalBytes_eq_iff_content {a b : Store} (aKinded : a.WellKinded)
    (bKinded : b.WellKinded) (aConforms : a.Conforms) (bConforms : b.Conforms) :
    (canonicalBytes a = canonicalBytes b ↔ a.resetScores = b.resetScores) ∧
    (a.resetScores = b.resetScores ↔ ∀ kind,
      (a.collection kind).map (·.map fun node => (node.id, node.present)) =
        (b.collection kind).map (·.map fun node => (node.id, node.present))) := by
  refine ⟨⟨canonicalBytes_inj aKinded bKinded aConforms bConforms, canonicalBytes_congr⟩, ?_⟩
  constructor
  · intro same kind
    have blind (node : Node) :
        (node.resetScore.id, node.resetScore.present) = (node.id, node.present) :=
      Prod.ext rfl node.present_resetScore
    exact Store.SameContent.view same _ blind kind
  · intro same
    refine Store.sameContent_of_view (fun kind x left y right equal => ?_) same
    obtain ⟨ids, fields⟩ := Prod.mk.inj equal
    have kinds := (aKinded kind x left).trans (bKinded kind y right).symm
    have attributes : x.presentAttributes = y.presentAttributes :=
      congrArg (List.filter fun entry : Field × String => entry.1 != .id) fields
    exact resetScore_eq_of_written kinds (aConforms kind x left) (bConforms kind y right)
      (Prod.ext ids attributes)

-- A lock with or without a name, beside an empty collection of groups or none.
def loneLock (name : Option String) (grouped : Bool) (score : Score) : Store where
  locks := some [{ kind := .lock, id := "l1", attributes := { name }, score }]
  groups := if grouped then some [] else none

theorem loneLock_wellKinded (name : Option String) (grouped : Bool) (score : Score) :
    (loneLock name grouped score).WellKinded := by
  intro kind node member
  cases kind <;> cases grouped <;> simp_all [loneLock, Store.collection]

theorem loneLock_conforms (name : Option String) (grouped : Bool) (score : Score) :
    (loneLock name grouped score).Conforms := by
  intro kind node member field missing
  have only : node = { kind := .lock, id := "l1", attributes := { name }, score } := by
    cases kind <;> cases grouped <;> simp_all [loneLock, Store.collection]
  subst only
  cases field <;> first | rfl | cases missing

theorem canonicalBytes_of_loneLock :
    canonicalBytes (loneLock (some "") false 70) = canonicalBytes (loneLock (some "") false 0) ∧
      canonicalBytes (loneLock (some "") false 0) ≠ canonicalBytes (loneLock none false 0) ∧
      canonicalBytes (loneLock none false 0) ≠ canonicalBytes (loneLock none true 0) := by
  have compare (one other : Option String) (first second : Bool) (early late : Score) :=
    (canonicalBytes_eq_iff_content (loneLock_wellKinded one first early)
      (loneLock_wellKinded other second late) (loneLock_conforms one first early)
      (loneLock_conforms other second late)).1
  refine ⟨(compare _ _ _ _ _ _).mpr (by decide), ?_, ?_⟩
  · rw [Ne, compare]
    decide
  · rw [Ne, compare]
    decide

end Digest

end SiteSearch
