import Mathlib.Data.List.Nodup
import SiteSearch.Proofs.Digest.Content
import SiteSearch.Proofs.Digest.Fold
import SiteSearch.Proofs.Ranking.TableFit

-- Small edits and the checksum: one byte in place of another, or two different bytes in each
-- other's place. A text of a node stands in the canonical bytes as it is, so a small edit of the
-- text is a small edit of the bytes, and the checksum tells the two stores apart.
namespace SiteSearch

namespace Digest

-- The bytes of two places, each put where the other was.
def exchange (bytes : Bytes) (first second : Fin bytes.length) : Bytes :=
  (bytes.set first bytes[second]).set second bytes[first]

-- The checksum turns all the way round in sixty-four places, so two bytes at such a distance are
-- left out.
inductive SmallEdit (bytes : Bytes) : Bytes → Prop where
  | replaced {other : Bytes} (lengths : bytes.length = other.length)
      (once : ∃! place : Nat, bytes[place]? ≠ other[place]?) : SmallEdit bytes other
  | exchanged {first second : Fin bytes.length} (order : first < second)
      (apart : bytes[first] ≠ bytes[second]) (offTurn : ¬ 64 ∣ second.val - first.val) :
      SmallEdit bytes (exchange bytes first second)

section Shapes

variable {bytes other : Bytes}

theorem split_at {place : Nat} {byte : UInt8} (here : bytes[place]? = some byte) :
    ∃ front back, bytes = front ++ byte :: back ∧ front.length = place := by
  obtain ⟨inside, rfl⟩ := List.getElem?_eq_some_iff.mp here
  refine ⟨bytes.take place, bytes.drop (place + 1), ?_, ?_⟩
  · rw [← List.drop_eq_getElem_cons inside, List.take_append_drop]
  · rw [List.length_take]
    omega

theorem replaced_shape (lengths : bytes.length = other.length)
    (once : ∃! place : Nat, bytes[place]? ≠ other[place]?) :
    ∃ front back byte changed, byte ≠ changed ∧ bytes = front ++ byte :: back ∧
      other = front ++ changed :: back := by
  obtain ⟨place, differs, only⟩ := once
  have inside : place < bytes.length := by
    by_contra beyond
    apply differs
    rw [List.getElem?_eq_none (by omega), List.getElem?_eq_none (by omega)]
  have there : place < other.length := by omega
  have alike (spot : Nat) (apart : spot ≠ place) : bytes[spot]? = other[spot]? := by
    by_contra unlike
    exact apart (only spot unlike)
  refine ⟨bytes.take place, bytes.drop (place + 1), bytes[place], other[place], ?_, ?_, ?_⟩
  · intro same
    apply differs
    rw [List.getElem?_eq_getElem inside, List.getElem?_eq_getElem there, same]
  · rw [← List.drop_eq_getElem_cons inside, List.take_append_drop]
  · have fronts : bytes.take place = other.take place := by
      apply List.ext_getElem?
      intro spot
      rw [List.getElem?_take, List.getElem?_take]
      by_cases before : spot < place
      · rw [if_pos before, if_pos before, alike spot (by omega)]
      · rw [if_neg before, if_neg before]
    have backs : bytes.drop (place + 1) = other.drop (place + 1) := by
      apply List.ext_getElem?
      intro spot
      rw [List.getElem?_drop, List.getElem?_drop, alike _ (by omega)]
    rw [fronts, backs, ← List.drop_eq_getElem_cons there, List.take_append_drop]

theorem split_at_two {first second : Nat} (order : first < second) {byte changed : UInt8}
    (here : bytes[first]? = some byte) (there : bytes[second]? = some changed) :
    ∃ front between back, bytes = front ++ byte :: (between ++ changed :: back) ∧
      front.length = first ∧ second = first + (between.length + 1) := by
  obtain ⟨head, back, rfl, headSize⟩ := split_at there
  rw [List.getElem?_append_left (by omega)] at here
  obtain ⟨front, between, rfl, frontSize⟩ := split_at here
  refine ⟨front, between, back, ?_, frontSize, ?_⟩
  · rw [List.append_assoc, List.cons_append]
  · rw [← headSize, List.length_append, List.length_cons, frontSize]

theorem exchange_shape {first second : Fin bytes.length} (order : first < second) :
    ∃ front between back, second.val - first.val = between.length + 1 ∧
      bytes = front ++ bytes[first] :: (between ++ bytes[second] :: back) ∧
      exchange bytes first second =
        front ++ bytes[second] :: (between ++ bytes[first] :: back) := by
  obtain ⟨first, inFirst⟩ := first
  obtain ⟨second, inSecond⟩ := second
  have before : first < second := order
  obtain ⟨front, between, back, whole, early, late⟩ := split_at_two before
    (List.getElem?_eq_getElem inFirst) (List.getElem?_eq_getElem inSecond)
  refine ⟨front, between, back, by dsimp only; omega, whole, ?_⟩
  unfold exchange
  simp only [Fin.getElem_fin]
  generalize bytes[first] = byte at *
  generalize bytes[second] = changed at *
  have passed : second = (front ++ changed :: between).length := by
    rw [List.length_append, List.length_cons, early, late]
  have once : bytes.set first changed = (front ++ changed :: between) ++ changed :: back := by
    rw [whole, ← early, List.set_append_right _ _ (Nat.le_refl _), Nat.sub_self,
      List.set_cons_zero, List.append_assoc, List.cons_append]
  rw [once, passed, List.set_append_right _ _ (Nat.le_refl _), Nat.sub_self, List.set_cons_zero,
    List.append_assoc, List.cons_append]

end Shapes

theorem checksumOf_exchange_eq_iff {bytes : Bytes} {first second : Fin bytes.length}
    (order : first < second) (apart : bytes[first] ≠ bytes[second]) :
    checksumOf (exchange bytes first second) = checksumOf bytes ↔
      64 ∣ second.val - first.val := by
  obtain ⟨front, between, back, distance, whole, swapped⟩ := exchange_shape order
  have sums := checksumOf_exchanged_eq_iff front between back apart
  rw [← whole, ← swapped, ← distance] at sums
  exact sums

-- A small edit is noticed wherever the edited piece stands.
theorem SmallEdit.checksumOf_within_ne {piece changed : Bytes} (edit : SmallEdit piece changed)
    (front back : Bytes) :
    checksumOf (front ++ changed ++ back) ≠ checksumOf (front ++ piece ++ back) := by
  cases edit with
  | replaced lengths once =>
    obtain ⟨before, after, byte, other, apart, rfl, rfl⟩ := replaced_shape lengths once
    have noticed := checksumOf_replaced_ne (front ++ before) (after ++ back) apart
    simpa only [List.append_assoc, List.cons_append] using noticed
  | exchanged order apart offTurn =>
    obtain ⟨before, between, after, distance, whole, swapped⟩ := exchange_shape order
    have noticed := checksumOf_exchanged_eq_iff (front ++ before) between (after ++ back) apart
    rw [← distance] at noticed
    rw [swapped]
    intro same
    apply offTurn
    apply noticed.mp
    have pieces := congrArg (fun piece => checksumOf (front ++ piece ++ back)) whole
    simpa only [List.append_assoc, List.cons_append] using same.trans pieces

theorem SmallEdit.length_eq {bytes other : Bytes} (edit : SmallEdit bytes other) :
    bytes.length = other.length := by
  cases edit with
  | replaced lengths once => exact lengths
  | exchanged order apart offTurn => simp [exchange]

theorem SmallEdit.checksumOf_ne {bytes other : Bytes} (edit : SmallEdit bytes other) :
    checksumOf other ≠ checksumOf bytes := by
  simpa only [List.nil_append, List.append_nil] using edit.checksumOf_within_ne [] []

-- The same bytes but for one piece, which is the old one here and the new one there.
def Reworded (old new one other : Bytes) : Prop :=
  ∃ front back, one = front ++ old ++ back ∧ other = front ++ new ++ back

namespace Reworded

variable {old new one other : Bytes}

theorem whole (old new : Bytes) : Reworded old new old new :=
  ⟨[], [], by simp, by simp⟩

theorem append_left (reworded : Reworded old new one other) (front : Bytes) :
    Reworded old new (front ++ one) (front ++ other) := by
  obtain ⟨before, after, rfl, rfl⟩ := reworded
  exact ⟨front ++ before, after, by simp, by simp⟩

theorem append_right (reworded : Reworded old new one other) (back : Bytes) :
    Reworded old new (one ++ back) (other ++ back) := by
  obtain ⟨before, after, rfl, rfl⟩ := reworded
  exact ⟨before, after ++ back, by simp, by simp⟩

theorem flatMap {α : Type} {write : α → Bytes} {before after : List α} {item changed : α}
    (reworded : Reworded old new (write item) (write changed)) :
    Reworded old new ((before ++ item :: after).flatMap write)
      ((before ++ changed :: after).flatMap write) := by
  simp only [List.flatMap_append, List.flatMap_cons]
  exact (reworded.append_right _).append_left _

theorem writeList {α : Type} {write : α → Bytes} {before after : List α} {item changed : α}
    (reworded : Reworded old new (write item) (write changed)) :
    Reworded old new (Digest.writeList write (before ++ item :: after))
      (Digest.writeList write (before ++ changed :: after)) := by
  have lengths : (before ++ item :: after).length = (before ++ changed :: after).length := by
    simp only [List.length_append, List.length_cons]
  unfold Digest.writeList
  rw [lengths]
  exact reworded.flatMap.append_left _

-- One turn writes the old piece here and the new one there; all others write the same.
theorem inTurn {α : Type} {write rewrite : α → Bytes} {turns : List α} (distinct : turns.Nodup)
    {turn : α} (listed : turn ∈ turns) (reworded : Reworded old new (write turn) (rewrite turn))
    (alike : ∀ another, another ≠ turn → write another = rewrite another) :
    Reworded old new (turns.flatMap write) (turns.flatMap rewrite) := by
  obtain ⟨before, after, rfl⟩ := List.append_of_mem listed
  obtain ⟨early, late⟩ := not_or.mp (List.mem_append.not.mp
    (List.nodup_middle.mp distinct |> List.nodup_cons.mp).1)
  have fronts : before.flatMap write = before.flatMap rewrite :=
    List.flatMap_congr fun another member => alike another fun same => early (same ▸ member)
  have backs : after.flatMap write = after.flatMap rewrite :=
    List.flatMap_congr fun another member => alike another fun same => late (same ▸ member)
  simp only [List.flatMap_append, List.flatMap_cons, fronts, backs]
  exact (reworded.append_right _).append_left _

end Reworded

theorem length_toUTF8 (text : String) : text.toUTF8.toList.length = text.utf8ByteSize := by
  rw [byteList_eq]
  rfl

-- The text is preceded by its length, so only texts of one length are written alike around it.
theorem reworded_writeText {old new : String} (sizes : old.utf8ByteSize = new.utf8ByteSize) :
    Reworded old.toUTF8.toList new.toUTF8.toList (writeText old) (writeText new) := by
  unfold writeText
  rw [sizes]
  exact (Reworded.whole _ _).append_left _

end Digest

namespace Node

-- What a node writes for a field, if anything.
def part? (node : Node) (field : Field) : Option (Field × String) :=
  ((node.get? field).map (field, ·)).filter fun entry => entry.1 != .id

theorem presentAttributes_eq (node : Node) :
    node.presentAttributes = node.kind.fields.filterMap node.part? :=
  List.filter_filterMap

section Written

variable {node next : Node} {field : Field} {old new : String}
  (written : node.write field new = .ok next)

include written

theorem id_write (apart : field ≠ .id) : next.id = node.id := by
  have identifier := (write_gives written).2.2 .id
  rw [if_neg (Ne.symm apart)] at identifier
  exact Option.some.inj identifier

theorem part?_write {other : Field} (apart : other ≠ field) :
    next.part? other = node.part? other := by
  unfold part?
  rw [(write_gives written).2.2 other, if_neg apart]

theorem presentAttributes_write_id (identifier : field = .id) :
    next.presentAttributes = node.presentAttributes := by
  rw [presentAttributes_eq, presentAttributes_eq, (write_gives written).2.1]
  apply List.filterMap_congr
  intro other _
  by_cases same : other = field
  · rw [same, identifier]
    rfl
  · exact part?_write written same

theorem presentAttributes_write (apart : field ≠ .id) (held : node.get? field = some old) :
    ∃ before after, node.presentAttributes = before ++ (field, old) :: after ∧
      next.presentAttributes = before ++ (field, new) :: after := by
  obtain ⟨carried, kinds, texts⟩ := write_gives written
  obtain ⟨early, late, order⟩ := List.append_of_mem (List.contains_iff_mem.mp carried)
  have distinct : (early ++ field :: late).Nodup := by
    rw [← order]
    exact node.kind.nodup_fields
  obtain ⟨fresh, _⟩ := List.nodup_cons.mp (List.nodup_middle.mp distinct)
  have kept (others : List Field) (absent : field ∉ others) :
      others.filterMap next.part? = others.filterMap node.part? := by
    apply List.filterMap_congr
    intro other listed
    exact part?_write written fun same => absent (same ▸ listed)
  have keyed : ((field != .id) = true) := bne_iff_ne.mpr apart
  have here : node.part? field = some (field, old) := by
    simp [part?, held, keyed]
  have there : next.part? field = some (field, new) := by
    simp [part?, texts field, keyed]
  refine ⟨early.filterMap node.part?, late.filterMap node.part?, ?_, ?_⟩
  · rw [presentAttributes_eq, order, List.filterMap_append, List.filterMap_cons_some here]
  · rw [presentAttributes_eq, kinds, order, List.filterMap_append,
      List.filterMap_cons_some there, kept early, kept late]
    · exact fun listed => fresh (List.mem_append_right _ listed)
    · exact fun listed => fresh (List.mem_append_left _ listed)

end Written

end Node

namespace Digest

section Rewritten

variable {node next : Node} {field : Field} {old new : String}
  (held : node.read field = .ok (some old)) (written : node.write field new = .ok next)
  (sizes : old.utf8ByteSize = new.utf8ByteSize)

include held written sizes

theorem reworded_writeNode :
    Reworded old.toUTF8.toList new.toUTF8.toList (writeNode node) (writeNode next) := by
  obtain ⟨_, held⟩ := (node.read_eq_ok_iff field (some old)).mp held
  unfold writeNode
  by_cases identifier : field = .id
  · have before : node.id = old := by
      rw [identifier] at held
      exact Option.some.inj held
    have after : next.id = new := by
      have told := (Node.write_gives written).2.2 field
      rw [if_pos rfl, identifier] at told
      exact Option.some.inj told
    rw [Node.presentAttributes_write_id written identifier, before, after]
    exact (reworded_writeText sizes).append_right _
  · obtain ⟨before, after, shape, changed⟩ := Node.presentAttributes_write written identifier held
    rw [Node.id_write written identifier, shape, changed]
    apply Reworded.append_left
    apply Reworded.writeList
    exact (reworded_writeText sizes).append_left _

theorem reworded_canonicalBytes {store : Store} {kind : Kind} {before after : List Node}
    (found : store.collection kind = some (before ++ node :: after)) :
    Reworded old.toUTF8.toList new.toUTF8.toList (canonicalBytes store)
      (canonicalBytes (store.put kind (before ++ next :: after))) := by
  have collection : Reworded old.toUTF8.toList new.toUTF8.toList
      (writeCollection kind (some (before ++ node :: after)))
      (writeCollection kind (some (before ++ next :: after))) := by
    apply Reworded.append_left
    exact (reworded_writeNode held written sizes).writeList.append_left [1]
  unfold canonicalBytes
  apply Reworded.append_left
  apply Reworded.inTurn (by decide) kind.mem_all
  · rwa [found, Store.collection_put, if_pos rfl]
  · intro other apart
    rw [Store.collection_put, if_neg apart]

end Rewritten

-- A small edit is never lost in the checksum, be it of any bytes, of the canonical bytes of a
-- store or of a text that a node of the store carries. Two bytes in each other's place are lost
-- only where the fold has turned round in between.
theorem checksum_notices_small_edits :
    (∀ one other : Bytes, one.length = other.length →
      (∃! place : Nat, one[place]? ≠ other[place]?) → checksumOf other ≠ checksumOf one) ∧
    (∀ (bytes : Bytes) (first second : Fin bytes.length), first < second →
      bytes[first] ≠ bytes[second] →
      (checksumOf (exchange bytes first second) = checksumOf bytes ↔
        64 ∣ second.val - first.val)) ∧
    (∀ a b : Store, SmallEdit (canonicalBytes a) (canonicalBytes b) → checksum b ≠ checksum a) ∧
    (∀ (store : Store) (kind : Kind) (before after : List Node) (node next : Node) (field : Field)
      (old new : String), store.collection kind = some (before ++ node :: after) →
      node.read field = .ok (some old) → node.write field new = .ok next →
      SmallEdit old.toUTF8.toList new.toUTF8.toList →
      checksum (store.put kind (before ++ next :: after)) ≠ checksum store) := by
  refine ⟨?_, ?_, ?_, ?_⟩
  · intro one other lengths once
    exact (SmallEdit.replaced lengths once).checksumOf_ne
  · intro bytes first second order apart
    exact checksumOf_exchange_eq_iff order apart
  · intro a b edit
    exact edit.checksumOf_ne
  · intro store kind before after node next field old new found held written edit
    have sizes : old.utf8ByteSize = new.utf8ByteSize := by
      rw [← length_toUTF8, ← length_toUTF8]
      exact edit.length_eq
    obtain ⟨front, back, here, there⟩ := reworded_canonicalBytes held written sizes found
    unfold checksum
    rw [here, there]
    exact edit.checksumOf_within_ne front back

-- A name with its last letter replaced, and with its last two letters in each other's place.
theorem checksum_notices_small_edits_of_loneLock :
    SmallEdit "Tower".toUTF8.toList "Towel".toUTF8.toList ∧
      checksum (loneLock (some "Towel") true 0) ≠ checksum (loneLock (some "Tower") true 0) ∧
      SmallEdit "Tower".toUTF8.toList "Towre".toUTF8.toList ∧
      checksum (loneLock (some "Towre") true 0) ≠ checksum (loneLock (some "Tower") true 0) := by
  have tower : "Tower".toUTF8.toList = [84, 111, 119, 101, 114] := by
    rw [byteList_eq]
    rfl
  have towel : "Towel".toUTF8.toList = [84, 111, 119, 101, 108] := by
    rw [byteList_eq]
    rfl
  have swapped : "Towre".toUTF8.toList = [84, 111, 119, 114, 101] := by
    rw [byteList_eq]
    rfl
  have replaced : SmallEdit "Tower".toUTF8.toList "Towel".toUTF8.toList := by
    rw [tower, towel]
    refine .replaced rfl ⟨4, by decide, fun place differs => ?_⟩
    by_contra elsewhere
    apply differs
    rcases place with _ | _ | _ | _ | _ | place
    all_goals first | rfl | exact absurd rfl elsewhere
  have exchanged : SmallEdit "Tower".toUTF8.toList "Towre".toUTF8.toList := by
    rw [tower, swapped]
    exact @SmallEdit.exchanged _ 3 4 (by decide) (by decide) (by decide)
  obtain ⟨_, _, _, texts⟩ := checksum_notices_small_edits
  have noticed (name : String) (edit : SmallEdit "Tower".toUTF8.toList name.toUTF8.toList) :=
    texts (loneLock (some "Tower") true 0) .lock [] []
      { kind := .lock, id := "l1", attributes := { name := some "Tower" } }
      { kind := .lock, id := "l1", attributes := { name := some name } }
      .name "Tower" name rfl rfl rfl edit
  exact ⟨replaced, noticed "Towel" replaced, exchanged, noticed "Towre" exchanged⟩

end Digest

end SiteSearch
