import Mathlib.Data.List.Basic
import SiteSearch.Command.Files
import SiteSearch.Proofs.Json.Parts
import SiteSearch.Proofs.Store.Content
import SiteSearch.Proofs.Store.Delivered

-- How many nodes a file can deliver. Every record of a snapshot is a value in the text of its file,
-- and the lists of the four kinds stand apart in it, so there are no more nodes than bytes.
namespace SiteSearch

open Json

theorem Wire.length_records_le {found : Found} {kind : Kind} {records : Option (List Record)}
    (got : found.get (Wire.records kind) = .ok records) :
    (records.getD []).length ≤ sizeUnder found.members kind.collection := by
  unfold Found.get Wire.records Member.defaulted at got
  unfold sizeUnder
  dsimp only at got
  cases here : found.members.lookup kind.collection with
  | none =>
    rw [here, ite_self] at got
    cases got
    exact Nat.zero_le _
  | some reading =>
    rw [here] at got
    dsimp only at got
    unfold Reading.optional at got
    split at got
    · cases got
      exact Nat.zero_le _
    · cases read : Reading.list Wire.record reading with
      | error fault =>
        rw [read] at got
        cases got
      | ok list =>
        rw [read] at got
        cases got
        exact Reading.length_list_le read

theorem Wire.length_snapshot_le {reading : Reading} {snapshot : Snapshot}
    (read : Wire.snapshot reading = .ok snapshot) :
    (Kind.all.map fun kind => ((snapshot.records kind).getD []).length).sum ≤ reading.size := by
  obtain ⟨found, built, parts⟩ := Reading.record_parts read
  obtain ⟨buildings, one, built⟩ := bind_eq_ok_iff.mp built
  obtain ⟨locks, two, built⟩ := bind_eq_ok_iff.mp built
  obtain ⟨groups, three, built⟩ := bind_eq_ok_iff.mp built
  obtain ⟨media, four, built⟩ := bind_eq_ok_iff.mp built
  cases built
  have distinct : (Kind.all.map Kind.collection).Nodup := by decide
  have apart := sum_sizeUnder_le distinct found.members
  have first := length_records_le one
  have second := length_records_le two
  have third := length_records_le three
  have fourth := length_records_le four
  simp only [Kind.all, List.map_cons, List.map_nil, List.sum_cons, List.sum_nil,
    Snapshot.records] at apart ⊢
  omega

theorem Snapshot.length_collection {snapshot : Snapshot} {store : Store}
    (made : snapshot.toStore = .ok store) (kind : Kind) :
    ((store.collection kind).getD []).length = ((snapshot.records kind).getD []).length := by
  have alike := nodesOf_ok_iff.mp (nodesOf_collection made kind)
  generalize snapshot.records kind = records, store.collection kind = nodes at alike ⊢
  cases alike with
  | none => rfl
  | some each => exact each.length_eq.symm

theorem Wire.storeOfBytes_delivers {bytes : List UInt8} {store : Store}
    (parsed : storeOfBytes bytes = .ok store) :
    (∃ snapshot : Snapshot, snapshot.toStore = .ok store) ∧ store.nodeCount ≤ bytes.length := by
  unfold storeOfBytes storeOfDocument at parsed
  split at parsed
  · next snapshot decoded =>
    obtain ⟨_, read, decoded⟩ := bind_eq_ok_iff.mp decoded
    split at decoded
    · next whole =>
      cases decoded
      refine ⟨⟨snapshot, parsed⟩, ?_⟩
      simp only [store.nodeCount_eq_sum, Snapshot.length_collection parsed]
      exact Nat.le_trans (length_snapshot_le read) (Document.size_root_le whole)
    · cases decoded
  · cases parsed

-- What is loaded was delivered in a file that is not refused for its size, and there are no more
-- nodes than such a file may have bytes.
theorem Command.loadStore_delivers {look : Lookup} {path : String} {store : Store}
    (loaded : loadStore look path = .ok store) :
    (∃ snapshot : Snapshot, snapshot.toStore = .ok store) ∧
      store.nodeCount ≤ maxSnapshotBytes := by
  unfold loadStore at loaded
  split at loaded
  · cases loaded
  · cases loaded
  · next content _ =>
    split at loaded
    · cases loaded
    · next fits =>
      rw [storeOfContent_eq] at loaded
      obtain ⟨delivered, nodes⟩ := Wire.storeOfBytes_delivers loaded
      have size : content.bytes.length = content.size := by
        cases content with
        | written bytes => rfl
        | gap size => exact List.length_replicate
      exact ⟨delivered, by omega⟩

end SiteSearch
