import Mathlib.Data.List.Forall2
import SiteSearch.Digest.Hash
import SiteSearch.Proofs.Store.Delivered
import SiteSearch.Proofs.Store.Loading
import SiteSearch.Session

-- Which snapshots become stores, and what becomes of their records. The only thing that is asked
-- of a record is an identifier; the first list that has a record without one is named. Otherwise
-- every record becomes one node, and what it says under fields that its kind does not carry is lost.
namespace SiteSearch

namespace Record

-- The text under a field, whether or not a kind carries it.
def get? (record : Record) (field : Field) : Option String :=
  match field with
  | .id => some record.id
  | field => record.attributes.get? field

-- What a record becomes as a node of a kind.
structure Becomes (kind : Kind) (record : Record) (node : Node) : Prop where
  placed : node.kind = kind
  named : node.id = record.id
  unscored : node.score = 0
  texts : ∀ field, node.get? field = if kind.carries field then record.get? field else none

-- Records that say the same under every field that a kind carries.
def AlikeAs (kind : Kind) (one other : Record) : Prop :=
  ∀ field, kind.carries field = true → one.get? field = other.get? field

theorem toNode_eq_error_iff (record : Record) (kind : Kind) (fault : SearchError) :
    record.toNode kind = .error fault ↔
      record.id = "" ∧ fault = .invalidSnapshot (.emptyId kind) := by
  unfold toNode
  by_cases nameless : record.id.isEmpty = true
  · rw [if_pos nameless]
    constructor
    · intro refused
      cases refused
      exact ⟨String.isEmpty_iff.mp nameless, rfl⟩
    · rintro ⟨_, rfl⟩
      rfl
  · rw [if_neg nameless]
    exact ⟨nofun, fun refused => absurd (String.isEmpty_iff.mpr refused.1) nameless⟩

theorem get?_of_ne_id (record : Record) {field : Field} (apart : field ≠ .id) :
    record.get? field = record.attributes.get? field := by
  cases field with
  | id => exact absurd rfl apart
  | _ => rfl

theorem becomes_of_toNode {record : Record} {kind : Kind} {node : Node}
    (made : record.toNode kind = .ok node) : record.Becomes kind node := by
  unfold toNode at made
  split at made
  · cases made
  · cases made
    refine ⟨rfl, rfl, rfl, fun field => ?_⟩
    by_cases identifier : field = .id
    · subst identifier
      exact (if_pos kind.carries_id).symm
    · rw [Node.get?_of_ne_id _ identifier, record.get?_of_ne_id identifier, Attributes.get?_restrict]

theorem AlikeAs.id {kind : Kind} {one other : Record} (alike : AlikeAs kind one other) :
    one.id = other.id :=
  Option.some.inj (alike .id kind.carries_id)

theorem AlikeAs.restrict {kind : Kind} {one other : Record} (alike : AlikeAs kind one other) :
    one.attributes.restrict kind = other.attributes.restrict kind := by
  refine Attributes.ext_get? fun field => ?_
  rw [Attributes.get?_restrict, Attributes.get?_restrict]
  split
  · next carried =>
    by_cases identifier : field = .id
    · subst identifier
      rfl
    · rw [← one.get?_of_ne_id identifier, ← other.get?_of_ne_id identifier]
      exact alike field carried
  · rfl

theorem AlikeAs.toNode {kind : Kind} {one other : Record} (alike : AlikeAs kind one other) :
    one.toNode kind = other.toNode kind := by
  unfold Record.toNode
  rw [alike.id, alike.restrict]

end Record

namespace Snapshot

-- A list that is there has a record without an identifier.
def Nameless (snapshot : Snapshot) (kind : Kind) : Prop :=
  ∃ record ∈ (snapshot.records kind).getD [], record.id = ""

structure FirstNameless (snapshot : Snapshot) (kind : Kind) : Prop where
  nameless : snapshot.Nameless kind
  before : ∀ earlier : Kind, earlier.index < kind.index → ¬ snapshot.Nameless earlier

-- A collection for each list that is there, empty or not, with a node for each record in its place;
-- none for a list that is not there.
def Becomes (snapshot : Snapshot) (store : Store) : Prop :=
  ∀ kind, Option.Rel (List.Forall₂ (Record.Becomes kind)) (snapshot.records kind)
    (store.collection kind)

-- The same lists with as many records each, which differ at most under fields not carried.
def AlikeWhereCarried (one other : Snapshot) : Prop :=
  ∀ kind, Option.Rel (List.Forall₂ (Record.AlikeAs kind)) (one.records kind) (other.records kind)

variable {snapshot : Snapshot} {kind : Kind}

theorem nodesOf_eq_error_iff (fault : SearchError) :
    snapshot.nodesOf kind = .error fault ↔
      snapshot.Nameless kind ∧ fault = .invalidSnapshot (.emptyId kind) := by
  unfold nodesOf Nameless
  cases snapshot.records kind with
  | none => exact ⟨nofun, fun ⟨⟨_, member, _⟩, _⟩ => absurd member List.not_mem_nil⟩
  | some records =>
    dsimp only [Option.getD_some]
    cases built : records.mapM (·.toNode kind) with
    | ok nodes =>
      refine ⟨nofun, fun ⟨⟨record, member, nameless⟩, _⟩ => ?_⟩
      obtain ⟨node, made⟩ := mapM_grants built record member
      rw [(record.toNode_eq_error_iff kind _).mpr ⟨nameless, rfl⟩] at made
      cases made
    | error cause =>
      obtain ⟨record, member, refused⟩ := mapM_refused built
      obtain ⟨nameless, rfl⟩ := (record.toNode_eq_error_iff kind cause).mp refused
      constructor
      · intro same
        cases same
        exact ⟨⟨record, member, nameless⟩, rfl⟩
      · rintro ⟨_, rfl⟩
        rfl

theorem becomes_of_nodesOf {nodes : Option (List Node)} (made : snapshot.nodesOf kind = .ok nodes) :
    Option.Rel (List.Forall₂ (Record.Becomes kind)) (snapshot.records kind) nodes := by
  have alike := nodesOf_ok_iff.mp made
  generalize snapshot.records kind = records at alike ⊢
  cases alike with
  | none => exact .none
  | some each => exact .some (each.imp fun _ _ => Record.becomes_of_toNode)

-- The lists are taken in the order of the kinds, and the first that is refused ends it.
theorem toStore_eq_error_iff (fault : SearchError) :
    snapshot.toStore = .error fault ↔
      ∃ kind, snapshot.nodesOf kind = .error fault ∧
        ∀ earlier : Kind, earlier.index < kind.index →
          ∃ nodes, snapshot.nodesOf earlier = .ok nodes := by
  constructor
  · intro refused
    rcases bind_eq_error_iff.mp refused with buildings | ⟨_, buildings, refused⟩
    · exact ⟨.building, buildings, fun earlier less => absurd less (Nat.not_lt_zero _)⟩
    · rcases bind_eq_error_iff.mp refused with locks | ⟨_, locks, refused⟩
      · refine ⟨.lock, locks, fun earlier less => ?_⟩
        cases earlier with
        | building => exact ⟨_, buildings⟩
        | _ => exact absurd less (by decide)
      · rcases bind_eq_error_iff.mp refused with groups | ⟨_, groups, refused⟩
        · refine ⟨.group, groups, fun earlier less => ?_⟩
          cases earlier with
          | building => exact ⟨_, buildings⟩
          | lock => exact ⟨_, locks⟩
          | _ => exact absurd less (by decide)
        · rcases bind_eq_error_iff.mp refused with media | ⟨_, _, done⟩
          · refine ⟨.medium, media, fun earlier less => ?_⟩
            cases earlier with
            | building => exact ⟨_, buildings⟩
            | lock => exact ⟨_, locks⟩
            | group => exact ⟨_, groups⟩
            | medium => exact absurd less (by decide)
          · cases done
  · rintro ⟨kind, refused, before⟩
    cases kind with
    | building => exact bind_refused refused
    | lock =>
      obtain ⟨_, buildings⟩ := before .building (by decide)
      exact bind_refused_later buildings (bind_refused refused)
    | group =>
      obtain ⟨_, buildings⟩ := before .building (by decide)
      obtain ⟨_, locks⟩ := before .lock (by decide)
      exact bind_refused_later buildings (bind_refused_later locks (bind_refused refused))
    | medium =>
      obtain ⟨_, buildings⟩ := before .building (by decide)
      obtain ⟨_, locks⟩ := before .lock (by decide)
      obtain ⟨_, groups⟩ := before .group (by decide)
      exact bind_refused_later buildings <| bind_refused_later locks <|
        bind_refused_later groups (bind_refused refused)

theorem nodesOf_granted_iff : (∃ nodes, snapshot.nodesOf kind = .ok nodes) ↔
    ¬ snapshot.Nameless kind := by
  cases taken : snapshot.nodesOf kind with
  | ok nodes =>
    refine iff_of_true ⟨nodes, rfl⟩ fun nameless => ?_
    rw [(nodesOf_eq_error_iff _).mpr ⟨nameless, rfl⟩] at taken
    cases taken
  | error fault =>
    exact iff_of_false nofun (not_not_intro ((nodesOf_eq_error_iff fault).mp taken).1)

theorem toStore_eq_error_iff_firstNameless (fault : SearchError) :
    snapshot.toStore = .error fault ↔
      ∃ kind, snapshot.FirstNameless kind ∧ fault = .invalidSnapshot (.emptyId kind) := by
  simp only [toStore_eq_error_iff, nodesOf_eq_error_iff, nodesOf_granted_iff]
  constructor
  · rintro ⟨kind, ⟨nameless, rfl⟩, before⟩
    exact ⟨kind, ⟨nameless, before⟩, rfl⟩
  · rintro ⟨kind, first, rfl⟩
    exact ⟨kind, ⟨first.nameless, rfl⟩, first.before⟩

theorem becomes_of_toStore {store : Store} (made : snapshot.toStore = .ok store) :
    snapshot.Becomes store :=
  fun kind => becomes_of_nodesOf (nodesOf_collection made kind)

theorem refused_iff_nameless :
    (∃ fault, snapshot.toStore = .error fault) ↔ ∃ kind, snapshot.Nameless kind := by
  constructor
  · rintro ⟨fault, refused⟩
    obtain ⟨kind, first, _⟩ := (toStore_eq_error_iff_firstNameless fault).mp refused
    exact ⟨kind, first.nameless⟩
  · rintro ⟨kind, nameless⟩
    cases taken : snapshot.toStore with
    | error fault => exact ⟨fault, rfl⟩
    | ok store =>
      exact absurd nameless (nodesOf_granted_iff.mp ⟨_, nodesOf_collection taken kind⟩)

theorem AlikeWhereCarried.nodesOf {other : Snapshot} (alike : snapshot.AlikeWhereCarried other)
    (kind : Kind) : snapshot.nodesOf kind = other.nodesOf kind := by
  have here := alike kind
  unfold Snapshot.nodesOf
  generalize snapshot.records kind = records, other.records kind = others at here ⊢
  cases here with
  | none => rfl
  | some each => exact congrArg (some <$> ·) (mapM_alike (each.imp fun _ _ => Record.AlikeAs.toNode))

theorem AlikeWhereCarried.toStore {other : Snapshot} (alike : snapshot.AlikeWhereCarried other) :
    snapshot.toStore = other.toStore := by
  unfold Snapshot.toStore
  simp only [alike.nodesOf]

end Snapshot

-- A snapshot is refused exactly for a record without an identifier, and then for the first list that
-- has one; any other becomes the store of its records. What it says beside the schema makes no
-- difference to the store, to a search or to a digest.
theorem snapshot_becomes_its_records (snapshot : Snapshot) :
    ((∃ fault, snapshot.toStore = .error fault) ↔ ∃ kind, snapshot.Nameless kind) ∧
    (∀ fault, snapshot.toStore = .error fault ↔
      ∃ kind, snapshot.FirstNameless kind ∧ fault = .invalidSnapshot (.emptyId kind)) ∧
    (∀ kind, (SearchError.invalidSnapshot (.emptyId kind)).message =
      "Invalid snapshot: a record in '" ++ kind.collection ++ "' has an empty id") ∧
    ((∀ kind, ¬ snapshot.Nameless kind) →
      ∃ store, snapshot.toStore = .ok store ∧ snapshot.Becomes store) ∧
    ∀ other, snapshot.AlikeWhereCarried other →
      snapshot.toStore = other.toStore ∧
      ∀ one two, snapshot.toStore = .ok one → other.toStore = .ok two →
        one = two ∧
        (∀ engine query count, Session.search ⟨one, engine⟩ query count =
          Session.search ⟨two, engine⟩ query count) ∧
        Digest.checksum one = Digest.checksum two ∧ Digest.hashText one = Digest.hashText two := by
  refine ⟨Snapshot.refused_iff_nameless, Snapshot.toStore_eq_error_iff_firstNameless, ?_, ?_, ?_⟩
  · intro kind
    cases kind <;> rfl
  · intro identified
    cases taken : snapshot.toStore with
    | ok store => exact ⟨store, rfl, Snapshot.becomes_of_toStore taken⟩
    | error fault =>
      obtain ⟨kind, nameless⟩ := Snapshot.refused_iff_nameless.mp ⟨fault, taken⟩
      exact absurd nameless (identified kind)
  · intro other alike
    refine ⟨alike.toStore, fun one two first second => ?_⟩
    rw [alike.toStore, second] at first
    cases first
    exact ⟨rfl, fun _ _ _ => rfl, rfl, rfl⟩

-- A lock with an owner, which locks do not have, and the same lock without.
def ownedLock : Snapshot where
  buildings := some []
  locks := some [{ id := "l1", attributes := { name := some "Gate", owner := some "Ada" } }]
  media := some []

def plainLock : Snapshot where
  buildings := some []
  locks := some [{ id := "l1", attributes := { name := some "Gate" } }]
  media := some []

-- A lock and a medium without identifiers, each behind a record that has one.
def lostLabels : Snapshot where
  locks := some [{ id := "l1" }, { id := "" }]
  media := some [{ id := "m1" }, { id := "" }]

theorem ownedLock_alike : ownedLock.AlikeWhereCarried plainLock := by
  intro kind
  cases kind with
  | lock =>
    refine .some (.cons (fun field carried => ?_) .nil)
    cases field with
    | owner => cases carried
    | _ => rfl
  | group => exact .none
  | _ => exact .some .nil

theorem ownedLock_identified (kind : Kind) : ¬ ownedLock.Nameless kind := by
  rintro ⟨record, member, nameless⟩
  revert record
  cases kind <;> decide

theorem lostLabels_nameless : lostLabels.FirstNameless .lock where
  nameless := ⟨{ id := "" }, .tail _ (.head _), rfl⟩
  before := by
    intro earlier less
    cases earlier with
    | building => exact fun ⟨_, member, _⟩ => absurd member List.not_mem_nil
    | _ => exact absurd less (by decide)

theorem snapshot_becomes_of_ownedLock :
    ownedLock.AlikeWhereCarried plainLock ∧ ownedLock.toStore = plainLock.toStore ∧
      (∃ store, ownedLock.toStore = .ok store ∧ ownedLock.Becomes store) ∧
      lostLabels.FirstNameless .lock ∧
      lostLabels.toStore = .error (.invalidSnapshot (.emptyId .lock)) := by
  obtain ⟨_, _, _, taken, alike⟩ := snapshot_becomes_its_records ownedLock
  obtain ⟨_, refused, _⟩ := snapshot_becomes_its_records lostLabels
  exact ⟨ownedLock_alike, (alike plainLock ownedLock_alike).1, taken ownedLock_identified,
    lostLabels_nameless, (refused _).mpr ⟨.lock, lostLabels_nameless, rfl⟩⟩

end SiteSearch
