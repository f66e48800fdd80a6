import Mathlib.Data.List.Nodup
import SiteSearch.Metrics
import SiteSearch.Proofs.Store.Content

-- Metrics count nodes and links: one count for each kind, and for each relation with both of its
-- collections how its acceptors stand to the donors. Scores are not among what they look at.
namespace SiteSearch

theorem Node.key?_resetScore (node : Node) (field : Field) :
    node.resetScore.key? field = node.key? field := by
  unfold key? read
  rw [node.get?_resetScore]
  rfl

namespace Store

theorem length_collection_resetScores (store : Store) (kind : Kind) :
    (store.resetScores.collection kind).map List.length =
      (store.collection kind).map List.length := by
  unfold resetScores
  rw [collection_mapNodes]
  cases store.collection kind with
  | none => rfl
  | some nodes => exact congrArg some (List.length_map Node.resetScore)

theorem nodeCount_resetScores (store : Store) : store.resetScores.nodeCount = store.nodeCount := by
  unfold resetScores
  simp only [nodeCount_eq_sum, getD_collection_mapNodes, List.length_map]

theorem isLoaded_resetScores (store : Store) : store.resetScores.isLoaded = store.isLoaded := by
  unfold isLoaded
  refine congrArg (Kind.all.all ·) (funext fun kind => ?_)
  unfold resetScores
  rw [collection_mapNodes, Option.isSome_map]

theorem links?_resetScores (store : Store) (relation : Relation) :
    store.resetScores.links? relation = store.links? relation := by
  unfold links? resetScores
  rw [collection_mapNodes, collection_mapNodes]
  cases store.collection relation.donor with
  | none => rfl
  | some donors =>
    cases store.collection relation.acceptor with
    | none => rfl
    | some acceptors =>
      have resolves (key : Option String) :
          Link.of (donors.map Node.resetScore) key = Link.of donors key := by
        unfold Link.of
        cases key with
        | none => rfl
        | some id =>
          dsimp only
          rw [List.any_map]
          rfl
      refine congrArg some ?_
      rw [List.map_map]
      refine List.map_congr_left fun node _ => ?_
      exact (resolves _).trans (congrArg (Link.of donors) (node.key?_resetScore _))

end Store

theorem Metrics.ofStore_resetScores (store : Store) :
    ofStore store.resetScores = ofStore store := by
  have orphans : OrphanCount.of? store.resetScores = OrphanCount.of? store :=
    funext fun relation => by
      unfold OrphanCount.of?
      rw [store.links?_resetScores]
  unfold ofStore
  simp only [store.length_collection_resetScores, store.nodeCount_resetScores,
    store.isLoaded_resetScores, orphans]

theorem Metrics.ofStore_congr {a b : Store} (same : a.SameContent b) : ofStore a = ofStore b := by
  rw [← ofStore_resetScores a, ← ofStore_resetScores b]
  exact congrArg ofStore same

namespace Relation

variable (relation : Relation) (donors : List Node) (node : Node)

-- The acceptor names a donor that there is.
def Resolves : Prop :=
  ∃ donor ∈ donors, node.key? relation.foreignKey = some donor.id

-- It names somebody, but no donor.
def Orphans : Prop :=
  node.key? relation.foreignKey ≠ none ∧
    ∀ donor ∈ donors, node.key? relation.foreignKey ≠ some donor.id

-- It names nobody.
def Unlinks : Prop :=
  node.key? relation.foreignKey = none

instance : Decidable (relation.Resolves donors node) :=
  inferInstanceAs (Decidable (∃ donor ∈ donors, _))

instance : Decidable (relation.Orphans donors node) :=
  inferInstanceAs (Decidable (_ ∧ _))

instance : Decidable (relation.Unlinks node) :=
  inferInstanceAs (Decidable (_ = none))

variable {relation donors node}

theorem not_resolves (lost : relation.Orphans donors node ∨ relation.Unlinks node) :
    ¬ relation.Resolves donors node := by
  rintro ⟨donor, member, named⟩
  rcases lost with orphaned | unlinked
  · exact orphaned.2 donor member named
  · exact nomatch named.symm.trans unlinked

theorem link_cases :
    (Link.of donors (node.key? relation.foreignKey) = .resolved ∧ relation.Resolves donors node) ∨
    (Link.of donors (node.key? relation.foreignKey) = .orphaned ∧ relation.Orphans donors node) ∨
    (Link.of donors (node.key? relation.foreignKey) = .unlinked ∧ relation.Unlinks node) := by
  unfold Link.of Resolves Orphans Unlinks
  cases node.key? relation.foreignKey with
  | none => exact .inr (.inr ⟨rfl, rfl⟩)
  | some id =>
    dsimp only
    by_cases found : donors.any (·.id == id) = true
    · obtain ⟨donor, member, same⟩ := List.any_eq_true.mp found
      rw [if_pos found]
      exact .inl ⟨rfl, donor, member, congrArg some (beq_iff_eq.mp same).symm⟩
    · rw [if_neg found]
      refine .inr (.inl ⟨rfl, nofun, fun donor member named => found ?_⟩)
      exact List.any_eq_true.mpr ⟨donor, member, beq_iff_eq.mpr (Option.some.inj named).symm⟩

theorem link_eq_resolved_iff :
    Link.of donors (node.key? relation.foreignKey) = .resolved ↔ relation.Resolves donors node := by
  rcases link_cases with ⟨link, stands⟩ | ⟨link, stands⟩ | ⟨link, stands⟩ <;> rw [link]
  · exact iff_of_true rfl stands
  · exact iff_of_false nofun (not_resolves (.inl stands))
  · exact iff_of_false nofun (not_resolves (.inr stands))

theorem link_eq_orphaned_iff :
    Link.of donors (node.key? relation.foreignKey) = .orphaned ↔ relation.Orphans donors node := by
  rcases link_cases with ⟨link, stands⟩ | ⟨link, stands⟩ | ⟨link, stands⟩ <;> rw [link]
  · exact iff_of_false nofun fun lost => not_resolves (.inl lost) stands
  · exact iff_of_true rfl stands
  · exact iff_of_false nofun fun lost => lost.1 stands

variable (donors) in
theorem link_eq_unlinked_iff :
    Link.of donors (node.key? relation.foreignKey) = .unlinked ↔ relation.Unlinks node := by
  rcases link_cases with ⟨link, stands⟩ | ⟨link, stands⟩ | ⟨link, stands⟩ <;> rw [link]
  · exact iff_of_false nofun fun lost => not_resolves (.inr lost) stands
  · exact iff_of_false nofun stands.1
  · exact iff_of_true rfl stands

end Relation

theorem Link.count_all (links : List Link) :
    links.count .orphaned + links.count .unlinked + links.count .resolved = links.length := by
  induction links with
  | nil => rfl
  | cons link rest ih =>
    rw [List.length_cons, ← ih]
    cases link <;> simp <;> omega

namespace Metrics

-- What metrics say of a store: how many nodes of each kind, if there is a list of them, and for each
-- relation with both lists how many acceptors name nobody, or nobody there is.
structure Describes (metrics : Metrics) (store : Store) : Prop where
  kinds : metrics.collections.map (·.kind) = Kind.all
  counts : ∀ entry ∈ metrics.collections,
    entry.count = (store.collection entry.kind).map List.length
  nodes : metrics.nodeCount = (metrics.collections.map fun entry => entry.count.getD 0).sum
  loaded : metrics.loaded = true ↔ ∀ entry ∈ metrics.collections, entry.count ≠ none
  once : (metrics.orphans.map (·.relation)).Nodup
  related : ∀ relation, relation ∈ metrics.orphans.map (·.relation) ↔
    (store.collection relation.donor).isSome = true ∧
      (store.collection relation.acceptor).isSome = true
  orphans : ∀ entry ∈ metrics.orphans,
    let donors := (store.collection entry.relation.donor).getD []
    let acceptors := (store.collection entry.relation.acceptor).getD []
    entry.orphans = acceptors.countP (entry.relation.Orphans donors ·) ∧
      entry.unlinked = acceptors.countP (entry.relation.Unlinks ·) ∧
      entry.orphans + entry.unlinked + acceptors.countP (entry.relation.Resolves donors ·) =
        acceptors.length

end Metrics

section Tallies

variable {store : Store} {relation : Relation} {donors acceptors : List Node}

theorem count_links {link : Link} {holds : Node → Prop} [DecidablePred holds]
    (stands : ∀ node, Link.of donors (node.key? relation.foreignKey) = link ↔ holds node) :
    (acceptors.map fun node => Link.of donors (node.key? relation.foreignKey)).count link =
      acceptors.countP (holds ·) := by
  rw [List.count_eq_countP, List.countP_map]
  exact List.countP_congr fun node _ => by simp [stands node]

theorem tally (donors acceptors : List Node) (relation : Relation) :
    acceptors.countP (relation.Orphans donors ·) + acceptors.countP (relation.Unlinks ·) +
      acceptors.countP (relation.Resolves donors ·) = acceptors.length := by
  have all := Link.count_all
    (acceptors.map fun node => Link.of donors (node.key? relation.foreignKey))
  rwa [count_links fun _ => Relation.link_eq_orphaned_iff,
    count_links fun _ => Relation.link_eq_unlinked_iff donors,
    count_links fun _ => Relation.link_eq_resolved_iff, List.length_map] at all

theorem OrphanCount.of?_eq (here : store.collection relation.donor = some donors)
    (there : store.collection relation.acceptor = some acceptors) :
    OrphanCount.of? store relation = some {
      relation
      orphans := acceptors.countP (relation.Orphans donors ·)
      unlinked := acceptors.countP (relation.Unlinks ·) } := by
  unfold OrphanCount.of? Store.links?
  rw [here, there, ← count_links fun _ => Relation.link_eq_orphaned_iff,
    ← count_links fun _ => Relation.link_eq_unlinked_iff donors]
  rfl

theorem OrphanCount.of?_eq_some_iff (entry : OrphanCount) :
    OrphanCount.of? store relation = some entry ↔
      ∃ donors acceptors, store.collection relation.donor = some donors ∧
        store.collection relation.acceptor = some acceptors ∧
        entry = {
          relation
          orphans := acceptors.countP (relation.Orphans donors ·)
          unlinked := acceptors.countP (relation.Unlinks ·) } := by
  constructor
  · intro counted
    obtain ⟨links, linked, _⟩ := Option.map_eq_some_iff.mp counted
    obtain ⟨donors, here, linked⟩ := Option.bind_eq_some_iff.mp linked
    obtain ⟨acceptors, there, _⟩ := Option.bind_eq_some_iff.mp linked
    refine ⟨donors, acceptors, here, there, ?_⟩
    rw [OrphanCount.of?_eq here there] at counted
    exact (Option.some.inj counted).symm
  · rintro ⟨donors, acceptors, here, there, rfl⟩
    exact OrphanCount.of?_eq here there

end Tallies

theorem Metrics.ofStore_describes (store : Store) : (ofStore store).Describes store where
  kinds := rfl
  counts := by
    intro entry listed
    obtain ⟨kind, _, rfl⟩ := List.mem_map.mp listed
    rfl
  nodes := by
    have length (kind : Kind) : ((store.collection kind).getD []).length =
        ((store.collection kind).map List.length).getD 0 := by
      cases store.collection kind <;> rfl
    change store.nodeCount = _
    unfold ofStore
    simp only [store.nodeCount_eq_sum, length, List.map_map]
    rfl
  loaded := by
    change store.isLoaded = true ↔ _
    unfold Store.isLoaded ofStore
    rw [List.all_eq_true]
    simp [Option.isSome_iff_ne_none]
  once := by
    change ((Relation.all.filterMap (OrphanCount.of? store)).map (·.relation)).Nodup
    rw [List.map_filterMap]
    have source {relation counted : Relation}
        (entered : counted ∈ (OrphanCount.of? store relation).map (·.relation)) :
        counted = relation := by
      obtain ⟨entry, found, rfl⟩ := Option.map_eq_some_iff.mp entered
      obtain ⟨_, _, _, _, rfl⟩ := (OrphanCount.of?_eq_some_iff entry).mp found
      rfl
    have distinct : Relation.all.Nodup := by decide
    exact distinct.filterMap fun one other _ left right => (source left).symm.trans (source right)
  related := by
    intro relation
    constructor
    · intro listed
      obtain ⟨entry, counted, rfl⟩ := List.mem_map.mp listed
      obtain ⟨relation, _, found⟩ := List.mem_filterMap.mp counted
      obtain ⟨_, _, here, there, rfl⟩ := (OrphanCount.of?_eq_some_iff entry).mp found
      exact ⟨Option.isSome_of_eq_some here, Option.isSome_of_eq_some there⟩
    · rintro ⟨here, there⟩
      obtain ⟨donors, here⟩ := Option.isSome_iff_exists.mp here
      obtain ⟨acceptors, there⟩ := Option.isSome_iff_exists.mp there
      have counted := List.mem_filterMap.mpr
        ⟨relation, relation.mem_all, OrphanCount.of?_eq here there⟩
      exact List.mem_map.mpr ⟨_, counted, rfl⟩
  orphans := by
    intro entry listed
    obtain ⟨relation, _, counted⟩ := List.mem_filterMap.mp listed
    obtain ⟨donors, acceptors, here, there, rfl⟩ := (OrphanCount.of?_eq_some_iff entry).mp counted
    dsimp only
    rw [here, there]
    exact ⟨rfl, rfl, tally donors acceptors relation⟩

end SiteSearch
