import Mathlib.Data.List.Basic
import SiteSearch.Proofs.Wire.Shown

-- Every form in which something is sent or stored. What was read in it, and what the program has
-- to say in it, is written so that it is read as the same again.
namespace SiteSearch

section Counts

variable {store : Store}

open Wire

theorem length_le_nodeCount {kind : Kind} {nodes : List Node}
    (held : store.collection kind = some nodes) : nodes.length ≤ store.nodeCount := by
  have bound := store.length_collection_le kind
  rwa [held] at bound

theorem orphansInWord_of {relation : Relation} {entry : OrphanCount}
    (small : InWord store.nodeCount) (counted : OrphanCount.of? store relation = some entry) :
    OrphansInWord entry := by
  obtain ⟨links, linked, rfl⟩ := Option.map_eq_some_iff.mp counted
  obtain ⟨donors, _, linked⟩ := Option.bind_eq_some_iff.mp linked
  obtain ⟨acceptors, held, linked⟩ := Option.bind_eq_some_iff.mp linked
  cases linked
  have bound := length_le_nodeCount held
  have within (link : Link) : InWord
      ((acceptors.map fun node => Link.of donors (node.key? relation.foreignKey)).count link) := by
    refine Nat.lt_of_le_of_lt (Nat.le_trans List.count_le_length ?_) small
    rw [List.length_map]
    exact bound
  exact ⟨within .orphaned, within .unlinked⟩

theorem metricsInWord_ofStore (small : InWord store.nodeCount) :
    MetricsInWord (.ofStore store) where
  nodes := small
  collections := by
    intro entry listed n counted
    obtain ⟨kind, _, rfl⟩ := List.mem_map.mp listed
    obtain ⟨nodes, held, rfl⟩ := Option.map_eq_some_iff.mp counted
    exact Nat.lt_of_le_of_lt (length_le_nodeCount held) small
  orphans := by
    intro entry listed
    obtain ⟨relation, _, counted⟩ := List.mem_filterMap.mp listed
    exact orphansInWord_of small counted

-- An absent collection counts as none.
theorem statusInWord_of {counted : Metrics} (small : MetricsInWord counted) :
    StatusInWord (.of counted) where
  nodes := small.nodes
  collections := by
    intro status listed
    obtain ⟨entry, source, rfl⟩ := List.mem_map.mp listed
    cases held : entry.count with
    | none => simp [CollectionStatus.of, held, InWord, UInt64.size]
    | some n => simpa [CollectionStatus.of, held] using small.collections entry source n held
  orphans := by
    intro status listed
    obtain ⟨entry, source, rfl⟩ := List.mem_map.mp listed
    obtain ⟨orphaned, unkeyed⟩ := small.orphans entry source
    exact ⟨orphaned, unkeyed⟩

theorem replyInWord_ofOutcome {outcome : Outcome} (small : InWord outcome.hits.length) :
    ReplyInWord (.ofOutcome outcome) where
  count := small
  apart := by
    intro shown listed
    obtain ⟨node, _, rfl⟩ := List.mem_map.mp listed
    exact node.textsApart

theorem replyInWord_ofFault (query : String) (fault : SearchError) :
    ReplyInWord (.ofFault query fault) where
  count := by simp [SearchReply.ofFault, InWord, UInt64.size]
  apart := List.forall_mem_nil _

end Counts

namespace Wire

open Json

inductive Format where
  | snapshot
  | node
  | weightTable
  | metrics
  | hit
  | searchRequest
  | searchParams
  | searchReply
  | hashReply
  | statusReport
  | health
  | weightsReport
  deriving DecidableEq

namespace Format

def Content : Format → Type
  | .snapshot => Snapshot
  | .node => Node
  | .weightTable => WeightTable
  | .metrics => Metrics
  | .hit => Hit
  | .searchRequest => SearchRequest
  | .searchParams => SearchParams
  | .searchReply => SearchReply
  | .hashReply => HashReply
  | .statusReport => StatusReport
  | .health => Health
  | .weightsReport => WeightsReport

def reader : (format : Format) → Reader format.Content
  | .snapshot => Wire.snapshot
  | .node => Wire.node
  | .weightTable => Wire.weightTable
  | .metrics => Wire.metrics
  | .hit => Wire.hit
  | .searchRequest => Wire.searchRequest
  | .searchParams => Wire.searchParams
  | .searchReply => Wire.searchReply
  | .hashReply => Wire.hashReply
  | .statusReport => Wire.statusReport
  | .health => Wire.health
  | .weightsReport => Wire.weightsReport

def write : (format : Format) → format.Content → Value
  | .snapshot => ofSnapshot
  | .node => ofNode
  | .weightTable => ofWeightTable
  | .metrics => ofMetrics
  | .hit => ofHit
  | .searchRequest => ofSearchRequest
  | .searchParams => ofSearchParams
  | .searchReply => ofSearchReply
  | .hashReply => ofHashReply
  | .statusReport => ofStatusReport
  | .health => ofHealth
  | .weightsReport => ofWeightsReport

-- The bounds within which a content can be read back.
def InBounds : (format : Format) → format.Content → Prop
  | .metrics => MetricsInWord
  | .hit => fun shown => TextsApart shown.texts
  | .searchRequest => fun request => ∀ n ∈ request.limit, InWord n
  | .searchParams => fun params => ∀ n ∈ params.limit, InWord n
  | .searchReply => ReplyInWord
  | .statusReport => StatusInWord
  | _ => fun _ => True

-- What the program may have to write: anything, but for what it makes of its nodes. It counts them
-- in words of 64 bits, and asks for no more.
def Arises : (format : Format) → format.Content → Prop
  | .metrics => fun counted => ∃ store : Store, InWord store.nodeCount ∧ counted = .ofStore store
  | .hit => fun shown => ∃ node, shown = .of node
  | .searchRequest => fun request => ∀ n ∈ request.limit, InWord n
  | .searchParams => fun params => ∀ n ∈ params.limit, InWord n
  | .searchReply => fun reply =>
    (∃ outcome : Outcome, InWord outcome.hits.length ∧ reply = .ofOutcome outcome) ∨
      ∃ query fault, reply = .ofFault query fault
  | .statusReport => fun report =>
    ∃ store : Store, InWord store.nodeCount ∧ report = .of (.ofStore store)
  | _ => fun _ => True

variable (format : Format)

theorem means_write {content : format.Content} (inBounds : format.InBounds content) :
    Means format.reader (format.write content) content := by
  cases format with
  | snapshot => exact means_snapshot content
  | node => exact means_node content
  | weightTable => exact means_weightTable content
  | metrics => exact means_metrics inBounds
  | hit => exact means_hit inBounds
  | searchRequest => exact means_searchRequest inBounds
  | searchParams => exact means_searchParams inBounds
  | searchReply => exact means_searchReply inBounds
  | hashReply => exact means_hashReply content
  | statusReport => exact means_statusReport inBounds
  | health => exact means_health content
  | weightsReport => exact means_weightsReport content

theorem ensures_inBounds : Ensures format.reader format.InBounds := by
  cases format with
  | metrics => exact ensures_metrics
  | hit => exact ensures_hit
  | searchRequest => exact ensures_searchRequest
  | searchParams => exact ensures_searchParams
  | searchReply => exact ensures_searchReply
  | statusReport => exact ensures_statusReport
  | _ => exact fun _ _ _ => trivial

theorem Arises.inBounds {format : Format} {content : format.Content}
    (arises : format.Arises content) : format.InBounds content := by
  cases format with
  | metrics =>
    obtain ⟨store, small, rfl⟩ := arises
    exact metricsInWord_ofStore small
  | hit =>
    obtain ⟨node, rfl⟩ := arises
    exact node.textsApart
  | searchRequest => exact arises
  | searchParams => exact arises
  | searchReply =>
    rcases arises with ⟨outcome, small, rfl⟩ | ⟨query, fault, rfl⟩
    · exact replyInWord_ofOutcome small
    · exact replyInWord_ofFault query fault
  | statusReport =>
    obtain ⟨store, small, rfl⟩ := arises
    exact statusInWord_of (metricsInWord_ofStore small)
  | _ => trivial

end Format

theorem decodeBytes_read {α : Type} {read : Reader α} {bytes : List UInt8} {content : α}
    (decoded : decodeBytes read bytes = .ok content) :
    read (Document.ofBytes bytes).root = .ok content := by
  obtain ⟨value, made, rest⟩ := bind_eq_ok_iff.mp decoded
  split at rest
  · cases rest
    exact made
  · cases rest

-- However a content was spelled when it was read, each of its own texts is read as the same.
theorem written_is_read_back (format : Format) (content : format.Content)
    (met : (∃ bytes, decodeBytes format.reader bytes = .ok content) ∨ format.Arises content) :
    ∀ text ∈ (format.write content).texts,
      decodeBytes format.reader text.toUTF8.toList = .ok content := by
  have inBounds : format.InBounds content := by
    rcases met with ⟨bytes, decoded⟩ | arises
    · exact format.ensures_inBounds _ content (decodeBytes_read decoded)
    · exact arises.inBounds
  exact fun text written => (format.means_write inBounds).decodes written

-- A request that has its members the other way round and a null for its limit, and a hit with the
-- largest score.
theorem north_is_read_back :
    (decodeBytes searchRequest "\x7b\"limit\":null, \"query\":\"north\"\x7d".toUTF8.toList =
        .ok ⟨"north", none⟩ ∧
      decodeBytes searchRequest (ofSearchRequest ⟨"north", none⟩).render.toUTF8.toList =
        .ok ⟨"north", none⟩) ∧
    Format.hit.Arises (.of { oddLock with score := Score.limit }) ∧
      decodeBytes hit (ofHit (.of { oddLock with score := Score.limit })).render.toUTF8.toList =
        .ok (.of { oddLock with score := Score.limit }) := by
  have spelled : decodeBytes searchRequest
      "\x7b\"limit\":null, \"query\":\"north\"\x7d".toUTF8.toList = .ok ⟨"north", none⟩ := by
    decide +kernel
  have arises : Format.hit.Arises (.of { oddLock with score := Score.limit }) := ⟨_, rfl⟩
  exact ⟨⟨spelled, written_is_read_back .searchRequest _ (.inl ⟨_, spelled⟩) _ List.mem_cons_self⟩,
    arises, written_is_read_back .hit _ (.inr arises) _ List.mem_cons_self⟩

end Wire

end SiteSearch
