import Mathlib.Data.List.Basic
import SiteSearch.Proofs.Wire.Stored
import SiteSearch.Wire.Search
import SiteSearch.Wire.Status

-- Forms that hold counts or free keys: metrics, reports on them, and the messages of a search. A
-- count is written whole, but read only as a word of 64 bits, and the texts of a hit share their
-- keys with its other members. Whatever was read keeps to these bounds, and so means itself again.
namespace SiteSearch.Wire

open Json

section Metrics

def InWord (n : Nat) : Prop := n < UInt64.size

theorem means_ofCount {n : Nat} (small : InWord n) : Means Reading.count (ofCount n) n :=
  means_count small

theorem means_count? {held : Option Nat} (small : ∀ n ∈ held, InWord n) :
    Means (Reading.optional Reading.count) (.ofOption ofCount held) held :=
  means_optional (fun n here => means_count (small n here)) fun _ _ => nofun

theorem ensures_count : Ensures Reading.count InWord :=
  ensures_natural UInt64.size

theorem ensures_count? : Ensures (Reading.optional Reading.count) fun held =>
    ∀ n ∈ held, InWord n :=
  ensures_optional ensures_count

structure OrphansInWord (entry : OrphanCount) : Prop where
  orphans : InWord entry.orphans
  unlinked : InWord entry.unlinked

structure MetricsInWord (metrics : Metrics) : Prop where
  nodes : InWord metrics.nodeCount
  collections : ∀ entry ∈ metrics.collections, ∀ n ∈ entry.count, InWord n
  orphans : ∀ entry ∈ metrics.orphans, OrphansInWord entry

theorem means_collectionCount {entry : CollectionCount} (small : ∀ n ∈ entry.count, InWord n) :
    Means collectionCount (ofCollectionCount entry) entry :=
  means_whole [.of countedKind (means_kind entry.kind), .of countOfKind (means_count? small)]
    rfl (by decide) fun get => bind_granted (get 0 rfl) (bind_granted (get 1 rfl) rfl)

theorem ensures_collectionCount :
    Ensures collectionCount fun entry => ∀ n ∈ entry.count, InWord n := by
  refine ensures_record fun found entry built => ?_
  obtain ⟨kind, _, built⟩ := bind_eq_ok_iff.mp built
  obtain ⟨count, got, built⟩ := bind_eq_ok_iff.mp built
  cases built
  refine Found.get_ensures ensures_count? ?_ nofun got
  rintro _ ⟨⟩
  exact nofun

theorem means_orphanCount {entry : OrphanCount} (small : OrphansInWord entry) :
    Means orphanCount (ofOrphanCount entry) entry :=
  means_whole [.of countedRelation (means_relation entry.relation),
      .of orphans (means_ofCount small.orphans), .of unlinked (means_ofCount small.unlinked)]
    rfl (by decide)
    fun get => bind_granted (get 0 rfl) (bind_granted (get 1 rfl) (bind_granted (get 2 rfl) rfl))

theorem ensures_orphanCount : Ensures orphanCount OrphansInWord := by
  refine ensures_record fun found entry built => ?_
  obtain ⟨relation, _, built⟩ := bind_eq_ok_iff.mp built
  obtain ⟨missing, orphaned, built⟩ := bind_eq_ok_iff.mp built
  obtain ⟨keyless, unkeyed, built⟩ := bind_eq_ok_iff.mp built
  cases built
  exact ⟨Found.get_required ensures_count orphaned,
    Found.get_required ensures_count unkeyed⟩

theorem means_metrics {counted : Metrics} (small : MetricsInWord counted) :
    Means metrics (ofMetrics counted) counted :=
  means_whole [.of collectionCounts
        (means_list fun entry listed => means_collectionCount (small.collections entry listed)),
      .of nodeCount (means_ofCount small.nodes), .of loaded (means_bool counted.loaded),
      .of orphanCounts
        (means_list fun entry listed => means_orphanCount (small.orphans entry listed))]
    rfl (by decide)
    fun get => bind_granted (get 0 rfl) <| bind_granted (get 1 rfl) <| bind_granted (get 2 rfl) <|
      bind_granted (get 3 rfl) rfl

theorem ensures_metrics : Ensures metrics MetricsInWord := by
  refine ensures_record fun found counted built => ?_
  obtain ⟨collections, each, built⟩ := bind_eq_ok_iff.mp built
  obtain ⟨nodes, all, built⟩ := bind_eq_ok_iff.mp built
  obtain ⟨loaded, _, built⟩ := bind_eq_ok_iff.mp built
  obtain ⟨orphans, links, built⟩ := bind_eq_ok_iff.mp built
  cases built
  exact ⟨Found.get_required ensures_count all,
    Found.get_required (ensures_list ensures_collectionCount) each,
    Found.get_required (ensures_list ensures_orphanCount) links⟩

end Metrics

section Status

structure StatusInWord (report : StatusReport) : Prop where
  nodes : InWord report.nodeCount
  collections : ∀ entry ∈ report.collections, InWord entry.count
  orphans : ∀ entry ∈ report.orphans, InWord entry.orphans ∧ InWord entry.unlinked

theorem means_collectionStatus {entry : CollectionStatus} (small : InWord entry.count) :
    Means collectionStatus (ofCollectionStatus entry) entry :=
  means_whole [.of collectionName (means_text entry.collection),
      .of loaded (means_bool entry.loaded), .of count (means_ofCount small)] rfl (by decide)
    fun get => bind_granted (get 0 rfl) (bind_granted (get 1 rfl) (bind_granted (get 2 rfl) rfl))

theorem ensures_collectionStatus : Ensures collectionStatus fun entry => InWord entry.count := by
  refine ensures_record fun found entry built => ?_
  obtain ⟨name, _, built⟩ := bind_eq_ok_iff.mp built
  obtain ⟨loaded, _, built⟩ := bind_eq_ok_iff.mp built
  obtain ⟨count, got, built⟩ := bind_eq_ok_iff.mp built
  cases built
  exact Found.get_required ensures_count got

theorem means_orphanStatus {entry : OrphanStatus} (orphaned : InWord entry.orphans)
    (unkeyed : InWord entry.unlinked) : Means orphanStatus (ofOrphanStatus entry) entry :=
  means_whole [.of relationName (means_text entry.relation), .of orphans (means_ofCount orphaned),
      .of unlinked (means_ofCount unkeyed)] rfl (by decide)
    fun get => bind_granted (get 0 rfl) (bind_granted (get 1 rfl) (bind_granted (get 2 rfl) rfl))

theorem ensures_orphanStatus :
    Ensures orphanStatus fun entry => InWord entry.orphans ∧ InWord entry.unlinked := by
  refine ensures_record fun found entry built => ?_
  obtain ⟨relation, _, built⟩ := bind_eq_ok_iff.mp built
  obtain ⟨missing, orphaned, built⟩ := bind_eq_ok_iff.mp built
  obtain ⟨keyless, unkeyed, built⟩ := bind_eq_ok_iff.mp built
  cases built
  exact ⟨Found.get_required ensures_count orphaned,
    Found.get_required ensures_count unkeyed⟩

theorem means_statusReport {report : StatusReport} (small : StatusInWord report) :
    Means statusReport (ofStatusReport report) report :=
  means_whole [.of loaded (means_bool report.loaded), .of nodeCount (means_ofCount small.nodes),
      .of collectionStatuses
        (means_list fun entry listed => means_collectionStatus (small.collections entry listed)),
      .of orphanStatuses
        (means_list fun entry listed =>
          means_orphanStatus (small.orphans entry listed).1 (small.orphans entry listed).2)]
    rfl (by decide)
    fun get => bind_granted (get 0 rfl) <| bind_granted (get 1 rfl) <| bind_granted (get 2 rfl) <|
      bind_granted (get 3 rfl) rfl

theorem ensures_statusReport : Ensures statusReport StatusInWord := by
  refine ensures_record fun found report built => ?_
  obtain ⟨loaded, _, built⟩ := bind_eq_ok_iff.mp built
  obtain ⟨nodes, all, built⟩ := bind_eq_ok_iff.mp built
  obtain ⟨collections, each, built⟩ := bind_eq_ok_iff.mp built
  obtain ⟨orphans, links, built⟩ := bind_eq_ok_iff.mp built
  cases built
  exact ⟨Found.get_required ensures_count all,
    Found.get_required (ensures_list ensures_collectionStatus) each,
    Found.get_required (ensures_list ensures_orphanStatus) links⟩

end Status

section Messages

theorem means_limit {asked : Option Nat} (small : ∀ n ∈ asked, InWord n) :
    Means limit.read (.ofOption .number asked) asked :=
  means_optional (fun n here => means_count (small n here)) fun _ _ => nofun

theorem ensures_limit {found : Found} {asked : Option Nat} (got : found.get limit = .ok asked) :
    ∀ n ∈ asked, InWord n := by
  refine Found.get_ensures ensures_count? ?_ ?_ got
  all_goals
    rintro _ ⟨⟩
    exact nofun

-- A limit that was left out is none.
theorem means_searchRequest {request : SearchRequest} (small : ∀ n ∈ request.limit, InWord n) :
    Means searchRequest (ofSearchRequest request) request := by
  obtain ⟨text, asked⟩ := request
  cases asked with
  | none =>
    refine means_record [.of query (means_text text)] ?_ (List.nodup_singleton _) ?_
    · exact fun entry listed => List.mem_singleton.mp listed ▸ rfl
    · exact bind_granted rfl (bind_granted rfl rfl)
  | some asked =>
    exact means_whole [.of query (means_text text), .of limit (means_limit small)] rfl (by decide)
      fun get => bind_granted (get 0 rfl) (bind_granted (get 1 rfl) rfl)

theorem ensures_searchRequest :
    Ensures searchRequest fun request => ∀ n ∈ request.limit, InWord n := by
  refine ensures_record fun found request built => ?_
  obtain ⟨text, _, built⟩ := bind_eq_ok_iff.mp built
  obtain ⟨asked, got, built⟩ := bind_eq_ok_iff.mp built
  cases built
  exact ensures_limit got

theorem means_searchParams {params : SearchParams} (small : ∀ n ∈ params.limit, InWord n) :
    Means searchParams (ofSearchParams params) params :=
  means_whole [.of limit (means_limit small)] rfl (by decide)
    fun get => bind_granted (get 0 rfl) rfl

theorem ensures_searchParams :
    Ensures searchParams fun params => ∀ n ∈ params.limit, InWord n := by
  refine ensures_record fun found params built => ?_
  obtain ⟨asked, got, built⟩ := bind_eq_ok_iff.mp built
  cases built
  exact ensures_limit got

-- The keys of a hit that no text of it may have.
def hitKeys : List String := ["id", "kind", "score"]

def TextsApart (texts : Dictionary String) : Prop :=
  ∀ entry ∈ texts.entries, entry.1 ∉ hitKeys

theorem add_text (draft : HitDraft) {key : String} (apart : key ∉ hitKeys) (value : Reading) :
    draft.add key value =
      (do pure { draft with texts := draft.texts.insert key (← value.string) }) := by
  simp only [hitKeys, List.mem_cons, List.not_mem_nil, or_false, not_or] at apart
  unfold HitDraft.add
  rw [if_neg apart.1, if_neg apart.2.1, if_neg apart.2.2]

theorem foldlM_add_texts {entries : List (String × String)}
    (apart : ∀ entry ∈ entries, entry.1 ∉ hitKeys) (draft : HitDraft) :
    (entries.foldlM (fun draft entry => draft.add entry.1 (.text (some entry.2))) draft :
        Except Fault HitDraft) =
      .ok { draft with
        texts := entries.foldl (fun held entry => held.insert entry.1 entry.2) draft.texts } := by
  induction entries generalizing draft with
  | nil => rfl
  | cons entry rest ih =>
    obtain ⟨first, others⟩ := List.forall_mem_cons.mp apart
    rw [List.foldlM_cons, add_text draft first]
    exact ih others { draft with texts := draft.texts.insert entry.1 entry.2 }

theorem means_hit {shown : Hit} (apart : TextsApart shown.texts) :
    Means hit (ofHit shown) shown := by
  obtain ⟨id, kind, score, texts⟩ := shown
  constructor
  · refine .object fun member written => ?_
    simp only [List.mem_cons, List.mem_map] at written
    rcases written with rfl | rfl | rfl | ⟨entry, _, rfl⟩
    · exact .text id
    · exact (means_kind kind).fits
    · exact (means_word64 score).fits
    · exact .text entry.2
  · have named : HitDraft.add {} "id" (Value.text id).reading =
        .ok { id := some id } := rfl
    have sorted : HitDraft.add { id := some id } "kind" (ofKind kind).reading =
        .ok { id := some id, kind := some kind } :=
      bind_granted (means_kind kind).reads rfl
    have scored : HitDraft.add { id := some id, kind := some kind } "score"
        (ofWord64 score).reading = .ok { id := some id, kind := some kind, score := some score } :=
      bind_granted (means_word64 score).reads rfl
    have listed : (texts.entries.map fun entry => (entry.1, Value.text entry.2)).foldlM
        (fun draft member => draft.add member.1 member.2.reading)
        { id := some id, kind := some kind, score := some score } =
          (.ok ⟨some id, some kind, some score, texts⟩ : Except Fault HitDraft) := by
      rw [List.foldlM_map]
      refine (foldlM_add_texts apart _).trans ?_
      rw [texts.foldl_insert_entries]
    unfold hit ofHit
    rw [foldMembers_object]
    simp only [List.foldlM_cons]
    exact bind_granted (bind_granted named (bind_granted sorted (bind_granted scored listed))) rfl

-- A known member leaves the texts as they are, and no other takes its key.
theorem add_textsApart {draft next : HitDraft} {key : String} {value : Reading}
    (apart : TextsApart draft.texts) (added : draft.add key value = .ok next) :
    TextsApart next.texts := by
  have once {α : Type} {held : Option α} {read : Except Fault α} {fill : α → HitDraft}
      (same : ∀ value, (fill value).texts = draft.texts)
      (made : (if held.isSome then .error .mismatched else do pure (fill (← read))) =
        (.ok next : Except Fault HitDraft)) : TextsApart next.texts := by
    split at made
    · cases made
    · obtain ⟨value, _, filled⟩ := bind_eq_ok_iff.mp made
      cases filled
      exact same value ▸ apart
  by_cases free : key ∈ hitKeys
  · unfold HitDraft.add at added
    dsimp only at added
    split at added
    · refine once ?_ added
      exact fun _ => rfl
    · split at added
      · refine once ?_ added
        exact fun _ => rfl
      · split at added
        · refine once ?_ added
          exact fun _ => rfl
        · simp_all [hitKeys]
  · rw [add_text draft free] at added
    obtain ⟨text, _, same⟩ := bind_eq_ok_iff.mp added
    cases same
    intro entry listed
    rcases mem_insertAscending listed with rfl | before
    · exact free
    · exact apart entry before

theorem ensures_hit : Ensures hit fun shown => TextsApart shown.texts := by
  intro reading shown accepted
  obtain ⟨draft, taken, finished⟩ := bind_eq_ok_iff.mp accepted
  have apart : TextsApart draft.texts :=
    ensures_foldMembers (List.forall_mem_nil _)
      (fun draft key value next before added => add_textsApart before added) reading draft taken
  unfold HitDraft.finish at finished
  split at finished
  · cases finished
    exact apart
  · cases finished

structure ReplyInWord (reply : SearchReply) : Prop where
  count : InWord reply.count
  apart : ∀ shown ∈ reply.results, TextsApart shown.texts

theorem means_error (held : Option String) : Means error.read (.ofOption .text held) held :=
  means_text? held

theorem means_searchReply {reply : SearchReply} (small : ReplyInWord reply) :
    Means searchReply (ofSearchReply reply) reply :=
  means_whole [.of success (means_bool reply.success), .of query (means_text reply.query),
      .of resultCount (means_count small.count),
      .of results (means_list fun shown listed => means_hit (small.apart shown listed)),
      .of error (means_error reply.error)] rfl (by decide)
    fun get => bind_granted (get 0 rfl) <| bind_granted (get 1 rfl) <| bind_granted (get 2 rfl) <|
      bind_granted (get 3 rfl) <| bind_granted (get 4 rfl) rfl

theorem ensures_searchReply : Ensures searchReply ReplyInWord := by
  refine ensures_record fun found reply built => ?_
  obtain ⟨success, _, built⟩ := bind_eq_ok_iff.mp built
  obtain ⟨query, _, built⟩ := bind_eq_ok_iff.mp built
  obtain ⟨count, counted, built⟩ := bind_eq_ok_iff.mp built
  obtain ⟨results, hits, built⟩ := bind_eq_ok_iff.mp built
  obtain ⟨error, _, built⟩ := bind_eq_ok_iff.mp built
  cases built
  exact ⟨Found.get_required ensures_count counted,
    Found.get_required (ensures_list ensures_hit) hits⟩

theorem means_hashReply (reply : HashReply) : Means hashReply (ofHashReply reply) reply :=
  means_whole [.of success (means_bool reply.success),
      .of checksum (means_optional (fun word _ => means_word64 word) fun _ _ => nofun),
      .of hash (means_text? reply.hash), .of error (means_error reply.error)] rfl (by decide)
    fun get => bind_granted (get 0 rfl) <| bind_granted (get 1 rfl) <| bind_granted (get 2 rfl) <|
      bind_granted (get 3 rfl) rfl

theorem means_health (shown : Health) : Means health (ofHealth shown) shown :=
  means_whole [.of status (means_text shown.status), .of versionText (means_text shown.version)]
    rfl (by decide) fun get => bind_granted (get 0 rfl) (bind_granted (get 1 rfl) rfl)

end Messages

end SiteSearch.Wire
