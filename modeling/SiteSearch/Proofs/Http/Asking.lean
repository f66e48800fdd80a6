import Mathlib.Data.List.TakeWhile
import SiteSearch.Proofs.Http.Keyless
import SiteSearch.Proofs.Http.Layers
import SiteSearch.Proofs.Http.Percent
import SiteSearch.Proofs.Wire.Counted

-- The two ways of asking for a search. Whatever its text, a query that was spelled into a path or
-- written into a body is the query that the service reads.
namespace SiteSearch.Http

-- How a limit is written behind a path.
def limitSuffix : Option Nat → List Char
  | none => []
  | some limit => '?' :: ("limit".toList ++ '=' :: (toString limit).toList)

-- What an address may have in characters at most.
def maxTargetLength : Nat := 65534

structure InPath (query : String) (limit : Option Nat) (request : Request) : Prop where
  method : request.method = .get
  target : ∃ segment, Spells segment query.toUTF8.toList ∧
    request.target.toList = Route.searchStem ++ segment ++ limitSuffix limit
  fits : request.target.length ≤ maxTargetLength

-- The body may be any JSON text of the search, with its members in their order.
structure InBody (query : String) (limit : Option Nat) (request : Request) : Prop where
  method : request.method = .post
  target : request.target = "/search"
  typed : request.header? "content-type" = some "application/json"
  text : Json.Document.ofBytes request.body = ⟨(Wire.ofSearchRequest ⟨query, limit⟩).reading, true⟩
  fits : request.body.length ≤ maxBodyBytes

section Targets

variable {request : Request} {path : List Char} {limit : Option Nat}

theorem isSegmentChar_toString (n : Nat) : ∀ c ∈ (toString n).toList, isSegmentChar c = true := by
  intro c member
  rw [Text.toList_toString] at member
  simp [isSegmentChar, Char.isAlphanum, Text.isDigit_of_mem_toDigits member]

theorem limitSuffix_plain : '#' ∉ limitSuffix limit := by
  cases limit with
  | none => exact List.not_mem_nil
  | some limit =>
    have digits : '#' ∉ Nat.toDigits 10 limit := fun member =>
      (nomatch Text.isDigit_of_mem_toDigits member)
    simp [limitSuffix, digits]

-- A path and a limit behind it are told apart again.
theorem target_parts (target : request.target.toList = path ++ limitSuffix limit)
    (rooted : path.head? = some '/') (plain : '?' ∉ path ∧ '#' ∉ path) :
    request.path = path ∧ request.queryString = (limitSuffix limit).drop 1 := by
  have whole : request.targetChars = path ++ limitSuffix limit := by
    obtain ⟨rest, rfl⟩ := List.head?_eq_some_iff.mp rooted
    have kept : fromPath request.target.toList = request.target.toList := by
      rw [target]
      rfl
    unfold Request.targetChars
    rw [kept, target]
    refine List.takeWhile_eq_self_iff.mpr fun c member => decide_eq_true ?_
    rintro rfl
    rcases List.mem_append.mp member with front | behind
    · exact plain.2 front
    · exact limitSuffix_plain behind
  have before : ∀ c ∈ path, decide (c ≠ '?') = true :=
    fun c member => decide_eq_true (ne_of_mem_of_not_mem member plain.1)
  unfold Request.path Request.queryString
  rw [whole, List.takeWhile_append_of_pos before, List.dropWhile_append_of_pos before]
  cases limit with
  | none => exact ⟨List.append_nil path, rfl⟩
  | some limit =>
    rw [limitSuffix, List.takeWhile_cons_of_neg (by decide),
      List.dropWhile_cons_of_neg (by decide), List.append_nil]
    exact ⟨rfl, rfl⟩

theorem requestedLimit_suffix (bound : ∀ n ∈ limit, n < UInt64.size) :
    requestedLimit ((limitSuffix limit).drop 1) = .ok limit := by
  cases limit with
  | none =>
    have nothing : formPairs [] = [] := rfl
    unfold requestedLimit
    rw [limitSuffix, List.drop_nil, nothing, List.filter_nil]
  | some limit =>
    have shown := isSegmentChar_toString limit
    have digits : ∀ c ∈ (toString limit).toList, c.isDigit = true := by
      rw [Text.toList_toString]
      exact fun c member => Text.isDigit_of_mem_toDigits member
    have plain : '+' ∉ (toString limit).toList ∧ '&' ∉ (toString limit).toList :=
      ⟨fun member => (nomatch digits _ member), fun member => (nomatch digits _ member)⟩
    have pairs : formPairs ("limit".toList ++ '=' :: (toString limit).toList) =
        [("limit", toString limit)] := by
      rw [formPairs_single (List.all_eq_true.mp (by decide)) shown (by decide) plain,
        String.ofList_toList, String.ofList_toList]
    have read : (Text.signedDecimal? (toString limit).toList).filter (· < UInt64.size) =
        some limit := by
      rw [Text.toList_toString, Text.signedDecimal?_toDigits]
      exact Option.filter_some_pos (decide_eq_true (bound limit rfl))
    unfold requestedLimit
    rw [limitSuffix, List.drop_one, List.tail_cons, pairs]
    simp only [List.filter_cons_of_pos, decide_true, List.filter_nil, read]

theorem ofPath?_segment {segment : List Char} (filled : segment ≠ [])
    (plain : ∀ c ∈ segment, isDelimiter c = false) :
    Route.ofPath? (Route.searchStem ++ segment) = some (.searchFor segment) := by
  have other {word : List Char} (differs : word.take Route.searchStem.length ≠ Route.searchStem) :
      Route.searchStem ++ segment ≠ word := by
    rintro rfl
    exact differs List.take_left
  have stem : Route.searchStem.isPrefixOf (Route.searchStem ++ segment) = true :=
    List.isPrefixOf_iff_prefix.mpr (List.prefix_append _ _)
  have single : ¬ (segment.isEmpty || segment.contains '/') = true := by
    rw [Bool.or_eq_true, List.isEmpty_iff, List.contains_iff_mem]
    rintro (nothing | member)
    · exact filled nothing
    · cases plain _ member
  unfold Route.ofPath?
  rw [if_neg (other (by decide)), if_neg (other (by decide)), if_neg (other (by decide)),
    if_neg (other (by decide)), if_neg (other (by decide)), if_pos stem]
  dsimp only
  rw [List.drop_left, if_neg single]

end Targets

section Bodies

variable {query : String} {limit : Option Nat}

theorem means_asked (query : String) (bound : ∀ n ∈ limit, n < UInt64.size) :
    Json.Means Wire.searchRequest (Wire.ofSearchRequest ⟨query, limit⟩) ⟨query, limit⟩ :=
  Wire.means_searchRequest bound

theorem length_quote_le (text : String) :
    (Json.quote text).length ≤ 6 * text.toList.length + 2 := by
  have escaped (c : Char) : (Json.escapeChar c).length ≤ 6 := by
    unfold Json.escapeChar
    repeat' split
    all_goals simp
  have all : (text.toList.flatMap Json.escapeChar).length ≤ 6 * text.toList.length := by
    induction text.toList with
    | nil => exact Nat.le_refl 0
    | cons c later ih =>
      have here := escaped c
      rw [List.flatMap_cons, List.length_append, List.length_cons]
      omega
  unfold Json.quote
  rw [List.length_cons, List.length_append, List.length_singleton]
  omega

theorem length_compact_le (query : String) (bound : ∀ n ∈ limit, n < UInt64.size) :
    (Wire.ofSearchRequest ⟨query, limit⟩).compact.length ≤ 6 * query.toList.length + 50 := by
  have quoted := length_quote_le query
  cases limit with
  | none =>
    have shape : (Wire.ofSearchRequest ⟨query, none⟩).compact =
        '\x7b' :: (Json.quote "query" ++ ':' :: Json.quote query ++ ['\x7d']) := rfl
    have key : (Json.quote "query").length = 7 := rfl
    rw [shape]
    simp only [List.length_cons, List.length_append, List.length_nil, key]
    omega
  | some limit =>
    have shape : (Wire.ofSearchRequest ⟨query, some limit⟩).compact =
        '\x7b' :: (Json.quote "query" ++ ':' :: Json.quote query ++
          ',' :: (Json.quote "limit" ++ ':' :: (toString limit).toList) ++ ['\x7d']) := rfl
    have keys : (Json.quote "query").length = 7 ∧ (Json.quote "limit").length = 7 := ⟨rfl, rfl⟩
    have digits : (toString limit).toList.length ≤ 20 := by
      rw [Text.toList_toString]
      exact (Nat.length_toDigits_le_iff (by decide) (by decide)).mpr
        (Nat.lt_trans (bound limit rfl) (by decide))
    rw [shape]
    simp only [List.length_cons, List.length_append, List.length_nil, keys.1, keys.2]
    omega

end Bodies

section Asked

variable {query : String} {limit : Option Nat} {request : Request} {service : Service}

theorem reached?_open (free : service.key = none) (plain : request.method ≠ .options) :
    service.reached? request = (Route.ofPath? request.path).filter (·.admits request.method) := by
  unfold Service.reached?
  rw [free]
  refine if_neg ?_
  rintro (preflight | barred)
  · exact plain preflight
  · cases barred

theorem InPath.asked (inPath : InPath query limit request) (something : query ≠ "")
    (bound : ∀ n ∈ limit, n < UInt64.size) (free : service.key = none) :
    service.asked? request = some ⟨query, limit⟩ := by
  obtain ⟨segment, spells, target⟩ := inPath.target
  have filled : segment ≠ [] := by
    rintro rfl
    have blank : Spells [] "".toUTF8.toList := Spells.of_isSegmentChar (List.forall_mem_nil _)
    have same := spells.decodeSegment?_eq.symm.trans blank.decodeSegment?_eq
    exact something (Option.some.inj same)
  have stem : '?' ∉ Route.searchStem ∧ '#' ∉ Route.searchStem := by decide
  have inside : '?' ∉ segment ∧ '#' ∉ segment :=
    ⟨fun member => absurd (spells.undelimited _ member) (by decide),
      fun member => absurd (spells.undelimited _ member) (by decide)⟩
  have plain : '?' ∉ Route.searchStem ++ segment ∧ '#' ∉ Route.searchStem ++ segment :=
    ⟨List.not_mem_append stem.1 inside.1, List.not_mem_append stem.2 inside.2⟩
  obtain ⟨path, behind⟩ := target_parts target rfl plain
  have reached : service.reached? request = some (.searchFor segment) := by
    rw [reached?_open free (by rw [inPath.method]; decide), path,
      ofPath?_segment filled spells.undelimited, inPath.method]
    rfl
  unfold Service.asked? searchInPath
  rw [reached, behind]
  dsimp only
  rw [spells.decodeSegment?_eq, requestedLimit_suffix bound]
  rfl

theorem InBody.asked (inBody : InBody query limit request)
    (bound : ∀ n ∈ limit, n < UInt64.size) (free : service.key = none) :
    service.asked? request = some ⟨query, limit⟩ := by
  have target : request.target.toList = "/search".toList ++ limitSuffix none := by
    rw [inBody.target]
    rfl
  obtain ⟨path, _⟩ := target_parts target rfl (by decide)
  have reached : service.reached? request = some .search := by
    rw [reached?_open free (by rw [inBody.method]; decide), path, inBody.method]
    rfl
  have typed : ((request.header? "content-type").filter isPlainText).any isJsonType = true := by
    rw [inBody.typed]
    decide +kernel
  have decoded : Json.decodeBytes Wire.searchRequest request.body = .ok ⟨query, limit⟩ := by
    unfold Json.decodeBytes Json.Document.decode
    rw [inBody.text, (means_asked query bound).reads]
    rfl
  unfold Service.asked? requestedSearch
  rw [reached]
  dsimp only
  rw [typed, decoded]
  simp only [Bool.not_true, Bool.false_eq_true, if_false, if_neg (Nat.not_lt.mpr inBody.fits)]
  rfl

-- The search as most clients would send it.
def plainSearch (query : String) (limit : Option Nat) : Request where
  method := .post
  target := "/search"
  headers := [("content-type", "application/json")]
  body := (Wire.ofSearchRequest ⟨query, limit⟩).render.toUTF8.toList

-- A query that fits into a path fits into a body, however its characters are escaped there.
theorem plainSearch_inBody (inPath : InPath query limit request)
    (bound : ∀ n ∈ limit, n < UInt64.size) : InBody query limit (plainSearch query limit) := by
  have typed : (plainSearch query limit).header? "content-type" = some "application/json" := by
    have named : "content-type".toLower = "content-type" := by decide +kernel
    unfold Request.header? plainSearch
    rw [List.find?_cons_of_pos (by simp [named])]
    rfl
  refine ⟨rfl, rfl, typed, ?_, ?_⟩
  · exact Json.Document.ofBytes_render (means_asked query bound).fits
  · obtain ⟨segment, spells, spelled⟩ := inPath.target
    have short := inPath.fits
    have inside := spells.length_le
    have compact := length_compact_le query bound
    have bytes := Text.length_encoded_bounds (Wire.ofSearchRequest ⟨query, limit⟩).compact
    have chars := Text.length_encoded_bounds query.toList
    rw [← String.length_toList, spelled] at short
    rw [Text.toUTF8_toList] at inside
    rw [plainSearch, Json.Value.render, Text.toUTF8_toList, String.toList_ofList]
    simp only [List.length_append, maxTargetLength] at short
    simp only [maxBodyBytes]
    omega

end Asked

section History

variable {a b : Session} {request : Request} {service : Service}

-- However many requests came before, the content and the engine are those of the start.
theorem Service.respondAll_keeps (service : Service) (earlier : List Request)
    (same : a.store.SameContent b.store) (engines : a.engine = b.engine)
    (kinded : b.store.WellKinded) :
    ∃ after : Session, (service.respondAll ⟨a, none⟩ earlier).2 = ⟨after, none⟩ ∧
      after.store.SameContent b.store ∧ after.engine = b.engine := by
  induction earlier generalizing a with
  | nil => exact ⟨a, rfl, same, engines⟩
  | cons request rest ih =>
    obtain ⟨middle, answered, content, engine⟩ :=
      service.respond_alike request same engines kinded
    obtain ⟨after, left, kept⟩ := ih content engine
    refine ⟨after, ?_, kept⟩
    unfold Service.respondAll
    rw [answered]
    exact left

theorem body_complete (shown : request.method ≠ .head) (response : Response) :
    (complete request response).body = response.body := by
  unfold complete listMethods
  split
  · dsimp only
    rw [if_neg shown]
    split <;> rfl
  · simp [shown]

-- What a search is answered depends on what it asks and on the session at the start alone.
theorem Service.respond_after {asked : Wire.SearchRequest}
    (wanted : service.asked? request = some asked) (shown : request.method ≠ .head)
    (kinded : a.store.WellKinded) (earlier : List Request) :
    let response := (service.respond request (service.respondAll ⟨a, none⟩ earlier).2).1
    let reply := searchReply asked.query
      (a.search asked.query (service.search.resolveLimit asked.limit)).1
    response.status = reply.status ∧ response.body = reply.body := by
  obtain ⟨after, left, content, engine⟩ :=
    service.respondAll_keeps earlier (.refl a.store) rfl kinded
  dsimp only
  rw [left, respond_asked wanted, Session.search_congr content engine kinded]
  exact ⟨status_complete request _, body_complete shown _⟩

-- The answer to a request after others, from a server that starts with a session.
def answerAfter (config : Config) (key : Option String) (session : Session)
    (earlier : List Request) (request : Request) : Response :=
  let service := Service.ofConfig config key
  (service.respond request (service.respondAll (.ofConfig config session) earlier).2).1

theorem answerAfter_asked {config : Config} (unlimited : config.server.rateLimit = 0)
    {key : Option String} {asked : Wire.SearchRequest}
    (wanted : (Service.ofConfig config key).asked? request = some asked)
    (shown : request.method ≠ .head) (kinded : a.store.WellKinded) (earlier : List Request) :
    let reply := searchReply asked.query
      (a.search asked.query (config.search.resolveLimit asked.limit)).1
    (answerAfter config key a earlier request).status = reply.status ∧
      (answerAfter config key a earlier request).body = reply.body := by
  have start : State.ofConfig config a = ⟨a, none⟩ := by
    unfold State.ofConfig permitsOf
    rw [if_pos unlimited]
  unfold answerAfter
  rw [start]
  exact Service.respond_after wanted shown kinded earlier

end History

end SiteSearch.Http
