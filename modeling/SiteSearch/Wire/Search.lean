import SiteSearch.Session
import SiteSearch.Wire.Basic

-- Messages of a search: what a client asks, and what it is answered.
namespace SiteSearch.Wire

open Json

structure SearchRequest where
  query : String
  limit : Option Nat
  deriving DecidableEq

structure SearchParams where
  limit : Option Nat
  deriving DecidableEq

structure Hit where
  id : String
  kind : Kind
  score : Score
  texts : Dictionary String

structure SearchReply where
  success : Bool
  query : String
  count : Nat
  results : List Hit
  error : Option String

structure HashReply where
  success : Bool
  checksum : Option UInt64
  hash : Option String
  error : Option String
  deriving DecidableEq

structure Health where
  status : String
  version : String
  deriving DecidableEq

def programVersion : String := "0.4.2"

def Health.now : Health := { status := "ok", version := programVersion }

def Hit.of (node : Node) : Hit :=
  { id := node.id
    kind := node.kind
    score := node.score
    texts := .ofList (node.presentAttributes.map fun entry => (entry.1.key, entry.2)) }

def SearchReply.ofOutcome (outcome : Outcome) : SearchReply :=
  { success := true
    query := outcome.query
    count := outcome.hits.length
    results := outcome.hits.map .of
    error := none }

-- A refusal repeats the query as it was asked.
def SearchReply.ofFault (query : String) (fault : SearchError) : SearchReply :=
  { success := false, query, count := 0, results := [], error := some fault.message }

def HashReply.ofDigest (checksum : UInt64) (hash : String) : HashReply :=
  { success := true, checksum := some checksum, hash := some hash, error := none }

def query : Member String := .required "query" Reading.string

def limit : Member (Option Nat) := .defaulted "limit" Reading.count

def searchRequest : Reader SearchRequest :=
  Reading.record [query.check, limit.check] fun found => do
    pure { query := ← found.get query, limit := ← found.get limit }

def ofSearchRequest (request : SearchRequest) : Value :=
  .object (("query", .text request.query)
    :: (request.limit.map fun limit => ("limit", Value.number limit)).toList)

def searchParams : Reader SearchParams :=
  Reading.record [limit.check] fun found => do
    pure { limit := ← found.get limit }

def ofSearchParams (params : SearchParams) : Value :=
  .object [("limit", .ofOption .number params.limit)]

-- A hit while its members are read.
structure HitDraft where
  id : Option String := none
  kind : Option Kind := none
  score : Option Score := none
  texts : Dictionary String := .empty

-- A known member may stand once; any other is a text, of which the last stands.
def HitDraft.add (draft : HitDraft) (key : String) (value : Reading) : Except Fault HitDraft :=
  let once {α : Type} (held : Option α) (result : Except Fault HitDraft) : Except Fault HitDraft :=
    if held.isSome then .error .mismatched else result
  if key = "id" then once draft.id do
    pure { draft with id := some (← value.string) }
  else if key = "kind" then once draft.kind do
    pure { draft with kind := some (← Wire.kind value) }
  else if key = "score" then once draft.score do
    pure { draft with score := some (← value.word64) }
  else do
    pure { draft with texts := draft.texts.insert key (← value.string) }

def HitDraft.finish (draft : HitDraft) : Except Fault Hit :=
  match draft with
  | { id := some id, kind := some kind, score := some score, texts } =>
    .ok { id, kind, score, texts }
  | _ => .error .mismatched

def hit : Reader Hit := fun reading => do
  (← Reading.foldMembers {} HitDraft.add reading).finish

def ofHit (hit : Hit) : Value :=
  .object (("id", .text hit.id) :: ("kind", ofKind hit.kind) :: ("score", ofWord64 hit.score)
    :: hit.texts.entries.map fun entry => (entry.1, .text entry.2))

def success : Member Bool := .required "success" Reading.truth

def resultCount : Member Nat := .required "count" Reading.count

def results : Member (List Hit) := .required "results" (Reading.list hit)

def error : Member (Option String) := .nullable "error" Reading.string

def searchReply : Reader SearchReply :=
  Reading.record [success.check, query.check, resultCount.check, results.check, error.check]
    fun found => do
      pure {
        success := ← found.get success
        query := ← found.get query
        count := ← found.get resultCount
        results := ← found.get results
        error := ← found.get error }

def ofSearchReply (reply : SearchReply) : Value :=
  .object [("success", .bool reply.success), ("query", .text reply.query),
    ("count", .number reply.count), ("results", .ofList ofHit reply.results),
    ("error", .ofOption .text reply.error)]

def checksum : Member (Option UInt64) := .nullable "checksum" Reading.word64

def hash : Member (Option String) := .nullable "hash" Reading.string

def hashReply : Reader HashReply :=
  Reading.record [success.check, checksum.check, hash.check, error.check] fun found => do
    pure {
      success := ← found.get success
      checksum := ← found.get checksum
      hash := ← found.get hash
      error := ← found.get error }

def ofHashReply (reply : HashReply) : Value :=
  .object [("success", .bool reply.success), ("checksum", .ofOption ofWord64 reply.checksum),
    ("hash", .ofOption .text reply.hash), ("error", .ofOption .text reply.error)]

def status : Member String := .required "status" Reading.string

def versionText : Member String := .required "version" Reading.string

def health : Reader Health :=
  Reading.record [status.check, versionText.check] fun found => do
    pure { status := ← found.get status, version := ← found.get versionText }

def ofHealth (health : Health) : Value :=
  .object [("status", .text health.status), ("version", .text health.version)]

end SiteSearch.Wire
