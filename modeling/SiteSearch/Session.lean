import SiteSearch.Ranking

-- A session: a store with the engine that ranks it. A search checks the query, ranks and
-- selects, and leaves its scores in the store.
namespace SiteSearch

structure Outcome where
  -- the lowercase query that was ranked
  query : String
  summary : Summary
  hits : List Node
  deriving DecidableEq

def checkQuery (query : String) : Except SearchError Unit :=
  if query.isEmpty then .error (.invalidQuery .empty)
  else if query.utf8ByteSize > maxQueryBytes then
    .error (.invalidQuery (.tooLong query.utf8ByteSize))
  else .ok ()

structure Session where
  store : Store
  engine : Engine

namespace Session

def ofStore (store : Store) : Session :=
  { store, engine := .stock }

def ofWeights (store : Store) (weights : WeightTable) : Except SearchError Session := do
  pure { store, engine := ← Engine.ofWeights weights }

def search (session : Session) (query : String) (count : Nat) :
    Except SearchError Outcome × Session :=
  match checkQuery query with
  | .error fault => (.error fault, session)
  | .ok () =>
    let query := Text.lowercase query
    let (ranked, store) := session.engine.rank query session.store
    let answer := do
      let summary ← ranked
      let hits ← store.best count
      pure { query, summary, hits }
    (answer, { session with store })

end Session

end SiteSearch
