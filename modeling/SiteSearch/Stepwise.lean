import SiteSearch.Session

-- A search taken apart, for those who watch the store while it runs: it checks its query and clears
-- the scores, runs one pass after another and selects at the end. Between two of these moves the
-- scores are half written.
namespace SiteSearch

namespace Ranking

inductive Step where
  | direct (kind : Kind)
  | transitive (relation : Relation) (rule : TransitiveRule)

def Step.run (table : WeightTable) (query : String) : Step → Pass
  | .direct kind => directPass table query kind
  | .transitive relation rule => transitivePass query relation rule

def directSteps : List Step :=
  Kind.all.map .direct

def lendingSteps (table : WeightTable) : List Step :=
  table.rules.map fun entry => .transitive entry.1 entry.2

def steps (table : WeightTable) : List Step :=
  directSteps ++ lendingSteps table

end Ranking

def Summary.record (summary : Summary) (found : Nat) : Ranking.Step → Summary
  | .direct _ => { summary with directMatches := summary.directMatches + found }
  | .transitive _ _ => { summary with transitiveBoosts := summary.transitiveBoosts + found }

structure Search where
  query : String
  count : Nat
  pending : List Ranking.Step
  summary : Summary

inductive Progress where
  | underway (search : Search)
  | finished (answer : Except SearchError Outcome)

namespace Session

-- The first move: nothing is cleared before the query is accepted and every collection is there.
def start (session : Session) (query : String) (count : Nat) : Progress × Session :=
  match checkQuery query with
  | .error fault => (.finished (.error fault), session)
  | .ok () =>
    match session.store.ensureLoaded with
    | .error fault => (.finished (.error fault), session)
    | .ok () =>
      (.underway
        { query := Text.lowercase query
          count
          pending := Ranking.steps session.engine.weights
          summary := {} },
        { session with store := session.store.resetScores })

def select (session : Session) (search : Search) : Except SearchError Outcome := do
  let nodes ← session.store.selection
  let hits ← session.store.best search.count
  let summary := { search.summary with scoredNodes := nodes.countP (0 < ·.score) }
  pure { query := search.query, summary, hits }

def advance (session : Session) (search : Search) : Progress × Session :=
  match search.pending with
  | [] => (.finished (session.select search), session)
  | step :: later =>
    match step.run session.engine.weights (Text.lowercase search.query) session.store with
    | (.error fault, store) => (.finished (.error fault), { session with store })
    | (.ok found, store) =>
      (.underway { search with pending := later, summary := search.summary.record found step },
        { session with store })

end Session

end SiteSearch
