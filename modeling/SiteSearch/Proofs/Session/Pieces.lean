import SiteSearch.Proofs.Ranking.Narrowing
import SiteSearch.Proofs.Session.Outcome
import SiteSearch.Proofs.Text.Lowering

-- What stands in a store is found by the pieces of it. A piece and the text around it are
-- lowercased apart, so the sigmas of the piece must come out alike in both.
namespace SiteSearch

theorem length_points_pos {weights : FieldWeights} {query : String} {node : Node} {field : Field}
    {weight : Weight} (weighted : weights.weight? field = some weight)
    (found : 0 < worth (node.get? field) weight query) :
    0 < (weights.points query node).length := by
  rw [length_points]
  apply List.countP_pos_iff.mpr
  exact ⟨(field, weight), (weights.mem_entries field weight).mpr weighted, decide_eq_true found⟩

namespace Ranking

theorem scored_of_own_match {table : WeightTable} {query : String} {store : Store} {node : Node}
    {field : Field} {weight : Weight}
    (weighted : (table.direct node.kind).weight? field = some weight)
    (found : 0 < worth (node.get? field) weight query) :
    0 < (node.resetScore.addScores (gains table query store (steps table) node)).score := by
  rw [scored_iff]
  unfold gains steps
  rw [List.flatMap_append, List.length_append]
  have own : 0 < (gains table query store directSteps node).length := by
    rw [gains_directSteps]
    exact length_points_pos weighted found
  exact Nat.lt_of_lt_of_le own (Nat.le_add_right _ _)

end Ranking

-- The node at a place of a store that a search has ranked.
theorem Session.afterSearch_getElem? (session : Session) (query : String) {kind : Kind}
    {place : Nat} {node : Node}
    (placed : ((session.store.collection kind).getD [])[place]? = some node) :
    (((session.afterSearch query).store.collection kind).getD [])[place]? =
      some (node.resetScore.addScores (Ranking.gains session.engine.weights
        (Text.lowercase (Text.lowercase query)) session.store
        (Ranking.steps session.engine.weights) node)) := by
  unfold Session.afterSearch Ranking.ranked
  dsimp only
  rw [Store.getD_collection_mapNodes, List.getElem?_map, placed]
  rfl

-- Stored text is found by any piece of itself whose sigmas are kept.
theorem stored_text_is_found_by_its_pieces {table : WeightTable} {engine : Engine}
    (accepted : Engine.ofWeights table = .ok engine) {store : Store} (loaded : store.Loaded)
    (kinded : store.WellKinded) {kind : Kind} {place : Nat} {node : Node}
    (placed : ((store.collection kind).getD [])[place]? = some node) {field : Field}
    {value : String} (present : node.get? field = some value) {weight : Weight}
    (weighted : (table.direct kind).weight? field = some weight) (counts : 0 < weight)
    {query : String} (something : query ≠ "") (fits : query.utf8ByteSize ≤ 256)
    {before after : List Char} (parts : value.toList = before ++ query.toList ++ after)
    (kept : Text.SigmasKept before query.toList after) (count : Nat) :
    ∃ outcome next scored, Session.search ⟨store, engine⟩ query count = (.ok outcome, next) ∧
      ((next.store.collection kind).getD [])[place]? = some scored ∧
      scored.resetScore = node.resetScore ∧ 0 < scored.score := by
  obtain rfl := (Engine.ofWeights_ok_iff table engine).mp accepted
  have checked := (checkQuery_eq_ok_iff query).mpr ⟨something, fits⟩
  obtain rfl : node.kind = kind := kinded kind node (List.mem_of_getElem? placed)
  have found : 0 < worth (node.get? field) weight (Text.lowercase (Text.lowercase query)) := by
    rw [worth_pos_iff, present, Text.lowercase_lowercase]
    exact ⟨UInt32.lt_iff_toNat_lt.mp counts, Text.lowercase_infix parts kept⟩
  refine ⟨_, _, _, Session.search_loaded checked loaded kinded count,
    Session.afterSearch_getElem? ⟨store, engine⟩ query placed, ?_,
    Ranking.scored_of_own_match weighted found⟩
  rw [Node.resetScore_addScores]
  rfl

def wordNamed : Node where
  kind := .building
  id := "b1"
  attributes := { name := some "ΟΔΥΣΣΕΑΣ" }

def wordsNamed : Node where
  kind := .building
  id := "b2"
  attributes := { name := some "ΟΔΟΣ ΕΡΜΟΥ" }

def greekNames : Store where
  buildings := some [wordNamed, wordsNamed]
  locks := some []
  groups := some []
  media := some []

theorem greekNames_loaded : greekNames.Loaded := by
  decide

theorem greekNames_wellKinded : greekNames.WellKinded := by
  decide

-- The sigma at the end of the piece ends a word of the name too.
theorem piece_of_greekNames_is_found :
    Engine.ofWeights .stock = .ok .stock ∧ greekNames.Loaded ∧ greekNames.WellKinded ∧
      "ΟΔΟΣ ΕΡΜΟΥ".toList = [] ++ "ΟΔΟΣ".toList ++ " ΕΡΜΟΥ".toList ∧
      Text.SigmasKept [] "ΟΔΟΣ".toList " ΕΡΜΟΥ".toList ∧
      ∃ outcome next scored,
        Session.search ⟨greekNames, .stock⟩ "ΟΔΟΣ" 1 = (.ok outcome, next) ∧
        ((next.store.collection .building).getD [])[1]? = some scored ∧
        scored.resetScore = wordsNamed ∧ 0 < scored.score := by
  have accepted : Engine.ofWeights .stock = .ok .stock := rfl
  have placed : ((greekNames.collection .building).getD [])[1]? = some wordsNamed := rfl
  have present : wordsNamed.get? .name = some "ΟΔΟΣ ΕΡΜΟΥ" := rfl
  have weighted : (WeightTable.stock.direct .building).weight? .name = some 9 := rfl
  have parts : "ΟΔΟΣ ΕΡΜΟΥ".toList = [] ++ "ΟΔΟΣ".toList ++ " ΕΡΜΟΥ".toList := by decide
  have kept : Text.SigmasKept [] "ΟΔΟΣ".toList " ΕΡΜΟΥ".toList :=
    Text.sigmasKept_of_words rfl (by decide +kernel) _
  exact ⟨accepted, greekNames_loaded, greekNames_wellKinded, parts, kept,
    stored_text_is_found_by_its_pieces accepted greekNames_loaded greekNames_wellKinded placed
      present weighted (by decide) (by decide) (by decide) parts kept 1⟩

-- The sigma at the end of the piece stands within the word, where its small form is another.
theorem piece_of_greekNames_is_missed :
    Engine.ofWeights .stock = .ok .stock ∧ greekNames.Loaded ∧ greekNames.WellKinded ∧
      ((greekNames.collection .building).getD [])[0]? = some wordNamed ∧
      wordNamed.get? .name = some "ΟΔΥΣΣΕΑΣ" ∧
      (WeightTable.stock.direct .building).weight? .name = some 9 ∧
      ("ΟΔΥΣ" ≠ "" ∧ "ΟΔΥΣ".utf8ByteSize ≤ 256) ∧ "ΟΔΥΣ".toList <:+: "ΟΔΥΣΣΕΑΣ".toList ∧
      ∃ outcome next scored,
        Session.search ⟨greekNames, .stock⟩ "ΟΔΥΣ" 1 = (.ok outcome, next) ∧
        ((next.store.collection .building).getD [])[0]? = some scored ∧
        scored.resetScore = wordNamed ∧ scored.score = 0 := by
  have placed : ((greekNames.collection .building).getD [])[0]? = some wordNamed := rfl
  have fit : "ΟΔΥΣ" ≠ "" ∧ "ΟΔΥΣ".utf8ByteSize ≤ 256 := by decide
  have inside : "ΟΔΥΣ".toList <:+: "ΟΔΥΣΣΕΑΣ".toList := ⟨[], "ΣΕΑΣ".toList, by decide⟩
  refine ⟨rfl, greekNames_loaded, greekNames_wellKinded, placed, rfl, rfl, fit, inside, _, _, _,
    Session.search_loaded ((checkQuery_eq_ok_iff _).mpr fit) greekNames_loaded
      greekNames_wellKinded 1,
    Session.afterSearch_getElem? ⟨greekNames, .stock⟩ _ placed, ?_, ?_⟩
  · rw [Node.resetScore_addScores]
    rfl
  · decide +kernel

end SiteSearch
