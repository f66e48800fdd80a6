import Mathlib.Algebra.GroupWithZero.Nat
import Mathlib.Data.List.Infix
import SiteSearch.Proofs.Ranking.TableFit
import SiteSearch.Proofs.Store.Content

-- The points of a node as numbers. A sum of points that stops at the largest word is the smaller
-- of the true sum and that word, so it does not matter in what order points are added.
namespace SiteSearch

-- What a text is worth under a weight, for a lowercase query.
def worth (value : Option String) (weight : Weight) (query : String) : Nat :=
  let text := Text.lowercase (value.getD "")
  if text = query then 10 * weight.toNat
  else if query.toList <:+: text.toList then weight.toNat
  else 0

def FieldWeights.worth (weights : FieldWeights) (query : String) (node : Node) : Nat :=
  (weights.entries.map fun entry => SiteSearch.worth (node.get? entry.1) entry.2 query).sum

theorem toNat_matchPoints (value : Option String) (weight : Weight) (query : String) :
    (matchPoints value weight query).toNat = worth value weight query := by
  unfold matchPoints Match.of? worth
  dsimp only
  by_cases whole : Text.lowercase (value.getD "") = query
  · rw [if_pos whole, if_pos whole]
    exact Match.toNat_points weight .whole
  · rw [if_neg whole, if_neg whole]
    by_cases part : query.toList <:+: (Text.lowercase (value.getD "")).toList
    · rw [if_pos ((Text.occurs_iff_isInfix _ _).mpr part), if_pos part]
      exact Match.toNat_points weight .part
    · rw [if_neg (mt (Text.occurs_iff_isInfix _ _).mp part), if_neg part]
      rfl

theorem Score.toNat_le_limit (score : Score) : score.toNat ≤ Score.limit.toNat :=
  Nat.le_pred_of_lt score.toNat_lt

theorem Score.toNat_foldl_plus (points : List Score) (start : Score) :
    (points.foldl Score.plus start).toNat =
      min Score.limit.toNat (start.toNat + (points.map UInt64.toNat).sum) := by
  induction points generalizing start with
  | nil =>
    have bound := start.toNat_le_limit
    rw [List.foldl_nil, List.map_nil, List.sum_nil]
    omega
  | cons head rest ih =>
    rw [List.foldl_cons, ih, Score.toNat_plus, List.map_cons, List.sum_cons]
    omega

theorem toNat_score_addScores (node : Node) (points : List Score) :
    (node.addScores points).score.toNat =
      min Score.limit.toNat (node.score.toNat + (points.map UInt64.toNat).sum) := by
  rw [Node.addScores_eq]
  exact Score.toNat_foldl_plus points node.score

theorem sum_filter_positive (points : List Score) :
    ((points.filter (0 < ·)).map UInt64.toNat).sum = (points.map UInt64.toNat).sum := by
  induction points with
  | nil => rfl
  | cons head rest ih =>
    by_cases positive : 0 < head
    · rw [List.filter_cons_of_pos (by simpa using positive), List.map_cons, List.map_cons,
        List.sum_cons, List.sum_cons, ih]
    · have zero : head.toNat = 0 := by
        rw [UInt64.lt_iff_toNat_lt] at positive
        exact Nat.eq_zero_of_not_pos positive
      rw [List.filter_cons_of_neg (by simpa using positive), List.map_cons, List.sum_cons, zero,
        Nat.zero_add, ih]

def FieldWeights.points (weights : FieldWeights) (query : String) (node : Node) : List Score :=
  (weights.entries.map fun entry => matchPoints (node.get? entry.1) entry.2 query).filter (0 < ·)

theorem contributions_eq {weights : FieldWeights} {node : Node} (fits : weights.Fits node.kind)
    (query : String) : contributions weights query node = .ok (weights.points query node) := by
  have granted : ∀ entry ∈ weights.entries,
      (do
        let value ← node.read entry.1
        pure (matchPoints value entry.2 query) : Except SearchError Score) =
        .ok (matchPoints (node.get? entry.1) entry.2 query) := by
    intro entry member
    have carried := fits entry.1 (List.mem_map_of_mem member)
    rw [(node.read_eq_ok_iff entry.1 _).mpr ⟨carried, rfl⟩]
    rfl
  unfold contributions
  rw [mapM_granted granted]
  rfl

theorem sum_points (weights : FieldWeights) (query : String) (node : Node) :
    ((weights.points query node).map UInt64.toNat).sum = weights.worth query node := by
  unfold FieldWeights.points FieldWeights.worth
  rw [sum_filter_positive, List.map_map]
  exact congrArg List.sum (List.map_congr_left fun entry _ => toNat_matchPoints _ _ _)

@[simp] theorem points_resetScore (weights : FieldWeights) (query : String) (node : Node) :
    weights.points query node.resetScore = weights.points query node := by
  unfold FieldWeights.points
  simp only [Node.get?_resetScore]

end SiteSearch
