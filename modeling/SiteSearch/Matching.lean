import SiteSearch.Text.Lowercase
import SiteSearch.Text.Basic
import SiteSearch.Node

-- How one text matches a query, and what the match is worth.
namespace SiteSearch

abbrev Weight := UInt32

def wholeMatchFactor : Score := 10

inductive Match where
  | whole
  | part
  deriving DecidableEq

namespace Match

-- Compares a text with a query that is lowercase already; an absent text counts as empty.
def of? (value : Option String) (query : String) : Option Match :=
  let text := Text.lowercase (value.getD "")
  if text = query then some .whole
  else if Text.occurs query.toList text.toList then some .part
  else none

def points (weight : Weight) : Match → Score
  | .whole => weight.toUInt64 * wholeMatchFactor
  | .part => weight.toUInt64

end Match

def matchPoints (value : Option String) (weight : Weight) (query : String) : Score :=
  match Match.of? value query with
  | some found => found.points weight
  | none => 0

-- The product stays within a word, since a weight is half a word.
theorem Match.toNat_points (weight : Weight) (found : Match) :
    (found.points weight).toNat =
      match found with
      | .whole => 10 * weight.toNat
      | .part => weight.toNat := by
  have bound := weight.toNat_lt
  cases found with
  | whole =>
    simp only [points, wholeMatchFactor, UInt64.toNat_mul, UInt32.toNat_toUInt64]
    rw [show (10 : UInt64).toNat = 10 from rfl, Nat.mod_eq_of_lt (by omega)]
    omega
  | part => simp [points]

end SiteSearch
