import Mathlib.Data.List.Basic
import SiteSearch.Json.Typed
import SiteSearch.Proofs.Json.Tokens

-- A written value is read as the tree of its parts, whole and with every container closed.
namespace SiteSearch.Json

mutual

def Value.reading : Value → Reading
  | .null => .null
  | .bool value => .bool value
  | .number value => .number (.natural value)
  | .text value => .text (some value)
  | .array items => .array (itemReadings items) true
  | .object members => .object (memberReadings members) true

def itemReadings : List Value → List Reading
  | [] => []
  | item :: rest => item.reading :: itemReadings rest

def memberReadings : List (String × Value) → List (Key × Reading)
  | [] => []
  | (key, value) :: rest => (some key, value.reading) :: memberReadings rest

end

-- Wherever a value may come next, the tokens are taken as one.
def Reads (tokens : List Token) (reading : Reading) : Prop :=
  ∀ stack expect, expect = .value ∨ expect = .firstItem →
    tokens.foldl State.step (.within stack expect) = settle reading stack

namespace Reads

theorem items {item : Value} {later : List Value}
    (all : ∀ each ∈ item :: later, Reads each.tokens each.reading) (done : List Reading)
    (stack : List Frame) {expect : Expect} (ready : expect = .value ∨ expect = .firstItem) :
    (itemTokens (item :: later)).foldl State.step (.within (.array done :: stack) expect) =
      .within (.array ((itemReadings (item :: later)).reverse ++ done) :: stack) .separator := by
  induction later generalizing item done expect with
  | nil => exact all item List.mem_cons_self _ _ ready
  | cons next later ih =>
    obtain ⟨here, others⟩ := List.forall_mem_cons.mp all
    have after := ih others (item.reading :: done) (.inl rfl)
    rw [itemTokens, List.foldl_append, here _ _ ready, List.foldl_cons]
    · refine after.trans ?_
      simp [itemReadings]
    · exact List.cons_ne_nil _ _

theorem member (key : String) {tokens : List Token} {reading : Reading}
    (reads : Reads tokens reading) (done : List (Key × Reading)) (stack : List Frame)
    {expect : Expect} (ready : expect = .key ∨ expect = .firstKey) :
    (.text (some key) :: .colon :: tokens).foldl State.step
        (.within (.object done :: stack) expect) =
      .within (.object ((some key, reading) :: done) :: stack) .separator := by
  have named : State.step (.within (.object done :: stack) expect) (.text (some key)) =
      .within (.member done (some key) :: stack) .colon := by
    rcases ready with rfl | rfl <;> rfl
  rw [List.foldl_cons, named, List.foldl_cons]
  exact reads _ _ (.inl rfl)

theorem members {first : String × Value} {later : List (String × Value)}
    (all : ∀ each ∈ first :: later, Reads each.2.tokens each.2.reading)
    (done : List (Key × Reading)) (stack : List Frame) {expect : Expect}
    (ready : expect = .key ∨ expect = .firstKey) :
    (memberTokens (first :: later)).foldl State.step (.within (.object done :: stack) expect) =
      .within (.object ((memberReadings (first :: later)).reverse ++ done) :: stack)
        .separator := by
  induction later generalizing first done expect with
  | nil => exact member first.1 (all first List.mem_cons_self) done stack ready
  | cons next later ih =>
    obtain ⟨here, others⟩ := List.forall_mem_cons.mp all
    have after := ih others ((some first.1, first.2.reading) :: done) (.inl rfl)
    rw [memberTokens, List.foldl_append, member first.1 here done stack ready, List.foldl_cons]
    · refine after.trans ?_
      simp [memberReadings]
    · exact List.cons_ne_nil _ _

end Reads

theorem Value.reads {value : Value} (fits : value.Fits) : Reads value.tokens value.reading := by
  induction fits with
  | null | bool | number | text =>
    intro stack expect ready
    rcases ready with rfl | rfl <;> rfl
  | @array values _ ih =>
    intro stack expect ready
    have opened : State.step (.within stack expect) .openArray =
        .within (.array [] :: stack) .firstItem := by
      rcases ready with rfl | rfl <;> rfl
    have closed (done : List Reading) :
        State.step (.within (.array done :: stack) .separator) .closeArray =
          settle (.array done.reverse true) stack := rfl
    rw [Value.tokens, List.foldl_cons, opened, List.foldl_append]
    cases values with
    | nil => rfl
    | cons value later =>
      rw [Reads.items ih [] stack (.inr rfl), List.append_nil]
      refine (closed _).trans ?_
      rw [List.reverse_reverse, Value.reading]
  | @object members _ ih =>
    intro stack expect ready
    have opened : State.step (.within stack expect) .openObject =
        .within (.object [] :: stack) .firstKey := by
      rcases ready with rfl | rfl <;> rfl
    have closed (done : List (Key × Reading)) :
        State.step (.within (.object done :: stack) .separator) .closeObject =
          settle (.object done.reverse true) stack := rfl
    rw [Value.tokens, List.foldl_cons, opened, List.foldl_append]
    cases members with
    | nil => rfl
    | cons first later =>
      rw [Reads.members ih [] stack (.inr rfl), List.append_nil]
      refine (closed _).trans ?_
      rw [List.reverse_reverse, Value.reading]

theorem Document.ofBytes_compact {value : Value} (fits : value.Fits) {gap : List Char}
    (spaces : ∀ c ∈ gap, isSpace c = true) :
    Document.ofBytes (String.ofList (value.compact ++ gap)).toUTF8.toList =
      ⟨value.reading, true⟩ := by
  unfold Document.ofBytes Document.ofTokens
  rw [Text.symbols_toUTF8, String.toList_ofList, tokens_compact fits spaces,
    value.reads fits _ _ (.inl rfl)]
  rfl

theorem Document.ofBytes_render {value : Value} (fits : value.Fits) :
    Document.ofBytes value.render.toUTF8.toList = ⟨value.reading, true⟩ := by
  have read := Document.ofBytes_compact fits (List.forall_mem_nil _)
  rwa [List.append_nil] at read

end SiteSearch.Json
