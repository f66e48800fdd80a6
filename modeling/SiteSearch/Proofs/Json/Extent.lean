import Mathlib.Algebra.BigOperators.Group.List.Basic
import Mathlib.Algebra.GroupWithZero.Nat
import Mathlib.Data.List.Basic
import SiteSearch.Json.Typed

-- How much a text can hold. Every character takes a byte, every token a character and every value
-- of a tree a token of its own, so a text that is JSON has no more values than bytes.
namespace SiteSearch

theorem Text.length_symbolsFrom_le (done : Symbols) (bytes : List UInt8) :
    (symbolsFrom done bytes).length ≤ done.length + bytes.length := by
  fun_induction symbolsFrom done bytes with
  | case1 done => simp
  | case2 done first rest c more found ih =>
    simp only [List.length_cons, List.length_drop] at ih ⊢
    omega
  | case3 done first rest found ih =>
    simp only [List.length_cons] at ih ⊢
    omega

theorem Text.length_symbols_le (bytes : List UInt8) : (symbols bytes).length ≤ bytes.length :=
  (length_symbolsFrom_le [] bytes).trans_eq (Nat.zero_add _)

namespace Json

theorem length_tokensFrom_le (done : List Token) (text : Text.Symbols) :
    (tokensFrom done text).length ≤ done.length + text.length := by
  fun_induction tokensFrom done text with
  | case1 done => simp
  | case2 done rest => simp
  | case3 done c rest space ih =>
    simp only [List.length_cons] at ih ⊢
    omega
  | case4 done c rest space token after found ih =>
    have shorter := tokenAt_le found
    simp only [List.length_cons] at ih ⊢
    omega
  | case5 done c rest space found => simp

theorem length_tokens_le (text : Text.Symbols) : (tokens text).length ≤ text.length :=
  (length_tokensFrom_le [] text).trans_eq (Nat.zero_add _)

mutual

-- How many values a tree has.
def Reading.size : Reading → Nat
  | .array items _ => itemSizes items + 1
  | .object members _ => memberSizes members + 1
  | _ => 1

def itemSizes : List Reading → Nat
  | [] => 0
  | item :: rest => item.size + itemSizes rest

def memberSizes : List (Key × Reading) → Nat
  | [] => 0
  | (_, value) :: rest => value.size + memberSizes rest

end

theorem Reading.size_pos (reading : Reading) : 0 < reading.size := by
  cases reading <;> exact Nat.succ_pos _

theorem itemSizes_eq (items : List Reading) : itemSizes items = (items.map Reading.size).sum := by
  induction items with
  | nil => rfl
  | cons item rest ih => rw [itemSizes, ih, List.map_cons, List.sum_cons]

theorem length_le_itemSizes (items : List Reading) : items.length ≤ itemSizes items := by
  induction items with
  | nil => exact Nat.le_refl _
  | cons item rest ih =>
    have one := item.size_pos
    rw [itemSizes, List.length_cons]
    omega

theorem memberSizes_eq (members : List (Key × Reading)) :
    memberSizes members = (members.map fun member => member.2.size).sum := by
  induction members with
  | nil => rfl
  | cons member rest ih => rw [memberSizes, ih, List.map_cons, List.sum_cons]

theorem itemSizes_reverse (items : List Reading) : itemSizes items.reverse = itemSizes items := by
  rw [itemSizes_eq, itemSizes_eq, List.map_reverse, List.sum_reverse]

theorem memberSizes_reverse (members : List (Key × Reading)) :
    memberSizes members.reverse = memberSizes members := by
  rw [memberSizes_eq, memberSizes_eq, List.map_reverse, List.sum_reverse]

def Frame.size : Frame → Nat
  | .array items => itemSizes items + 1
  | .object members | .member members _ => memberSizes members + 1

def stackSize (stack : List Frame) : Nat :=
  (stack.map Frame.size).sum

-- What a state has taken in so far; after a fault it does not matter.
def State.size : State → Nat
  | .within stack _ => stackSize stack
  | .complete value => value.size
  | .stopped _ => 0

@[simp] theorem stackSize_cons (frame : Frame) (stack : List Frame) :
    stackSize (frame :: stack) = frame.size + stackSize stack := rfl

theorem size_settle_le (value : Reading) (stack : List Frame) :
    (settle value stack).size ≤ value.size + stackSize stack := by
  cases stack with
  | nil => exact Nat.le_add_right _ _
  | cons frame rest =>
    cases frame with
    | array items =>
      simp only [settle, State.size, stackSize_cons, Frame.size, itemSizes]
      omega
    | object members => exact Nat.le_add_left _ _
    | member members key =>
      simp only [settle, State.size, stackSize_cons, Frame.size, memberSizes]
      omega

section Steps

variable {stack : List Frame} {token : Token} {next : State}

theorem size_closeArray_le (closed : closeArray stack = some next) :
    next.size ≤ stackSize stack := by
  unfold closeArray at closed
  split at closed
  · next items rest =>
    cases closed
    refine (size_settle_le _ _).trans_eq ?_
    rw [Reading.size, itemSizes_reverse, stackSize_cons, Frame.size]
  · cases closed

theorem size_closeObject_le (closed : closeObject stack = some next) :
    next.size ≤ stackSize stack := by
  unfold closeObject at closed
  split at closed
  · next members rest =>
    cases closed
    refine (size_settle_le _ _).trans_eq ?_
    rw [Reading.size, memberSizes_reverse, stackSize_cons, Frame.size]
  · cases closed

theorem size_startValue_le (started : startValue stack token = some next) :
    next.size ≤ stackSize stack + 1 := by
  unfold startValue at started
  split at started
  iterate 4
    · cases started
      exact (size_settle_le _ _).trans_eq (Nat.add_comm _ _)
  · cases started
    exact Nat.le_of_eq (Nat.add_comm _ _)
  · cases started
    exact Nat.le_of_eq (Nat.add_comm _ _)
  · cases started

theorem size_startMember_le (started : startMember stack token = some next) :
    next.size ≤ stackSize stack := by
  unfold startMember at started
  split at started
  · cases started
    exact Nat.le_refl _
  · cases started

theorem size_separate_le (separated : separate stack token = some next) :
    next.size ≤ stackSize stack := by
  unfold separate at separated
  split at separated
  · cases separated
    exact Nat.le_refl _
  · cases separated
    exact Nat.le_refl _
  · exact size_closeArray_le separated
  · exact size_closeObject_le separated
  · cases separated

theorem size_accept?_le {expect : Expect} (accepted : accept? stack expect token = some next) :
    next.size ≤ stackSize stack + 1 := by
  unfold accept? at accepted
  split at accepted
  · exact Nat.le_succ_of_le (size_closeArray_le accepted)
  · exact Nat.le_succ_of_le (size_closeObject_le accepted)
  · exact size_startValue_le accepted
  · exact size_startValue_le accepted
  · exact Nat.le_succ_of_le (size_startMember_le accepted)
  · exact Nat.le_succ_of_le (size_startMember_le accepted)
  · cases accepted
    exact Nat.le_succ _
  · cases accepted
  · exact Nat.le_succ_of_le (size_separate_le accepted)

-- A token adds one value at most.
theorem State.size_step_le (state : State) (token : Token) :
    (state.step token).size ≤ state.size + 1 := by
  cases state with
  | within stack expect =>
    unfold State.step
    dsimp only
    cases accepted : accept? stack expect token with
    | none => exact Nat.zero_le _
    | some next => exact size_accept?_le accepted
  | complete value => exact Nat.zero_le _
  | stopped value => exact Nat.zero_le _

theorem State.size_foldl_le (state : State) (tokens : List Token) :
    (tokens.foldl State.step state).size ≤ state.size + tokens.length := by
  induction tokens generalizing state with
  | nil => exact Nat.le_refl _
  | cons token rest ih =>
    have first := state.size_step_le token
    have later := ih (state.step token)
    rw [List.foldl_cons, List.length_cons]
    omega

end Steps

theorem Document.size_root_le {bytes : List UInt8} (whole : (Document.ofBytes bytes).whole = true) :
    (Document.ofBytes bytes).root.size ≤ bytes.length := by
  have few : (tokens (Text.symbols bytes)).length ≤ bytes.length :=
    Nat.le_trans (length_tokens_le _) (Text.length_symbols_le bytes)
  have read := State.size_foldl_le (.within [] .value) (tokens (Text.symbols bytes))
  unfold Document.ofBytes Document.ofTokens at whole ⊢
  cases final : (tokens (Text.symbols bytes)).foldl State.step (.within [] .value) with
  | within stack expect =>
    rw [final] at whole
    cases whole
  | complete value =>
    rw [final] at read
    exact Nat.le_trans (read.trans_eq (Nat.zero_add _)) few
  | stopped value =>
    rw [final] at whole
    cases whole

end Json

end SiteSearch
