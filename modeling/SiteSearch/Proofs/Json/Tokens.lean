import Mathlib.Algebra.Group.Nat.Defs
import Mathlib.Data.List.Basic
import SiteSearch.Json.Token
import SiteSearch.Json.Value
import SiteSearch.Proofs.Text.Written

-- The shortest text of a value, read token by token. A number does not show where it ends, so
-- what follows a value must not go on with one.
namespace SiteSearch.Json

open Text (Symbols hexDigit hexValue? hexValue?_hexDigit)

section Texts

variable {done rest : Symbols} {c : Char}

theorem textFrom_short {letter : Char} (apart : letter ≠ 'u')
    (means : shortEscape? letter = some c) :
    textFrom done (some '\\' :: some letter :: rest) = textFrom (some c :: done) rest := by
  rw [textFrom, means]
  exact apart

theorem escapedCode?_control (control : c.toNat < 0x20) :
    escapedCode? (some '0' :: some '0' :: some (hexDigit (c.toNat / 16)) ::
      some (hexDigit (c.toNat % 16)) :: rest) = some (some c, rest) := by
  have zero : hexValue? '0' = some 0 := rfl
  have value : ((0 * 16 + 0) * 16 + c.toNat / 16) * 16 + c.toNat % 16 = c.toNat := by omega
  have notHigh : isHigh c.toNat = false := by
    simp [isHigh]
    omega
  have notLow : isLow c.toNat = false := by
    simp [isLow]
    omega
  unfold escapedCode? hexCode?
  simp only [zero, hexValue?_hexDigit (c.toNat / 16) (by omega),
    hexValue?_hexDigit (c.toNat % 16) (by omega), Option.bind_eq_bind, Option.bind_some, value,
    notHigh, notLow, Char.ofNat_toNat]
  rfl

theorem textFrom_plain (quote : c ≠ '"') (slash : c ≠ '\\') (shown : ¬ c.toNat < 0x20) :
    textFrom done (some c :: rest) = textFrom (some c :: done) rest := by
  rw [textFrom.eq_6 _ _ _ quote (fun _ _ => slash) (fun _ _ _ => slash) slash, if_neg shown]

theorem textFrom_escapeChar (c : Char) :
    textFrom done ((escapeChar c).map some ++ rest) = textFrom (some c :: done) rest := by
  unfold escapeChar
  iterate 7
    split
    · next same =>
      subst same
      exact textFrom_short (by decide) rfl
  next quote slash _ _ _ _ _ =>
    split
    · next control =>
      simp only [List.map_cons, List.map_nil, List.cons_append, List.nil_append]
      rw [textFrom]
      split
      · next found =>
        rw [escapedCode?_control control] at found
        cases found
        rfl
      · next found =>
        rw [escapedCode?_control control] at found
        cases found
    · next shown => exact textFrom_plain quote slash shown

theorem textFrom_escaped (text : List Char) :
    textFrom done ((text.flatMap escapeChar).map some ++ some '"' :: rest) =
      some (((done.reverse ++ text.map some).mapM id).map String.ofList, rest) := by
  induction text generalizing done with
  | nil =>
    rw [List.flatMap_nil, List.map_nil, List.nil_append, textFrom, List.append_nil]
  | cons c later ih =>
    rw [List.flatMap_cons, List.map_append, List.append_assoc, textFrom_escapeChar, ih,
      List.reverse_cons, List.append_assoc]
    rfl

end Texts

theorem tokenAt_quoted (text : String) (rest : Symbols) :
    tokenAt '"' ((text.toList.flatMap escapeChar).map some ++ some '"' :: rest) =
      some (.text (some text), rest) := by
  have opened (after : Symbols) :
      tokenAt '"' after = (textFrom [] after).map fun found => (.text found.1, found.2) := rfl
  rw [opened, textFrom_escaped, List.reverse_nil, List.nil_append, Text.mapM_some,
    Option.map_some, Option.map_some, String.ofList_toList]

-- Nothing here can be a part of a number before it.
def Apart (rest : Symbols) : Prop :=
  ∀ c, rest.head? = some (some c) → c.isDigit = false ∧ c ≠ '.' ∧ c ≠ 'e' ∧ c ≠ 'E'

theorem Apart.nil : Apart [] := by
  intro c first
  cases first

theorem Apart.cons {c : Char} (other : c.isDigit = false ∧ c ≠ '.' ∧ c ≠ 'e' ∧ c ≠ 'E')
    (rest : Symbols) : Apart (some c :: rest) := by
  intro first same
  cases same
  exact other

section Numbers

variable {rest : Symbols}

theorem digits_append {digits : List Char} (decimal : ∀ c ∈ digits, c.isDigit = true)
    (apart : Apart rest) : Json.digits (digits.map some ++ rest) = (digits, rest) := by
  have all : ∀ symbol ∈ digits.map some, isDigit symbol = true := by
    simpa [isDigit] using decimal
  have stops : rest.takeWhile isDigit = [] ∧ rest.dropWhile isDigit = rest := by
    cases rest with
    | nil => exact ⟨rfl, rfl⟩
    | cons symbol later =>
      have other : isDigit symbol = false := by
        cases symbol with
        | none => rfl
        | some c => exact (apart c rfl).1
      simp [other]
  unfold Json.digits
  rw [List.takeWhile_append_of_pos all, List.dropWhile_append_of_pos all, stops.1, stops.2,
    List.append_nil, List.filterMap_map]
  simp

theorem fraction?_apart (apart : Apart rest) : fraction? rest = some (none, rest) := by
  unfold fraction?
  split
  · exact absurd rfl (apart '.' rfl).2.1
  · rfl

theorem exponent?_apart (apart : Apart rest) : exponent? rest = some (none, rest) := by
  unfold exponent?
  split
  · exact absurd rfl (apart 'e' rfl).2.2.1
  · exact absurd rfl (apart 'E' rfl).2.2.2
  · rfl

theorem whole?_toDigits (n : Nat) (apart : Apart rest) :
    whole? ((Nat.toDigits 10 n).map some ++ rest) = some (Nat.toDigits 10 n, rest) := by
  unfold whole?
  rw [digits_append (fun c member => Text.isDigit_of_mem_toDigits member) apart]
  dsimp only
  have filled : (Nat.toDigits 10 n).isEmpty = false :=
    List.isEmpty_eq_false_iff.mpr Nat.toDigits_ne_nil
  have shown : ¬ ((Nat.toDigits 10 n).headD '0' = '0' ∧ (Nat.toDigits 10 n).length > 1) := by
    rintro ⟨zero, long⟩
    rcases Nat.eq_zero_or_pos n with rfl | positive
    · exact absurd long (by decide)
    · exact Text.headD_toDigits positive zero
  rw [filled, if_neg]
  simpa using shown

theorem number?_toDigits {n : Nat} (small : n < 10 ^ 20) (apart : Apart rest) :
    number? ((Nat.toDigits 10 n).map some ++ rest) = some (.natural n, rest) := by
  have short : (Nat.toDigits 10 n).length ≤ 20 :=
    (Nat.length_toDigits_le_iff (by decide) (by decide)).mpr small
  obtain ⟨digit, more, digits, decimal⟩ := Text.toDigits_cons n
  unfold number?
  split
  · next tail starts =>
    rw [digits, List.map_cons, List.cons_append] at starts
    obtain ⟨same, _⟩ := List.cons.inj starts
    cases same
    cases decimal
  · unfold numberFrom
    simp only [whole?_toDigits n apart, fraction?_apart apart, exponent?_apart apart,
      Option.bind_eq_bind, Option.bind_some]
    unfold classify
    rw [if_pos (by simpa using short), Text.valueOf_toDigits]

theorem tokenAt_digit {c : Char} (decimal : c.isDigit = true) (rest : Symbols) :
    tokenAt c rest = (number? (some c :: rest)).map fun found => (.number found.1, found.2) := by
  unfold tokenAt
  split
  iterate 10 cases decimal
  rfl

theorem tokenAt_toDigits {n : Nat} (small : n < 10 ^ 20) (apart : Apart rest) :
    ∃ digit more, Nat.toDigits 10 n = digit :: more ∧ isSpace digit = false ∧
      tokenAt digit (more.map some ++ rest) = some (.number (.natural n), rest) := by
  obtain ⟨digit, more, digits, decimal⟩ := Text.toDigits_cons n
  refine ⟨digit, more, digits, ?_, ?_⟩
  · unfold isSpace
    simp only [Bool.or_eq_false_iff, decide_eq_false_iff_not]
    refine ⟨⟨⟨?_, ?_⟩, ?_⟩, ?_⟩
    all_goals
      rintro rfl
      cases decimal
  · have read := number?_toDigits small apart
    rw [digits, List.map_cons, List.cons_append] at read
    rw [tokenAt_digit decimal, read, Option.map_some]

end Numbers

theorem tokensFrom_cons {c : Char} {after rest : Symbols} {token : Token}
    (dense : isSpace c = false) (read : tokenAt c after = some (token, rest)) (done : List Token) :
    tokensFrom done (some c :: after) = tokensFrom (token :: done) rest := by
  rw [tokensFrom, if_neg (by rw [dense]; exact Bool.false_ne_true)]
  split
  · next found =>
    rw [read] at found
    cases found
    rfl
  · next found =>
    rw [read] at found
    cases found

mutual

-- The tokens that a value is written in.
def Value.tokens : Value → List Token
  | .null => [.null]
  | .bool value => [.bool value]
  | .number value => [.number (.natural value)]
  | .text value => [.text (some value)]
  | .array items => .openArray :: (itemTokens items ++ [.closeArray])
  | .object members => .openObject :: (memberTokens members ++ [.closeObject])

def itemTokens : List Value → List Token
  | [] => []
  | [item] => item.tokens
  | item :: rest => item.tokens ++ .comma :: itemTokens rest

def memberTokens : List (String × Value) → List Token
  | [] => []
  | [(key, value)] => .text (some key) :: .colon :: value.tokens
  | (key, value) :: rest =>
    .text (some key) :: .colon :: value.tokens ++ .comma :: memberTokens rest

end

-- Values whose numbers are short enough to be read as they were written.
inductive Value.Fits : Value → Prop where
  | null : Fits .null
  | bool (value : Bool) : Fits (.bool value)
  | number {value : Nat} (small : value < 10 ^ 20) : Fits (.number value)
  | text (value : String) : Fits (.text value)
  | array {items : List Value} (all : ∀ item ∈ items, item.Fits) : Fits (.array items)
  | object {members : List (String × Value)} (all : ∀ member ∈ members, member.2.Fits) :
      Fits (.object members)

-- Whatever was read before it and comes after it, a text gives its tokens.
def Yields (text : List Char) (tokens : List Token) : Prop :=
  ∀ done rest, Apart rest →
    tokensFrom done (text.map some ++ rest) = tokensFrom (tokens.reverse ++ done) rest

namespace Yields

variable {front back : List Char} {one two : List Token} {c : Char} {token : Token}

theorem nil : Yields [] [] := fun _ _ _ => rfl

theorem cons (dense : isSpace c = false) (read : ∀ rest, tokenAt c rest = some (token, rest))
    (later : Yields back two) : Yields (c :: back) (token :: two) := by
  intro done rest apart
  rw [List.map_cons, List.cons_append, tokensFrom_cons dense (read _), later _ _ apart,
    List.reverse_cons, List.append_assoc]
  rfl

theorem append (first : Yields front one) (second : Yields (c :: back) two)
    (other : c.isDigit = false ∧ c ≠ '.' ∧ c ≠ 'e' ∧ c ≠ 'E') :
    Yields (front ++ c :: back) (one ++ two) := by
  intro done rest apart
  have clear : Apart ((c :: back).map some ++ rest) := Apart.cons other _
  rw [List.map_append, List.append_assoc, first _ _ clear, second _ _ apart,
    List.reverse_append, List.append_assoc]

theorem quoted (text : String) (later : Yields back two) :
    Yields (quote text ++ back) (.text (some text) :: two) := by
  intro done rest apart
  have read := tokenAt_quoted text (back.map some ++ rest)
  unfold quote
  simp only [List.map_cons, List.map_append, List.cons_append, List.append_assoc, List.nil_append]
  rw [tokensFrom_cons rfl read, later _ _ apart, List.reverse_cons, List.append_assoc]
  rfl

theorem number {n : Nat} (small : n < 10 ^ 20) :
    Yields (toString n).toList [.number (.natural n)] := by
  intro done rest apart
  obtain ⟨digit, more, digits, dense, read⟩ := tokenAt_toDigits small apart
  rw [Text.toList_toString, digits, List.map_cons, List.cons_append, tokensFrom_cons dense read]
  rfl

theorem items {items : List Value} (all : ∀ item ∈ items, Yields item.compact item.tokens) :
    Yields (compactItems items) (itemTokens items) := by
  induction items with
  | nil => exact nil
  | cons item later ih =>
    obtain ⟨here, others⟩ := List.forall_mem_cons.mp all
    cases later with
    | nil => exact here
    | cons next later =>
      exact append here (cons rfl (fun _ => rfl) (ih others)) (by decide)

theorem members {members : List (String × Value)}
    (all : ∀ member ∈ members, Yields member.2.compact member.2.tokens) :
    Yields (compactMembers members) (memberTokens members) := by
  induction members with
  | nil => exact nil
  | cons member later ih =>
    obtain ⟨key, value⟩ := member
    obtain ⟨here, others⟩ := List.forall_mem_cons.mp all
    have first : Yields (quote key ++ ':' :: value.compact)
        (.text (some key) :: .colon :: value.tokens) :=
      quoted key (cons rfl (fun _ => rfl) here)
    cases later with
    | nil => exact first
    | cons next later => exact append first (cons rfl (fun _ => rfl) (ih others)) (by decide)

end Yields

theorem Value.yields {value : Value} (fits : value.Fits) : Yields value.compact value.tokens := by
  induction fits with
  | null =>
    intro done rest _
    exact tokensFrom_cons rfl rfl done
  | bool value =>
    intro done rest _
    cases value with
    | true => exact tokensFrom_cons rfl rfl done
    | false => exact tokensFrom_cons rfl rfl done
  | number small => exact Yields.number small
  | text value =>
    rw [Value.compact, ← List.append_nil (quote value)]
    exact Yields.quoted value .nil
  | array _ ih =>
    have closing : Yields [']'] [.closeArray] := .cons rfl (fun _ => rfl) .nil
    exact .cons rfl (fun _ => rfl) (.append (.items ih) closing (by decide))
  | object _ ih =>
    have closing : Yields ['\x7d'] [.closeObject] := .cons rfl (fun _ => rfl) .nil
    exact .cons rfl (fun _ => rfl) (.append (.members ih) closing (by decide))

theorem tokensFrom_spaces {gap : List Char} (spaces : ∀ c ∈ gap, isSpace c = true)
    (done : List Token) : tokensFrom done (gap.map some) = done.reverse := by
  induction gap with
  | nil => rw [List.map_nil, tokensFrom]
  | cons c later ih =>
    obtain ⟨space, others⟩ := List.forall_mem_cons.mp spaces
    rw [List.map_cons, tokensFrom, if_pos space, ih others]

-- White space after a value makes no difference.
theorem tokens_compact {value : Value} (fits : value.Fits) {gap : List Char}
    (spaces : ∀ c ∈ gap, isSpace c = true) :
    tokens ((value.compact ++ gap).map some) = value.tokens := by
  have apart : Apart (gap.map some) := by
    cases gap with
    | nil => exact Apart.nil
    | cons c later =>
      have space := spaces c List.mem_cons_self
      refine Apart.cons ?_ _
      unfold isSpace at space
      simp only [Bool.or_eq_true, decide_eq_true_eq] at space
      rcases space with ((rfl | rfl) | rfl) | rfl <;> decide
  unfold tokens
  rw [List.map_append, value.yields fits _ _ apart, tokensFrom_spaces spaces, List.append_nil,
    List.reverse_reverse]

end SiteSearch.Json
