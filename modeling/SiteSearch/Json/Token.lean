import SiteSearch.Json.Magnitude
import SiteSearch.Text.Basic
import SiteSearch.Text.Utf8

-- The tokens of a JSON text. The list of tokens ends in `broken` where the text stops
-- being made of tokens.
namespace SiteSearch.Json

open Text (Symbols hexValue? valueOf)

-- A number as far as readers tell them apart.
inductive Numeral where
  -- digits only, at most twenty
  | natural (value : Nat)
  -- beyond the range of double precision
  | outsized
  | other
  deriving DecidableEq

inductive Token where
  | openArray
  | closeArray
  | openObject
  | closeObject
  | comma
  | colon
  | null
  | bool (value : Bool)
  | number (numeral : Numeral)
  -- no text if a byte or an escape inside stands for no character
  | text (value : Option String)
  | broken

def isSpace (c : Char) : Bool :=
  c = ' ' || c = '\t' || c = '\n' || c = '\r'

def hexCode? : Symbols → Option (Nat × Symbols)
  | some a :: some b :: some c :: some d :: rest => do
    let a ← hexValue? a
    let b ← hexValue? b
    let c ← hexValue? c
    let d ← hexValue? d
    some (((a * 16 + b) * 16 + c) * 16 + d, rest)
  | _ => none

def isHigh (code : Nat) : Bool := 0xD800 ≤ code && code < 0xDC00

def isLow (code : Nat) : Bool := 0xDC00 ≤ code && code < 0xE000

-- The second half of a pair: a low code written as an escape.
def lowCode? : Symbols → Option (Nat × Symbols)
  | some '\\' :: some 'u' :: rest => do
    let (code, rest) ← hexCode? rest
    if isLow code then some (code, rest) else none
  | _ => none

-- What follows `\u`: one character, by one code or a pair of codes, or none for half a pair.
def escapedCode? (text : Symbols) : Option (Option Char × Symbols) := do
  let (code, rest) ← hexCode? text
  if isHigh code then
    match lowCode? rest with
    | some (low, rest) =>
      some (some (Char.ofNat ((code - 0xD800) * 0x400 + (low - 0xDC00) + 0x10000)), rest)
    | none => some (none, rest)
  else if isLow code then some (none, rest)
  else some (some (Char.ofNat code), rest)

def shortEscape? : Char → Option Char
  | '"' => some '"'
  | '\\' => some '\\'
  | '/' => some '/'
  | 'b' => some '\x08'
  | 'f' => some '\x0c'
  | 'n' => some '\n'
  | 'r' => some '\r'
  | 't' => some '\t'
  | _ => none

theorem hexCode?_shorter {text rest : Symbols} {code : Nat} (h : hexCode? text = some (code, rest)) :
    rest.length < text.length := by
  unfold hexCode? at h
  split at h
  · simp only [bind, Option.bind_eq_some_iff, Option.some.injEq, Prod.mk.injEq] at h
    obtain ⟨_, _, _, _, _, _, _, _, _, rfl⟩ := h
    simp only [List.length_cons]
    omega
  · cases h

theorem lowCode?_shorter {text rest : Symbols} {code : Nat} (h : lowCode? text = some (code, rest)) :
    rest.length < text.length := by
  unfold lowCode? at h
  split at h
  · simp only [bind, Option.bind_eq_some_iff] at h
    obtain ⟨⟨_, tail⟩, found, h⟩ := h
    have shorter := hexCode?_shorter found
    split at h
    · simp only [Option.some.injEq, Prod.mk.injEq] at h
      obtain ⟨_, rfl⟩ := h
      simp only [List.length_cons]
      omega
    · cases h
  · cases h

theorem escapedCode?_shorter {text rest : Symbols} {c : Option Char}
    (h : escapedCode? text = some (c, rest)) : rest.length < text.length := by
  simp only [escapedCode?, bind, Option.bind_eq_some_iff] at h
  obtain ⟨⟨code, tail⟩, found, h⟩ := h
  have shorter : tail.length < text.length := hexCode?_shorter found
  split at h
  · split at h
    · next low =>
      have := lowCode?_shorter low
      simp only [Option.some.injEq, Prod.mk.injEq] at h
      obtain ⟨_, rfl⟩ := h
      dsimp only at this
      omega
    · simp only [Option.some.injEq, Prod.mk.injEq] at h
      obtain ⟨_, rfl⟩ := h
      exact shorter
  · split at h <;>
    · simp only [Option.some.injEq, Prod.mk.injEq] at h
      obtain ⟨_, rfl⟩ := h
      exact shorter

-- Reads up to the closing quote; `done` holds the characters so far, last first.
def textFrom (done : Symbols) : Symbols → Option (Option String × Symbols)
  | [] => none
  | some '"' :: rest => some ((done.reverse.mapM id).map String.ofList, rest)
  | some '\\' :: some 'u' :: rest =>
    match _found : escapedCode? rest with
    | some (c, tail) => textFrom (c :: done) tail
    | none => none
  | some '\\' :: some c :: rest =>
    match shortEscape? c with
    | some c => textFrom (some c :: done) rest
    | none => none
  | some '\\' :: _ => none
  | some c :: rest => if c.toNat < 0x20 then none else textFrom (some c :: done) rest
  | none :: rest => textFrom (none :: done) rest
termination_by text => text.length
decreasing_by
  · have := escapedCode?_shorter _found
    simp only [List.length_cons]
    omega
  all_goals simp only [List.length_cons]; omega

theorem textFrom_shorter {done text rest : Symbols} {value : Option String}
    (h : textFrom done text = some (value, rest)) : rest.length < text.length := by
  fun_induction textFrom done text with
  | case2 done tail =>
    simp only [Option.some.injEq, Prod.mk.injEq] at h
    obtain ⟨_, rfl⟩ := h
    simp
  | case3 done tail c after found ih =>
    have := ih h
    have := escapedCode?_shorter found
    simp only [List.length_cons]
    omega
  | case5 done _ tail _ _ _ ih =>
    have := ih h
    simp only [List.length_cons]
    omega
  | case9 done _ tail _ _ _ _ _ ih =>
    have := ih h
    simp only [List.length_cons]
    omega
  | case10 done tail ih =>
    have := ih h
    simp only [List.length_cons]
    omega
  | _ => cases h

def isDigit : Option Char → Bool
  | some c => c.isDigit
  | none => false

def digits (text : Symbols) : List Char × Symbols :=
  ((text.takeWhile isDigit).filterMap id, text.dropWhile isDigit)

-- Exponents beyond nine digits are as good as endless.
def exponentOf (negative : Bool) (digits : List Char) : Int :=
  let significant := digits.dropWhile (· = '0')
  let size := if significant.length ≤ 9 then valueOf significant else 1000000000
  if negative then -(size : Int) else size

-- A fraction at the front, if there is one; none if its digits are missing.
def fraction? : Symbols → Option (Option (List Char) × Symbols)
  | some '.' :: rest =>
    let (found, rest) := digits rest
    if found.isEmpty then none else some (some found, rest)
  | text => some (none, text)

def signedDigits (text : Symbols) : Bool × List Char × Symbols :=
  match text with
  | some '+' :: rest => (false, digits rest)
  | some '-' :: rest => (true, digits rest)
  | _ => (false, digits text)

-- An exponent at the front, if there is one; none if its digits are missing.
def exponent? (text : Symbols) : Option (Option Int × Symbols) :=
  match text with
  | some 'e' :: rest | some 'E' :: rest =>
    let (negative, found, rest) := signedDigits rest
    if found.isEmpty then none else some (some (exponentOf negative found), rest)
  | _ => some (none, text)

-- The whole part at the front: a zero alone, or digits that start with another.
def whole? (text : Symbols) : Option (List Char × Symbols) :=
  let (found, rest) := digits text
  if found.isEmpty || (found.headD '0' = '0' && found.length > 1) then none
  else some (found, rest)

def classify (negative : Bool) (whole : List Char) (fraction : Option (List Char))
    (exponent : Option Int) : Numeral :=
  if !negative && fraction.isNone && exponent.isNone && whole.length ≤ 20 then
    .natural (valueOf whole)
  else if (Magnitude.ofDigits whole (fraction.getD []) (exponent.getD 0)).isInfinite then .outsized
  else .other

def numberFrom (negative : Bool) (text : Symbols) : Option (Numeral × Symbols) := do
  let (whole, text) ← whole? text
  let (fraction, text) ← fraction? text
  let (exponent, text) ← exponent? text
  some (classify negative whole fraction exponent, text)

def number? : Symbols → Option (Numeral × Symbols)
  | some '-' :: rest => numberFrom true rest
  | text => numberFrom false text

def tokenAt (c : Char) (rest : Symbols) : Option (Token × Symbols) :=
  match c with
  | '[' => some (.openArray, rest)
  | ']' => some (.closeArray, rest)
  | '\x7b' => some (.openObject, rest)
  | '\x7d' => some (.closeObject, rest)
  | ',' => some (.comma, rest)
  | ':' => some (.colon, rest)
  | '"' => (textFrom [] rest).map fun (value, rest) => (.text value, rest)
  | 'n' => word "ull" .null
  | 't' => word "rue" (.bool true)
  | 'f' => word "alse" (.bool false)
  | c => (number? (some c :: rest)).map fun (numeral, rest) => (.number numeral, rest)
where
  -- The rest of a word that is a token by itself.
  word (letters : String) (token : Token) : Option (Token × Symbols) :=
    if (letters.toList.map some).isPrefixOf rest then some (token, rest.drop letters.length)
    else none

theorem digits_le (text : Symbols) : (digits text).2.length ≤ text.length :=
  (List.dropWhile_sublist _).length_le

theorem whole?_le {text rest : Symbols} {whole : List Char} (h : whole? text = some (whole, rest)) :
    rest.length < text.length := by
  simp only [whole?] at h
  split at h
  · cases h
  · next filled =>
    simp only [Option.some.injEq, Prod.mk.injEq] at h
    obtain ⟨_, rfl⟩ := h
    cases text with
    | nil => simp [digits] at filled
    | cons c tail =>
      cases digit : isDigit c with
      | false => simp [digits, digit] at filled
      | true =>
        simp only [digits, List.dropWhile_cons, digit, ↓reduceIte, List.length_cons]
        exact Nat.lt_succ_of_le (List.dropWhile_sublist _).length_le

theorem fraction?_le {text rest : Symbols} {fraction : Option (List Char)}
    (h : fraction? text = some (fraction, rest)) : rest.length ≤ text.length := by
  unfold fraction? at h
  split at h
  · next tail =>
    simp only at h
    split at h
    · cases h
    · simp only [Option.some.injEq, Prod.mk.injEq] at h
      obtain ⟨_, rfl⟩ := h
      exact Nat.le_succ_of_le (digits_le tail)
  · simp only [Option.some.injEq, Prod.mk.injEq] at h
    obtain ⟨_, rfl⟩ := h
    exact Nat.le_refl _

theorem signedDigits_le (text : Symbols) : (signedDigits text).2.2.length ≤ text.length := by
  unfold signedDigits
  split
  · exact Nat.le_succ_of_le (digits_le _)
  · exact Nat.le_succ_of_le (digits_le _)
  · exact digits_le _

theorem exponent?_le {text rest : Symbols} {exponent : Option Int}
    (h : exponent? text = some (exponent, rest)) : rest.length ≤ text.length := by
  unfold exponent? at h
  split at h
  iterate 2
    next tail =>
      simp only at h
      split at h
      · cases h
      · simp only [Option.some.injEq, Prod.mk.injEq] at h
        obtain ⟨_, rfl⟩ := h
        exact Nat.le_succ_of_le (signedDigits_le tail)
  · simp only [Option.some.injEq, Prod.mk.injEq] at h
    obtain ⟨_, rfl⟩ := h
    exact Nat.le_refl _

theorem numberFrom_shorter {negative : Bool} {text rest : Symbols} {numeral : Numeral}
    (h : numberFrom negative text = some (numeral, rest)) : rest.length < text.length := by
  simp only [numberFrom, bind, Option.bind_eq_some_iff, Option.some.injEq, Prod.mk.injEq] at h
  obtain ⟨⟨_, _⟩, one, ⟨_, _⟩, two, ⟨_, _⟩, three, _, rfl⟩ := h
  have after := whole?_le one
  have next := fraction?_le two
  have last := exponent?_le three
  exact Nat.lt_of_le_of_lt (Nat.le_trans last next) after

theorem number?_shorter {text rest : Symbols} {numeral : Numeral}
    (h : number? text = some (numeral, rest)) : rest.length < text.length := by
  unfold number? at h
  split at h
  · exact Nat.lt_succ_of_lt (numberFrom_shorter h)
  · exact numberFrom_shorter h

theorem word_le {rest after : Symbols} {letters : String} {token found : Token}
    (h : tokenAt.word rest letters token = some (found, after)) : after.length ≤ rest.length := by
  unfold tokenAt.word at h
  split at h
  · simp only [Option.some.injEq, Prod.mk.injEq] at h
    obtain ⟨_, rfl⟩ := h
    exact (List.drop_sublist _ _).length_le
  · cases h

theorem tokenAt_le {c : Char} {rest after : Symbols} {token : Token}
    (h : tokenAt c rest = some (token, after)) : after.length ≤ rest.length := by
  unfold tokenAt at h
  split at h
  iterate 6
    · simp only [Option.some.injEq, Prod.mk.injEq] at h
      obtain ⟨_, rfl⟩ := h
      exact Nat.le_refl _
  · simp only [Option.map_eq_some_iff, Prod.mk.injEq] at h
    obtain ⟨⟨_, _⟩, found, _, rfl⟩ := h
    exact Nat.le_of_lt (textFrom_shorter found)
  iterate 3 exact word_le h
  · simp only [Option.map_eq_some_iff, Prod.mk.injEq] at h
    obtain ⟨⟨_, _⟩, found, _, rfl⟩ := h
    exact Nat.le_of_lt_succ (number?_shorter found)

-- The tokens from here on; `done` holds those before, last first.
def tokensFrom (done : List Token) : Symbols → List Token
  | [] => done.reverse
  | none :: _ => (Token.broken :: done).reverse
  | some c :: rest =>
    if isSpace c then tokensFrom done rest
    else match _found : tokenAt c rest with
      | some (token, after) => tokensFrom (token :: done) after
      | none => (Token.broken :: done).reverse
termination_by text => text.length
decreasing_by
  · simp only [List.length_cons]
    omega
  · have := tokenAt_le _found
    simp only [List.length_cons]
    omega

def tokens (text : Symbols) : List Token :=
  tokensFrom [] text

theorem tokens_nul (text : Text.Symbols) : tokens (some '\x00' :: text) = [.broken] := by
  have none : tokenAt '\x00' text = none := rfl
  rw [tokens, tokensFrom, if_neg (by decide)]
  split
  · next found => simp [none] at found
  · rfl

end SiteSearch.Json
