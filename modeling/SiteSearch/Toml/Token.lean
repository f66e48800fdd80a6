import SiteSearch.Text.Basic

-- The tokens of a TOML text.
namespace SiteSearch.Toml

open Text (hexValue?)

inductive Token where
  | bare (text : List Char)
  | quoted (value : String)
  | block (value : String)
  | space (text : List Char)
  | newline
  | dot
  | comma
  | equals
  | openBracket
  | closeBracket
  | openBrace
  | closeBrace
  deriving DecidableEq

def isSpace (c : Char) : Bool := c = ' ' || c = '\t'

-- Control characters may stand in no text and no comment, tabs and line ends apart.
def isForbidden (c : Char) : Bool :=
  (c.toNat < 0x20 && c ≠ '\t') || c.toNat = 0x7F

-- A run of bare characters may hold any other, though few such runs mean something.
def isBare (c : Char) : Bool := !"#=,.[]\x7b\x7d \t\r\n".toList.contains c

def charOfCode? (code : Nat) : Option Char :=
  if code < 0xD800 || (0xE000 ≤ code && code < 0x110000) then some (Char.ofNat code) else none

def hexChar? (size : Nat) (text : List Char) : Option Char := do
  let digits := text.take size
  if digits.length = size then
    let values ← digits.mapM hexValue?
    charOfCode? (values.foldl (fun code value => 16 * code + value) 0)
  else none

def escape? : List Char → Option (Char × Nat)
  | 'b' :: _ => some ('\x08', 1)
  | 't' :: _ => some ('\t', 1)
  | 'n' :: _ => some ('\n', 1)
  | 'f' :: _ => some ('\x0c', 1)
  | 'r' :: _ => some ('\r', 1)
  | 'e' :: _ => some ('\x1b', 1)
  | '"' :: _ => some ('"', 1)
  | '\\' :: _ => some ('\\', 1)
  | 'x' :: rest => (hexChar? 2 rest).map (·, 3)
  | 'u' :: rest => (hexChar? 4 rest).map (·, 5)
  | 'U' :: rest => (hexChar? 8 rest).map (·, 9)
  | _ => none

def lineEnd : List Char → Nat
  | '\n' :: _ => 1
  | '\r' :: '\n' :: _ => 2
  | _ => 0

-- In what is read from here on, `done` holds what came before, last first.
def quotedFrom (quote : Char) (done : List Char) (size : Nat) (text : List Char) :
    Option (String × Nat) :=
  match text with
  | [] => none
  | c :: rest =>
    if c = quote then some (String.ofList done.reverse, size + 1)
    else if c = '\\' ∧ quote = '"' then
      match escape? rest with
      | some (c, more) => quotedFrom quote (c :: done) (size + 1 + more) (rest.drop more)
      | none => none
    else if isForbidden c then none
    else quotedFrom quote (c :: done) (size + 1) rest
termination_by text.length
decreasing_by all_goals simp only [List.length_drop, List.length_cons]; omega

def blankLength (size : Nat) (text : List Char) : Nat :=
  match text with
  | '\r' :: '\n' :: rest => blankLength (size + 2) rest
  | c :: rest => if isSpace c || c = '\n' then blankLength (size + 1) rest else size
  | [] => size

def continuation? (text : List Char) : Option Nat :=
  let spaces := (text.takeWhile isSpace).length
  if lineEnd (text.drop spaces) = 0 then none else some (blankLength 0 text)

-- A text up to three closing quotes; up to two more quotes before them belong to it.
def blockFrom (quote : Char) (done : List Char) (size : Nat) (text : List Char) :
    Option (String × Nat) :=
  match text with
  | [] => none
  | c :: rest =>
    if c = quote then
      let quotes := 1 + (rest.takeWhile (· = quote)).length
      if quotes < 3 then blockFrom quote (c :: done) (size + 1) rest
      else if quotes ≤ 5 then
        some (String.ofList (List.replicate (quotes - 3) quote ++ done).reverse, size + quotes)
      else none
    else if c = '\\' ∧ quote = '"' then
      match continuation? rest with
      | some more => blockFrom quote done (size + 1 + more) (rest.drop more)
      | none =>
        match escape? rest with
        | some (c, more) => blockFrom quote (c :: done) (size + 1 + more) (rest.drop more)
        | none => none
    else if c = '\n' || (c = '\r' && rest.head? = some '\n') then
      blockFrom quote (c :: done) (size + 1) rest
    else if isForbidden c then none
    else blockFrom quote (c :: done) (size + 1) rest
termination_by text.length
decreasing_by all_goals simp only [List.length_drop, List.length_cons]; omega

-- A line end right after three opening quotes does not belong to the text.
def textToken? (quote : Char) (rest : List Char) : Option (Token × Nat) :=
  if [quote, quote].isPrefixOf rest then
    let body := rest.drop 2
    let skipped := lineEnd body
    (blockFrom quote [] (2 + skipped) (body.drop skipped)).map fun (value, size) =>
      (.block value, size)
  else (quotedFrom quote [] 0 rest).map fun (value, size) => (.quoted value, size)

def tokenAt (c : Char) (rest : List Char) : Option (Token × Nat) :=
  match c with
  | '\n' => some (.newline, 0)
  | '\r' => if rest.head? = some '\n' then some (.newline, 1) else none
  | '.' => some (.dot, 0)
  | ',' => some (.comma, 0)
  | '=' => some (.equals, 0)
  | '[' => some (.openBracket, 0)
  | ']' => some (.closeBracket, 0)
  | '\x7b' => some (.openBrace, 0)
  | '\x7d' => some (.closeBrace, 0)
  | '"' | '\'' => textToken? c rest
  | c =>
    if isSpace c then
      let more := rest.takeWhile isSpace
      some (.space (c :: more), more.length)
    else if isBare c then
      let more := rest.takeWhile isBare
      some (.bare (c :: more), more.length)
    else none

def isLineChar (c : Char) : Bool := c ≠ '\n' && c ≠ '\r'

def tokensFrom (done : List Token) (text : List Char) : Option (List Token) :=
  match text with
  | [] => some done.reverse
  | c :: rest =>
    if c = '#' then
      let comment := rest.takeWhile isLineChar
      if comment.any isForbidden then none else tokensFrom done (rest.drop comment.length)
    else
      match tokenAt c rest with
      | some (token, more) => tokensFrom (token :: done) (rest.drop more)
      | none => none
termination_by text.length
decreasing_by all_goals simp only [List.length_drop, List.length_cons]; omega

def tokens? : List Char → Option (List Token)
  | '\ufeff' :: text => tokensFrom [] text
  | text => tokensFrom [] text

end SiteSearch.Toml
