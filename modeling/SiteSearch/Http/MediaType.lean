-- Media types, as far as it takes to tell whether a body is marked as JSON.
namespace SiteSearch.Http

def isTokenChar (c : Char) : Bool :=
  c.isAlphanum || "!#$%&'*+-.^_`|~".toList.contains c

def isQuotedChar (c : Char) : Bool :=
  c.toNat > 31 && c.toNat ≠ 127

inductive ParameterState where
  | beforeName
  | name
  | beforeValue
  | value
  | afterQuote
  | quoted
  | closed
  deriving DecidableEq

def ParameterState.step (state : ParameterState) (c : Char) : Option ParameterState :=
  match state with
  | .beforeName => if c = ' ' then some .beforeName else if isTokenChar c then some .name else none
  | .name => if c = '=' then some .beforeValue else if isTokenChar c then some .name else none
  | .beforeValue =>
    if c = '"' then some .afterQuote else if isTokenChar c then some .value else none
  | .value => if c = ';' then some .beforeName else if isTokenChar c then some .value else none
  | .afterQuote => if isQuotedChar c then some .quoted else none
  | .quoted => if c = '"' then some .closed else if isQuotedChar c then some .quoted else none
  | .closed => if c = ';' then some .beforeName else if c = ' ' then some .closed else none

def areParameters (text : List Char) : Bool :=
  match text.foldlM ParameterState.step .beforeName with
  | some .beforeName | some .beforeValue | some .value | some .closed => true
  | _ => false

-- The end of a subtype after its last plus sign, which may not come first, and what is before.
def splitSuffix (subtype : List Char) : List Char × List Char :=
  let suffix := (subtype.reverse.takeWhile (· ≠ '+')).reverse
  let stem := subtype.take (subtype.length - suffix.length - 1)
  if stem.isEmpty then (subtype, []) else (stem, suffix)

-- Whether a media type is that of JSON, or of a format written in JSON.
def isJsonType (mediaType : String) : Bool :=
  let text := mediaType.toList.map Char.toLower
  let type := text.takeWhile isTokenChar
  let rest := text.dropWhile isTokenChar
  let subtype := (rest.drop 1).takeWhile isTokenChar
  let parameters := (rest.drop 1).dropWhile isTokenChar
  let (stem, suffix) := splitSuffix subtype
  type = "application".toList && rest.head? = some '/'
    && (parameters.isEmpty || parameters.head? = some ';' && !subtype.isEmpty)
    && areParameters (parameters.drop 1)
    && (stem = "json".toList || suffix = "json".toList)

end SiteSearch.Http
