import SiteSearch.Json.Token

-- A JSON text as it is read: the tree of its values up to where it stops being JSON. What
-- stands before a fault is kept, so that a reader of typed data meets whichever comes first,
-- a value of the wrong kind or the fault.
namespace SiteSearch.Json

-- The key of a member; no text if it spells none.
abbrev Key := Option String

inductive Reading where
  | broken
  | null
  | bool (value : Bool)
  | number (numeral : Numeral)
  | text (value : Option String)
  -- a container that was not closed stops after its last item
  | array (items : List Reading) (closed : Bool)
  | object (members : List (Key × Reading)) (closed : Bool)

inductive Frame where
  | array (items : List Reading)
  | object (members : List (Key × Reading))
  | member (members : List (Key × Reading)) (key : Key)

inductive Expect where
  | value
  | firstItem
  | firstKey
  | key
  | colon
  | separator

inductive State where
  | within (stack : List Frame) (expect : Expect)
  | complete (value : Reading)
  | stopped (value : Reading)

def settle (value : Reading) : List Frame → State
  | [] => .complete value
  | .array items :: rest => .within (.array (value :: items) :: rest) .separator
  | .member members key :: rest => .within (.object ((key, value) :: members) :: rest) .separator
  | .object members :: rest => .within (.object members :: rest) .separator

def Frame.leave (frame : Frame) (last : Option Reading) : Reading :=
  match frame with
  | .array items => .array (last.toList ++ items).reverse false
  | .object members => .object members.reverse false
  | .member members key => .object ((key, last.getD .broken) :: members).reverse false

def leave (last : Option Reading) (stack : List Frame) : Reading :=
  (stack.foldl (fun last frame => some (frame.leave last)) last).getD .broken

def interrupt (stack : List Frame) (expect : Expect) : Reading :=
  match expect with
  | .value => leave (some .broken) stack
  | _ => leave none stack

def closeArray : List Frame → Option State
  | .array items :: rest => some (settle (.array items.reverse true) rest)
  | _ => none

def closeObject : List Frame → Option State
  | .object members :: rest => some (settle (.object members.reverse true) rest)
  | _ => none

def startValue (stack : List Frame) : Token → Option State
  | .null => some (settle .null stack)
  | .bool value => some (settle (.bool value) stack)
  | .number numeral => some (settle (.number numeral) stack)
  | .text value => some (settle (.text value) stack)
  | .openArray => some (.within (.array [] :: stack) .firstItem)
  | .openObject => some (.within (.object [] :: stack) .firstKey)
  | _ => none

def startMember (stack : List Frame) (token : Token) : Option State :=
  match stack, token with
  | .object members :: rest, .text key => some (.within (.member members key :: rest) .colon)
  | _, _ => none

def separate (stack : List Frame) (token : Token) : Option State :=
  match stack, token with
  | .array _ :: _, .comma => some (.within stack .value)
  | .object _ :: _, .comma => some (.within stack .key)
  | .array _ :: _, .closeArray => closeArray stack
  | .object _ :: _, .closeObject => closeObject stack
  | _, _ => none

def accept? (stack : List Frame) (expect : Expect) (token : Token) : Option State :=
  match expect, token with
  | .firstItem, .closeArray => closeArray stack
  | .firstKey, .closeObject => closeObject stack
  | .value, token | .firstItem, token => startValue stack token
  | .key, token | .firstKey, token => startMember stack token
  | .colon, .colon => some (.within stack .value)
  | .colon, _ => none
  | .separator, token => separate stack token

def State.step (state : State) (token : Token) : State :=
  match state with
  | .within stack expect => (accept? stack expect token).getD (.stopped (interrupt stack expect))
  | .complete value => .stopped value
  | .stopped value => .stopped value

structure Document where
  root : Reading
  whole : Bool

def State.finish : State → Document
  | .within stack expect => ⟨interrupt stack expect, false⟩
  | .complete value => ⟨value, true⟩
  | .stopped value => ⟨value, false⟩

def Document.ofTokens (tokens : List Token) : Document :=
  (tokens.foldl State.step (.within [] .value)).finish

def Document.ofBytes (bytes : List UInt8) : Document :=
  .ofTokens (tokens (Text.symbols bytes))

theorem Document.ofBytes_gap (size : Nat) :
    Document.ofBytes (List.replicate size 0) = ⟨.broken, false⟩ := by
  cases size with
  | zero => simp [Document.ofBytes, Text.symbols, Text.symbolsFrom, tokens, tokensFrom]; rfl
  | succ size =>
    have start : Text.symbols (List.replicate (size + 1) 0) =
        some '\x00' :: Text.symbols (List.replicate size 0) := by
      rw [Text.symbols, List.replicate_succ, Text.symbolsFrom]
      exact Text.symbolsFrom_done _ _
    rw [Document.ofBytes, start, tokens_nul]
    rfl

end SiteSearch.Json
