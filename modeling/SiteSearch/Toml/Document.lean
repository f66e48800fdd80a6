import SiteSearch.Toml.Scalar
import SiteSearch.Toml.Table
import SiteSearch.Toml.Token

-- A TOML text read token by token into its table.
namespace SiteSearch.Toml

-- A key is a list of parts, the last one first.
abbrev KeyParts := List String

inductive Frame where
  -- an array, its items last first
  | array (items : List Item)
  | braces (entries : Entries)
  -- a table in braces whose next value belongs to a key
  | entry (entries : Entries) (path : List String) (key : String)

inductive Purpose where
  | tableHeader
  | elementHeader
  | assignment
  deriving DecidableEq

inductive Mode where
  | line
  -- after an opening bracket at the start of a line
  | header
  | keyPart (purpose : Purpose) (parts : KeyParts)
  | keyEnd (purpose : Purpose) (parts : KeyParts)
  -- on a later line than the key in braces that it belongs to
  | equalsSign (parts : KeyParts)
  -- between the two brackets that close the header of an element
  | secondBracket (parts : KeyParts)
  | lineEnd
  | value
  -- a value without quotes, its characters last first
  | scalar (text : List Char)
  -- such a value and the white space after it
  | scalarSpace (text gap : List Char)
  -- inside an array or braces, before an item or the end
  | firstItem
  | nextItem
  | separator

structure State where
  draft : Draft
  target : KeyParts
  stack : List Frame
  mode : Mode

-- Arrays and braces may be nested this deep, and so many parts may a key have.
def maxDepth : Nat := 80

def maxKeyParts : Nat := 80

def isKeyChar (c : Char) : Bool :=
  c.isAlphanum || c = '-' || c = '_'

def keyPart? : Token → Option String
  | .bare text => if text.all isKeyChar then some (String.ofList text) else none
  | .quoted value => some value
  | _ => none

def State.settle (state : State) (value : Item) : Option State :=
  match state.stack with
  | [] =>
    match state.target with
    | key :: path => do
      let draft ← state.draft.assign path.reverse key value
      some { state with draft, target := [], mode := .lineEnd }
    | [] => none
  | .array items :: rest =>
    some { state with stack := .array (value :: items) :: rest, mode := .separator }
  | .entry entries path key :: rest => do
    let entries ← entries.assign path key value
    some { state with stack := .braces entries :: rest, mode := .separator }
  | .braces _ :: _ => none

def State.settleScalar (state : State) (text : List Char) : Option State := do
  match ← scalar? text.reverse with
  | .integer value => state.settle (.integer value)
  | .other => state.settle .other

def State.push (state : State) (frame : Frame) : Option State :=
  if state.stack.length < maxDepth then
    some { state with stack := frame :: state.stack, mode := .firstItem }
  else none

def State.pop (state : State) (token : Token) : Option State :=
  match state.stack, token with
  | .array items :: rest, .closeBracket =>
    { state with stack := rest }.settle (.array items.reverse false)
  | .braces entries :: rest, .closeBrace =>
    { state with stack := rest }.settle (.table entries .braced)
  | _, _ => none

def State.endKey (state : State) (purpose : Purpose) (parts : KeyParts) : Option State :=
  match purpose, parts with
  | .tableHeader, key :: path => do
    let draft ← state.draft.open ⟨false, path.reverse, key⟩
    some { state with draft, mode := .lineEnd }
  | .elementHeader, key :: path => do
    let draft ← state.draft.open ⟨true, path.reverse, key⟩
    some { state with draft, mode := .lineEnd }
  | .assignment, key :: path =>
    match state.stack with
    | [] => some { state with target := key :: path, mode := .value }
    | .braces entries :: rest =>
      some { state with stack := .entry entries path.reverse key :: rest, mode := .value }
    | _ => none
  | _, [] => none

def State.readKeyPart (state : State) (purpose : Purpose) (parts : KeyParts) :
    Token → Option State
  | .space _ => some state
  | token => (keyPart? token).map fun part =>
    { state with mode := .keyEnd purpose (part :: parts) }

-- Inside braces a line may end on either side of an equals sign.
def State.inBraces (state : State) : Bool :=
  match state.stack with
  | .braces _ :: _ | .entry .. :: _ => true
  | _ => false

def State.readKeyEnd (state : State) (purpose : Purpose) (parts : KeyParts) :
    Token → Option State
  | .space _ => some state
  | .dot =>
    if parts.length < maxKeyParts then some { state with mode := .keyPart purpose parts } else none
  | .newline => if state.inBraces then some { state with mode := .equalsSign parts } else none
  | .equals => if purpose = .assignment then state.endKey purpose parts else none
  | .closeBracket =>
    match purpose with
    | .tableHeader => state.endKey purpose parts
    | .elementHeader => some { state with mode := .secondBracket parts }
    | .assignment => none
  | _ => none

def State.readEquals (state : State) (parts : KeyParts) : Token → Option State
  | .space _ | .newline => some state
  | .equals => state.endKey .assignment parts
  | _ => none

def State.readValue (state : State) : Token → Option State
  | .space _ => some state
  | .newline => if state.inBraces then some state else none
  | .quoted value | .block value => state.settle (.text value)
  | .bare text => some { state with mode := .scalar text.reverse }
  | .openBracket => state.push (.array [])
  | .openBrace => state.push (.braces [])
  | _ => none

def State.readItem (state : State) (token : Token) : Option State :=
  match state.stack with
  | .array _ :: _ => state.readValue token
  | .braces _ :: _ => state.readKeyPart .assignment [] token
  | _ => none

-- What may follow a value: its line ends, or the next item comes.
def State.readAfter (state : State) (token : Token) : Option State :=
  match state.mode, token with
  | _, .space _ => some state
  | .lineEnd, .newline => some { state with mode := .line }
  | .separator, .newline => some state
  | .separator, .comma => some { state with mode := .nextItem }
  | .separator, token => state.pop token
  | _, _ => none

def State.readScalar (state : State) (text : List Char) : Token → Option State
  | .bare more => some { state with mode := .scalar (more.reverse ++ text) }
  | .dot => some { state with mode := .scalar ('.' :: text) }
  | .space gap => some { state with mode := .scalarSpace text gap }
  | token => do (← state.settleScalar text).readAfter token

-- What is bare after white space still belongs to the value, as the time of a date does.
def State.readScalarSpace (state : State) (text gap : List Char) : Token → Option State
  | .bare more => some { state with mode := .scalar (more.reverse ++ gap.reverse ++ text) }
  | token => do (← state.settleScalar text).readAfter token

def State.step (state : State) (token : Token) : Option State :=
  match state.mode with
  | .line =>
    match token with
    | .newline | .space _ => some state
    | .openBracket => some { state with mode := .header }
    | token => state.readKeyPart .assignment [] token
  | .header =>
    match token with
    | .openBracket => some { state with mode := .keyPart .elementHeader [] }
    | .space _ => some { state with mode := .keyPart .tableHeader [] }
    | token => state.readKeyPart .tableHeader [] token
  | .keyPart purpose parts => state.readKeyPart purpose parts token
  | .keyEnd purpose parts => state.readKeyEnd purpose parts token
  | .equalsSign parts => state.readEquals parts token
  | .secondBracket parts =>
    if token = .closeBracket then state.endKey .elementHeader parts else none
  | .value => state.readValue token
  | .scalar text => state.readScalar text token
  | .scalarSpace text gap => state.readScalarSpace text gap token
  | .firstItem | .nextItem =>
    match token with
    | .newline | .space _ => some state
    | .closeBracket | .closeBrace => state.pop token
    | token => state.readItem token
  | .lineEnd | .separator => state.readAfter token

def State.finish (state : State) : Option Entries :=
  match state.mode with
  | .line | .lineEnd => state.draft.close
  | .scalar text | .scalarSpace text _ => do
    let state ← state.settleScalar text
    match state.mode with
    | .lineEnd => state.draft.close
    | _ => none
  | _ => none

def start : State :=
  { draft := {}, target := [], stack := [], mode := .line }

def parse? (text : String) : Option Item := do
  let tokens ← tokens? text.toList
  let state ← tokens.foldlM State.step start
  some (.table (← state.finish) .header)

end SiteSearch.Toml
