import SiteSearch.Text.Basic

-- JSON values as they are written, and their text.
namespace SiteSearch.Json

open Text (hexDigit)

inductive Value where
  | null
  | bool (value : Bool)
  | number (value : Nat)
  | text (value : String)
  | array (items : List Value)
  | object (members : List (String × Value))

def Value.ofOption {α : Type} (write : α → Value) : Option α → Value
  | none => .null
  | some value => write value

def Value.ofList {α : Type} (write : α → Value) (items : List α) : Value :=
  .array (items.map write)

def escapeChar (c : Char) : List Char :=
  if c = '"' then ['\\', '"']
  else if c = '\\' then ['\\', '\\']
  else if c = '\x08' then ['\\', 'b']
  else if c = '\x0c' then ['\\', 'f']
  else if c = '\n' then ['\\', 'n']
  else if c = '\r' then ['\\', 'r']
  else if c = '\t' then ['\\', 't']
  else if c.toNat < 0x20 then
    ['\\', 'u', '0', '0', hexDigit (c.toNat / 16), hexDigit (c.toNat % 16)]
  else [c]

def quote (text : String) : List Char :=
  '"' :: (text.toList.flatMap escapeChar ++ ['"'])

def writeBool (value : Bool) : List Char :=
  if value then "true".toList else "false".toList

mutual

def Value.compact : Value → List Char
  | .null => "null".toList
  | .bool value => writeBool value
  | .number value => (toString value).toList
  | .text value => quote value
  | .array items => '[' :: (compactItems items ++ [']'])
  | .object members => '\x7b' :: (compactMembers members ++ ['\x7d'])

def compactItems : List Value → List Char
  | [] => []
  | [item] => item.compact
  | item :: rest => item.compact ++ ',' :: compactItems rest

def compactMembers : List (String × Value) → List Char
  | [] => []
  | [(key, value)] => quote key ++ ':' :: value.compact
  | (key, value) :: rest => quote key ++ ':' :: value.compact ++ ',' :: compactMembers rest

end

def newline (depth : Nat) : List Char :=
  '\n' :: List.replicate (2 * depth) ' '

mutual

-- The text of a value at a depth, one item a line, two spaces for each level.
def Value.spread (depth : Nat) : Value → List Char
  | .null => "null".toList
  | .bool value => writeBool value
  | .number value => (toString value).toList
  | .text value => quote value
  | .array [] => ['[', ']']
  | .array (item :: rest) =>
      '[' :: (newline (depth + 1) ++ item.spread (depth + 1) ++ spreadItems (depth + 1) rest
        ++ newline depth ++ [']'])
  | .object [] => ['\x7b', '\x7d']
  | .object ((key, value) :: rest) =>
      '\x7b' :: (newline (depth + 1) ++ quote key ++ ':' :: ' ' :: value.spread (depth + 1)
        ++ spreadMembers (depth + 1) rest ++ newline depth ++ ['\x7d'])

def spreadItems (depth : Nat) : List Value → List Char
  | [] => []
  | item :: rest => ',' :: (newline depth ++ item.spread depth ++ spreadItems depth rest)

def spreadMembers (depth : Nat) : List (String × Value) → List Char
  | [] => []
  | (key, value) :: rest =>
      ',' :: (newline depth ++ quote key ++ ':' :: ' ' :: value.spread depth
        ++ spreadMembers depth rest)

end

def Value.render (value : Value) : String :=
  String.ofList value.compact

def Value.pretty (value : Value) : String :=
  String.ofList (value.spread 0)

end SiteSearch.Json
