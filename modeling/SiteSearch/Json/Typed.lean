import SiteSearch.Json.Reading

-- Typed data in a JSON text. A reader takes the values in the order of the text, so that the
-- first fault is the one reported.
namespace SiteSearch.Json

inductive Fault where
  | malformed
  | mismatched
  deriving DecidableEq

abbrev Reader (α : Type) := Reading → Except Fault α

namespace Reading

-- The fault of a value where one of another kind should stand. A scalar is read before it is
-- refused, so one that cannot be read counts as malformed.
def refusal : Reading → Fault
  | .broken | .text none | .number .outsized => .malformed
  | _ => .mismatched

def intact : Reading → Bool
  | .broken => false
  | .array _ closed | .object _ closed => closed
  | _ => true

def skip (reading : Reading) : Except Fault Unit :=
  if reading.intact then .ok () else .error .malformed

def string : Reader String
  | .text (some value) => .ok value
  | reading => .error reading.refusal

def truth : Reader Bool
  | .bool value => .ok value
  | reading => .error reading.refusal

def natural (bound : Nat) : Reader Nat
  | .number (.natural value) => if value < bound then .ok value else .error .mismatched
  | reading => .error reading.refusal

def word64 : Reader UInt64 := fun reading => do
  pure (UInt64.ofNat (← natural UInt64.size reading))

def word32 : Reader UInt32 := fun reading => do
  pure (UInt32.ofNat (← natural UInt32.size reading))

def count : Reader Nat := natural UInt64.size

def optional {α : Type} (read : Reader α) : Reader (Option α)
  | .null => .ok none
  | reading => some <$> read reading

def closing (closed : Bool) : Except Fault Unit :=
  if closed then .ok () else .error .malformed

def list {α : Type} (read : Reader α) : Reader (List α)
  | .array items closed => do
    let values ← items.mapM read
    closing closed
    pure values
  | reading => .error reading.refusal

def keyText : Key → Except Fault String
  | some key => .ok key
  | none => .error .malformed

def foldMembers {α : Type} (start : α) (add : α → String → Reading → Except Fault α) : Reader α
  | .object members closed => do
    let result ← members.foldlM (fun result (key, value) => do
      add result (← keyText key) value) start
    closing closed
    pure result
  | reading => .error reading.refusal

def named {α : Type} (ofName? : String → Option α) : Reader α
  | .text (some name) => choose name
  | .object [(some name, .null)] true => choose name
  | reading => .error reading.refusal
where
  choose (name : String) : Except Fault α :=
    match ofName? name with
    | some value => .ok value
    | none => .error .mismatched

end Reading

-- A member of a record. What stands in its place when it is missing depends on whether the
-- record was written as an object or as a list of members.
structure Member (α : Type) where
  name : String
  read : Reader α
  ifAbsent : Option α := none
  ifUnlisted : Option α := none

namespace Member

def required {α : Type} (name : String) (read : Reader α) : Member α :=
  { name, read }

def nullable {α : Type} (name : String) (read : Reader α) : Member (Option α) :=
  { name, read := Reading.optional read, ifAbsent := some none }

def defaulted {α : Type} (name : String) (read : Reader α) : Member (Option α) :=
  { name, read := Reading.optional read, ifAbsent := some none, ifUnlisted := some none }

structure Check where
  name : String
  check : Reading → Except Fault Unit

def check {α : Type} (member : Member α) : Check :=
  { name := member.name, check := fun reading => discard (member.read reading) }

end Member

structure Found where
  listed : Bool
  members : List (String × Reading)

def Found.get {α : Type} (found : Found) (member : Member α) : Except Fault α :=
  match found.members.lookup member.name with
  | some reading => member.read reading
  | none =>
    match if found.listed then member.ifUnlisted else member.ifAbsent with
    | some value => .ok value
    | none => .error .mismatched

namespace Reading

def takeMember (checks : List Member.Check) (found : List (String × Reading)) (key : Key)
    (value : Reading) : Except Fault (List (String × Reading)) := do
  let name ← keyText key
  match checks.find? (·.name == name) with
  | none =>
    value.skip
    pure found
  | some known =>
    if (found.lookup name).isSome then throw .mismatched
    known.check value
    pure (found ++ [(name, value)])

def takeItems : List Member.Check → List Reading → Except Fault (List (String × Reading))
  | known :: checks, value :: rest => do
    known.check value
    pure ((known.name, value) :: (← takeItems checks rest))
  | _, _ => pure []

-- A record, written as an object or as the list of its members. A list that stops short is
-- refused before its missing members are; surplus items are no JSON for a record.
def record {α : Type} (checks : List Member.Check) (build : Found → Except Fault α) : Reader α
  | .object members closed => do
    let found ← members.foldlM (fun found (key, value) => takeMember checks found key value) []
    closing closed
    build ⟨false, found⟩
  | .array items closed => do
    let found ← takeItems checks items
    if items.length < checks.length then closing closed
    let result ← build ⟨true, found⟩
    closing (closed && items.length ≤ checks.length)
    pure result
  | reading => .error reading.refusal

end Reading

def Document.decode {α : Type} (document : Document) (read : Reader α) : Except Fault α := do
  let value ← read document.root
  if document.whole then pure value else throw .malformed

def decodeBytes {α : Type} (read : Reader α) (bytes : List UInt8) : Except Fault α :=
  (Document.ofBytes bytes).decode read

end SiteSearch.Json
