import SiteSearch.Store

-- Canonical bytes: one byte text for each content of a store, scores left out. Numbers are
-- written seven bits a byte, low bits first; every list and text is preceded by its length,
-- every optional value by a byte that says whether it is there.
namespace SiteSearch.Digest

abbrev Bytes := List UInt8

def writeNat (n : Nat) : Bytes :=
  if n < 128 then [UInt8.ofNat n] else UInt8.ofNat (n % 128 + 128) :: writeNat (n / 128)
termination_by n

def writeText (text : String) : Bytes :=
  writeNat text.utf8ByteSize ++ text.toUTF8.toList

def writeList {α : Type} (write : α → Bytes) (items : List α) : Bytes :=
  writeNat items.length ++ items.flatMap write

def writeOption {α : Type} (write : α → Bytes) : Option α → Bytes
  | none => [0]
  | some value => 1 :: write value

def writeEntry (entry : Field × String) : Bytes :=
  writeNat entry.1.index ++ writeText entry.2

def writeNode (node : Node) : Bytes :=
  writeText node.id ++ writeList writeEntry node.presentAttributes

def writeCollection (kind : Kind) (nodes : Option (List Node)) : Bytes :=
  writeNat kind.index ++ writeOption (writeList writeNode) nodes

def canonicalBytes (store : Store) : Bytes :=
  writeList (fun kind => writeCollection kind (store.collection kind)) Kind.all

-- A quick checksum for noticing change: rotate, then mix in the byte and its place.
def rotateLeft (word : UInt64) (bits : UInt64) : UInt64 :=
  (word <<< bits) ||| (word >>> (64 - bits))

def mixByte (state : UInt64) (place : UInt64) (byte : UInt8) : UInt64 :=
  rotateLeft state 5 ^^^ byte.toUInt64 ^^^ rotateLeft place 29

def mixFrom (state : UInt64) (place : UInt64) : Bytes → UInt64
  | [] => state
  | byte :: rest => mixFrom (mixByte state place byte) (place + 1) rest

def checksumOf (bytes : Bytes) : UInt64 :=
  mixFrom (UInt64.ofNat bytes.length) 0 bytes

def checksum (store : Store) : UInt64 :=
  checksumOf (canonicalBytes store)

end SiteSearch.Digest
