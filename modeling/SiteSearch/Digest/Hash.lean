import SiteSearch.Digest.Canonical
import SiteSearch.Text.Basic

-- The BLAKE3 hash: chunks of 1024 bytes are compressed block by block, and their chaining
-- values are joined in a binary tree whose root gives the hash.
namespace SiteSearch.Digest

namespace Blake

abbrev ChainingValue := Vector UInt32 8

abbrev Block := Vector UInt32 16

def initialValue : ChainingValue :=
  #v[0x6A09E667, 0xBB67AE85, 0x3C6EF372, 0xA54FF53A, 0x510E527F, 0x9B05688C, 0x1F83D9AB, 0x5BE0CD19]

def chunkBytes : Nat := 1024

def blockBytes : Nat := 64

def chunkStart : UInt32 := 1

def chunkEnd : UInt32 := 2

def parent : UInt32 := 4

def root : UInt32 := 8

def rotateRight (word bits : UInt32) : UInt32 :=
  (word >>> bits) ||| (word <<< (32 - bits))

def mix (state : Block) (a b c d : Fin 16) (x y : UInt32) : Block :=
  let va := state[a] + state[b] + x
  let vd := rotateRight (state[d] ^^^ va) 16
  let vc := state[c] + vd
  let vb := rotateRight (state[b] ^^^ vc) 12
  let va := va + vb + y
  let vd := rotateRight (vd ^^^ va) 8
  let vc := vc + vd
  let vb := rotateRight (vb ^^^ vc) 7
  (((state.set a va).set b vb).set c vc).set d vd

def round (state message : Block) : Block :=
  let state := mix state 0 4 8 12 message[0] message[1]
  let state := mix state 1 5 9 13 message[2] message[3]
  let state := mix state 2 6 10 14 message[4] message[5]
  let state := mix state 3 7 11 15 message[6] message[7]
  let state := mix state 0 5 10 15 message[8] message[9]
  let state := mix state 1 6 11 12 message[10] message[11]
  let state := mix state 2 7 8 13 message[12] message[13]
  mix state 3 4 9 14 message[14] message[15]

def permutation : Vector (Fin 16) 16 :=
  #v[2, 6, 3, 10, 7, 0, 4, 13, 1, 11, 12, 5, 9, 14, 15, 8]

def permute (message : Block) : Block :=
  permutation.map fun place => message[place]

-- Seven rounds, the message words changing places between them.
def rounds : Nat → Block → Block → Block
  | 0, state, _ => state
  | left + 1, state, message => rounds left (round state message) (permute message)

-- One compression, before it is known whether its result is the root.
structure Compression where
  input : ChainingValue
  block : Block
  counter : UInt64
  length : UInt32
  flags : UInt32

def Compression.run (step : Compression) (extra : UInt32) : ChainingValue :=
  let start : Block := Vector.ofFn fun place =>
    if h : place.val < 8 then step.input[place.val]
    else if h : place.val < 12 then initialValue[place.val - 8]
    else if place.val = 12 then step.counter.toUInt32
    else if place.val = 13 then (step.counter >>> 32).toUInt32
    else if place.val = 14 then step.length
    else step.flags ||| extra
  let final := rounds 7 start step.block
  Vector.ofFn fun place => final[place.val] ^^^ final[place.val + 8]

def wordAt (bytes : Bytes) : UInt32 :=
  let byte (place : Nat) : UInt32 := (bytes.getD place 0).toUInt32
  byte 0 ||| (byte 1 <<< 8) ||| (byte 2 <<< 16) ||| (byte 3 <<< 24)

def blockOf (bytes : Bytes) : Block :=
  Vector.ofFn fun place => wordAt ((bytes.drop (4 * place.val)).take 4)

def pieces {α : Type} (size : Nat) (items : List α) : List (List α) :=
  if items.length ≤ size ∨ size = 0 then [items]
  else items.take size :: pieces size (items.drop size)
termination_by items.length
decreasing_by
  simp only [List.length_drop]
  omega

-- Compresses the blocks of a chunk in order; the last one is left open.
def chunkFrom (counter : UInt64) (value : ChainingValue) (flags : UInt32) : List Bytes → Compression
  | [] => ⟨value, blockOf [], counter, 0, flags ||| chunkEnd⟩
  | [last] => ⟨value, blockOf last, counter, UInt32.ofNat last.length, flags ||| chunkEnd⟩
  | block :: rest =>
      let step : Compression := ⟨value, blockOf block, counter, UInt32.ofNat block.length, flags⟩
      chunkFrom counter (step.run 0) 0 rest

def chunk (counter : UInt64) (bytes : Bytes) : Compression :=
  chunkFrom counter initialValue chunkStart (pieces blockBytes bytes)

def join (left right : Compression) : Compression :=
  { input := initialValue
    block := left.run 0 ++ right.run 0
    counter := 0
    length := UInt32.ofNat blockBytes
    flags := parent }

def leftSize (count : Nat) : Nat :=
  1 <<< (count - 1).log2

-- Joins chunks, the first of which has the given number, into a tree.
def tree (counter : Nat) (chunks : List Bytes) : Compression :=
  if _single : chunks.length ≤ 1 then chunk (UInt64.ofNat counter) (chunks.headD [])
  else
    let size := leftSize chunks.length
    join (tree counter (chunks.take size)) (tree (counter + size) (chunks.drop size))
termination_by chunks.length
decreasing_by
  · have : 2 ^ (chunks.length - 1).log2 ≤ chunks.length - 1 := Nat.log2_self_le (by omega)
    simp only [List.length_take, leftSize, Nat.one_shiftLeft]
    omega
  · have : 0 < 2 ^ (chunks.length - 1).log2 := Nat.two_pow_pos _
    simp only [List.length_drop, leftSize, Nat.one_shiftLeft]
    omega

def bytesOfWord (word : UInt32) : Bytes :=
  [word.toUInt8, (word >>> 8).toUInt8, (word >>> 16).toUInt8, (word >>> 24).toUInt8]

def hash (bytes : Bytes) : Bytes :=
  ((tree 0 (pieces chunkBytes bytes)).run root).toList.flatMap bytesOfWord

end Blake

def hashText (store : Store) : String :=
  Text.hexOf (Blake.hash (canonicalBytes store))

end SiteSearch.Digest
