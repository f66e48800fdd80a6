-- Bytes read as text. A byte that belongs to no character keeps its place as `none`, so
-- that a reader can tell where a fault lies and whether it matters.
namespace SiteSearch.Text

abbrev Symbols := List (Option Char)

def tailBits (bytes : List UInt8) (place low high : Nat) : Option Nat := do
  let byte ← bytes[place]?
  if low ≤ byte.toNat && byte.toNat ≤ high then some (byte.toNat % 64) else none

-- The character that a byte starts and how many of the next bytes belong to it. The bounds
-- of the second byte leave out longer spellings, surrogates and what lies above U+10FFFF.
def character? (first : UInt8) (rest : List UInt8) : Option (Char × Nat) :=
  let lead := first.toNat
  if lead < 0x80 then some (Char.ofNat lead, 0)
  else if 0xC2 ≤ lead && lead < 0xE0 then do
    let b ← tailBits rest 0 0x80 0xBF
    some (Char.ofNat ((lead - 0xC0) * 64 + b), 1)
  else if 0xE0 ≤ lead && lead < 0xF0 then do
    let low := if lead = 0xE0 then 0xA0 else 0x80
    let high := if lead = 0xED then 0x9F else 0xBF
    let b ← tailBits rest 0 low high
    let c ← tailBits rest 1 0x80 0xBF
    some (Char.ofNat ((lead - 0xE0) * 4096 + b * 64 + c), 2)
  else if 0xF0 ≤ lead && lead < 0xF5 then do
    let low := if lead = 0xF0 then 0x90 else 0x80
    let high := if lead = 0xF4 then 0x8F else 0xBF
    let b ← tailBits rest 0 low high
    let c ← tailBits rest 1 0x80 0xBF
    let d ← tailBits rest 2 0x80 0xBF
    some (Char.ofNat ((lead - 0xF0) * 262144 + b * 4096 + c * 64 + d), 3)
  else none

def symbolsFrom (done : Symbols) : List UInt8 → Symbols
  | [] => done.reverse
  | first :: rest =>
    match character? first rest with
    | some (c, more) => symbolsFrom (some c :: done) (rest.drop more)
    | none => symbolsFrom (none :: done) rest
termination_by bytes => bytes.length
decreasing_by all_goals simp only [List.length_drop, List.length_cons]; omega

theorem symbolsFrom_done (done : Symbols) (bytes : List UInt8) :
    symbolsFrom done bytes = done.reverse ++ symbolsFrom [] bytes := by
  match bytes with
  | [] => simp [symbolsFrom]
  | first :: rest =>
    rw [symbolsFrom, symbolsFrom]
    split
    · next c more found =>
      rw [symbolsFrom_done (some c :: done), symbolsFrom_done [some c]]
      simp
    · rw [symbolsFrom_done (none :: done), symbolsFrom_done [none]]
      simp
termination_by bytes.length
decreasing_by all_goals simp only [List.length_drop, List.length_cons]; omega

def symbols (bytes : List UInt8) : Symbols :=
  symbolsFrom [] bytes

def ofBytes? (bytes : List UInt8) : Option String :=
  ((symbols bytes).mapM id).map String.ofList

end SiteSearch.Text
