import Mathlib.Data.Nat.Prime.Basic
import Mathlib.Dynamics.PeriodicPts.Defs
import SiteSearch.Digest.Canonical

-- How the checksum carries a difference on. Every byte that follows turns the difference and none
-- removes it; and a difference no wider than a byte comes back to its place after sixty-four turns
-- and not before.
namespace SiteSearch.Digest

def turn (word : UInt64) : UInt64 :=
  rotateLeft word 5

-- What stands in a word at a place, counted from the low end.
def bit (word : UInt64) (place : Nat) : Bool :=
  word.toBitVec.getLsbD place

theorem ext_bit {a b : UInt64} (same : ∀ place < 64, bit a place = bit b place) : a = b :=
  UInt64.toBitVec_inj.mp (BitVec.eq_of_getLsbD_eq same)

@[simp] theorem bit_zero (place : Nat) : bit 0 place = false := by
  simp [bit]

@[simp] theorem bit_xor (a b : UInt64) (place : Nat) :
    bit (a ^^^ b) place = (bit a place ^^ bit b place) := by
  simp [bit]

theorem bit_turn (word : UInt64) {place : Nat} (inside : place < 64) :
    bit (turn word) place = bit word ((place + 59) % 64) := by
  have parts : (turn word).toBitVec = word.toBitVec <<< 5 ||| word.toBitVec >>> 59 := rfl
  unfold bit
  rw [parts, BitVec.getLsbD_or, BitVec.getLsbD_shiftLeft, BitVec.getLsbD_ushiftRight]
  by_cases low : place < 5
  · have source : (place + 59) % 64 = 59 + place := by omega
    simp [low, source]
  · have source : (place + 59) % 64 = place - 5 := by omega
    have beyond : word.toBitVec.getLsbD (59 + place) = false :=
      BitVec.getLsbD_of_ge _ _ (by omega)
    simp [low, source, inside, beyond]

theorem bit_iterate_turn (times : Nat) (word : UInt64) {place : Nat} (inside : place < 64) :
    bit (turn^[times] word) place = bit word ((place + 59 * times) % 64) := by
  induction times generalizing place with
  | zero => simp [Nat.mod_eq_of_lt inside]
  | succ times ih =>
    have source : ((place + 59) % 64 + 59 * times) % 64 = (place + 59 * (times + 1)) % 64 := by
      omega
    rw [Function.iterate_succ_apply', bit_turn _ inside, ih (by omega), source]

theorem iterate_turn_xor (times : Nat) (a b : UInt64) :
    turn^[times] (a ^^^ b) = turn^[times] a ^^^ turn^[times] b := by
  apply ext_bit
  intro place inside
  simp only [bit_xor, bit_iterate_turn times _ inside]

theorem iterate_turn_zero (times : Nat) : turn^[times] 0 = 0 := by
  apply ext_bit
  intro place inside
  simp [bit_iterate_turn times _ inside]

theorem turn_period (word : UInt64) : Function.IsPeriodicPt turn 64 word := by
  apply ext_bit
  intro place inside
  have home : (place + 59 * 64) % 64 = place := by omega
  rw [bit_iterate_turn 64 _ inside, home]

theorem turn_injective : Function.Injective turn :=
  Function.LeftInverse.injective (g := turn^[63]) turn_period

theorem iterate_turn_eq_zero_iff (times : Nat) (word : UInt64) :
    turn^[times] word = 0 ↔ word = 0 := by
  constructor
  · intro none
    apply turn_injective.iterate times
    rw [none, iterate_turn_zero]
  · rintro rfl
    exact iterate_turn_zero times

-- The bits of the eight low places, turned by half the word, would stand in places that are empty.
theorem iterate_turn_eq_self_iff {word : UInt64}
    (narrow : ∀ place, 8 ≤ place → bit word place = false) (differs : word ≠ 0) (times : Nat) :
    turn^[times] word = word ↔ 64 ∣ times := by
  constructor
  · intro back
    by_contra indivisible
    have shared : Function.IsPeriodicPt turn (times.gcd 64) word :=
      Function.IsPeriodicPt.gcd back (turn_period word)
    have proper : times.gcd 64 ∣ 32 := by
      obtain ⟨power, bound, value⟩ := (Nat.dvd_prime_pow Nat.prime_two).mp
        (show times.gcd 64 ∣ 2 ^ 6 from Nat.gcd_dvd_right times 64)
      have below : power ≠ 6 := by
        rintro rfl
        exact indivisible (Nat.gcd_eq_right_iff_dvd.mp value)
      rw [value]
      exact Nat.pow_dvd_pow 2 (show power ≤ 5 by omega)
    have halfway : turn^[32] word = word := shared.trans_dvd proper
    apply differs
    apply ext_bit
    intro place inside
    rw [bit_zero]
    by_cases low : place < 8
    · rw [← halfway, bit_iterate_turn 32 _ inside]
      exact narrow _ (by omega)
    · exact narrow place (by omega)
  · exact (turn_period word).trans_dvd

-- The difference that a byte makes in the place of another.
def difference (byte other : UInt8) : UInt64 :=
  byte.toUInt64 ^^^ other.toUInt64

theorem difference_ne_zero {byte other : UInt8} (apart : byte ≠ other) :
    difference byte other ≠ 0 := by
  intro none
  apply apart
  have same : byte.toUInt64 = other.toUInt64 := UInt64.xor_eq_zero_iff.mp none
  exact UInt8.toUInt64_inj.mp same

theorem bit_difference (byte other : UInt8) {place : Nat} (high : 8 ≤ place) :
    bit (difference byte other) place = false := by
  simp [difference, bit, BitVec.getLsbD_of_ge _ _ high]

theorem mixByte_xor (state change place : UInt64) (byte : UInt8) :
    mixByte (state ^^^ change) place byte = mixByte state place byte ^^^ turn change := by
  have turned : turn (state ^^^ change) = turn state ^^^ turn change :=
    iterate_turn_xor 1 state change
  apply ext_bit
  intro spot _
  change bit (turn (state ^^^ change) ^^^ byte.toUInt64 ^^^ rotateLeft place 29) spot =
    bit (turn state ^^^ byte.toUInt64 ^^^ rotateLeft place 29 ^^^ turn change) spot
  rw [turned]
  simp only [bit_xor]
  cases bit (turn state) spot <;> cases bit (turn change) spot <;> simp

theorem mixByte_other (state place : UInt64) (byte other : UInt8) :
    mixByte state place other = mixByte state place byte ^^^ difference byte other := by
  apply ext_bit
  intro spot _
  unfold mixByte difference
  simp only [bit_xor]
  cases bit byte.toUInt64 spot <;> cases bit other.toUInt64 spot <;> simp

theorem mixFrom_xor (bytes : Bytes) (state change place : UInt64) :
    mixFrom (state ^^^ change) place bytes =
      mixFrom state place bytes ^^^ turn^[bytes.length] change := by
  induction bytes generalizing state change place with
  | nil => rfl
  | cons byte rest ih =>
    rw [mixFrom, mixByte_xor, ih]
    rfl

theorem mixFrom_append (front back : Bytes) (state place : UInt64) :
    mixFrom state place (front ++ back) =
      mixFrom (mixFrom state place front) (place + UInt64.ofNat front.length) back := by
  induction front generalizing state place with
  | nil => simp [mixFrom]
  | cons byte rest ih =>
    rw [List.cons_append, mixFrom, ih, mixFrom, List.length_cons, UInt64.ofNat_add]
    congr 1
    ac_rfl

theorem mixFrom_replaced (back : Bytes) (state place : UInt64) (byte other : UInt8) :
    mixFrom state place (other :: back) =
      mixFrom state place (byte :: back) ^^^ turn^[back.length] (difference byte other) := by
  rw [mixFrom, mixFrom, mixByte_other state place byte other, mixFrom_xor]

theorem checksumOf_replaced (front back : Bytes) (byte other : UInt8) :
    checksumOf (front ++ other :: back) =
      checksumOf (front ++ byte :: back) ^^^ turn^[back.length] (difference byte other) := by
  unfold checksumOf
  rw [mixFrom_append, mixFrom_append, mixFrom_replaced back _ _ byte other]
  simp only [List.length_append, List.length_cons]

theorem xor_eq_self_iff (word change : UInt64) : word ^^^ change = word ↔ change = 0 := by
  constructor
  · intro same
    apply (UInt64.xor_right_inj word).mp
    rw [same, UInt64.xor_zero]
  · rintro rfl
    exact UInt64.xor_zero

theorem checksumOf_replaced_ne (front back : Bytes) {byte other : UInt8} (apart : byte ≠ other) :
    checksumOf (front ++ other :: back) ≠ checksumOf (front ++ byte :: back) := by
  rw [checksumOf_replaced front back byte other]
  intro same
  rw [xor_eq_self_iff, iterate_turn_eq_zero_iff] at same
  exact difference_ne_zero apart same

-- The difference goes in twice, the first time as many turns ahead as the places are apart.
theorem checksumOf_exchanged (front between back : Bytes) (byte other : UInt8) :
    checksumOf (front ++ other :: (between ++ byte :: back)) =
      checksumOf (front ++ byte :: (between ++ other :: back)) ^^^
        turn^[back.length] (turn^[between.length + 1] (difference byte other) ^^^
          difference byte other) := by
  have later := checksumOf_replaced (front ++ byte :: between) back other byte
  simp only [List.append_assoc, List.cons_append] at later
  have turns : (between ++ byte :: back).length = back.length + (between.length + 1) := by
    simp only [List.length_append, List.length_cons]
    omega
  have flipped : difference other byte = difference byte other := UInt64.xor_comm _ _
  rw [checksumOf_replaced front _ byte other, later, turns, Function.iterate_add_apply,
    iterate_turn_xor, flipped, UInt64.xor_assoc,
    UInt64.xor_comm (turn^[back.length] (difference byte other))]

theorem checksumOf_exchanged_eq_iff (front between back : Bytes) {byte other : UInt8}
    (apart : byte ≠ other) :
    checksumOf (front ++ other :: (between ++ byte :: back)) =
        checksumOf (front ++ byte :: (between ++ other :: back)) ↔
      64 ∣ between.length + 1 := by
  rw [checksumOf_exchanged, xor_eq_self_iff, iterate_turn_eq_zero_iff, UInt64.xor_eq_zero_iff]
  exact iterate_turn_eq_self_iff (fun _ => bit_difference byte other) (difference_ne_zero apart) _

end SiteSearch.Digest
