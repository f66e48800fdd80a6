import Mathlib.Data.List.Basic
import SiteSearch.Proofs.Digest.Delimited
import SiteSearch.Text.Basic
import SiteSearch.Text.Utf8

-- What was written is read back: text from its bytes, character by character and whatever bytes
-- follow it, and a number from its decimal digits. The bytes of texts keep the order of the texts.
namespace SiteSearch.Text

open Digest (toNat_byte)

theorem toUTF8_toList (text : String) :
    text.toUTF8.toList = text.toList.flatMap String.utf8EncodeChar := by
  rw [String.toUTF8_eq_toByteArray, ← String.utf8Encode_toList, List.utf8Encode,
    Digest.byteList_eq, List.toList_data_toByteArray]

section Characters

variable {bytes : List UInt8} {place low high n code : Nat}

theorem tailBits_eq (small : n < 256) (here : bytes[place]? = some (UInt8.ofNat n))
    (least : low ≤ n) (most : n ≤ high) : tailBits bytes place low high = some (n % 64) := by
  unfold tailBits
  rw [here, Option.bind_eq_bind, Option.bind_some, toNat_byte small]
  simp [least, most]

theorem within_iff (low high n : Nat) :
    (decide (low ≤ n) && decide (n < high)) = true ↔ low ≤ n ∧ n < high := by
  rw [Bool.and_eq_true, decide_eq_true_eq, decide_eq_true_eq]

theorem character?_one (small : code < 0x80) (rest : List UInt8) :
    character? (UInt8.ofNat code) rest = some (Char.ofNat code, 0) := by
  unfold character?
  rw [toNat_byte (by omega)]
  exact if_pos small

theorem character?_two (least : 0x80 ≤ code) (most : code < 0x800) (rest : List UInt8) :
    character? (UInt8.ofNat (code / 64 % 32 + 0xC0)) (UInt8.ofNat (code % 64 + 0x80) :: rest) =
      some (Char.ofNat code, 1) := by
  have value : (code / 64 % 32 + 0xC0 - 0xC0) * 64 + (code % 64 + 0x80) % 64 = code := by omega
  unfold character?
  rw [toNat_byte (by omega)]
  dsimp only
  rw [if_neg (by omega), if_pos ((within_iff _ _ _).mpr (by omega)),
    tailBits_eq (by omega) rfl (by omega) (by omega), Option.bind_eq_bind, Option.bind_some, value]

-- The bounds of the second byte hold since a character is no surrogate.
theorem character?_three (least : 0x800 ≤ code) (most : code < 0x10000)
    (valid : code < 0xD800 ∨ 0xDFFF < code) (rest : List UInt8) :
    character? (UInt8.ofNat (code / 4096 % 16 + 0xE0)) (UInt8.ofNat (code / 64 % 64 + 0x80) ::
      UInt8.ofNat (code % 64 + 0x80) :: rest) = some (Char.ofNat code, 2) := by
  have value : (code / 4096 % 16 + 0xE0 - 0xE0) * 4096 + (code / 64 % 64 + 0x80) % 64 * 64 +
      (code % 64 + 0x80) % 64 = code := by omega
  unfold character?
  rw [toNat_byte (by omega)]
  dsimp only
  rw [if_neg (by omega), if_neg (mt (within_iff _ _ _).mp (by omega)),
    if_pos ((within_iff _ _ _).mpr (by omega)),
    tailBits_eq (by omega) rfl (by split <;> omega) (by split <;> omega), Option.bind_eq_bind,
    Option.bind_some, tailBits_eq (by omega) rfl (by omega) (by omega), Option.bind_some, value]

theorem character?_four (least : 0x10000 ≤ code) (most : code < 0x110000) (rest : List UInt8) :
    character? (UInt8.ofNat (code / 262144 % 8 + 0xF0)) (UInt8.ofNat (code / 4096 % 64 + 0x80) ::
      UInt8.ofNat (code / 64 % 64 + 0x80) :: UInt8.ofNat (code % 64 + 0x80) :: rest) =
        some (Char.ofNat code, 3) := by
  have value : (code / 262144 % 8 + 0xF0 - 0xF0) * 262144 + (code / 4096 % 64 + 0x80) % 64 * 4096 +
      (code / 64 % 64 + 0x80) % 64 * 64 + (code % 64 + 0x80) % 64 = code := by omega
  unfold character?
  rw [toNat_byte (by omega)]
  dsimp only
  rw [if_neg (by omega), if_neg (mt (within_iff _ _ _).mp (by omega)),
    if_neg (mt (within_iff _ _ _).mp (by omega)), if_pos ((within_iff _ _ _).mpr (by omega)),
    tailBits_eq (by omega) rfl (by split <;> omega) (by split <;> omega), Option.bind_eq_bind,
    Option.bind_some, tailBits_eq (by omega) rfl (by omega) (by omega), Option.bind_some,
    tailBits_eq (by omega) rfl (by omega) (by omega), Option.bind_some, value]

theorem character?_encoded (c : Char) (rest : List UInt8) :
    ∃ first tail, String.utf8EncodeChar c = first :: tail ∧
      character? first (tail ++ rest) = some (c, tail.length) := by
  have valid : c.toNat < 0xD800 ∨ 0xDFFF < c.toNat ∧ c.toNat < 0x110000 := c.valid
  have same : Char.ofNat c.val.toNat = c := Char.ofNat_toNat c
  have number : c.val.toNat = c.toNat := rfl
  unfold String.utf8EncodeChar
  dsimp only
  by_cases one : c.val.toNat ≤ 0x7F
  · rw [if_pos one]
    exact ⟨_, _, rfl, by rw [character?_one (by omega), same]; rfl⟩
  · rw [if_neg one]
    by_cases two : c.val.toNat ≤ 0x7FF
    · rw [if_pos two]
      refine ⟨_, _, rfl, ?_⟩
      exact (character?_two (by omega) (by omega) rest).trans (by rw [same]; rfl)
    · rw [if_neg two]
      by_cases three : c.val.toNat ≤ 0xFFFF
      · rw [if_pos three]
        refine ⟨_, _, rfl, ?_⟩
        exact (character?_three (by omega) (by omega) (by omega) rest).trans (by rw [same]; rfl)
      · rw [if_neg three]
        refine ⟨_, _, rfl, ?_⟩
        exact (character?_four (by omega) (by omega) rest).trans (by rw [same]; rfl)

theorem utf8EncodeChar_ascii {c : Char} (small : c.toNat < 0x80) :
    String.utf8EncodeChar c = [UInt8.ofNat c.toNat] := by
  have number : c.val.toNat = c.toNat := rfl
  unfold String.utf8EncodeChar
  dsimp only
  rw [if_pos (by omega), number]

theorem utf8EncodeChar_beyond {c : Char} (large : 0x80 ≤ c.toNat) :
    ∀ byte ∈ String.utf8EncodeChar c, 0x80 ≤ byte.toNat := by
  have number : c.val.toNat = c.toNat := rfl
  have high {n : Nat} (small : n < 0x80) : 0x80 ≤ (UInt8.ofNat (n + 0x80)).toNat := by
    rw [toNat_byte (by omega)]
    omega
  unfold String.utf8EncodeChar
  dsimp only
  rw [if_neg (by omega)]
  intro byte member
  split at member
  · simp only [List.mem_cons, List.not_mem_nil, or_false] at member
    rcases member with rfl | rfl
    · exact high (n := c.val.toNat / 64 % 32 + 0x40) (by omega)
    · exact high (by omega)
  · split at member
    · simp only [List.mem_cons, List.not_mem_nil, or_false] at member
      rcases member with rfl | rfl | rfl
      · exact high (n := c.val.toNat / 4096 % 16 + 0x60) (by omega)
      · exact high (by omega)
      · exact high (by omega)
    · simp only [List.mem_cons, List.not_mem_nil, or_false] at member
      rcases member with rfl | rfl | rfl | rfl
      · exact high (n := c.val.toNat / 262144 % 8 + 0x70) (by omega)
      · exact high (by omega)
      · exact high (by omega)
      · exact high (by omega)

theorem length_encoded_bounds (text : List Char) :
    text.length ≤ (text.flatMap String.utf8EncodeChar).length ∧
      (text.flatMap String.utf8EncodeChar).length ≤ 4 * text.length := by
  induction text with
  | nil => exact ⟨Nat.le_refl 0, Nat.le_refl 0⟩
  | cons c later ih =>
    have least := c.utf8Size_pos
    have most := c.utf8Size_le_four
    rw [List.flatMap_cons, List.length_append, String.length_utf8EncodeChar, List.length_cons]
    omega

end Characters

theorem symbols_encoded (text : List Char) (rest : List UInt8) :
    symbols (text.flatMap String.utf8EncodeChar ++ rest) = text.map some ++ symbols rest := by
  induction text with
  | nil => rfl
  | cons c later ih =>
    obtain ⟨first, tail, spelled, found⟩ :=
      character?_encoded c (later.flatMap String.utf8EncodeChar ++ rest)
    unfold symbols at ih ⊢
    rw [List.flatMap_cons, spelled, List.cons_append, List.cons_append, List.append_assoc,
      symbolsFrom, found]
    dsimp only
    rw [List.drop_left, symbolsFrom_done, ih]
    rfl

theorem symbols_toUTF8 (text : String) :
    symbols text.toUTF8.toList = text.toList.map some := by
  have read := symbols_encoded text.toList []
  have nothing : symbols [] = [] := by
    rw [symbols, symbolsFrom, List.reverse_nil]
  rwa [List.append_nil, ← toUTF8_toList, nothing, List.append_nil] at read

theorem mapM_some (text : List Char) : (text.map some).mapM id = some text := by
  induction text with
  | nil => rfl
  | cons c later ih =>
    rw [List.map_cons, List.mapM_cons, ih]
    rfl

theorem ofBytes?_toUTF8 (text : String) : ofBytes? text.toUTF8.toList = some text := by
  unfold ofBytes?
  rw [symbols_toUTF8, mapM_some, Option.map_some, String.ofList_toList]

section Order

theorem bytes_lt {low high : Nat} {after later : List UInt8} (small : high < 256)
    (least : low ≤ high) (further : low = high → after < later) :
    UInt8.ofNat low :: after < UInt8.ofNat high :: later := by
  rw [List.cons_lt_cons_iff]
  rcases Nat.lt_or_eq_of_le least with less | same
  · left
    rw [UInt8.lt_iff_toNat_lt, toNat_byte small, toNat_byte (Nat.lt_trans less small)]
    exact less
  · exact .inr ⟨congrArg UInt8.ofNat same, further same⟩

theorem byte_lt {low high : Nat} (small : high < 256) (less : low < high)
    (after later : List UInt8) : UInt8.ofNat low :: after < UInt8.ofNat high :: later :=
  bytes_lt small (Nat.le_of_lt less) fun same => absurd same (Nat.ne_of_lt less)

-- Of two characters the smaller one is written in no more bytes, and where the bytes part it has
-- the smaller one. Neither is the start of the other, so what follows them does not count.
theorem encoded_lt {c d : Char} (less : c < d) (after later : List UInt8) :
    String.utf8EncodeChar c ++ after < String.utf8EncodeChar d ++ later := by
  have order : c.val.toNat < d.val.toNat := less
  have bound : d.val.toNat < 0xD800 ∨ 0xDFFF < d.val.toNat ∧ d.val.toNat < 0x110000 := d.valid
  unfold String.utf8EncodeChar
  dsimp only
  by_cases one : d.val.toNat ≤ 0x7F
  · rw [if_pos (by omega), if_pos one]
    exact byte_lt (by omega) order after later
  rw [if_neg one]
  by_cases two : d.val.toNat ≤ 0x7FF
  · rw [if_pos two]
    split
    · exact byte_lt (by omega) (by omega) _ _
    · rw [if_pos (by omega)]
      exact bytes_lt (by omega) (by omega) fun _ => byte_lt (by omega) (by omega) _ _
  rw [if_neg two]
  by_cases three : d.val.toNat ≤ 0xFFFF
  · rw [if_pos three]
    split
    · exact byte_lt (by omega) (by omega) _ _
    · split
      · exact byte_lt (by omega) (by omega) _ _
      · rw [if_pos (by omega)]
        refine bytes_lt (by omega) (by omega) fun _ => ?_
        exact bytes_lt (by omega) (by omega) fun _ => byte_lt (by omega) (by omega) _ _
  rw [if_neg three]
  split
  · exact byte_lt (by omega) (by omega) _ _
  · split
    · exact byte_lt (by omega) (by omega) _ _
    · split
      · exact byte_lt (by omega) (by omega) _ _
      · refine bytes_lt (by omega) (by omega) fun _ => bytes_lt (by omega) (by omega) fun _ => ?_
        exact bytes_lt (by omega) (by omega) fun _ => byte_lt (by omega) (by omega) _ _

theorem flatMap_encoded_lt {text other : List Char} (less : text < other) :
    text.flatMap String.utf8EncodeChar < other.flatMap String.utf8EncodeChar := by
  induction less with
  | nil =>
    rename_i c _
    obtain ⟨first, tail, spelled, _⟩ := character?_encoded c []
    rw [List.flatMap_cons, spelled]
    exact List.nil_lt_cons _ _
  | cons _ ih =>
    rw [List.flatMap_cons, List.flatMap_cons]
    exact List.append_left_lt ih
  | rel less =>
    rw [List.flatMap_cons, List.flatMap_cons]
    exact encoded_lt less _ _

-- The order of texts by their characters is that by their bytes.
theorem toUTF8_lt {text other : String} (less : text < other) :
    text.toUTF8.toList < other.toUTF8.toList := by
  rw [toUTF8_toList, toUTF8_toList]
  exact flatMap_encoded_lt less

end Order

section Decimals

variable {n : Nat}

theorem toList_toString (n : Nat) : (toString n).toList = Nat.toDigits 10 n :=
  Nat.toList_repr

theorem isDigit_of_mem_toDigits {c : Char} (member : c ∈ Nat.toDigits 10 n) : c.isDigit = true :=
  Nat.isDigit_of_mem_toDigits (by decide) (by decide) member

theorem toDigits_cons (n : Nat) :
    ∃ digit more, Nat.toDigits 10 n = digit :: more ∧ digit.isDigit = true := by
  obtain ⟨digit, more, digits⟩ := List.exists_cons_of_ne_nil (Nat.toDigits_ne_nil (n := n))
  exact ⟨digit, more, digits, isDigit_of_mem_toDigits (by rw [digits]; exact List.mem_cons_self)⟩

theorem valueOf_toDigits (n : Nat) : valueOf (Nat.toDigits 10 n) = n := by
  refine Eq.trans ?_ Nat.ofDigitChars_ten_toDigits
  exact Nat.ofDigitChars_eq_foldl.symm

-- No number but zero starts with a zero.
theorem headD_toDigits (positive : 0 < n) : (Nat.toDigits 10 n).headD '0' ≠ '0' := by
  induction n using Nat.strongRecOn with
  | ind n ih =>
    by_cases small : n < 10
    · rw [Nat.toDigits_of_lt_base small]
      have checked : ∀ digit < 10, 0 < digit → digit.digitChar ≠ '0' := by decide
      exact checked n small positive
    · have front := ih (n / 10) (by omega) (by omega)
      obtain ⟨digit, more, digits, _⟩ := toDigits_cons (n / 10)
      rw [digits] at front
      rw [Nat.toDigits_of_base_le (by decide) (by omega), digits]
      exact front

theorem decimal?_toDigits (n : Nat) : decimal? (Nat.toDigits 10 n) = some n := by
  unfold decimal?
  have filled : (Nat.toDigits 10 n).isEmpty = false := by
    rw [List.isEmpty_eq_false_iff]
    exact Nat.toDigits_ne_nil
  have digits : (Nat.toDigits 10 n).all Char.isDigit = true :=
    List.all_eq_true.mpr fun c member => isDigit_of_mem_toDigits member
  rw [filled, digits, valueOf_toDigits]
  rfl

theorem signedDecimal?_toDigits (n : Nat) : signedDecimal? (Nat.toDigits 10 n) = some n := by
  obtain ⟨digit, more, digits, decimal⟩ := toDigits_cons n
  unfold signedDecimal?
  split
  · next rest starts =>
    obtain ⟨rfl, _⟩ := List.cons.inj (digits.symm.trans starts)
    cases decimal
  · exact decimal?_toDigits n

end Decimals

end SiteSearch.Text
