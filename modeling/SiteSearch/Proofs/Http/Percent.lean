import Mathlib.Data.List.Basic
import SiteSearch.Http.Percent
import SiteSearch.Proofs.Text.Written

-- Percent encoding from the side of a client, who may spell a byte as it likes: bytes that were
-- spelled are read back, and no spelling holds a character that a path ends at.
namespace SiteSearch.Http

open Text (hexValue?)

-- The characters that may stand for themselves in a segment of a path (RFC 3986, pchar).
def isSegmentChar (c : Char) : Bool :=
  c.isAlphanum || "-._~!$&'()*+,;=:@".toList.contains c

-- A byte is spelled by two hexadecimal digits in either case, or by its character where it may be.
inductive Spells : List Char → List UInt8 → Prop where
  | nothing : Spells [] []
  | bare {c : Char} {text : List Char} {bytes : List UInt8} (shown : isSegmentChar c = true)
      (later : Spells text bytes) : Spells (c :: text) (UInt8.ofNat c.toNat :: bytes)
  | escaped {high low : Char} {a b : Nat} {text : List Char} {bytes : List UInt8}
      (first : hexValue? high = some a) (second : hexValue? low = some b)
      (later : Spells text bytes) :
      Spells ('%' :: high :: low :: text) (UInt8.ofNat (16 * a + b) :: bytes)

-- The characters that end a path or one of its segments.
def isDelimiter (c : Char) : Bool := c = '/' || c = '?' || c = '#'

theorem isSegmentChar_ascii {c : Char} (shown : isSegmentChar c = true) : c.toNat < 0x80 := by
  have number : c.val.toNat = c.toNat := rfl
  rcases Bool.or_eq_true_iff.mp shown with letter | mark
  · unfold Char.isAlphanum Char.isAlpha Char.isUpper Char.isLower Char.isDigit at letter
    simp only [Bool.or_eq_true, Bool.and_eq_true, decide_eq_true_eq, ge_iff_le,
      UInt32.le_iff_toNat_le] at letter
    change ((65 ≤ _ ∧ _ ≤ 90) ∨ (97 ≤ _ ∧ _ ≤ 122)) ∨ (48 ≤ _ ∧ _ ≤ 57) at letter
    omega
  · have marks : "-._~!$&'()*+,;=:@".toList.all (·.toNat < 0x80) = true := by decide
    exact of_decide_eq_true (List.all_eq_true.mp marks c (List.contains_iff_mem.mp mark))

theorem hexValue?_ascii {c : Char} {value : Nat} (digit : hexValue? c = some value) :
    c.toNat < 0x80 := by
  have below {bound : Char} (least : c ≤ bound) : c.toNat ≤ bound.toNat :=
    UInt32.le_iff_toNat_le.mp least
  unfold hexValue? at digit
  split at digit
  · next range => exact Nat.lt_of_le_of_lt (below range.2) (by decide)
  · split at digit
    · next range => exact Nat.lt_of_le_of_lt (below range.2) (by decide)
    · split at digit
      · next range => exact Nat.lt_of_le_of_lt (below range.2) (by decide)
      · cases digit

-- A test that no delimiter passes.
theorem undelimited_of {test : Char → Bool} (barred : ['/', '?', '#'].all (!test ·) = true)
    {c : Char} (passes : test c = true) : isDelimiter c = false := by
  have apart (other : Char) (listed : other ∈ ['/', '?', '#']) : c ≠ other := by
    rintro rfl
    have failed := List.all_eq_true.mp barred c listed
    rw [passes] at failed
    cases failed
  unfold isDelimiter
  simp [apart]

theorem undelimited_of_hexValue? {c : Char} {value : Nat} (digit : hexValue? c = some value) :
    isDelimiter c = false :=
  @undelimited_of (fun c => (hexValue? c).isSome) (by decide) c (Option.isSome_of_mem digit)

theorem undelimited_of_isSegmentChar {c : Char} (shown : isSegmentChar c = true) :
    isDelimiter c = false :=
  undelimited_of (by decide) shown

namespace Spells

variable {text : List Char} {bytes : List UInt8}

theorem undelimited (spells : Spells text bytes) : ∀ c ∈ text, isDelimiter c = false := by
  induction spells with
  | nothing => exact List.forall_mem_nil _
  | bare shown _ ih =>
    exact List.forall_mem_cons.mpr ⟨undelimited_of_isSegmentChar shown, ih⟩
  | escaped first second _ ih =>
    refine List.forall_mem_cons.mpr ⟨rfl, List.forall_mem_cons.mpr ⟨?_, ?_⟩⟩
    · exact undelimited_of_hexValue? first
    · exact List.forall_mem_cons.mpr ⟨undelimited_of_hexValue? second, ih⟩

theorem length_le (spells : Spells text bytes) : bytes.length ≤ text.length := by
  induction spells with
  | nothing => exact Nat.le_refl 0
  | bare _ _ ih => exact Nat.succ_le_succ ih
  | escaped _ _ _ ih =>
    simp only [List.length_cons]
    omega

theorem percentFrom_eq (spells : Spells text bytes) (done : List UInt8) :
    percentFrom done (text.flatMap String.utf8EncodeChar) = done.reverse ++ bytes := by
  induction spells generalizing done with
  | nothing => rw [List.flatMap_nil, percentFrom, List.append_nil]
  | @bare c text bytes shown _ ih =>
    have ascii := isSegmentChar_ascii shown
    have noEscape : UInt8.ofNat c.toNat ≠ 0x25 := by
      intro same
      have code : c.toNat = '%'.toNat := by
        rw [← Digest.toNat_byte (show c.toNat < 256 by omega), same]
        rfl
      rw [Char.toNat_inj.mp code] at shown
      revert shown
      decide
    rw [List.flatMap_cons, Text.utf8EncodeChar_ascii ascii, List.singleton_append, percentFrom,
      ih, List.reverse_cons, List.append_assoc]
    · rfl
    · exact fun _ _ _ same _ => noEscape same
  | @escaped high low a b text bytes first second _ ih =>
    have back {c : Char} (ascii : c.toNat < 0x80) :
        Char.ofNat (UInt8.ofNat c.toNat).toNat = c := by
      rw [Digest.toNat_byte (by omega), Char.ofNat_toNat]
    have highAscii := hexValue?_ascii first
    have lowAscii := hexValue?_ascii second
    rw [List.flatMap_cons, List.flatMap_cons, List.flatMap_cons,
      Text.utf8EncodeChar_ascii (show '%'.toNat < 0x80 by decide),
      Text.utf8EncodeChar_ascii highAscii, Text.utf8EncodeChar_ascii lowAscii,
      List.singleton_append, List.singleton_append, List.singleton_append]
    refine Eq.trans (percentFrom.eq_2 _ _ _ _) ?_
    rw [back highAscii, back lowAscii, first, second]
    dsimp only
    rw [ih, List.reverse_cons, List.append_assoc]
    rfl

theorem percentDecode_eq (spells : Spells text bytes) : percentDecode text = bytes := by
  unfold percentDecode utf8
  rw [Text.toUTF8_toList, String.toList_ofList, spells.percentFrom_eq]
  rfl

theorem decodeSegment?_eq {query : String} (spells : Spells text query.toUTF8.toList) :
    decodeSegment? text = some query := by
  unfold decodeSegment?
  rw [spells.percentDecode_eq, Text.ofBytes?_toUTF8]

theorem of_isSegmentChar (shown : ∀ c ∈ text, isSegmentChar c = true) :
    Spells text (String.ofList text).toUTF8.toList := by
  rw [Text.toUTF8_toList, String.toList_ofList]
  induction text with
  | nil => exact .nothing
  | cons c later ih =>
    obtain ⟨here, others⟩ := List.forall_mem_cons.mp shown
    rw [List.flatMap_cons, Text.utf8EncodeChar_ascii (isSegmentChar_ascii here)]
    exact .bare here (ih others)

end Spells

-- Characters of a path mean themselves in a form as well, but for the plus sign.
theorem formDecode_eq {text : List Char} (shown : ∀ c ∈ text, isSegmentChar c = true)
    (noPlus : '+' ∉ text) : formDecode text = String.ofList text := by
  have kept : (text.map fun c => if c = '+' then ' ' else c) = text := by
    refine Eq.trans (List.map_congr_left fun c member => if_neg ?_) (List.map_id' text)
    rintro rfl
    exact noPlus member
  unfold formDecode
  dsimp only
  rw [kept, (Spells.of_isSegmentChar shown).percentDecode_eq, Text.symbols_toUTF8,
    String.toList_ofList, List.map_map]
  exact congrArg String.ofList (List.map_id' text)

-- One pair, of a name and a value that both stand for themselves.
theorem formPairs_single {name value : List Char}
    (nameShown : ∀ c ∈ name, isSegmentChar c = true)
    (valueShown : ∀ c ∈ value, isSegmentChar c = true)
    (namePlain : '+' ∉ name ∧ '&' ∉ name ∧ '=' ∉ name) (valuePlain : '+' ∉ value ∧ '&' ∉ value) :
    formPairs (name ++ '=' :: value) = [(String.ofList name, String.ofList value)] := by
  have whole : '&' ∉ name ++ '=' :: value := by
    simp [namePlain.2.1, valuePlain.2]
  have ends : ∀ c ∈ name, decide (c ≠ '=') = true := by
    intro c member
    refine decide_eq_true ?_
    rintro rfl
    exact namePlain.2.2 member
  have alone : Text.divide '&' (name ++ '=' :: value) = [name ++ '=' :: value] := by
    unfold Text.divide
    rw [List.splitOn_eq_splitOnP]
    refine List.splitOnP_eq_singleton fun c member => beq_eq_false_iff_ne.mpr ?_
    rintro rfl
    exact whole member
  have pair : formPair (name ++ '=' :: value) = (String.ofList name, String.ofList value) := by
    unfold formPair
    rw [List.takeWhile_append_of_pos ends, List.dropWhile_append_of_pos ends,
      List.takeWhile_cons_of_neg (by decide), List.dropWhile_cons_of_neg (by decide),
      List.append_nil, List.drop_one, List.tail_cons, formDecode_eq nameShown namePlain.1,
      formDecode_eq valueShown valuePlain.1]
  unfold formPairs
  rw [alone, List.filter_cons_of_pos (by simp), List.filter_nil, List.map_singleton, pair]

end SiteSearch.Http
