import Mathlib.Logic.Basic
import SiteSearch.Digest.Canonical

-- Writers whose bytes show where they end, whatever follows them. Such writers can be put one after
-- another, into lists and under options, and what they write still tells what was written.
namespace SiteSearch.Digest

variable {α β γ δ : Type}

-- What is written before any rest settles what it stands for, up to a view, and the rest.
def Delimited (view : α → β) (write : α → Bytes) : Prop :=
  ∀ x y rest other, write x ++ rest = write y ++ other → view x = view y ∧ rest = other

namespace Delimited

theorem view_eq {view : α → β} {write : α → Bytes} (delimited : Delimited view write) {x y : α}
    (same : write x = write y) : view x = view y :=
  (delimited x y [] [] (by rw [same])).1

theorem comp {view : α → β} {write : α → Bytes} (delimited : Delimited view write)
    (part : γ → α) : Delimited (fun x => view (part x)) (fun x => write (part x)) :=
  fun x y => delimited (part x) (part y)

theorem append {one : α → β} {other : α → γ} {first second : α → Bytes}
    (front : Delimited one first) (back : Delimited other second) :
    Delimited (fun x => (one x, other x)) (fun x => first x ++ second x) := by
  intro x y rest last same
  rw [List.append_assoc, List.append_assoc] at same
  obtain ⟨ones, same⟩ := front x y _ _ same
  obtain ⟨others, same⟩ := back x y _ _ same
  exact ⟨Prod.ext ones others, same⟩

theorem flatMap {view : α → β} {write : α → Bytes} (delimited : Delimited view write)
    {xs ys : List α} (lengths : xs.length = ys.length) {rest other : Bytes}
    (same : xs.flatMap write ++ rest = ys.flatMap write ++ other) :
    xs.map view = ys.map view ∧ rest = other := by
  induction xs generalizing ys with
  | nil =>
    obtain rfl := List.length_eq_zero_iff.mp lengths.symm
    exact ⟨rfl, same⟩
  | cons x xs ih =>
    cases ys with
    | nil => cases lengths
    | cons y ys =>
      rw [List.flatMap_cons, List.flatMap_cons, List.append_assoc, List.append_assoc] at same
      obtain ⟨heads, same⟩ := delimited x y _ _ same
      obtain ⟨tails, same⟩ := ih (Nat.succ.inj lengths) same
      exact ⟨congrArg₂ List.cons heads tails, same⟩

-- One thing written in several ways, one after another.
theorem inTurn {views : γ → α → β} {writes : γ → α → Bytes}
    (each : ∀ turn, Delimited (views turn) (writes turn)) (turns : List γ) :
    Delimited (fun x => turns.map fun turn => views turn x)
      (fun x => turns.flatMap fun turn => writes turn x) := by
  induction turns with
  | nil => exact fun x y rest other same => ⟨rfl, same⟩
  | cons turn turns ih =>
    intro x y rest other same
    simp only [List.flatMap_cons, List.append_assoc] at same
    obtain ⟨heads, same⟩ := each turn x y _ _ same
    obtain ⟨tails, same⟩ := ih x y _ _ same
    exact ⟨congrArg₂ List.cons heads tails, same⟩

end Delimited

theorem toNat_byte {n : Nat} (small : n < 256) : (UInt8.ofNat n).toNat = n :=
  UInt8.toNat_ofNat_of_lt small

theorem writeNat_small {n : Nat} (small : n < 128) : writeNat n = [UInt8.ofNat n] := by
  rw [writeNat, if_pos small]

theorem writeNat_large {n : Nat} (large : ¬ n < 128) :
    writeNat n = UInt8.ofNat (n % 128 + 128) :: writeNat (n / 128) := by
  rw [writeNat, if_neg large]

theorem writeNat_delimited : Delimited id writeNat := by
  intro n
  induction n using Nat.strongRecOn with
  | ind n ih =>
    intro m rest other same
    -- the first byte tells whether another follows: it is below 128 or not
    by_cases small : n < 128
    · have first := toNat_byte (show n < 256 by omega)
      by_cases fits : m < 128
      · have second := toNat_byte (show m < 256 by omega)
        rw [writeNat_small small, writeNat_small fits] at same
        obtain ⟨heads, tails⟩ := List.cons.inj same
        exact ⟨first.symm.trans ((congrArg UInt8.toNat heads).trans second), tails⟩
      · have second := toNat_byte (show m % 128 + 128 < 256 by omega)
        rw [writeNat_small small, writeNat_large fits] at same
        have heads := congrArg UInt8.toNat (List.cons.inj same).1
        omega
    · have first := toNat_byte (show n % 128 + 128 < 256 by omega)
      by_cases fits : m < 128
      · have second := toNat_byte (show m < 256 by omega)
        rw [writeNat_large small, writeNat_small fits] at same
        have heads := congrArg UInt8.toNat (List.cons.inj same).1
        omega
      · have second := toNat_byte (show m % 128 + 128 < 256 by omega)
        rw [writeNat_large small, writeNat_large fits] at same
        obtain ⟨heads, tails⟩ := List.cons.inj same
        have low := congrArg UInt8.toNat heads
        obtain ⟨high, tails⟩ := ih (n / 128) (by omega) (m / 128) rest other tails
        change n / 128 = m / 128 at high
        refine ⟨?_, tails⟩
        change n = m
        omega

theorem writeList_delimited {view : α → β} {write : α → Bytes} (delimited : Delimited view write) :
    Delimited (List.map view) (writeList write) := by
  intro xs ys rest other same
  unfold writeList at same
  rw [List.append_assoc, List.append_assoc] at same
  obtain ⟨lengths, same⟩ := writeNat_delimited xs.length ys.length _ _ same
  exact delimited.flatMap lengths same

theorem writeOption_delimited {view : α → β} {write : α → Bytes}
    (delimited : Delimited view write) : Delimited (Option.map view) (writeOption write) := by
  intro x y rest other same
  cases x with
  | none =>
    cases y with
    | none => exact ⟨rfl, (List.cons.inj same).2⟩
    | some y => exact absurd (List.cons.inj same).1 (by decide)
  | some x =>
    cases y with
    | none => exact absurd (List.cons.inj same).1 (by decide)
    | some y =>
      obtain ⟨values, tails⟩ := delimited x y _ _ (List.cons.inj same).2
      exact ⟨congrArg some values, tails⟩

theorem byteList_loop (bytes : ByteArray) (place : Nat) (done : List UInt8) :
    ByteArray.toList.loop bytes place done = done.reverse ++ bytes.data.toList.drop place := by
  have size : bytes.data.toList.length = bytes.size := Array.length_toList
  induction left : bytes.size - place generalizing place done with
  | zero =>
    rw [ByteArray.toList.loop, if_neg (by omega), List.drop_eq_nil_of_le (by omega),
      List.append_nil]
  | succ n ih =>
    have inside : place < bytes.size := by omega
    have listed : place < bytes.data.toList.length := by omega
    have here : bytes.get! place = bytes.data.toList[place] := getElem!_pos bytes.data place inside
    rw [ByteArray.toList.loop, if_pos inside, ih (place + 1) _ (by omega), here,
      List.reverse_cons, List.append_assoc, List.drop_eq_getElem_cons listed]
    rfl

theorem byteList_eq (bytes : ByteArray) : bytes.toList = bytes.data.toList :=
  byteList_loop bytes 0 []

theorem writeText_delimited : Delimited id writeText := by
  intro x y rest other same
  unfold writeText at same
  rw [List.append_assoc, List.append_assoc] at same
  obtain ⟨lengths, same⟩ := writeNat_delimited _ _ _ _ same
  rw [byteList_eq, byteList_eq] at same
  obtain ⟨texts, tails⟩ := List.append_inj same lengths
  refine ⟨?_, tails⟩
  exact String.toByteArray_inj.mp (ByteArray.ext (Array.toList_inj.mp texts))

end SiteSearch.Digest
