import SiteSearch.Text.Lowercase

-- Lowercasing again, and lowercasing piece by piece. No small form is itself a capital, so a second
-- time changes nothing. A piece of a text is lowercased as by itself, but for the capital sigmas at
-- its ends, which look beyond it.
namespace SiteSearch.Text

-- Whether the small forms of a run all stand outside another: before it, behind it or in its gaps.
def CaseRun.misses (run other : CaseRun) : Bool :=
  (run.lower run.last).blt other.first || other.last.blt run.target ||
    (other.step == 2 && (run.step == 2 || run.first == run.last) &&
      (run.target + other.first) % 2 == 1)

-- Whether all numbers that a run leads to are those of characters.
def CaseRun.isSound (run : CaseRun) : Bool :=
  run.lower run.last < 0xD800 || (0xE000 ≤ run.target && run.lower run.last < 0x110000)

-- All runs of capitals, those of ASCII and the dotted capital I among them.
def capitalRuns : List CaseRun :=
  ⟨0x41, 0x5A, 1, 0x61⟩ :: ⟨0x130, 0x130, 1, 0x69⟩ :: caseRuns

theorem caseRuns_miss :
    (caseRuns.all fun run => run.isSound && capitalRuns.all run.misses) = true := by
  decide +kernel

namespace CaseRun

variable {run other : CaseRun} {code : Nat}

theorem holds_iff : run.holds code = true ↔
    run.first ≤ code ∧ code ≤ run.last ∧ (code - run.first) % run.step = 0 := by
  simp [holds, and_assoc]

theorem misses_holds (misses : run.misses other = true) (holds : run.holds code = true) :
    other.holds (run.lower code) = false := by
  obtain ⟨least, most, even⟩ := holds_iff.mp holds
  apply Bool.eq_false_iff.mpr
  intro hit
  obtain ⟨above, below, gap⟩ := holds_iff.mp hit
  simp only [CaseRun.misses, Bool.or_eq_true, Bool.and_eq_true, Nat.blt_eq, beq_iff_eq] at misses
  unfold lower at misses above below gap
  rcases misses with (before | behind) | ⟨⟨double, stride⟩, odd⟩
  · omega
  · omega
  · rw [double] at gap
    rcases stride with stride | single
    · rw [stride] at even
      omega
    · omega

theorem isSound_lower (sound : run.isSound = true) (holds : run.holds code = true) :
    (Char.ofNat (run.lower code)).toNat = run.lower code := by
  obtain ⟨least, most, _⟩ := holds_iff.mp holds
  simp only [isSound, Bool.or_eq_true, Bool.and_eq_true, decide_eq_true_eq] at sound
  unfold lower at sound
  have valid : (run.lower code).isValidChar := by
    unfold Nat.isValidChar lower
    omega
  rw [Char.ofNat, dif_pos valid]
  rfl

end CaseRun

-- A character that lowercasing leaves as it is, wherever it stands.
structure Settled (c : Char) : Prop where
  small : lowerChar c = [c]
  apart : c ≠ 'Σ'

theorem settled_sigmas : Settled 'σ' ∧ Settled 'ς' := by
  refine ⟨⟨?_, by decide⟩, ⟨?_, by decide⟩⟩ <;> decide +kernel

theorem toLower_of_not_upper {c : Char} (lower : ¬ (0x41 ≤ c.toNat ∧ c.toNat ≤ 0x5A)) :
    c.toLower = c := by
  unfold Char.toLower
  exact dif_neg lower

theorem toNat_toLower_of_upper {c : Char} (upper : 0x41 ≤ c.toNat ∧ c.toNat ≤ 0x5A) :
    c.toLower.toNat = c.toNat + 32 := by
  have within : c.val ≥ 'A'.val ∧ c.val ≤ 'Z'.val := upper
  have sum : (c.val + 32).toNat = c.val.toNat + 32 := by
    rw [UInt32.toNat_add]
    exact Nat.mod_eq_of_lt (by change c.toNat + 32 < _; omega)
  unfold Char.toLower
  rw [dif_pos within]
  exact sum

theorem toNat_toLower_lt {c : Char} (small : c.toNat < 0x80) : c.toLower.toNat < 0x80 := by
  by_cases upper : 0x41 ≤ c.toNat ∧ c.toNat ≤ 0x5A
  · rw [toNat_toLower_of_upper upper]
    omega
  · rwa [toLower_of_not_upper upper]

theorem settled_of_ascii {c : Char} (small : c.toNat < 0x80)
    (lower : ¬ (0x41 ≤ c.toNat ∧ c.toNat ≤ 0x5A)) : Settled c where
  small := by
    rw [lowerChar, if_pos small, toLower_of_not_upper lower]
  apart := by
    rintro rfl
    exact absurd small (by decide)

theorem settled_toLower {c : Char} (small : c.toNat < 0x80) : Settled c.toLower := by
  by_cases upper : 0x41 ≤ c.toNat ∧ c.toNat ≤ 0x5A
  · have shifted := toNat_toLower_of_upper upper
    apply settled_of_ascii <;> omega
  · rw [toLower_of_not_upper upper]
    exact settled_of_ascii small upper

theorem lowerChar_of_run {c : Char} {run : CaseRun} (large : ¬ c.toNat < 0x80)
    (dotless : c ≠ '\u0130') (found : caseRuns.find? (·.holds c.toNat) = some run) :
    lowerChar c = [Char.ofNat (run.lower c.toNat)] := by
  rw [lowerChar, if_neg large, if_neg dotless, found]

theorem lowerChar_of_none {c : Char} (large : ¬ c.toNat < 0x80) (dotless : c ≠ '\u0130')
    (none : caseRuns.find? (·.holds c.toNat) = none) : lowerChar c = [c] := by
  rw [lowerChar, if_neg large, if_neg dotless, none]

theorem apart_of_none {c : Char} (none : caseRuns.find? (·.holds c.toNat) = none) : c ≠ 'Σ' := by
  rintro rfl
  exact absurd none (by decide +kernel)

theorem settled_of_uncapital {c : Char} (free : ∀ run ∈ capitalRuns, run.holds c.toNat = false) :
    Settled c := by
  have none : caseRuns.find? (·.holds c.toNat) = none := by
    apply List.find?_eq_none.mpr
    intro run listed
    have missed := free run (List.mem_cons_of_mem _ (List.mem_cons_of_mem _ listed))
    rw [missed]
    exact Bool.false_ne_true
  by_cases small : c.toNat < 0x80
  · apply settled_of_ascii small
    have plain := free _ List.mem_cons_self
    rintro ⟨least, most⟩
    apply Bool.eq_false_iff.mp plain
    exact CaseRun.holds_iff.mpr ⟨least, most, Nat.mod_one _⟩
  · have dotless : c ≠ '\u0130' := by
      rintro rfl
      exact absurd (free _ (List.mem_cons_of_mem _ List.mem_cons_self)) (by decide)
    exact ⟨lowerChar_of_none small dotless none, apart_of_none none⟩

theorem settled_lowerChar {c small : Char} (member : small ∈ lowerChar c) : Settled small := by
  by_cases ascii : c.toNat < 0x80
  · rw [lowerChar, if_pos ascii] at member
    obtain rfl := List.mem_singleton.mp member
    exact settled_toLower ascii
  · by_cases dotted : c = '\u0130'
    · subst dotted
      rw [lowerChar, if_neg ascii, if_pos rfl] at member
      rcases List.mem_cons.mp member with rfl | member
      · exact settled_of_ascii (by decide) (by decide)
      · obtain rfl := List.mem_singleton.mp member
        refine ⟨?_, by decide⟩
        decide +kernel
    · cases found : caseRuns.find? (·.holds c.toNat) with
      | none =>
        rw [lowerChar_of_none ascii dotted found] at member
        obtain rfl := List.mem_singleton.mp member
        exact ⟨lowerChar_of_none ascii dotted found, apart_of_none found⟩
      | some run =>
        rw [lowerChar_of_run ascii dotted found] at member
        obtain rfl := List.mem_singleton.mp member
        have holds := List.find?_some found
        have checks := List.all_eq_true.mp caseRuns_miss run (List.mem_of_find?_eq_some found)
        obtain ⟨sound, misses⟩ := Bool.and_eq_true_iff.mp checks
        apply settled_of_uncapital
        intro other listed
        rw [CaseRun.isSound_lower sound holds]
        exact CaseRun.misses_holds (List.all_eq_true.mp misses other listed) holds

theorem settled_lowerAt {before after : List Char} {c small : Char}
    (member : small ∈ lowerAt before c after) : Settled small := by
  unfold lowerAt at member
  split at member
  · split at member
    · obtain rfl := List.mem_singleton.mp member
      exact settled_sigmas.2
    · obtain rfl := List.mem_singleton.mp member
      exact settled_sigmas.1
  · exact settled_lowerChar member

theorem settled_lowerFrom {before text : List Char} :
    ∀ c ∈ lowerFrom [] before text, Settled c := by
  induction text generalizing before with
  | nil => exact List.forall_mem_nil _
  | cons c after ih =>
    intro small member
    rw [lowerFrom_cons] at member
    rcases List.mem_append.mp member with here | later
    · exact settled_lowerAt here
    · exact ih small later

theorem lowerFrom_settled {before text : List Char} (settled : ∀ c ∈ text, Settled c) :
    lowerFrom [] before text = text := by
  induction text generalizing before with
  | nil => rfl
  | cons c after ih =>
    obtain ⟨first, others⟩ := List.forall_mem_cons.mp settled
    rw [lowerFrom_cons, ih others, lowerAt, if_neg first.apart, first.small]
    rfl

theorem lowercase_lowercase (text : String) : lowercase (lowercase text) = lowercase text := by
  unfold lowercase
  rw [String.toList_ofList, lowerFrom_settled settled_lowerFrom]

-- A piece lowercased where it stands, between what is before it, nearest first, and after it.
def lowerBetween (before after : List Char) : List Char → List Char
  | [] => []
  | c :: rest => lowerAt before c (rest ++ after) ++ lowerBetween (c :: before) after rest

theorem lowerFrom_append (before piece after : List Char) :
    lowerFrom [] before (piece ++ after) =
      lowerBetween before after piece ++ lowerFrom [] (piece.reverse ++ before) after := by
  induction piece generalizing before with
  | nil => rfl
  | cons c rest ih =>
    rw [List.cons_append, lowerFrom_cons, ih, lowerBetween, List.append_assoc, List.reverse_cons,
      List.append_assoc]
    rfl

theorem lowerBetween_alone (before piece : List Char) :
    lowerBetween before [] piece = lowerFrom [] before piece := by
  have whole := lowerFrom_append before piece []
  rw [List.append_nil] at whole
  rw [whole]
  exact (List.append_nil _).symm

-- Every capital sigma of a piece has the small form that it has in the piece by itself.
def SigmasKept (before piece after : List Char) : Prop :=
  ∀ front back, piece = front ++ 'Σ' :: back →
    lowerAt (front.reverse ++ before.reverse) 'Σ' (back ++ after) = lowerAt front.reverse 'Σ' back

theorem nextCased_append {near far : List Char} (plain : nextCased far = false) :
    nextCased (near ++ far) = nextCased near := by
  induction near with
  | nil => exact plain
  | cons c rest ih =>
    by_cases ignored : caseIgnorable c = true
    · unfold nextCased at ih ⊢
      rw [List.cons_append, List.dropWhile_cons_of_pos ignored, List.dropWhile_cons_of_pos ignored]
      exact ih
    · unfold nextCased
      rw [List.cons_append, List.dropWhile_cons_of_neg ignored, List.dropWhile_cons_of_neg ignored]

-- A piece that is cut between words keeps its sigmas.
theorem sigmasKept_of_words {before after : List Char} (starts : nextCased before.reverse = false)
    (ends : nextCased after = false) (piece : List Char) : SigmasKept before piece after := by
  intro front back _
  unfold lowerAt
  rw [nextCased_append starts, nextCased_append ends]

theorem lowerBetween_kept {before piece after : List Char} (kept : SigmasKept before piece after)
    {done rest : List Char} (parts : piece = done ++ rest) :
    lowerBetween (done.reverse ++ before.reverse) after rest =
      lowerBetween done.reverse [] rest := by
  induction rest generalizing done with
  | nil => rfl
  | cons c rest ih =>
    have here : lowerAt (done.reverse ++ before.reverse) c (rest ++ after) =
        lowerAt done.reverse c (rest ++ []) := by
      by_cases sigma : c = 'Σ'
      · subst sigma
        rw [List.append_nil]
        exact kept done rest parts
      · unfold lowerAt
        rw [if_neg sigma, if_neg sigma]
    have shifted : piece = (done ++ [c]) ++ rest := by
      rw [parts, List.append_assoc, List.singleton_append]
    have later := ih shifted
    rw [List.reverse_append] at later
    rw [lowerBetween, lowerBetween, here]
    exact congrArg _ later

theorem lowercase_infix {text piece : String} {before after : List Char}
    (parts : text.toList = before ++ piece.toList ++ after)
    (kept : SigmasKept before piece.toList after) :
    (lowercase piece).toList <:+: (lowercase text).toList := by
  unfold lowercase
  rw [String.toList_ofList, String.toList_ofList, parts, List.append_assoc, lowerFrom_append,
    lowerFrom_append, List.append_nil]
  have alone := lowerBetween_kept kept (List.nil_append piece.toList).symm
  rw [← lowerBetween_alone, ← List.append_assoc]
  exact ⟨_, _, congrArg (_ ++ · ++ _) alone.symm⟩

end SiteSearch.Text
