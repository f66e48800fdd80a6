import Mathlib.Data.List.Nodup
import SiteSearch.Json.Typed

-- A record is read from an object whose known members each stand once; the others are left unread.
namespace SiteSearch.Json.Reading

variable {α : Type} {checks : List Member.Check} {found : List (String × Reading)}

-- A member that is known and passes its check.
def Passes (checks : List Member.Check) (member : String × Reading) : Prop :=
  ∃ known, checks.find? (·.name == member.1) = some known ∧ known.check member.2 = .ok ()

def isKnown (checks : List Member.Check) (member : String × Reading) : Bool :=
  (checks.find? (·.name == member.1)).isSome

theorem Passes.isKnown {member : String × Reading} (passes : Passes checks member) :
    isKnown checks member = true := by
  obtain ⟨known, listed, _⟩ := passes
  rw [Reading.isKnown, listed]
  rfl

-- A member that a record takes in or, if it is not one of its own, passes over.
def Taken (checks : List Member.Check) (member : String × Reading) : Prop :=
  Passes checks member ∨ isKnown checks member = false ∧ member.2.intact = true

theorem takeMember_passes {member : String × Reading} (passes : Passes checks member)
    (fresh : member.1 ∉ found.map (·.1)) :
    takeMember checks found (some member.1) member.2 = .ok (found ++ [member]) := by
  obtain ⟨known, listed, checked⟩ := passes
  have missing : found.lookup member.1 = none := by
    refine List.lookup_eq_none_iff.mpr fun other here => bne_iff_ne.mpr ?_
    intro same
    exact fresh (List.mem_map.mpr ⟨other, here, same.symm⟩)
  unfold takeMember
  simp only [keyText, bind, Except.bind, listed, missing, checked]
  rfl

theorem takeMember_unknown {member : String × Reading} (unknown : isKnown checks member = false)
    (intact : member.2.intact = true) :
    takeMember checks found (some member.1) member.2 = .ok found := by
  have unlisted : checks.find? (·.name == member.1) = none := by
    simpa [isKnown] using unknown
  unfold takeMember skip
  simp only [keyText, bind, Except.bind, unlisted, intact]
  rfl

theorem foldlM_takeMember {members : List (String × Reading)}
    (taken : ∀ member ∈ members, Taken checks member)
    (distinct : ((found ++ members).map (·.1)).Nodup) :
    (members.map fun member => (some member.1, member.2)).foldlM
        (fun found (key, value) => takeMember checks found key value) found =
      .ok (found ++ members.filter (isKnown checks)) := by
  induction members generalizing found with
  | nil => exact congrArg Except.ok (List.append_nil found).symm
  | cons member later ih =>
    obtain ⟨takes, others⟩ := List.forall_mem_cons.mp taken
    have parts := distinct
    rw [List.map_append, List.map_cons, List.nodup_middle, List.nodup_cons, ← List.map_append]
      at parts
    rw [List.map_cons, List.foldlM_cons]
    dsimp only
    rcases takes with passes | ⟨unknown, intact⟩
    · have fresh : member.1 ∉ found.map (·.1) := fun here =>
        parts.1 (List.map_append ▸ List.mem_append_left _ here)
      rw [List.append_cons] at distinct
      rw [takeMember_passes passes fresh, List.filter_cons_of_pos passes.isKnown]
      refine (ih others distinct).trans ?_
      rw [List.append_assoc, List.singleton_append]
    · rw [takeMember_unknown unknown intact, List.filter_cons_of_neg (by simp [unknown])]
      exact ih others parts.2

theorem record_among (build : Found → Except Fault α) {members : List (String × Reading)}
    (taken : ∀ member ∈ members, Taken checks member) (distinct : (members.map (·.1)).Nodup) :
    record checks build (.object (members.map fun member => (some member.1, member.2)) true) =
      build ⟨false, members.filter (isKnown checks)⟩ := by
  have all : (([] ++ members).map Prod.fst).Nodup := distinct
  unfold record
  dsimp only
  rw [foldlM_takeMember taken all]
  rfl

theorem record_object (build : Found → Except Fault α) {members : List (String × Reading)}
    (pass : ∀ member ∈ members, Passes checks member) (distinct : (members.map (·.1)).Nodup) :
    record checks build (.object (members.map fun member => (some member.1, member.2)) true) =
      build ⟨false, members⟩ := by
  have known : members.filter (isKnown checks) = members :=
    List.filter_eq_self.mpr fun member here => (pass member here).isKnown
  rw [record_among build (fun member here => .inl (pass member here)) distinct, known]

end SiteSearch.Json.Reading
