import Mathlib.Data.List.Basic
import Mathlib.Data.List.Nodup
import SiteSearch.Proofs.Json.Extent
import SiteSearch.Proofs.Traversal

-- What a reader of typed data takes out of a tree. A record is built of values of the tree it is
-- read from, each taken once, so what stands under its names is no more than the whole.
namespace SiteSearch.Json

-- What stands under a name, and nothing where the name is not found.
def sizeUnder (members : List (String × Reading)) (name : String) : Nat :=
  ((members.lookup name).map Reading.size).getD 0

def totalSize (members : List (String × Reading)) : Nat :=
  (members.map fun member => member.2.size).sum

theorem sizeUnder_cons (member : String × Reading) (rest : List (String × Reading))
    (name : String) :
    sizeUnder (member :: rest) name =
      if name = member.1 then member.2.size else sizeUnder rest name := by
  obtain ⟨key, value⟩ := member
  unfold sizeUnder
  by_cases same : name = key
  · simp [same]
  · have apart : (name == key) = false := beq_eq_false_iff_ne.mpr same
    simp [List.lookup_cons, apart, same]

theorem sum_sizeUnder_cons_le {names : List String} (distinct : names.Nodup)
    (member : String × Reading) (rest : List (String × Reading)) :
    (names.map (sizeUnder (member :: rest))).sum ≤
      member.2.size + (names.map (sizeUnder rest)).sum := by
  induction names with
  | nil => exact Nat.zero_le _
  | cons name later ih =>
    obtain ⟨fresh, distinct⟩ := List.nodup_cons.mp distinct
    rw [List.map_cons, List.map_cons, List.sum_cons, List.sum_cons, sizeUnder_cons]
    split
    · next same =>
      subst same
      have others : later.map (sizeUnder (member :: rest)) = later.map (sizeUnder rest) := by
        refine List.map_congr_left fun other listed => ?_
        rw [sizeUnder_cons, if_neg (ne_of_mem_of_not_mem listed fresh)]
      rw [others]
      omega
    · have bound := ih distinct
      omega

-- Values under different names are different values.
theorem sum_sizeUnder_le {names : List String} (distinct : names.Nodup)
    (members : List (String × Reading)) :
    (names.map (sizeUnder members)).sum ≤ totalSize members := by
  induction members with
  | nil =>
    refine Nat.le_of_eq (List.sum_eq_zero_iff_forall_eq_nat.mpr fun size listed => ?_)
    obtain ⟨name, _, rfl⟩ := List.mem_map.mp listed
    rfl
  | cons member rest ih =>
    exact Nat.le_trans (sum_sizeUnder_cons_le distinct member rest) (Nat.add_le_add_left ih _)

namespace Reading

variable {checks : List Member.Check}

theorem totalSize_takeMember_le {found next : List (String × Reading)} {key : Key}
    {value : Reading} (taken : takeMember checks found key value = .ok next) :
    totalSize next ≤ totalSize found + value.size := by
  unfold takeMember at taken
  obtain ⟨name, _, taken⟩ := bind_eq_ok_iff.mp taken
  split at taken
  · obtain ⟨_, _, taken⟩ := bind_eq_ok_iff.mp taken
    cases taken
    exact Nat.le_add_right _ _
  · split at taken
    · cases taken
    · obtain ⟨_, _, taken⟩ := bind_eq_ok_iff.mp taken
      cases taken
      simp [totalSize]

theorem totalSize_foldlM_le {members : List (Key × Reading)} {found result : List (String × Reading)}
    (taken : members.foldlM (fun found (key, value) => takeMember checks found key value) found =
      .ok result) : totalSize result ≤ totalSize found + memberSizes members := by
  induction members generalizing found with
  | nil =>
    cases taken
    exact Nat.le_refl _
  | cons member rest ih =>
    rw [List.foldlM_cons] at taken
    obtain ⟨next, first, taken⟩ := bind_eq_ok_iff.mp taken
    have one := totalSize_takeMember_le first
    have others := ih taken
    rw [memberSizes]
    omega

theorem totalSize_takeItems_le {items : List Reading} {found : List (String × Reading)}
    (taken : takeItems checks items = .ok found) : totalSize found ≤ itemSizes items := by
  induction items generalizing checks found with
  | nil =>
    cases checks <;> cases taken <;> exact Nat.le_refl _
  | cons item rest ih =>
    cases checks with
    | nil =>
      cases taken
      exact Nat.zero_le _
    | cons known checks =>
      obtain ⟨_, _, taken⟩ := bind_eq_ok_iff.mp taken
      obtain ⟨later, others, taken⟩ := bind_eq_ok_iff.mp taken
      cases taken
      exact Nat.add_le_add_left (ih others) _

-- A record is built from parts of the value it is read from.
theorem record_parts {α : Type} {build : Found → Except Fault α} {reading : Reading} {result : α}
    (read : record checks build reading = .ok result) :
    ∃ found, build found = .ok result ∧ totalSize found.members ≤ reading.size := by
  unfold record at read
  split at read
  · obtain ⟨found, taken, read⟩ := bind_eq_ok_iff.mp read
    obtain ⟨_, _, built⟩ := bind_eq_ok_iff.mp read
    have bound := totalSize_foldlM_le taken
    exact ⟨_, built, Nat.le_succ_of_le (bound.trans_eq (Nat.zero_add _))⟩
  · obtain ⟨found, taken, read⟩ := bind_eq_ok_iff.mp read
    have bound := totalSize_takeItems_le taken
    have built {closed : Bool} (last : (do
        let value ← build ⟨true, found⟩
        closing closed
        pure value) = .ok result) : build ⟨true, found⟩ = .ok result := by
      obtain ⟨value, built, last⟩ := bind_eq_ok_iff.mp last
      obtain ⟨_, _, same⟩ := bind_eq_ok_iff.mp last
      cases same
      exact built
    split at read
    · obtain ⟨_, _, read⟩ := bind_eq_ok_iff.mp read
      exact ⟨_, built read, Nat.le_succ_of_le bound⟩
    · exact ⟨_, built read, Nat.le_succ_of_le bound⟩
  · cases read

theorem length_list_le {α : Type} {read : Reader α} {reading : Reading} {values : List α}
    (found : list read reading = .ok values) : values.length ≤ reading.size := by
  unfold list at found
  split at found
  · next items closed =>
    obtain ⟨results, taken, found⟩ := bind_eq_ok_iff.mp found
    obtain ⟨_, _, found⟩ := bind_eq_ok_iff.mp found
    cases found
    rw [mapM_length taken]
    exact Nat.le_succ_of_le (length_le_itemSizes items)
  · cases found

end Reading

end SiteSearch.Json
