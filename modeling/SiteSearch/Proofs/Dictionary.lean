import Mathlib.Data.List.Basic
import Mathlib.Data.List.Nodup
import SiteSearch.Dictionary

-- Dictionaries and tables that are filled entry by entry. Filled with its own entries, in their
-- order, each is what it was.
namespace SiteSearch

section Tables

variable {table ι value : Type} [DecidableEq ι]

-- A table holds in each place what was last put there.
theorem foldl_put (get : table → ι → Option value) (put : table → ι → value → table)
    (law : ∀ held place given other,
      get (put held place given) other = if other = place then some given else get held other)
    {entries : List (ι × value)} {target : ι → Option value}
    (agrees : ∀ entry ∈ entries, target entry.1 = some entry.2) (held : table) (place : ι) :
    get (entries.foldl (fun held entry => put held entry.1 entry.2) held) place =
      if place ∈ entries.map (·.1) then target place else get held place := by
  induction entries generalizing held with
  | nil => rfl
  | cons entry rest ih =>
    obtain ⟨first, others⟩ := List.forall_mem_cons.mp agrees
    rw [List.foldl_cons, ih others, List.map_cons, law]
    by_cases later : place ∈ rest.map (·.1)
    · rw [if_pos later, if_pos (List.mem_cons_of_mem _ later)]
    · rw [if_neg later]
      by_cases here : place = entry.1
      · rw [if_pos here, if_pos (here ▸ List.mem_cons_self), here, first]
      · rw [if_neg here, if_neg (fun member => (List.mem_cons.mp member).elim here later)]

-- Filled with all that a target holds, an empty table holds the same.
theorem foldl_put_all (get : table → ι → Option value) (put : table → ι → value → table)
    (law : ∀ held place given other,
      get (put held place given) other = if other = place then some given else get held other)
    {entries : List (ι × value)} {target : ι → Option value}
    (all : ∀ place given, (place, given) ∈ entries ↔ target place = some given)
    {start : table} {place : ι} (vacant : get start place = none) :
    get (entries.foldl (fun held entry => put held entry.1 entry.2) start) place =
      target place := by
  rw [foldl_put get put law fun entry listed => (all entry.1 entry.2).mp listed]
  split
  · rfl
  · next unlisted =>
    rw [vacant]
    cases held : target place with
    | none => rfl
    | some given => exact absurd (List.mem_map_of_mem ((all place given).mpr held)) unlisted

end Tables

section Entries

variable {α : Type} {key : String} {value : α} {entries : List (String × α)}

theorem insertAscending_last (last : ∀ entry ∈ entries, entry.1 < key) :
    insertAscending key value entries = entries ++ [(key, value)] := by
  induction entries with
  | nil => rfl
  | cons entry rest ih =>
    obtain ⟨first, others⟩ := List.forall_mem_cons.mp last
    have above : ¬ key < entry.1 := String.lt_asymm first
    have apart : key ≠ entry.1 := fun same => String.lt_irrefl key (by rwa [← same] at first)
    rw [insertAscending, if_neg above, if_neg apart, ih others, List.cons_append]

theorem insertAscending_perm (fresh : key ∉ entries.map (·.1)) :
    (insertAscending key value entries).Perm ((key, value) :: entries) := by
  induction entries with
  | nil => rfl
  | cons entry rest ih =>
    obtain ⟨apart, later⟩ := List.ne_and_not_mem_of_not_mem_cons fresh
    rw [insertAscending, if_neg apart]
    split
    · rfl
    · exact ((ih later).cons entry).trans (.swap _ _ _)

-- Where each key stands once, a lookup finds whatever is listed.
theorem lookup_of_mem {κ : Type} [BEq κ] [LawfulBEq κ] {key : κ} {entries : List (κ × α)}
    (distinct : (entries.map (·.1)).Nodup) (listed : (key, value) ∈ entries) :
    entries.lookup key = some value := by
  obtain ⟨before, after, rfl⟩ := List.append_of_mem listed
  rw [List.map_append, List.map_cons, List.nodup_middle, List.nodup_cons] at distinct
  refine List.lookup_eq_some_iff.mpr ⟨before, after, rfl, fun entry earlier => ?_⟩
  refine bne_iff_ne.mpr fun same => distinct.1 (List.mem_append_left _ ?_)
  exact List.mem_map.mpr ⟨entry, earlier, same.symm⟩

namespace Dictionary

variable (dictionary : Dictionary α)

theorem entries_foldl_insert {later : List (String × α)}
    (ascending : Ascending (dictionary.entries ++ later)) :
    (later.foldl (fun dictionary entry => dictionary.insert entry.1 entry.2) dictionary).entries =
      dictionary.entries ++ later := by
  induction later generalizing dictionary with
  | nil => exact (List.append_nil _).symm
  | cons entry rest ih =>
    have before : ∀ other ∈ dictionary.entries, other.1 < entry.1 := fun other member =>
      (List.pairwise_append.mp ascending).2.2 other member entry List.mem_cons_self
    have grown : (dictionary.insert entry.1 entry.2).entries = dictionary.entries ++ [entry] :=
      insertAscending_last before
    rw [List.append_cons, ← grown] at ascending
    rw [List.foldl_cons, ih _ ascending, grown, List.append_assoc, List.singleton_append]

theorem foldl_insert_entries :
    dictionary.entries.foldl (fun held entry => held.insert entry.1 entry.2) empty =
      dictionary :=
  ext_entries (empty.entries_foldl_insert dictionary.ascending)

theorem nodup_keys : (dictionary.entries.map (·.1)).Nodup := by
  refine List.pairwise_map.mpr (dictionary.ascending.imp fun before same => ?_)
  rw [same] at before
  exact String.lt_irrefl _ before

end Dictionary

-- With different keys nothing is overwritten.
theorem Dictionary.perm_ofList (distinct : (entries.map (·.1)).Nodup) :
    (Dictionary.ofList entries).entries.Perm entries := by
  have filled (later : List (String × α)) (held : Dictionary α)
      (apart : ((held.entries ++ later).map (·.1)).Nodup) :
      (later.foldl (fun held entry => held.insert entry.1 entry.2) held).entries.Perm
        (held.entries ++ later) := by
    induction later generalizing held with
    | nil => rw [List.append_nil]; rfl
    | cons entry rest ih =>
      have fresh : entry.1 ∉ held.entries.map (·.1) := by
        rw [List.map_append, List.map_cons, List.nodup_middle, List.nodup_cons] at apart
        exact fun here => apart.1 (List.mem_append_left _ here)
      have grown : (held.insert entry.1 entry.2).entries.Perm (entry :: held.entries) :=
        insertAscending_perm fresh
      have moved : ((held.insert entry.1 entry.2).entries ++ rest).Perm
          (held.entries ++ entry :: rest) :=
        (grown.append_right rest).trans List.perm_middle.symm
      exact (ih _ ((moved.map _).nodup_iff.mpr apart)).trans moved
  exact filled entries .empty distinct

theorem Dictionary.find?_ofList (distinct : (entries.map (·.1)).Nodup)
    (listed : (key, value) ∈ entries) : (Dictionary.ofList entries).find? key = some value :=
  lookup_of_mem (Dictionary.ofList entries).nodup_keys
    ((Dictionary.perm_ofList distinct).mem_iff.mpr listed)

end Entries

end SiteSearch
