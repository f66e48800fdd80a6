-- Dictionaries: values under texts, each text once, in the order of the texts.
namespace SiteSearch

-- The order of keys is that of their characters, which is also that of their bytes.
def Ascending {α : Type} (entries : List (String × α)) : Prop :=
  entries.Pairwise fun a b => a.1 < b.1

structure Dictionary (α : Type) where
  entries : List (String × α)
  ascending : Ascending entries

def insertAscending {α : Type} (key : String) (value : α) : List (String × α) → List (String × α)
  | [] => [(key, value)]
  | entry :: rest =>
    if key < entry.1 then (key, value) :: entry :: rest
    else if key = entry.1 then (key, value) :: rest
    else entry :: insertAscending key value rest

theorem mem_insertAscending {α : Type} {key : String} {value : α} {entries : List (String × α)}
    {entry : String × α} (member : entry ∈ insertAscending key value entries) :
    entry = (key, value) ∨ entry ∈ entries := by
  induction entries with
  | nil => simpa [insertAscending] using member
  | cons head rest ih =>
    unfold insertAscending at member
    split at member
    · simpa using member
    · split at member
      · rcases List.mem_cons.mp member with same | later
        · exact .inl same
        · exact .inr (List.mem_cons_of_mem _ later)
      · rcases List.mem_cons.mp member with same | later
        · exact .inr (same ▸ List.mem_cons_self)
        · exact (ih later).imp_right (List.mem_cons_of_mem _)

theorem Ascending.insert {α : Type} {key : String} {value : α} {entries : List (String × α)}
    (ascending : Ascending entries) : Ascending (insertAscending key value entries) := by
  induction entries with
  | nil => simp [Ascending, insertAscending]
  | cons head rest ih =>
    obtain ⟨above, later⟩ := List.pairwise_cons.mp ascending
    unfold insertAscending
    split
    · next before =>
      refine List.pairwise_cons.mpr ⟨?_, ascending⟩
      intro entry member
      rcases List.mem_cons.mp member with rfl | member
      · exact before
      · exact String.lt_trans before (above entry member)
    · next notBefore =>
      split
      · next same =>
        refine List.pairwise_cons.mpr ⟨?_, later⟩
        intro entry member
        exact same ▸ above entry member
      · next different =>
        refine List.pairwise_cons.mpr ⟨?_, ih later⟩
        intro entry member
        rcases mem_insertAscending member with rfl | member
        · exact Std.lt_of_le_of_ne (String.not_lt.mp notBefore) (Ne.symm different)
        · exact above entry member

namespace Dictionary

variable {α β : Type}

def empty : Dictionary α := ⟨[], List.Pairwise.nil⟩

def insert (dictionary : Dictionary α) (key : String) (value : α) : Dictionary α :=
  ⟨insertAscending key value dictionary.entries, dictionary.ascending.insert⟩

def ofList (entries : List (String × α)) : Dictionary α :=
  entries.foldl (fun dictionary entry => dictionary.insert entry.1 entry.2) empty

def find? (dictionary : Dictionary α) (key : String) : Option α :=
  dictionary.entries.lookup key

theorem ext_entries {a b : Dictionary α} (same : a.entries = b.entries) : a = b := by
  cases a
  cases b
  cases same
  rfl

end Dictionary

end SiteSearch
