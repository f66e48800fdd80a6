import Mathlib.Data.List.Basic
import SiteSearch.Proofs.Dictionary
import SiteSearch.Proofs.Json.Parts
import SiteSearch.Proofs.Json.Spread
import SiteSearch.Proofs.Json.Typed

-- What a written value means to a reader. The meaning of a list or a record is put together from
-- the meanings of its parts, so a writer and a reader that agree on the parts agree on the whole.
-- The other way round, what a reader has accepted keeps the bounds of its parts.
namespace SiteSearch.Json

variable {α β : Type}

theorem reading_array (items : List Value) :
    (Value.array items).reading = .array (items.map (·.reading)) true := by
  have all : itemReadings items = items.map (·.reading) := by
    induction items with
    | nil => rfl
    | cons item rest ih => exact congrArg (item.reading :: ·) ih
  rw [Value.reading, all]

theorem reading_object (members : List (String × Value)) :
    (Value.object members).reading =
      .object (members.map fun member => (some member.1, member.2.reading)) true := by
  have all : memberReadings members =
      members.map fun member => (some member.1, member.2.reading) := by
    induction members with
    | nil => rfl
    | cons member rest ih => exact congrArg ((some member.1, member.2.reading) :: ·) ih
  rw [Value.reading, all]

theorem intact_reading (value : Value) : value.reading.intact = true := by
  cases value <;> rfl

structure Means (read : Reader α) (value : Value) (meaning : α) : Prop where
  fits : value.Fits
  reads : read value.reading = .ok meaning

-- The two texts of a value: the shortest one, and the one spread over lines.
def Value.texts (value : Value) : List String :=
  [value.render, value.pretty]

theorem Document.ofBytes_texts {value : Value} (fits : value.Fits) {text : String}
    (written : text ∈ value.texts) :
    Document.ofBytes text.toUTF8.toList = ⟨value.reading, true⟩ := by
  rcases List.mem_cons.mp written with rfl | spread
  · exact Document.ofBytes_render fits
  · obtain rfl := List.mem_singleton.mp spread
    exact Document.ofBytes_pretty fits

theorem Means.decodes {read : Reader α} {value : Value} {meaning : α}
    (means : Means read value meaning) {text : String} (written : text ∈ value.texts) :
    decodeBytes read text.toUTF8.toList = .ok meaning := by
  unfold decodeBytes Document.decode
  rw [Document.ofBytes_texts means.fits written, means.reads]
  rfl

section Scalars

theorem means_text (text : String) : Means Reading.string (.text text) text :=
  ⟨.text text, rfl⟩

theorem means_bool (value : Bool) : Means Reading.truth (.bool value) value :=
  ⟨.bool value, rfl⟩

theorem means_natural {bound n : Nat} (short : bound ≤ 10 ^ 20) (small : n < bound) :
    Means (Reading.natural bound) (.number n) n :=
  ⟨.number (Nat.lt_of_lt_of_le small short), if_pos small⟩

theorem means_count {n : Nat} (small : n < UInt64.size) : Means Reading.count (.number n) n :=
  means_natural (by decide) small

theorem means_word64 (word : UInt64) : Means Reading.word64 (.number word.toNat) word := by
  obtain ⟨fits, reads⟩ := means_count word.toNat_lt
  refine ⟨fits, (congrArg (· >>= _) reads).trans ?_⟩
  exact congrArg Except.ok word.ofNat_toNat

theorem means_word32 (word : UInt32) : Means Reading.word32 (.number word.toNat) word := by
  obtain ⟨fits, reads⟩ := means_natural (by decide : UInt32.size ≤ 10 ^ 20) word.toNat_lt
  refine ⟨fits, (congrArg (· >>= _) reads).trans ?_⟩
  exact congrArg Except.ok word.ofNat_toNat

theorem means_named {ofName? : String → Option α} {name : String} {value : α}
    (named : ofName? name = some value) :
    Means (Reading.named ofName?) (.text name) value := by
  refine ⟨.text name, ?_⟩
  change Reading.named.choose ofName? name = _
  unfold Reading.named.choose
  rw [named]

end Scalars

section Containers

variable {read : Reader α} {write : α → Value}

theorem means_some {value : Value} {meaning : α} (means : Means read value meaning)
    (shown : value.reading ≠ .null) : Means (Reading.optional read) value (some meaning) := by
  refine ⟨means.fits, ?_⟩
  unfold Reading.optional
  split
  · next empty => exact absurd empty shown
  · rw [means.reads]
    rfl

theorem means_optional {held : Option α} (means : ∀ value ∈ held, Means read (write value) value)
    (shown : ∀ value ∈ held, (write value).reading ≠ .null) :
    Means (Reading.optional read) (.ofOption write held) held := by
  cases held with
  | none => exact ⟨.null, rfl⟩
  | some value => exact means_some (means value rfl) (shown value rfl)

-- Items may be written for what they are read as, and need not be of its type.
theorem means_map {write : β → Value} {meaning : β → α} {items : List β}
    (means : ∀ item ∈ items, Means read (write item) (meaning item)) :
    Means (Reading.list read) (.ofList write items) (items.map meaning) := by
  constructor
  · refine .array fun value written => ?_
    obtain ⟨item, listed, rfl⟩ := List.mem_map.mp written
    exact (means item listed).fits
  · have each : (items.map fun item => (write item).reading).mapM read =
        .ok (items.map meaning) := by
      rw [List.mapM_map]
      exact mapM_granted fun item listed => (means item listed).reads
    unfold Value.ofList Reading.list
    rw [reading_array, List.map_map]
    exact bind_granted each rfl

theorem means_list {items : List α} (means : ∀ item ∈ items, Means read (write item) item) :
    Means (Reading.list read) (.ofList write items) items := by
  have all := means_map means
  rwa [List.map_id'] at all

-- An object is read member by member, in its order.
theorem foldMembers_object (start : α) (add : α → String → Reading → Except Fault α)
    (members : List (String × Value)) :
    Reading.foldMembers start add (Value.object members).reading =
      members.foldlM (fun result member => add result member.1 member.2.reading) start := by
  unfold Reading.foldMembers
  rw [reading_object]
  dsimp only
  rw [List.foldlM_map]
  change (members.foldlM _ start >>= fun result => pure result) = _
  rw [bind_pure]
  rfl

end Containers

section Records

-- A member of a record as it is written: a value that passes the check of its member.
structure Entry where
  check : Member.Check
  value : Value
  fits : value.Fits
  passes : check.check value.reading = .ok ()

def Entry.of (member : Member α) {value : Value} {meaning : α}
    (means : Means member.read value meaning) : Entry where
  check := member.check
  value
  fits := means.fits
  passes := by
    change discard (member.read value.reading) = _
    rw [means.reads]
    rfl

def foundEntries (entries : List Entry) : Found :=
  ⟨false, entries.map fun entry => (entry.check.name, entry.value.reading)⟩

theorem Found.get_of_mem {members : List (String × Reading)}
    (distinct : (members.map (·.1)).Nodup) {member : Member α} {reading : Reading}
    (here : (member.name, reading) ∈ members) (listed : Bool) :
    Found.get ⟨listed, members⟩ member = member.read reading := by
  have found : members.lookup member.name = some reading := lookup_of_mem distinct here
  unfold Found.get
  rw [found]

theorem Found.get_of_absent {members : List (String × Reading)} {member : Member α} {value : α}
    (missing : ∀ reading, (member.name, reading) ∉ members)
    (absent : member.ifAbsent = some value) :
    Found.get ⟨false, members⟩ member = .ok value := by
  have nothing : members.lookup member.name = none := by
    refine List.lookup_eq_none_iff.mpr fun other here => bne_iff_ne.mpr ?_
    intro same
    obtain ⟨name, reading⟩ := other
    exact missing reading (same ▸ here)
  unfold Found.get
  rw [nothing]
  simp [absent]

-- A record is read from members of which each is known and stands once, in whatever order.
theorem means_members {checks : List Member.Check} {build : Found → Except Fault α} {meaning : α}
    {members : List (String × Value)} (fits : ∀ member ∈ members, member.2.Fits)
    (pass : ∀ member ∈ members, Reading.Passes checks (member.1, member.2.reading))
    (distinct : (members.map (·.1)).Nodup)
    (built : build ⟨false, members.map fun member => (member.1, member.2.reading)⟩ =
      .ok meaning) :
    Means (Reading.record checks build) (.object members) meaning := by
  refine ⟨.object fits, ?_⟩
  have all : ∀ member ∈ members.map fun member => (member.1, member.2.reading),
      Reading.Passes checks member := by
    intro member written
    obtain ⟨source, listed, rfl⟩ := List.mem_map.mp written
    exact pass source listed
  have names : ((members.map fun member => (member.1, member.2.reading)).map (·.1)).Nodup := by
    rwa [List.map_map]
  have whole := Reading.record_object build all names
  rw [List.map_map] at whole
  rw [reading_object]
  exact whole.trans built

theorem means_record {checks : List Member.Check} {build : Found → Except Fault α} {meaning : α}
    (entries : List Entry)
    (known : ∀ entry ∈ entries, checks.find? (·.name == entry.check.name) = some entry.check)
    (distinct : (entries.map (·.check.name)).Nodup)
    (built : build (foundEntries entries) = .ok meaning) :
    Means (Reading.record checks build)
      (.object (entries.map fun entry => (entry.check.name, entry.value))) meaning := by
  refine means_members (fun member written => ?_) (fun member written => ?_) ?_ ?_
  · obtain ⟨entry, _, rfl⟩ := List.mem_map.mp written
    exact entry.fits
  · obtain ⟨entry, listed, rfl⟩ := List.mem_map.mp written
    exact ⟨entry.check, known entry listed, entry.passes⟩
  · rwa [List.map_map]
  · rwa [List.map_map]

theorem find?_check {checks : List Member.Check} (distinct : (checks.map (·.name)).Nodup)
    {check : Member.Check} (listed : check ∈ checks) :
    checks.find? (·.name == check.name) = some check := by
  induction checks with
  | nil => cases listed
  | cons first rest ih =>
    obtain ⟨fresh, distinct⟩ := List.nodup_cons.mp distinct
    rcases List.mem_cons.mp listed with rfl | later
    · exact List.find?_cons_of_pos (beq_self_eq_true _)
    · rw [List.find?_cons_of_neg]
      · exact ih distinct later
      · rw [beq_iff_eq]
        intro same
        exact fresh (List.mem_map.mpr ⟨check, later, same.symm⟩)

-- Where all members are written in their order, each is got as it was meant.
theorem means_whole {checks : List Member.Check} {build : Found → Except Fault α} {meaning : α}
    (entries : List Entry) (form : entries.map (·.check) = checks)
    (distinct : (checks.map (·.name)).Nodup)
    (built : (∀ (place : Nat) {γ : Type} {member : Member γ} {value : Value} {part : γ}
        {means : Means member.read value part}, entries[place]? = some (.of member means) →
          (foundEntries entries).get member = .ok part) →
      build (foundEntries entries) = .ok meaning) :
    Means (Reading.record checks build)
      (.object (entries.map fun entry => (entry.check.name, entry.value))) meaning := by
  have names : (entries.map (·.check.name)).Nodup := by
    rw [← form, List.map_map] at distinct
    exact distinct
  refine means_record entries (fun entry listed => ?_) names (built fun place γ member value part
    means here => ?_)
  · exact find?_check distinct (form ▸ List.mem_map_of_mem listed)
  · have listed := List.mem_of_getElem? here
    have found : (member.name, value.reading) ∈ (foundEntries entries).members :=
      List.mem_map.mpr ⟨_, listed, rfl⟩
    refine (Found.get_of_mem ?_ found false).trans means.reads
    unfold foundEntries
    rwa [List.map_map]

end Records

-- Whatever is read satisfies the condition.
def Ensures (read : Reader α) (holds : α → Prop) : Prop :=
  ∀ reading value, read reading = .ok value → holds value

section Bounds

variable {read : Reader α} {holds : α → Prop}

theorem ensures_natural (bound : Nat) : Ensures (Reading.natural bound) (· < bound) := by
  intro reading value accepted
  unfold Reading.natural at accepted
  split at accepted
  · split at accepted
    · next small =>
      cases accepted
      exact small
    · cases accepted
  · cases accepted

theorem ensures_optional (each : Ensures read holds) :
    Ensures (Reading.optional read) fun held => ∀ value ∈ held, holds value := by
  intro reading held accepted value here
  cases here
  unfold Reading.optional at accepted
  split at accepted
  · cases accepted
  · cases made : read reading with
    | error fault =>
      rw [made] at accepted
      cases accepted
    | ok found =>
      rw [made] at accepted
      cases accepted
      exact each reading value made

theorem ensures_list (each : Ensures read holds) :
    Ensures (Reading.list read) fun items => ∀ item ∈ items, holds item := by
  intro reading items accepted item listed
  unfold Reading.list at accepted
  split at accepted
  · obtain ⟨values, taken, accepted⟩ := bind_eq_ok_iff.mp accepted
    obtain ⟨_, _, same⟩ := bind_eq_ok_iff.mp accepted
    cases same
    obtain ⟨source, _, made⟩ := mapM_produced taken item listed
    exact each source item made
  · cases accepted

theorem ensures_record {checks : List Member.Check} {build : Found → Except Fault α}
    (each : ∀ found value, build found = .ok value → holds value) :
    Ensures (Reading.record checks build) holds := by
  intro reading value accepted
  obtain ⟨found, built, _⟩ := Reading.record_parts accepted
  exact each found value built

theorem Found.get_ensures {member : Member α} (each : Ensures member.read holds)
    (absent : ∀ value ∈ member.ifAbsent, holds value)
    (unlisted : ∀ value ∈ member.ifUnlisted, holds value) {found : Found} {value : α}
    (got : found.get member = .ok value) : holds value := by
  unfold Found.get at got
  split at got
  · exact each _ value got
  · split at got
    · next default stands =>
      cases got
      split at stands
      · exact unlisted value stands
      · exact absent value stands
    · cases got

theorem Found.get_required (each : Ensures read holds) {name : String} {found : Found} {value : α}
    (got : found.get (.required name read) = .ok value) : holds value :=
  get_ensures each nofun nofun got

-- What no member of an object can break holds of the result.
theorem ensures_foldMembers {start : α} {add : α → String → Reading → Except Fault α}
    (first : holds start)
    (keeps : ∀ result key value next, holds result → add result key value = .ok next → holds next) :
    Ensures (Reading.foldMembers start add) holds := by
  intro reading value accepted
  unfold Reading.foldMembers at accepted
  split at accepted
  · obtain ⟨result, taken, accepted⟩ := bind_eq_ok_iff.mp accepted
    obtain ⟨_, _, same⟩ := bind_eq_ok_iff.mp accepted
    cases same
    refine foldlM_keeps holds (fun state member _ next before made => ?_) first taken
    obtain ⟨key, _, made⟩ := bind_eq_ok_iff.mp made
    exact keeps state key member.2 next before made
  · cases accepted

end Bounds

end SiteSearch.Json
