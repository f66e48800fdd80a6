import Mathlib.Data.List.Forall2
import SiteSearch.Store

-- Lists gone through with a step that may refuse. A refusal ends the traversal; where every step is
-- granted, it is the plain map or fold.
namespace SiteSearch

variable {α β ε : Type}

theorem bind_eq_ok_iff {first : Except ε α} {next : α → Except ε β} {result : β} :
    first >>= next = .ok result ↔ ∃ value, first = .ok value ∧ next value = .ok result := by
  cases first with
  | error fault =>
    constructor
    · intro refused
      cases refused
    · rintro ⟨_, refused, _⟩
      cases refused
  | ok value =>
    constructor
    · intro granted
      exact ⟨value, rfl, granted⟩
    · rintro ⟨_, same, granted⟩
      cases same
      exact granted

theorem bind_granted {first : Except ε α} {next : α → Except ε β} {value : α} {result : β}
    (made : first = .ok value) (later : next value = .ok result) : first >>= next = .ok result :=
  bind_eq_ok_iff.mpr ⟨value, made, later⟩

theorem bind_eq_error_iff {first : Except ε α} {next : α → Except ε β} {fault : ε} :
    first >>= next = .error fault ↔
      first = .error fault ∨ ∃ value, first = .ok value ∧ next value = .error fault := by
  cases first with
  | error other =>
    constructor
    · intro refused
      cases refused
      exact .inl rfl
    · rintro (same | ⟨_, granted, _⟩)
      · cases same
        rfl
      · cases granted
  | ok value =>
    constructor
    · intro refused
      exact .inr ⟨value, rfl, refused⟩
    · rintro (same | ⟨_, same, refused⟩)
      · cases same
      · cases same
        exact refused

theorem bind_refused {first : Except ε α} {next : α → Except ε β} {fault : ε}
    (refused : first = .error fault) : first >>= next = .error fault :=
  bind_eq_error_iff.mpr (.inl refused)

theorem bind_refused_later {first : Except ε α} {next : α → Except ε β} {value : α} {fault : ε}
    (made : first = .ok value) (refused : next value = .error fault) :
    first >>= next = .error fault :=
  bind_eq_error_iff.mpr (.inr ⟨value, made, refused⟩)

theorem mapM_granted {step : α → Except ε β} {result : α → β} {items : List α}
    (granted : ∀ item ∈ items, step item = .ok (result item)) :
    items.mapM step = .ok (items.map result) := by
  induction items with
  | nil => rfl
  | cons item rest ih =>
    have first := granted item List.mem_cons_self
    have later := ih fun other member => granted other (List.mem_cons_of_mem _ member)
    rw [List.mapM_cons, first, later]
    rfl

-- A granted traversal has one result for each item, in the order of the items.
theorem mapM_ok_iff {step : α → Except ε β} {items : List α} {results : List β} :
    items.mapM step = .ok results ↔
      List.Forall₂ (fun item result => step item = .ok result) items results := by
  constructor
  · intro granted
    induction items generalizing results with
    | nil =>
      cases granted
      exact .nil
    | cons item rest ih =>
      rw [List.mapM_cons] at granted
      obtain ⟨head, first, granted⟩ := bind_eq_ok_iff.mp granted
      obtain ⟨tail, later, granted⟩ := bind_eq_ok_iff.mp granted
      cases granted
      exact .cons first (ih later)
  · intro each
    induction each with
    | nil => rfl
    | cons first _ later =>
      rw [List.mapM_cons, first, later]
      rfl

theorem mapM_produced {step : α → Except ε β} {items : List α} {results : List β}
    (granted : items.mapM step = .ok results) :
    ∀ result ∈ results, ∃ item ∈ items, step item = .ok result := by
  have each := mapM_ok_iff.mp granted
  clear granted
  induction each with
  | nil => exact List.forall_mem_nil _
  | cons first _ later =>
    refine List.forall_mem_cons.mpr ⟨⟨_, List.mem_cons_self, first⟩, fun result below => ?_⟩
    obtain ⟨source, listed, made⟩ := later result below
    exact ⟨source, List.mem_cons_of_mem _ listed, made⟩

theorem mapM_grants {step : α → Except ε β} {items : List α} {results : List β}
    (granted : items.mapM step = .ok results) : ∀ item ∈ items, ∃ result, step item = .ok result := by
  have each := mapM_ok_iff.mp granted
  clear granted
  induction each with
  | nil => exact List.forall_mem_nil _
  | cons first _ later => exact List.forall_mem_cons.mpr ⟨⟨_, first⟩, later⟩

-- What a view shows of the results, where it shows of each result what its item was.
theorem mapM_view {γ : Type} {step : α → Except ε β} {view : β → γ} {before : α → γ}
    (shows : ∀ item result, step item = .ok result → view result = before item)
    {items : List α} {results : List β} (granted : items.mapM step = .ok results) :
    results.map view = items.map before := by
  have each := mapM_ok_iff.mp granted
  clear granted
  induction each with
  | nil => rfl
  | cons first _ later => rw [List.map_cons, List.map_cons, shows _ _ first, later]

theorem mapM_length {step : α → Except ε β} {items : List α} {results : List β}
    (granted : items.mapM step = .ok results) : results.length = items.length :=
  (mapM_ok_iff.mp granted).length_eq.symm

theorem mapM_alike {step : α → Except ε β} {items others : List α}
    (alike : List.Forall₂ (fun item other => step item = step other) items others) :
    items.mapM step = others.mapM step := by
  induction alike with
  | nil => rfl
  | cons first _ later => rw [List.mapM_cons, List.mapM_cons, first, later]

-- A traversal is refused for what one of its items is refused for.
theorem mapM_refused {step : α → Except ε β} {items : List α} {fault : ε}
    (refused : items.mapM step = .error fault) : ∃ item ∈ items, step item = .error fault := by
  induction items with
  | nil => cases refused
  | cons item rest ih =>
    rw [List.mapM_cons] at refused
    rcases bind_eq_error_iff.mp refused with here | ⟨_, _, refused⟩
    · exact ⟨item, List.mem_cons_self, here⟩
    · rcases bind_eq_error_iff.mp refused with later | ⟨_, _, done⟩
      · obtain ⟨source, listed, there⟩ := ih later
        exact ⟨source, List.mem_cons_of_mem _ listed, there⟩
      · cases done

theorem foldlM_refused {step : β → α → Except ε β} {items : List α} {start : β} {fault : ε}
    (refused : items.foldlM step start = .error fault) :
    ∃ state, ∃ item ∈ items, step state item = .error fault := by
  induction items generalizing start with
  | nil => cases refused
  | cons item rest ih =>
    rw [List.foldlM_cons] at refused
    rcases bind_eq_error_iff.mp refused with here | ⟨next, _, later⟩
    · exact ⟨start, item, List.mem_cons_self, here⟩
    · obtain ⟨state, source, listed, there⟩ := ih later
      exact ⟨state, source, List.mem_cons_of_mem _ listed, there⟩

theorem forM_refused {check : α → Except ε Unit} {items : List α} {fault : ε}
    (refused : items.forM check = .error fault) : ∃ item ∈ items, check item = .error fault := by
  induction items with
  | nil => cases refused
  | cons item rest ih =>
    rcases bind_eq_error_iff.mp (show check item >>= (fun _ => rest.forM check) = _ from refused)
      with here | ⟨_, _, later⟩
    · exact ⟨item, List.mem_cons_self, here⟩
    · obtain ⟨source, listed, there⟩ := ih later
      exact ⟨source, List.mem_cons_of_mem _ listed, there⟩

theorem foldlM_granted {step : β → α → Except ε β} {result : β → α → β} {items : List α}
    (granted : ∀ state, ∀ item ∈ items, step state item = .ok (result state item)) (state : β) :
    items.foldlM step state = .ok (items.foldl result state) := by
  induction items generalizing state with
  | nil => rfl
  | cons item rest ih =>
    have first := granted state item List.mem_cons_self
    rw [List.foldlM_cons, first]
    exact ih (fun state other member => granted state other (List.mem_cons_of_mem _ member)) _

-- What every granted step keeps holds at the end.
theorem foldlM_keeps {step : β → α → Except ε β} (holds : β → Prop) {items : List α}
    (keeps : ∀ state, ∀ item ∈ items, ∀ next,
      holds state → step state item = .ok next → holds next)
    {start result : β} (first : holds start) (granted : items.foldlM step start = .ok result) :
    holds result := by
  induction items generalizing start with
  | nil =>
    cases granted
    exact first
  | cons item rest ih =>
    rw [List.foldlM_cons] at granted
    obtain ⟨next, made, later⟩ := bind_eq_ok_iff.mp granted
    exact ih (fun state other member => keeps state other (List.mem_cons_of_mem _ member))
      (keeps start item List.mem_cons_self next first made) later

theorem forM_ok_iff {check : α → Except ε Unit} {items : List α} :
    items.forM check = .ok () ↔ ∀ item ∈ items, check item = .ok () := by
  induction items with
  | nil => exact ⟨fun _ _ member => absurd member List.not_mem_nil, fun _ => rfl⟩
  | cons item rest ih =>
    change (check item >>= fun _ => rest.forM check) = .ok () ↔ _
    rw [List.forall_mem_cons, ← ih]
    cases first : check item with
    | error fault => simp [bind, Except.bind]
    | ok _ => simp [bind, Except.bind]

-- What an answer is refused for, if it is.
def refusal? : Except ε α → Option ε
  | .error fault => some fault
  | .ok _ => none

theorem refusal?_eq_some_iff {answer : Except ε α} {fault : ε} :
    refusal? answer = some fault ↔ answer = .error fault := by
  cases answer with
  | error other =>
    exact ⟨fun same => congrArg _ (Option.some.inj same),
      fun same => congrArg _ (Except.error.inj same)⟩
  | ok value => exact ⟨fun none => (nomatch none), fun refused => (nomatch refused)⟩

theorem refusal?_eq_none_iff {answer : Except ε α} :
    refusal? answer = none ↔ ∃ value, answer = .ok value := by
  cases answer with
  | error fault => exact ⟨fun some => (nomatch some), fun ⟨_, granted⟩ => (nomatch granted)⟩
  | ok value => exact ⟨fun _ => ⟨value, rfl⟩, fun _ => rfl⟩

-- The faults of a first step come before those of the step after it.
theorem refusal?_bind {first : Except ε α} {next : α → Except ε β} {early late : List ε}
    (here : refusal? first = early.head?)
    (there : ∀ value, first = .ok value → refusal? (next value) = late.head?) :
    refusal? (first >>= next) = (early ++ late).head? := by
  rw [List.head?_append, ← here]
  cases first with
  | error fault => rfl
  | ok value => exact there value rfl

-- What is made of a granted answer is granted too.
theorem refusal?_bind_pure (first : Except ε α) (made : α → β) :
    refusal? (do pure (made (← first))) = refusal? first := by
  cases first <;> rfl

section Faults

variable {faults : α → List ε}

theorem refusal?_mapM {step : α → Except ε β}
    (each : ∀ item, refusal? (step item) = (faults item).head?) (items : List α) :
    refusal? (items.mapM step) = (items.flatMap faults).head? := by
  induction items with
  | nil => rfl
  | cons item rest ih =>
    rw [List.mapM_cons, List.flatMap_cons]
    refine refusal?_bind (each item) fun result _ => ?_
    rw [← ih]
    exact refusal?_bind_pure (rest.mapM step) (result :: ·)

theorem refusal?_forM {check : α → Except ε Unit}
    (each : ∀ item, refusal? (check item) = (faults item).head?) (items : List α) :
    refusal? (items.forM check) = (items.flatMap faults).head? := by
  induction items with
  | nil => rfl
  | cons item rest ih =>
    rw [List.flatMap_cons]
    exact refusal?_bind (each item) fun _ _ => ih

theorem refusal?_foldlM {step : β → α → Except ε β}
    (each : ∀ state item, refusal? (step state item) = (faults item).head?) (items : List α)
    (start : β) : refusal? (items.foldlM step start) = (items.flatMap faults).head? := by
  induction items generalizing start with
  | nil => rfl
  | cons item rest ih =>
    rw [List.foldlM_cons, List.flatMap_cons]
    exact refusal?_bind (each start item) fun next _ => ih next

end Faults

end SiteSearch
