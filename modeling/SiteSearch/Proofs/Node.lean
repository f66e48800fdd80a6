import Mathlib.Data.List.Nodup
import SiteSearch.Proofs.Dictionary
import SiteSearch.Proofs.Digest.Content
import SiteSearch.Proofs.Store.Operations

-- Nodes as records. Whatever is written to a new node, and in whatever order, each field holds what
-- was last written to it, and the texts that a node shows are enough to make it again.
namespace SiteSearch

-- The text that a list of writes leaves under a field, if one of them is to it.
def lastWritten? (entries : List (Field × String)) (field : Field) : Option String :=
  entries.reverse.lookup field

theorem lastWritten?_cons (entry : Field × String) (rest : List (Field × String)) (field : Field) :
    lastWritten? (entry :: rest) field =
      (lastWritten? rest field).or (if field = entry.1 then some entry.2 else none) := by
  unfold lastWritten?
  rw [List.reverse_cons, List.lookup_append, List.lookup_cons]
  cases here : field == entry.1 with
  | true => simp [beq_iff_eq.mp here]
  | false => simp [beq_eq_false_iff_ne.mp here]

-- Where each field is written once, what was last written to it is what is listed.
theorem lastWritten?_eq_some_iff {entries : List (Field × String)}
    (distinct : (entries.map (·.1)).Nodup) (field : Field) (value : String) :
    lastWritten? entries field = some value ↔ (field, value) ∈ entries := by
  unfold lastWritten?
  constructor
  · intro found
    obtain ⟨before, after, parts, _⟩ := List.lookup_eq_some_iff.mp found
    apply List.mem_reverse.mp
    simp [parts]
  · intro listed
    have backwards : (entries.reverse.map (·.1)).Nodup := by
      rw [List.map_reverse]
      exact List.nodup_reverse.mpr distinct
    exact lookup_of_mem backwards (List.mem_reverse.mpr listed)

namespace Node

section Write

variable {node next : Node} {field : Field} {value : String}

theorem score_write (written : node.write field value = .ok next) : next.score = node.score := by
  obtain ⟨_, _, written⟩ := bind_eq_ok_iff.mp written
  cases field <;> cases written <;> rfl

theorem write_granted (carried : node.kind.carries field = true) (value : String) :
    ∃ next, node.write field value = .ok next := by
  have granted := (node.kind.require_ok_iff field).mpr carried
  unfold write
  rw [granted]
  cases field <;> exact ⟨_, rfl⟩

theorem write_refused (missing : node.kind.carries field = false) (value : String) :
    node.write field value = .error (.schemaMismatch node.kind field) := by
  apply bind_refused
  simp [Kind.require, missing]

theorem read_refused (missing : node.kind.carries field = false) :
    node.read field = .error (.schemaMismatch node.kind field) := by
  apply bind_refused
  simp [Kind.require, missing]

end Write

section WriteAll

variable {node made : Node} {entries : List (Field × String)}

theorem writeAll_cons (node : Node) (entry : Field × String) (rest : List (Field × String)) :
    node.writeAll (entry :: rest) = (do (← node.write entry.1 entry.2).writeAll rest) :=
  List.foldlM_cons

-- A run of writes that are all granted.
theorem writeAll_gives (written : node.writeAll entries = .ok made) :
    made.kind = node.kind ∧ made.score = node.score ∧
      ∀ field, made.get? field = (lastWritten? entries field).or (node.get? field) := by
  induction entries generalizing node with
  | nil =>
    cases written
    exact ⟨rfl, rfl, fun _ => rfl⟩
  | cons entry rest ih =>
    rw [writeAll_cons] at written
    obtain ⟨next, first, later⟩ := bind_eq_ok_iff.mp written
    obtain ⟨_, kinds, texts⟩ := write_gives first
    obtain ⟨sameKind, sameScore, found⟩ := ih later
    refine ⟨sameKind.trans kinds, sameScore.trans (score_write first), fun field => ?_⟩
    -- what the first write gave counts where no later one is to the same field
    rw [found, texts, lastWritten?_cons, Option.or_assoc]
    by_cases here : field = entry.1 <;> simp [here]

theorem writeAll_granted (carried : ∀ entry ∈ entries, node.kind.carries entry.1 = true) :
    ∃ made, node.writeAll entries = .ok made := by
  induction entries generalizing node with
  | nil => exact ⟨node, rfl⟩
  | cons entry rest ih =>
    obtain ⟨here, others⟩ := List.forall_mem_cons.mp carried
    obtain ⟨next, first⟩ := write_granted here entry.2
    have sameKind : next.kind = node.kind := (write_gives first).2.1
    rw [← sameKind] at others
    obtain ⟨made, later⟩ := ih others
    exact ⟨made, bind_granted first later⟩

-- The first field that the kind does not carry ends a run, whatever was to come after it.
theorem writeAll_refused {field : Field} {front back : List (Field × String)}
    (carried : ∀ entry ∈ front, node.kind.carries entry.1 = true)
    (missing : node.kind.carries field = false) (value : String) :
    node.writeAll (front ++ (field, value) :: back) = .error (.schemaMismatch node.kind field) := by
  obtain ⟨reached, first⟩ := writeAll_granted carried
  have sameKind : reached.kind = node.kind := (writeAll_gives first).1
  rw [← sameKind] at missing ⊢
  unfold writeAll at first ⊢
  rw [List.foldlM_append]
  exact bind_refused_later first (bind_refused (write_refused missing value))

theorem carried_or_first_missing (kind : Kind) (entries : List (Field × String)) :
    (∀ entry ∈ entries, kind.carries entry.1 = true) ∨
      ∃ front field value back, entries = front ++ (field, value) :: back ∧
        (∀ entry ∈ front, kind.carries entry.1 = true) ∧ kind.carries field = false := by
  induction entries with
  | nil => exact .inl (List.forall_mem_nil _)
  | cons entry rest ih =>
    cases here : kind.carries entry.1 with
    | false => exact .inr ⟨[], entry.1, entry.2, rest, rfl, List.forall_mem_nil _, here⟩
    | true =>
      rcases ih with all | ⟨front, field, value, back, rfl, before, missing⟩
      · exact .inl (List.forall_mem_cons.mpr ⟨here, all⟩)
      · exact .inr ⟨entry :: front, field, value, back, rfl,
          List.forall_mem_cons.mpr ⟨here, before⟩, missing⟩

theorem writeAll_eq_error_iff (fault : SearchError) :
    node.writeAll entries = .error fault ↔
      ∃ front field value back, entries = front ++ (field, value) :: back ∧
        (∀ entry ∈ front, node.kind.carries entry.1 = true) ∧ node.kind.carries field = false ∧
        fault = .schemaMismatch node.kind field := by
  constructor
  · intro refused
    rcases carried_or_first_missing node.kind entries with
      all | ⟨front, field, value, back, rfl, before, missing⟩
    · obtain ⟨made, granted⟩ := writeAll_granted all
      rw [granted] at refused
      cases refused
    · rw [writeAll_refused before missing] at refused
      cases refused
      exact ⟨front, field, value, back, rfl, before, missing, rfl⟩
  · rintro ⟨front, field, value, back, rfl, before, missing, rfl⟩
    exact writeAll_refused before missing value

theorem carried_of_writeAll (written : node.writeAll entries = .ok made) :
    ∀ entry ∈ entries, node.kind.carries entry.1 = true := by
  rcases carried_or_first_missing node.kind entries with
    all | ⟨front, field, value, back, rfl, before, missing⟩
  · exact all
  · rw [writeAll_refused before missing] at written
    cases written

end WriteAll

-- Nodes of one kind and score that show the same texts are the same.
theorem ext_get? {a b : Node} (kinds : a.kind = b.kind) (scores : a.score = b.score)
    (texts : ∀ field, a.get? field = b.get? field) : a = b := by
  have ids : a.id = b.id := Option.some.inj (texts .id)
  have attributes : a.attributes = b.attributes := by
    apply Attributes.ext_get?
    intro field
    by_cases identifier : field = .id
    · rw [identifier]
      rfl
    · rw [← get?_of_ne_id a identifier, ← get?_of_ne_id b identifier, texts]
  cases a
  cases b
  simp_all

theorem lastWritten?_present {node : Node} (conforms : node.Conforms) (field : Field) :
    lastWritten? node.present field = node.get? field := by
  apply Option.ext
  intro value
  rw [lastWritten?_eq_some_iff node.nodup_present, mem_present, and_iff_right_iff_imp]
  intro found
  by_contra missing
  rw [get?_eq_none conforms (Bool.eq_false_iff.mpr missing)] at found
  cases found

-- What a node shows makes it again, whatever identifier the new one starts with.
theorem writeAll_present {node : Node} (conforms : node.Conforms) (unscored : node.score = 0)
    (id : String) : Node.writeAll { kind := node.kind, id } node.present = .ok node := by
  have carried : ∀ entry ∈ node.present, node.kind.carries entry.1 = true :=
    fun entry listed => ((node.mem_present entry.1 entry.2).mp listed).1
  obtain ⟨made, written⟩ := @writeAll_granted { kind := node.kind, id } _ carried
  obtain ⟨kinds, scores, texts⟩ := writeAll_gives written
  rw [written]
  refine congrArg Except.ok (ext_get? kinds (scores.trans unscored.symm) fun field => ?_)
  rw [texts, lastWritten?_present conforms]
  cases field with
  | id => rfl
  | _ => exact Option.or_none

-- What a run of writes makes of a new node: one record, of which reading, listing and writing again
-- all tell the same.
structure RecordOf (kind : Kind) (id : String) (entries : List (Field × String)) (made : Node) :
    Prop where
  kept : made.kind = kind
  unscored : made.score = 0
  held : ∀ field, kind.carries field = true → made.read field =
    .ok ((lastWritten? entries field).or (if field = .id then some id else none))
  refused : ∀ field, kind.carries field = false →
    made.read field = .error (.schemaMismatch kind field)
  listed : ∀ field value, (field, value) ∈ made.present ↔ made.read field = .ok (some value)
  ordered : (made.present.map (·.1)).Sublist kind.fields
  once : (made.present.map (·.1)).Nodup
  again : ∀ other, writeAll { kind, id := other } made.present = .ok made

theorem recordOf_writeAll {kind : Kind} {id : String} {entries : List (Field × String)}
    {made : Node} (written : writeAll { kind, id } entries = .ok made) :
    RecordOf kind id entries made := by
  obtain ⟨rfl, unscored, texts⟩ := writeAll_gives written
  have conforms : made.Conforms := @Draft.node_conforms ⟨made.kind, id, entries⟩ made written
  refine ⟨rfl, unscored, fun field carried => ?_, fun field => read_refused, fun field value => ?_,
    made.fields_present_sublist, made.nodup_present, writeAll_present conforms unscored⟩
  · apply (made.read_eq_ok_iff field _).mpr
    refine ⟨carried, (texts field).trans ?_⟩
    cases field <;> rfl
  · rw [made.mem_present, made.read_eq_ok_iff]

end Node

-- A run of writes is refused for the first field that the kind does not carry, and for nothing else.
theorem writes_make_one_record (kind : Kind) (id : String) (entries : List (Field × String)) :
    (∀ fault, Node.writeAll { kind, id } entries = .error fault ↔
      ∃ front field value back, entries = front ++ (field, value) :: back ∧
        (∀ entry ∈ front, kind.carries entry.1 = true) ∧ kind.carries field = false ∧
        fault = .schemaMismatch kind field) ∧
    ((∃ made, Node.writeAll { kind, id } entries = .ok made) ↔
      ∀ entry ∈ entries, kind.carries entry.1 = true) ∧
    ∀ made, Node.writeAll { kind, id } entries = .ok made →
      Node.RecordOf kind id entries made := by
  refine ⟨Node.writeAll_eq_error_iff, ⟨?_, @Node.writeAll_granted { kind, id } entries⟩,
    fun made => Node.recordOf_writeAll⟩
  rintro ⟨made, written⟩
  exact Node.carried_of_writeAll written

-- The floor is written twice and the identifier anew.
def doorEntries : List (Field × String) :=
  [(.floor, "1"), (.name, "Door"), (.id, "l2"), (.floor, "2")]

theorem doorEntries_make_one_record :
    ∃ made, Node.writeAll { kind := .lock, id := "l1" } doorEntries = .ok made ∧
      made.read .floor = .ok (some "2") ∧ made.read .roomNumber = .ok none ∧
      made.read .owner = .error (.schemaMismatch .lock .owner) ∧
      made.present = [(.id, "l2"), (.name, "Door"), (.floor, "2")] ∧
      Node.writeAll { kind := .lock, id := "" } made.present = .ok made := by
  obtain ⟨_, granted, records⟩ := writes_make_one_record .lock "l1" doorEntries
  obtain ⟨made, written⟩ := granted.mpr (by decide)
  have record := records made written
  have same : made.present = [(.id, "l2"), (.name, "Door"), (.floor, "2")] := by
    cases written
    rfl
  exact ⟨made, written, record.held .floor rfl, record.held .roomNumber rfl,
    record.refused .owner rfl, same, record.again ""⟩

end SiteSearch
