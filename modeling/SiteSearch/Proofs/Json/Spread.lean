import Mathlib.Data.List.Basic
import SiteSearch.Proofs.Json.Reading

-- The text of a value spread over lines. White space between tokens makes no difference, so it is
-- read as the shortest text of the value is.
namespace SiteSearch.Json

namespace Yields

variable {front back : List Char} {one two : List Token}

theorem gap {spaces : List Char} (all : ∀ c ∈ spaces, isSpace c = true) (later : Yields back two) :
    Yields (spaces ++ back) two := by
  intro done rest apart
  induction spaces with
  | nil => exact later done rest apart
  | cons c others ih =>
    obtain ⟨space, all⟩ := List.forall_mem_cons.mp all
    rw [List.cons_append, List.map_cons, List.cons_append, tokensFrom, if_pos space]
    exact ih all

theorem space (later : Yields back two) : Yields (' ' :: back) two :=
  gap (List.forall_mem_singleton.mpr (rfl : isSpace ' ' = true)) later

theorem line (depth : Nat) (later : Yields back two) : Yields (newline depth ++ back) two := by
  refine gap (List.forall_mem_cons.mpr ⟨rfl, fun c member => ?_⟩) later
  rw [List.eq_of_mem_replicate member]
  rfl

theorem append_apart (first : Yields front one) (second : Yields back two)
    (clear : ∀ rest, Apart (back.map some ++ rest)) : Yields (front ++ back) (one ++ two) := by
  intro done rest apart
  rw [List.map_append, List.append_assoc, first _ _ (clear rest), second _ _ apart,
    List.reverse_append, List.append_assoc]

variable {α : Type} {piece : α → List Char} {tokens : α → List Token} {close : Char}
  {closing : Token}

-- The parts of a container after the first one, each on a line of its own, up to its end.
theorem parts {later : List α} (all : ∀ part ∈ later, Yields (piece part) (tokens part))
    (ends : Yields [close] [closing]) (depth outer : Nat) :
    Yields
      ((later.flatMap fun part => ',' :: (newline depth ++ piece part)) ++
        (newline outer ++ [close]))
      ((later.flatMap fun part => .comma :: tokens part) ++ [closing]) ∧
    ∀ rest, Apart (((later.flatMap fun part => ',' :: (newline depth ++ piece part)) ++
      (newline outer ++ [close])).map some ++ rest) := by
  induction later with
  | nil => exact ⟨line outer ends, fun rest => Apart.cons (by decide) _⟩
  | cons part others ih =>
    obtain ⟨here, all⟩ := List.forall_mem_cons.mp all
    obtain ⟨after, clear⟩ := ih all
    refine ⟨?_, fun rest => Apart.cons (by decide) _⟩
    simp only [List.flatMap_cons, List.cons_append, List.append_assoc]
    exact cons rfl (fun _ => rfl) (line depth (append_apart here after clear))

theorem container (start : Char) {opening : Token} (dense : isSpace start = false)
    (opens : ∀ rest, tokenAt start rest = some (opening, rest)) (ends : Yields [close] [closing])
    {first : α} {later : List α}
    (all : ∀ part ∈ first :: later, Yields (piece part) (tokens part)) (depth outer : Nat) :
    Yields
      (start :: (newline depth ++ piece first ++
        (later.flatMap fun part => ',' :: (newline depth ++ piece part)) ++ newline outer ++
        [close]))
      (opening :: (tokens first ++ (later.flatMap fun part => .comma :: tokens part)
        ++ [closing])) := by
  obtain ⟨here, all⟩ := List.forall_mem_cons.mp all
  obtain ⟨after, clear⟩ := parts all ends depth outer
  refine cons dense opens ?_
  simp only [List.append_assoc] at after clear ⊢
  exact line depth (append_apart here after clear)

end Yields

theorem spreadItems_eq (depth : Nat) (items : List Value) :
    spreadItems depth items =
      items.flatMap fun item => ',' :: (newline depth ++ item.spread depth) := by
  induction items with
  | nil => rfl
  | cons item rest ih => rw [spreadItems, ih, List.flatMap_cons, List.cons_append]

def memberText (depth : Nat) (member : String × Value) : List Char :=
  quote member.1 ++ ':' :: ' ' :: member.2.spread depth

def memberToken (member : String × Value) : List Token :=
  .text (some member.1) :: .colon :: member.2.tokens

theorem spreadMembers_eq (depth : Nat) (members : List (String × Value)) :
    spreadMembers depth members =
      members.flatMap fun member => ',' :: (newline depth ++ memberText depth member) := by
  induction members with
  | nil => rfl
  | cons member rest ih =>
    rw [spreadMembers, ih, List.flatMap_cons, memberText]
    simp only [List.append_assoc, List.cons_append]

theorem itemTokens_cons (item : Value) (rest : List Value) :
    itemTokens (item :: rest) = item.tokens ++ rest.flatMap fun item => .comma :: item.tokens := by
  induction rest generalizing item with
  | nil => exact (List.append_nil _).symm
  | cons next later ih =>
    rw [itemTokens, ih, List.flatMap_cons, List.cons_append]
    exact List.cons_ne_nil _ _

theorem memberTokens_cons (member : String × Value) (rest : List (String × Value)) :
    memberTokens (member :: rest) =
      memberToken member ++ rest.flatMap fun member => .comma :: memberToken member := by
  induction rest generalizing member with
  | nil => exact (List.append_nil _).symm
  | cons next later ih =>
    rw [memberTokens, ih, List.flatMap_cons, List.cons_append, memberToken]
    · rfl
    · exact List.cons_ne_nil _ _

theorem Value.spread_yields {value : Value} (fits : value.Fits) (depth : Nat) :
    Yields (value.spread depth) value.tokens := by
  have array : Yields [']'] [.closeArray] := .cons rfl (fun _ => rfl) .nil
  have object : Yields ['\x7d'] [.closeObject] := .cons rfl (fun _ => rfl) .nil
  induction fits generalizing depth with
  | null => exact Value.yields .null
  | bool value => exact Value.yields (.bool value)
  | number small => exact Value.yields (.number small)
  | text text => exact Value.yields (.text text)
  | @array items all ih =>
    cases items with
    | nil => exact .cons rfl (fun _ => rfl) array
    | cons item rest =>
      rw [Value.spread, Value.tokens, spreadItems_eq, itemTokens_cons]
      exact .container '[' rfl (fun _ => rfl) array (fun item listed => ih item listed _) _ _
  | @object members all ih =>
    cases members with
    | nil => exact .cons rfl (fun _ => rfl) object
    | cons member rest =>
      have each : ∀ each ∈ member :: rest,
          Yields (memberText (depth + 1) each) (memberToken each) := fun each listed =>
        .quoted each.1 (.cons rfl (fun _ => rfl) (.space (ih each listed _)))
      have whole := Yields.container '\x7b' rfl (fun _ => rfl) object each (depth + 1) depth
      rw [Value.spread, Value.tokens, spreadMembers_eq, memberTokens_cons]
      simpa only [memberText, List.append_assoc] using whole

theorem Document.ofBytes_pretty {value : Value} (fits : value.Fits) :
    Document.ofBytes value.pretty.toUTF8.toList = ⟨value.reading, true⟩ := by
  have spread : Json.tokens ((value.spread 0).map some) = value.tokens := by
    have read := Value.spread_yields fits 0 [] [] Apart.nil
    rw [List.append_nil] at read
    unfold Json.tokens
    rw [read, List.append_nil, tokensFrom, List.reverse_reverse]
  unfold Document.ofBytes Document.ofTokens
  rw [Text.symbols_toUTF8, Value.pretty, String.toList_ofList, spread,
    value.reads fits _ _ (.inl rfl)]
  rfl

end SiteSearch.Json
