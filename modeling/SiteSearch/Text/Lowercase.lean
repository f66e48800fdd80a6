import SiteSearch.Text.CaseTable

-- Lowercasing of a whole text. Two rules go beyond letter by letter: the dotted capital I
-- becomes two characters, and a capital sigma takes its final form at the end of a word.
namespace SiteSearch.Text

def caseIgnorable (c : Char) : Bool :=
  caseIgnorableRanges.holds c.toNat

def cased (c : Char) : Bool :=
  casedRanges.holds c.toNat

def lowerChar (c : Char) : List Char :=
  if c.toNat < 0x80 then [c.toLower]
  else if c = '\u0130' then ['i', '\u0307']
  else match caseRuns.find? (·.holds c.toNat) with
    | some run => [Char.ofNat (run.lower c.toNat)]
    | none => [c]

def nextCased (text : List Char) : Bool :=
  match text.dropWhile caseIgnorable with
  | c :: _ => cased c
  | [] => false

-- The small form of a character between what stands before it, nearest first, and after it.
def lowerAt (before : List Char) (c : Char) (after : List Char) : List Char :=
  if c = 'Σ' then
    if nextCased before && !nextCased after then ['ς'] else ['σ']
  else lowerChar c

def lowerFrom (done before : List Char) : List Char → List Char
  | [] => done.reverse
  | c :: after => lowerFrom ((lowerAt before c after).reverse ++ done) (c :: before) after

def lowercase (text : String) : String :=
  String.ofList (lowerFrom [] [] text.toList)

theorem lowerFrom_done (done before text : List Char) :
    lowerFrom done before text = done.reverse ++ lowerFrom [] before text := by
  induction text generalizing done before with
  | nil => simp [lowerFrom]
  | cons c after ih =>
    rw [lowerFrom, lowerFrom, ih, ih ((lowerAt before c after).reverse ++ [])]
    simp

theorem lowerFrom_cons (before : List Char) (c : Char) (after : List Char) :
    lowerFrom [] before (c :: after) = lowerAt before c after ++ lowerFrom [] (c :: before) after := by
  rw [lowerFrom, lowerFrom_done]
  simp

end SiteSearch.Text
