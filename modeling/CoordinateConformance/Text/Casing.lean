import CoordinateConformance.Text.CasingTable
import CoordinateConformance.Text.CodePoints

/-!
Contract: lower case of text.

Every character is replaced by its own lower case, with two exceptions: a dotted capital I
becomes two characters, and a capital sigma at the end of a word becomes a final sigma. A
word ends where a cased letter stands before the sigma and none behind it, case ignorable
characters in between left out.
-/

namespace CoordinateConformance

namespace Casing

def isCased (c : Char) : Bool :=
  inRanges casedBounds c.toNat

def isCaseIgnorable (c : Char) : Bool :=
  inRanges caseIgnorableBounds c.toNat

def run? (code : Nat) : Option CaseRun :=
  lowerCaseRuns.find? fun run =>
    run.first ≤ code && code ≤ run.last && (code - run.first) % run.step == 0

/-- The lower case of a character on its own. -/
def lowerCharacter (c : Char) : List Char :=
  if c.toNat < 0x80 then [c.toLower]
  else if c.toNat = 0x130 then ['i', '\u0307']
  else
    match run? c.toNat with
    | some run => [Char.ofNat (run.target + (c.toNat - run.first))]
    | none => [c]

/-- The first character that is not case ignorable is a cased one. -/
def meetsCased (text : List Char) : Bool :=
  match text.dropWhile isCaseIgnorable with
  | c :: _ => isCased c
  | [] => false

/-- The lower case of text. `before` holds what stands in front of it, nearest first. -/
def lowerAfter : List Char → List Char → List Char
  | _, [] => []
  | before, c :: rest =>
      let lower :=
        if c = 'Σ' then [if meetsCased before && !meetsCased rest then 'ς' else 'σ']
        else lowerCharacter c
      lower ++ lowerAfter (c :: before) rest

def lower (text : String) : String :=
  String.ofList (lowerAfter [] text.toList)

end Casing

end CoordinateConformance
