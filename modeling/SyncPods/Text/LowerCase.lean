import SyncPods.Text.CaseTable

/-!
# Lower-casing

Full Unicode lower-casing: every character by the case data, the dotted capital I as two
characters, and the capital sigma by its place in the word.
-/

namespace SyncPods.Text

/-- Whether a code point lies in one of the ranges. -/
def inRanges (ranges : List (Nat × Nat)) (n : Nat) : Bool :=
  ranges.any fun (first, last) => first ≤ n && n ≤ last

/-- Whether the run holds the code point. -/
def CaseRun.covers (run : CaseRun) (n : Nat) : Bool :=
  run.first ≤ n && n ≤ run.last && (n - run.first) % run.stride == 0

/-- The small form of a character that does not depend on its neighbours. -/
def lowerChar (c : Char) : List Char :=
  if c.toNat = 0x130 then ['i', '\u0307']
  else
    match caseRuns.find? (·.covers c.toNat) with
    | some run => [Char.ofNat (c.toNat + run.shift).toNat]
    | none => [c]

/-- Whether the first character that is not passed over in looking for a word is a letter with
case. -/
def meetsCased (cs : List Char) : Bool :=
  match cs.find? fun c => !inRanges caseIgnorableRanges c.toNat with
  | some c => inRanges casedRanges c.toNat
  | none => false

/-- Lower-cases a text whose preceding characters are given, the last one first. A capital sigma
takes its final form where a word ends with it. -/
def lowerFrom (before : List Char) : List Char → List Char
  | [] => []
  | c :: after =>
    let small :=
      if c = 'Σ' then
        if meetsCased before && !meetsCased after then ['ς'] else ['σ']
      else lowerChar c
    small ++ lowerFrom (c :: before) after

def toLower (s : String) : String :=
  String.ofList (lowerFrom [] s.toList)

end SyncPods.Text
