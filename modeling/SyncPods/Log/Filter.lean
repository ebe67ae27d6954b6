import SyncPods.Decimal.Whole
import SyncPods.Log.Event
import SyncPods.Text.Blank

/-!
# Filters of log events

A filter is a list of rules with commas between them. A rule gives the least level that passes, for
all targets or for those that start with a text. Of the rules for a target the one with the longest
start counts.
-/

namespace SyncPods.Log

/-- What passes a rule: nothing, or the events from a level on. -/
inductive Threshold where
  | off
  | atLeast (level : Level)
deriving DecidableEq, Repr

namespace Threshold

/-- The threshold of a number, from nothing up to everything. -/
def ofNat? : Nat → Option Threshold
  | 0 => some .off
  | 1 => some (.atLeast .error)
  | 2 => some (.atLeast .warn)
  | 3 => some (.atLeast .info)
  | 4 => some (.atLeast .debug)
  | 5 => some (.atLeast .trace)
  | _ => none

/-- The threshold that a word names, in letters of any case. -/
def ofWord? (word : String) : Option Threshold :=
  match word.toLower with
  | "off" => some .off
  | "error" => some (.atLeast .error)
  | "warn" => some (.atLeast .warn)
  | "info" => some (.atLeast .info)
  | "debug" => some (.atLeast .debug)
  | "trace" => some (.atLeast .trace)
  | _ => none

/-- The threshold that a text is, as a number or as a word. -/
def ofText? (text : String) : Option Threshold :=
  let digits :=
    match text.toList with
    | '+' :: rest => rest
    | cs => cs
  ((Whole.digits? 10 digits).bind ofNat?).or (ofWord? text)

def passes (threshold : Threshold) (level : Level) : Bool :=
  match threshold with
  | off => false
  | atLeast least => least.rank ≤ level.rank

end Threshold

/-- A rule for the targets that start with a text. -/
structure Rule where
  start : String
  threshold : Threshold
deriving DecidableEq, Repr

namespace Rule

/-- A character that a rule may start with. Of the characters beyond ASCII all count as letters. -/
def mayStart (c : Char) : Bool :=
  c.isAlphanum || c == '-' || c == ':' || c == '_' || 0x80 ≤ c.toNat

/-- The rule of a text: a threshold for all targets, a start and a threshold, or a start alone, for
which all events pass. The place of the equals sign is counted from the first character that is not
blank, wherever the text starts. -/
def ofText? (text : String) : Option Rule :=
  let cs := text.toList
  let bare := Text.trimChars cs
  let length := (bare.takeWhile (· != '=')).length
  match bare.head? with
  | none => some ⟨"", .atLeast .trace⟩
  | some first =>
    if ¬ mayStart first then none
    else if length < bare.length then
      let start := String.ofList (cs.take length)
      match cs.drop (length + 1) with
      | [] => some ⟨start, .atLeast .trace⟩
      | level => (Threshold.ofText? (String.ofList level)).map (⟨start, ·⟩)
    else
      match Threshold.ofText? text with
      | some threshold => some ⟨"", threshold⟩
      | none => some ⟨text, .atLeast .trace⟩

def covers (rule : Rule) (target : String) : Bool :=
  rule.start.toList.isPrefixOf target.toList

end Rule

/-- A filter, as its rules in order. -/
structure Filter where
  rules : List Rule
deriving DecidableEq, Repr

namespace Filter

/-- The filter that lets pass what is worth telling. -/
def standard : Filter := ⟨[⟨"", .atLeast .info⟩]⟩

/-- The filter of a text; none if one of its rules is none. -/
def ofText? (text : String) : Option Filter :=
  (((text.splitOn ",").filter (· ≠ "")).mapM Rule.ofText?).map .mk

/-- The filter that a variable holds, and the standard one if it holds none. -/
def ofVariable (value : Option String) : Filter :=
  (value.bind ofText?).getD standard

/-- The rule that counts for a target: the last of those with the longest start. -/
def rule? (filter : Filter) (target : String) : Option Rule :=
  filter.rules.foldl (fun best rule =>
    if rule.covers target then
      match best with
      | none => some rule
      | some other => if other.start.length ≤ rule.start.length then some rule else best
    else best) none

def passes (filter : Filter) (target : String) (level : Level) : Bool :=
  match filter.rule? target with
  | some rule => rule.threshold.passes level
  | none => false

end Filter

end SyncPods.Log
