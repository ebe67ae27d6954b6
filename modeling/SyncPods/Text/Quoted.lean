import SyncPods.Text.EscapeTable
import SyncPods.Text.LowerCase

/-!
# Quoted texts

A text as messages show it: in quotation marks, with short escapes for the usual controls and the
code point in braces for everything else that does not show.
-/

namespace SyncPods.Text

/-- One character of a quoted text. -/
def quotedChar (c : Char) : String :=
  match c with
  | '\x00' => "\\0"
  | '\t' => "\\t"
  | '\r' => "\\r"
  | '\n' => "\\n"
  | '"' => "\\\""
  | '\\' => "\\\\"
  | c =>
    if inRanges escapedRanges c.toNat && c ≠ ' ' then
      "\\u\x7b" ++ String.ofList (Nat.toDigits 16 c.toNat) ++ "\x7d"
    else c.toString

def quoted (s : String) : String :=
  "\"" ++ String.join (s.toList.map quotedChar) ++ "\""

end SyncPods.Text
