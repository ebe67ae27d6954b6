/-!
# Reports of errors

An error is reported with its message and, below it, with what caused it. Of several causes each is
numbered.
-/

namespace SyncPods.Launch.Report

/-- The lines of a text behind a mark, with blanks before the lines that follow the first. -/
def indented (mark text : String) : String :=
  let margin := "\n" ++ String.ofList (List.replicate mark.length ' ')
  mark ++ margin.intercalate (text.splitOn "\n")

/-- The mark of a cause with a number. -/
def numbered (number : Nat) : String :=
  let digits := toString number
  String.ofList (List.replicate (5 - digits.length) ' ') ++ digits ++ ": "

/-- The causes, each below the one before. -/
def causeLines (causes : List String) : List String :=
  match causes with
  | [cause] => [indented "    " cause]
  | causes => causes.mapIdx fun number cause => indented (numbered number) cause

/-- The report of an error's message and of the messages of its causes. -/
def text : List String → String
  | [] => ""
  | [message] => "Error: " ++ message ++ "\n"
  | message :: causes =>
    "Error: " ++ message ++ "\n\nCaused by:\n" ++ "\n".intercalate (causeLines causes) ++ "\n"

end SyncPods.Launch.Report
