import SyncPods.Log.Event

/-!
# Panics in the log

A panic leaves an event that tells what it carried and where it happened.
-/

namespace SyncPods.Log

/-- What a panic carries: a text, or anything else. -/
inductive Payload where
  | text (text : String)
  | other
deriving DecidableEq, Repr

def Payload.shown : Payload → String
  | text s => s
  | other => "unknown panic payload"

/-- The note on an event without the calls that led to it. -/
def noCallsNote : String := "run with RUST_BACKTRACE=1 to display backtraces"

def panicEvent (target : String) (payload : Payload) (location : String) : Event :=
  ⟨.error, target, "a panic occurred", [("panic.payload", .text payload.shown),
    ("payload.location", .text location), ("panic.note", .text noCallsNote)]⟩

end SyncPods.Log
