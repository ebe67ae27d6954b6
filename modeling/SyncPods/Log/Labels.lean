import SyncPods.Log.Injection

/-!
# Labels of log lines

The data plane and the workspace that the log lines of a process bear. Each is offered by whoever
learns it, and the first value offered stays.
-/

namespace SyncPods.Log

structure Labels where
  dataPlane : Option String
  workspace : Option String
deriving DecidableEq, Repr

namespace Labels

def empty : Labels := ⟨none, none⟩

/-- With a data plane, unless there is one already. -/
def offerDataPlane (labels : Labels) (name : String) : Labels :=
  { labels with dataPlane := labels.dataPlane.or (some name) }

/-- With a workspace, unless there is one already. -/
def offerWorkspace (labels : Labels) (id : String) : Labels :=
  { labels with workspace := labels.workspace.or (some id) }

/-- With what is offered of a data plane and of a workspace. -/
def offer (labels : Labels) (dataPlane workspace : Option String) : Labels :=
  ⟨labels.dataPlane.or dataPlane, labels.workspace.or workspace⟩

/-- The members that a line gets. -/
def fields (labels : Labels) : List (String × Option String) :=
  [("data_plane", labels.dataPlane), ("workspace_id", labels.workspace)]

/-- A line with the labels that it lacks. -/
def lineWith (labels : Labels) (line : String) : String :=
  (inject line labels.fields).getD line

/-- The text of a buffer with the labels that it lacks; none if it lacks none, or is no line that
labels can be added to. -/
def labelled? (labels : Labels) (buffer : ByteArray) : Option String :=
  (String.fromUTF8? buffer).bind fun line => inject line labels.fields

end Labels

/-- What a write hands on, and how many bytes of its buffer it says are written. -/
structure Written where
  bytes : ByteArray
  count : Nat

/-- A write of a buffer to a sink that takes at most so many bytes at a time, or any number. A
buffer that labels are added to is handed on to the end and counts as what it was before, so that
nobody writes the rest of it again. -/
def Labels.write (labels : Labels) (limit : Option Nat) (buffer : ByteArray) : Written :=
  match labels.labelled? buffer with
  | some text => ⟨text.toUTF8, buffer.size⟩
  | none =>
    let taken := buffer.extract 0 (limit.getD buffer.size)
    ⟨taken, taken.size⟩

end SyncPods.Log
