import SyncPods.Cluster.Submission
import SyncPods.Run.Error

/-!
# Why a launch fails
-/

namespace SyncPods.Launch

/-- What the launcher does with an assembled pod. -/
inductive Action where
  /-- Prints its manifest. -/
  | render
  /-- Creates it in the configured namespace. -/
  | submit
deriving DecidableEq, Repr

/-- Why the text of a file cannot be had. -/
inductive FileError where
  | missing
  | directory
  | notText
  | other (reason : String)
deriving DecidableEq, Repr

def FileError.message : FileError → String
  | missing => "No such file or directory (os error 2)"
  | directory => "Is a directory (os error 21)"
  | notText => "stream did not contain valid UTF-8"
  | other reason => reason

inductive LaunchError where
  | unreadable (path : String) (error : FileError)
  | unparsable (path : String) (failure : Json.Failure)
  | build (kind : RunKind) (podName : String) (error : BuildError)
  | submission (error : Cluster.SubmitError)
deriving DecidableEq, Repr

/-- The messages of an error and of what caused it, outermost first. -/
def LaunchError.chain : LaunchError → List String
  | unreadable path error => [s!"failed to read the pod request at {path}", error.message]
  | unparsable path failure => [s!"failed to parse the pod request at {path}", failure.message]
  | build kind podName error => s!"failed to build the {kind.name} pod {podName}" :: error.chain
  | submission error => error.chain

end SyncPods.Launch
