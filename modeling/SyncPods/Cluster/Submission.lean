import SyncPods.Cluster.Address
import SyncPods.Cluster.PodFields
import SyncPods.Cluster.Status
import SyncPods.Log.Event
import SyncPods.Manifest.Pod

/-!
# Submitting pods

A pod is submitted with one request to create it, which is never sent again. What became of it is
read from the answer alone.
-/

namespace SyncPods.Cluster

structure CreateRequest where
  address : Address
  pod : Pod
deriving DecidableEq

/-- What comes back for a request. -/
inductive Reply where
  | answer (code : Nat) (body : ByteArray)
  /-- Nothing came back, for a reason that has causes of its own. -/
  | noAnswer (reason : String) (causes : List String)

/-- Why a request was of no avail. -/
inductive RequestError where
  /-- The cluster refused it. -/
  | refused (status : Status)
  | badAddress
  | noAnswer (reason : String) (causes : List String)
  /-- The answer is not text. -/
  | notText
  /-- The answer tells of no pod. -/
  | notPod
deriving DecidableEq, Repr

namespace RequestError

def message : RequestError → String
  | refused status => s!"ApiError: {status.shown}"
  | badAddress => "Failed to build request: failed to build request: invalid uri character"
  | noAnswer reason _ => s!"ServiceError: {reason}"
  | notText => "UTF-8 Error"
  | notPod => "Error deserializing response"

/-- The messages of what caused the error. -/
def causes : RequestError → List String
  | refused status => [status.shown]
  | badAddress => ["failed to build request: invalid uri character", "invalid uri character"]
  | noAnswer reason causes => reason :: causes
  | _ => []

end RequestError

inductive SubmitError where
  | missingName
  /-- A pod of the name is there already. -/
  | alreadyExists (name : String)
  | request (error : RequestError)
deriving DecidableEq, Repr

namespace SubmitError

def message : SubmitError → String
  | missingName => "the pod has no name"
  | alreadyExists name => s!"pod {name} already exists"
  | request error => s!"An error occurred with kube when submitting the pod: {error.message}"

/-- The messages of an error and of what caused it, outermost first. -/
def chain : SubmitError → List String
  | request error => [message (.request error), error.message] ++ error.causes
  | error => [error.message]

end SubmitError

/-- The code of the status of a request for a name that is taken. -/
def conflictCode : Nat := 409

/-- Whether an answer's code says that the request failed. -/
def isFailure (code : Nat) : Bool := 400 ≤ code && code < 600

/-- The first code of answers that say that the cluster itself failed. -/
def firstServerFailure : Nat := 500

/-- The events of an exchange: there is one if nothing came back, or the cluster itself failed. -/
def Reply.events : Reply → List Log.Event
  | .noAnswer reason _ => [failed s!"error {reason}"]
  | .answer code _ =>
    if firstServerFailure ≤ code && isFailure code then
      [failed s!"status {code} {reasonPhrase code}"]
    else []
where
  failed (how : String) : Log.Event :=
    ⟨.error, "kube_client::client::builder", "failed with " ++ how, []⟩

def Reply.outcome : Reply → Except RequestError Unit
  | .noAnswer reason causes => .error (.noAnswer reason causes)
  | .answer code body =>
    match String.fromUTF8? body with
    | none => .error .notText
    | some text =>
      if isFailure code then .error (.refused (Status.inAnswer code text))
      else if tellsOfPod text then .ok ()
      else .error .notPod

/-- What the reply to the request for a pod says of the submission. -/
def submitted (name : String) (reply : Reply) : Except SubmitError String :=
  match reply.outcome with
  | .ok _ => .ok name
  | .error (.refused status) =>
    if status.code = conflictCode then .error (.alreadyExists name)
    else .error (.request (.refused status))
  | .error error => .error (.request error)

/-- The request for a pod, with the pod's name. -/
def createRequest (namespaceName : String) (pod : Pod) :
    Except SubmitError (String × CreateRequest) :=
  match pod.metadata.name with
  | none => .error .missingName
  | some name =>
    match Address.pods? namespaceName with
    | none => .error (.request .badAddress)
    | some address => .ok (name, ⟨address, pod⟩)

/-- Submits a pod to a namespace of a cluster that replies to requests. -/
def submit {m : Type → Type} [Monad m] (reply : CreateRequest → m Reply) (namespaceName : String)
    (pod : Pod) : m (Except SubmitError String) := do
  match createRequest namespaceName pod with
  | .error error => return .error error
  | .ok (name, request) => return submitted name (← reply request)

def submittedEvents (namespaceName name : String) : List Log.Event :=
  [.info "workload_pods::submit" "submitted pod"
      [("pod_name", .text name), ("namespace", .text namespaceName)],
    .info "workload_launcher::core" "pod handed over to the cluster" [("pod_name", .text name)]]

end SyncPods.Cluster
