import SyncPods.Cluster.Submission

/-!
# What a reply says of a submission

The reply alone decides on the outcome of a submission, and a conflict is told from all other
failures by the code of the status.
-/

namespace SyncPods

theorem fromUTF8?_toUTF8 (s : String) : String.fromUTF8? s.toUTF8 = some s := by
  have valid : s.toUTF8.IsValidUTF8 := s.isValidUTF8
  rw [String.fromUTF8?, dif_pos valid]
  rfl

namespace Cluster

/-- The cluster refused a request because the name is taken. -/
def RequestError.IsConflict (error : RequestError) : Prop :=
  ∃ status : Status, error = .refused status ∧ status.code = conflictCode

variable {namespaceName name : String} {pod : Pod} {reply : Reply} {request : CreateRequest}

theorem Reply.outcome_text (code : Nat) (text : String) :
    (Reply.answer code text.toUTF8).outcome =
      if isFailure code then .error (.refused (Status.inAnswer code text))
      else if tellsOfPod text then .ok () else .error .notPod := by
  simp only [Reply.outcome, fromUTF8?_toUTF8]

theorem submitted_of_conflict {error : RequestError} (failed : reply.outcome = .error error)
    (isConflict : error.IsConflict) : submitted name reply = .error (.alreadyExists name) := by
  obtain ⟨status, rfl, code⟩ := isConflict
  simp only [submitted, failed, if_pos code]

theorem submitted_of_failure {error : RequestError} (failed : reply.outcome = .error error)
    (noConflict : ¬ error.IsConflict) : submitted name reply = .error (.request error) := by
  cases error with
  | refused status =>
      have code : ¬ status.code = conflictCode := fun code => noConflict ⟨status, rfl, code⟩
      simp only [submitted, failed, if_neg code]
  | _ => simp only [submitted, failed]

theorem submitted_of_ok (accepted : reply.outcome = .ok ()) :
    submitted name reply = .ok name := by
  simp only [submitted, accepted]

/-- A submission that sent its request ends in one of three ways. -/
theorem submitted_cases (name : String) (reply : Reply) :
    (reply.outcome = .ok () ∧ submitted name reply = .ok name) ∨
      ∃ error, reply.outcome = .error error ∧
        ((error.IsConflict ∧ submitted name reply = .error (.alreadyExists name)) ∨
          (¬ error.IsConflict ∧ submitted name reply = .error (.request error))) := by
  cases outcome : reply.outcome with
  | ok accepted => exact .inl ⟨rfl, submitted_of_ok outcome⟩
  | error error =>
      refine .inr ⟨error, rfl, ?_⟩
      by_cases isConflict : error.IsConflict
      · exact .inl ⟨isConflict, submitted_of_conflict outcome isConflict⟩
      · exact .inr ⟨isConflict, submitted_of_failure outcome isConflict⟩

theorem submitted_eq_ok_iff {n : String} :
    submitted name reply = .ok n ↔ n = name ∧ reply.outcome = .ok () := by
  rcases submitted_cases name reply with ⟨accepted, ends⟩ | ⟨error, failed, ends⟩
  · rw [ends, accepted, Except.ok.injEq, eq_comm]
    exact (and_iff_left rfl).symm
  · rw [failed]
    rcases ends with ⟨_, ends⟩ | ⟨_, ends⟩ <;> simp [ends]

theorem submitted_eq_alreadyExists_iff {n : String} :
    submitted name reply = .error (.alreadyExists n) ↔
      n = name ∧ ∃ error, reply.outcome = .error error ∧ error.IsConflict := by
  rcases submitted_cases name reply with ⟨accepted, ends⟩ | ⟨error, failed, ends⟩
  · simp [ends, accepted]
  · rw [failed]
    rcases ends with ⟨isConflict, ends⟩ | ⟨noConflict, ends⟩
    · simp [ends, isConflict, eq_comm]
    · simp [ends, noConflict]

theorem submitted_ne_missingName (name : String) (reply : Reply) :
    submitted name reply ≠ .error .missingName := by
  rcases submitted_cases name reply with ⟨_, ends⟩ | ⟨error, _, ⟨_, ends⟩ | ⟨_, ends⟩⟩ <;>
    simp [ends]

/-- A request for a pod has the pod in it and goes to its namespace's address. -/
theorem createRequest_eq_ok (named : createRequest namespaceName pod = .ok (name, request)) :
    pod.metadata.name = some name ∧ request.pod = pod ∧
      Address.pods? namespaceName = some request.address := by
  unfold createRequest at named
  split at named
  · cases named
  · next given =>
    split at named
    · cases named
    · next address isAddress =>
      cases named
      exact ⟨given, rfl, isAddress⟩

theorem createRequest_of_unnamed (unnamed : pod.metadata.name = none) :
    createRequest namespaceName pod = .error .missingName := by
  rw [createRequest, unnamed]

/-- For want of an address there is an error of the request, and for want of a name one of the
submission. -/
theorem createRequest_eq_error {error : SubmitError}
    (failed : createRequest namespaceName pod = .error error) :
    (pod.metadata.name = none ∧ error = .missingName) ∨
      (pod.metadata.name ≠ none ∧ error = .request .badAddress) := by
  unfold createRequest at failed
  split at failed
  · next unnamed =>
    cases failed
    exact .inl ⟨unnamed, rfl⟩
  · next name given =>
    split at failed
    · cases failed
      exact .inr ⟨by simp [given], rfl⟩
    · cases failed

end Cluster

end SyncPods
