import SyncPods.Launch.Program
import SyncPods.Proofs.CallOrder
import SyncPods.Proofs.ManifestText
import SyncPods.Proofs.RequestText
import SyncPods.Proofs.SubmissionOutcome

/-!
# Launches hold back until all has succeeded

A launch prints a manifest or hands a pod over at the very end, and only if nothing failed before.
`Shows` says of steps how they end and which texts and pods get out on the way, and the steps of a
launch are put together from its parts.
-/

namespace SyncPods

/-! ## Builds that nobody refuses -/

namespace Assembly

theorem tried_unrefused (past : List Call) (steps : List Step) :
    (tried (fun _ _ => none) past steps).2 = firstFault (steps.map Step.fault) := by
  have own (past : List Call) (step : Step) : step.failure (fun _ _ => none) past = step.fault :=
    rfl
  induction steps generalizing past with
  | nil => rfl
  | cons step later ih =>
      rw [List.map_cons, firstFault_cons]
      cases fault : step.fault with
      | some error => rw [tried_of_failure ((own past step).trans fault), Option.some_or]
      | none => rw [tried_of_passes ((own past step).trans fault), ih, Option.none_or]

end Assembly

/-- The journal that is kept of an assembly makes no difference to its outcome. -/
theorem Settings.traceBuild_unrefused (settings : Settings) (kind : RunKind)
    (request : RunRequest) :
    (settings.traceBuild (fun _ => none) kind request).1 = settings.buildPod kind request := by
  have failure := Assembly.tried_unrefused [] (settings.partSteps kind request)
  rw [traceBuild_eq, recordAfter, buildPod_eq, firstFault_faults, ← failure]
  cases firstFault (imageFaults kind request) with
  | some error => rfl
  | none =>
      rcases Assembly.tried (fun _ _ => none) [] (settings.partSteps kind request) with
        ⟨calls, _ | error⟩ <;> rfl

namespace Launch

theorem run_bind {σ ε α β : Type} (first : ExceptT ε (StateM σ) α)
    (next : α → ExceptT ε (StateM σ) β) (s : σ) :
    (first >>= next).run.run s =
      ExceptT.bindCont next (first.run.run s).1 (first.run.run s).2 :=
  rfl

/-! ## What gets out -/

/-- The texts that are printed. -/
def printed (effects : List Effect) : List String :=
  effects.filterMap fun
    | .print text => some text
    | _ => none

/-- The pods that are handed over to the cluster, each with its namespace. -/
def handedOver (effects : List Effect) : List (String × Pod) :=
  effects.filterMap fun
    | .submit namespaceName pod => some (namespaceName, pod)
    | _ => none

/-- Steps end with a result, and the texts and pods get out on the way. -/
def Shows {α : Type} (steps : Steps α) (result : Except LaunchError α) (texts : List String)
    (pods : List (String × Pod)) : Prop :=
  ∀ past, ∃ own, steps.run.run past = (result, past ++ own) ∧ printed own = texts ∧
    handedOver own = pods

section Shows

variable {α β : Type} {first : Steps α} {next : α → Steps β} {result : Except LaunchError β}
  {texts texts' : List String} {pods pods' : List (String × Pod)}

theorem Shows.bind {value : α} (shows : Shows first (.ok value) texts pods)
    (later : Shows (next value) result texts' pods') :
    Shows (first >>= next) result (texts ++ texts') (pods ++ pods') := by
  intro past
  obtain ⟨own, run, rfl, rfl⟩ := shows past
  obtain ⟨own', run', rfl, rfl⟩ := later (past ++ own)
  refine ⟨own ++ own', ?_, List.filterMap_append, List.filterMap_append⟩
  rw [run_bind, run, ← List.append_assoc]
  exact run'

theorem Shows.stop {error : LaunchError} (shows : Shows first (.error error) texts pods) :
    Shows (first >>= next) (.error error) texts pods := by
  intro past
  obtain ⟨own, run, shown⟩ := shows past
  refine ⟨own, ?_, shown⟩
  rw [run_bind, run]
  rfl

theorem shows_pure (value : α) : Shows (pure value) (.ok value) [] [] :=
  fun past => ⟨[], by rw [List.append_nil]; rfl, rfl, rfl⟩

theorem shows_ofExcept (value : Except LaunchError α) :
    Shows (MonadExcept.ofExcept value) value [] [] := by
  cases value with
  | ok value => exact shows_pure value
  | error error => exact fun past => ⟨[], by rw [List.append_nil]; rfl, rfl, rfl⟩

theorem shows_effect (e : Effect) :
    Shows (effect e) (.ok ()) (printed [e]) (handedOver [e]) :=
  fun _ => ⟨[e], rfl, rfl, rfl⟩

theorem shows_events (events : List Log.Event) :
    Shows (events.forM fun event => effect (.log event)) (.ok ()) [] [] := by
  induction events with
  | nil => exact shows_pure ()
  | cons event events ih =>
      have opened : (event :: events).forM (fun event => effect (.log event)) =
          effect (.log event) >>= fun _ => events.forM fun event => effect (.log event) := rfl
      rw [opened]
      exact (shows_effect (.log event)).bind ih

end Shows

/-! ## The parts of a launch -/

variable {settings : Settings} {path : String} {file : Except FileError ByteArray}
  {cluster : ClusterAccess} {kind : RunKind} {action : Action} {pod : Pod}

theorem mapError_eq_ok_iff {ε ε' α : Type} {result : Except ε α} {wrap : ε → ε'} {value : α} :
    result.mapError wrap = .ok value ↔ result = .ok value := by
  cases result <;> simp [Except.mapError]

theorem fileText_eq_ok_iff {text : String} :
    fileText file = .ok text ↔ ∃ bytes, file = .ok bytes ∧ String.fromUTF8? bytes = some text := by
  cases file with
  | error error => exact ⟨nofun, nofun⟩
  | ok bytes =>
      rw [fileText, ok_bind]
      cases isText : String.fromUTF8? bytes with
      | none => simp [isText]
      | some text' => simp [isText, pure, Except.pure]

theorem readRequest_eq_ok_iff {request : RunRequest} :
    readRequest path file = .ok request ↔
      ∃ bytes text, file = .ok bytes ∧ String.fromUTF8? bytes = some text ∧
        Json.readText RunRequest.read text = .ok request := by
  rw [readRequest, bind_eq_ok_iff]
  simp only [mapError_eq_ok_iff, fileText_eq_ok_iff]
  constructor
  · rintro ⟨text, ⟨bytes, isFile, isText⟩, reads⟩
    exact ⟨bytes, text, isFile, isText, reads⟩
  · rintro ⟨bytes, text, isFile, isText, reads⟩
    exact ⟨text, ⟨bytes, isFile, isText⟩, reads⟩

theorem readRequest_error_ne_submission {error : LaunchError}
    (unread : readRequest path file = .error error) (refusal : Cluster.SubmitError) :
    error ≠ .submission refusal := by
  rintro rfl
  rw [readRequest] at unread
  cases isText : fileText file with
  | error fault =>
      rw [isText] at unread
      cases unread
  | ok text =>
      rw [isText, Except.mapError, ok_bind] at unread
      cases parsed : Json.readText RunRequest.read text with
      | error failure =>
          rw [parsed] at unread
          cases unread
      | ok request =>
          rw [parsed] at unread
          cases unread

theorem shows_build (settings : Settings) (kind : RunKind) (request : RunRequest) :
    Shows (build settings kind request)
      ((settings.buildPod kind request).mapError (.build kind request.podName)) [] [] := by
  rw [← settings.traceBuild_unrefused kind request]
  exact (shows_events _).bind (shows_ofExcept _)

/-- The exchange with a cluster that replies is the one that is had without telling of it. -/
theorem shows_exchange (reply : Cluster.CreateRequest → Cluster.Reply) (namespaceName : String)
    (pod : Pod) :
    Shows
      (Cluster.submit
        (fun request => do
          (reply request).events.forM fun event => effect (.log event)
          return reply request : Cluster.CreateRequest → Steps Cluster.Reply)
        namespaceName pod)
      (.ok (Cluster.submit (m := Id) reply namespaceName pod)) [] [] := by
  rw [Cluster.submit, Cluster.submit]
  cases Cluster.createRequest namespaceName pod with
  | error error => exact shows_pure _
  | ok named =>
      obtain ⟨name, request⟩ := named
      have replied : Shows (do
            (reply request).events.forM fun event => effect (.log event)
            return reply request : Steps Cluster.Reply) (.ok (reply request)) [] [] := by
        refine (shows_events (reply request).events).bind ?_
        exact shows_pure (reply request)
      refine replied.bind ?_
      exact shows_pure (Cluster.submitted name (reply request))

/-- What a launch makes of the outcome of a submission. -/
def afterSubmission (outcome : Except Cluster.SubmitError String) : Except LaunchError Unit :=
  (outcome.mapError .submission).map fun _ => ()

theorem afterSubmission_eq_ok_iff {outcome : Except Cluster.SubmitError String} :
    afterSubmission outcome = .ok () ↔ ∃ name, outcome = .ok name := by
  cases outcome <;> simp [afterSubmission, Except.mapError, Except.map]

theorem afterSubmission_eq_error_iff {outcome : Except Cluster.SubmitError String}
    {refusal : Cluster.SubmitError} :
    afterSubmission outcome = .error (.submission refusal) ↔ outcome = .error refusal := by
  cases outcome <;> simp [afterSubmission, Except.mapError, Except.map]

theorem shows_submit_reached (reply : Cluster.CreateRequest → Cluster.Reply)
    (namespaceName : String) (pod : Pod) :
    Shows (submit (.ok reply) namespaceName pod)
      (afterSubmission (Cluster.submit (m := Id) reply namespaceName pod)) []
      [(namespaceName, pod)] := by
  have client := shows_ofExcept (.ok reply : Except LaunchError _)
  refine client.bind ((shows_effect (.submit namespaceName pod)).bind ?_)
  refine (shows_exchange reply namespaceName pod).bind ?_
  cases Cluster.submit (m := Id) reply namespaceName pod with
  | ok name => exact shows_events (Cluster.submittedEvents namespaceName name)
  | error error => exact shows_ofExcept (.error (.submission error))

theorem shows_submit_unreached (error : Cluster.RequestError) (namespaceName : String)
    (pod : Pod) :
    Shows (submit (.error error) namespaceName pod) (.error (.submission (.request error))) []
      [] :=
  (shows_ofExcept (.error (.submission (.request error)) : Except LaunchError _)).stop

/-! ## Whole launches -/

/-- A launch gets as far as a pod: its file has a text, a request is read from it, and the pod of
the run can be built. -/
def Prepares (settings : Settings) (file : Except FileError ByteArray) (kind : RunKind)
    (pod : Pod) : Prop :=
  ∃ bytes text request, file = .ok bytes ∧ String.fromUTF8? bytes = some text ∧
    Json.readText RunRequest.read text = .ok request ∧ settings.buildPod kind request = .ok pod

/-- What a launch does with its pod. -/
def finish (settings : Settings) (cluster : ClusterAccess) (action : Action) (pod : Pod) :
    Steps Unit :=
  match action with
  | .render => effect (.print (pod.manifest ++ "\n"))
  | .submit => submit cluster settings.cluster.namespaceName pod

theorem shows_steps_unread {error : LaunchError} (unread : readRequest path file = .error error) :
    Shows (steps settings path file cluster kind action) (.error error) [] [] := by
  refine (shows_effect (.log (startEvent kind))).bind ?_
  refine (shows_effect (.log (clusterEvent settings))).bind ?_
  refine (shows_effect (.log (conventionsEvent settings.conventions))).bind ?_
  rw [unread]
  exact (shows_ofExcept (.error error)).stop

theorem shows_steps_read {request : RunRequest} {result : Except LaunchError Unit}
    {texts : List String} {pods : List (String × Pod)}
    (reads : readRequest path file = .ok request)
    (later : Shows (build settings kind request >>= finish settings cluster action) result texts
      pods) :
    Shows (steps settings path file cluster kind action) result texts pods := by
  refine (shows_effect (.log (startEvent kind))).bind ?_
  refine (shows_effect (.log (clusterEvent settings))).bind ?_
  refine (shows_effect (.log (conventionsEvent settings.conventions))).bind ?_
  rw [reads]
  refine (shows_ofExcept (.ok request)).bind ?_
  exact (shows_effect (.label request.workspaceId)).bind later

/-- With a pod, a launch does nothing that shows before it is done with all else. -/
theorem shows_steps_of_prepares {result : Except LaunchError Unit} {texts : List String}
    {pods : List (String × Pod)} (prepares : Prepares settings file kind pod)
    (last : Shows (finish settings cluster action pod) result texts pods) :
    Shows (steps settings path file cluster kind action) result texts pods := by
  obtain ⟨bytes, text, request, isFile, isText, reads, built⟩ := prepares
  have built' := shows_build settings kind request
  rw [built] at built'
  exact shows_steps_read (readRequest_eq_ok_iff.mpr ⟨bytes, text, isFile, isText, reads⟩)
    (built'.bind last)

/-- Without a pod, nothing shows at all. -/
theorem shows_steps_unprepared (unprepared : ∀ pod, ¬ Prepares settings file kind pod) :
    ∃ error, (∀ refusal, error ≠ .submission refusal) ∧
      Shows (steps settings path file cluster kind action) (.error error) [] [] := by
  cases reads : readRequest path file with
  | error error =>
      exact ⟨error, readRequest_error_ne_submission reads, shows_steps_unread reads⟩
  | ok request =>
      cases built : settings.buildPod kind request with
      | error error =>
          have built' := shows_build settings kind request
          rw [built] at built'
          exact ⟨.build kind request.podName error, nofun, shows_steps_read reads built'.stop⟩
      | ok pod =>
          obtain ⟨bytes, text, isFile, isText, isRequest⟩ := readRequest_eq_ok_iff.mp reads
          exact absurd ⟨bytes, text, request, isFile, isText, isRequest, built⟩ (unprepared pod)

/-- What a launch ends with and what gets out of it. -/
structure Orderly (settings : Settings) (file : Except FileError ByteArray)
    (cluster : ClusterAccess) (kind : RunKind) (action : Action)
    (launched : Except LaunchError Unit × List Effect) : Prop where
  silent : (∀ pod, ¬ Prepares settings file kind pod) →
    printed launched.2 = [] ∧ handedOver launched.2 = []
  rendered : ∀ pod, Prepares settings file kind pod →
    printed launched.2 = if action = .render then [pod.manifest ++ "\n"] else []
  submitted : ∀ pod, Prepares settings file kind pod →
    handedOver launched.2 =
      if action = .submit ∧ cluster.isOk then [(settings.cluster.namespaceName, pod)] else []
  named : launched.1 ≠ .error (.submission .missingName)
  succeeds : launched.1 = .ok () ↔
    ∃ pod, Prepares settings file kind pod ∧
      (action = .submit → ∃ reply name, cluster = .ok reply ∧
        Cluster.submit (m := Id) reply settings.cluster.namespaceName pod = .ok name)

theorem run_of_shows {result : Except LaunchError Unit} {texts : List String}
    {pods : List (String × Pod)}
    (shows : Shows (steps settings path file cluster kind action) result texts pods) :
    (run settings path file cluster kind action).1 = result ∧
      printed (run settings path file cluster kind action).2 = texts ∧
      handedOver (run settings path file cluster kind action).2 = pods := by
  obtain ⟨own, ran, rfl, rfl⟩ := shows []
  rw [run, ran]
  exact ⟨rfl, rfl, rfl⟩

theorem pod_eq_of_prepares {other : Pod} (prepares : Prepares settings file kind pod)
    (prepares' : Prepares settings file kind other) : other = pod := by
  obtain ⟨bytes, text, request, rfl, isText, reads, built⟩ := prepares
  obtain ⟨_, _, _, ⟨⟩, isText', reads', built'⟩ := prepares'
  obtain rfl := Option.some.inj (isText.symm.trans isText')
  obtain rfl := Except.ok.inj (reads.symm.trans reads')
  exact Except.ok.inj (built'.symm.trans built)

/-- A pod with a name is never refused for want of one. -/
theorem submit_ne_missingName (reply : Cluster.CreateRequest → Cluster.Reply)
    (namespaceName : String) {name : String} (named : pod.metadata.name = some name) :
    Cluster.submit (m := Id) reply namespaceName pod ≠ .error .missingName := by
  rw [Cluster.submit, Cluster.createRequest, named]
  cases Cluster.Address.pods? namespaceName with
  | none =>
      intro same
      cases same
  | some address => exact Cluster.submitted_ne_missingName name (reply ⟨address, pod⟩)

theorem named_of_prepares (prepares : Prepares settings file kind pod) :
    ∃ name, pod.metadata.name = some name := by
  obtain ⟨_, _, request, _, _, _, built⟩ := prepares
  obtain ⟨_, rfl⟩ := Settings.buildPod_eq_ok_iff.mp built
  exact ⟨request.podName, rfl⟩

theorem orderly_of_prepares {result : Except LaunchError Unit} {texts : List String}
    {pods : List (String × Pod)} (prepares : Prepares settings file kind pod)
    (last : Shows (finish settings cluster action pod) result texts pods)
    (rendered : texts = if action = .render then [pod.manifest ++ "\n"] else [])
    (submitted : pods =
      if action = .submit ∧ cluster.isOk then [(settings.cluster.namespaceName, pod)] else [])
    (named : result ≠ .error (.submission .missingName))
    (succeeds : result = .ok () ↔ (action = .submit → ∃ reply name, cluster = .ok reply ∧
      Cluster.submit (m := Id) reply settings.cluster.namespaceName pod = .ok name)) :
    Orderly settings file cluster kind action (run settings path file cluster kind action) := by
  obtain ⟨ended, texts_eq, pods_eq⟩ := run_of_shows (shows_steps_of_prepares prepares last)
  constructor
  case silent => exact fun unprepared => absurd prepares (unprepared pod)
  case rendered =>
    intro other prepares'
    rw [pod_eq_of_prepares prepares prepares', texts_eq, rendered]
  case submitted =>
    intro other prepares'
    rw [pod_eq_of_prepares prepares prepares', pods_eq, submitted]
  case named => rwa [ended]
  case succeeds =>
    rw [ended, succeeds]
    constructor
    · exact fun given => ⟨pod, prepares, given⟩
    · rintro ⟨other, prepares', given⟩
      rwa [pod_eq_of_prepares prepares prepares'] at given

theorem orderly_run (settings : Settings) (path : String) (file : Except FileError ByteArray)
    (cluster : ClusterAccess) (kind : RunKind) (action : Action) :
    Orderly settings file cluster kind action
      (run settings path file cluster kind action) := by
  -- The action and the cluster count only once there is a pod.
  by_cases prepared : ∃ pod, Prepares settings file kind pod
  · obtain ⟨pod, prepares⟩ := prepared
    cases action with
    | render =>
        have last : Shows (finish settings cluster .render pod) (.ok ()) [pod.manifest ++ "\n"]
            [] := shows_effect (.print (pod.manifest ++ "\n"))
        exact orderly_of_prepares prepares last rfl (by simp) nofun (by simp)
    | submit =>
        cases cluster with
        | error error =>
            have last := shows_submit_unreached error settings.cluster.namespaceName pod
            exact orderly_of_prepares prepares last rfl (by simp [Except.isOk, Except.toBool])
              nofun (by simp)
        | ok reply =>
            obtain ⟨name, named⟩ := named_of_prepares prepares
            have given := submit_ne_missingName reply settings.cluster.namespaceName named
            have last := shows_submit_reached reply settings.cluster.namespaceName pod
            refine orderly_of_prepares prepares last rfl
              (by simp [Except.isOk, Except.toBool]) ?_ ?_
            · exact fun missing => given (afterSubmission_eq_error_iff.mp missing)
            · simp [afterSubmission_eq_ok_iff]
  · have unprepared := not_exists.mp prepared
    obtain ⟨error, noSubmission, shows⟩ := shows_steps_unprepared unprepared
    obtain ⟨ended, texts, pods⟩ := run_of_shows shows
    constructor
    case silent => exact fun _ => ⟨texts, pods⟩
    case rendered => exact fun pod prepares => absurd prepares (unprepared pod)
    case submitted => exact fun pod prepares => absurd prepares (unprepared pod)
    case named =>
      rw [ended]
      exact fun same => noSubmission .missingName (Except.error.inj same)
    case succeeds =>
      rw [ended]
      exact ⟨nofun, fun ⟨pod, prepares, _⟩ => absurd prepares (unprepared pod)⟩

/-! ## The launcher -/

/-- A program that stops early leaves the output as it is; otherwise what comes behind decides. -/
theorem output_bind {α β : Type} {first : Work α} {next : α → Work β}
    (keeps : ∀ p, (first.run.run p).2.output = p.output) (p : Progress) :
    ((first >>= next).run.run p).2.output = p.output ∨
      ∃ value p', p'.output = p.output ∧
        ((first >>= next).run.run p).2.output = ((next value).run.run p').2.output := by
  have kept := keeps p
  rw [run_bind]
  generalize first.run.run p = ran at kept
  obtain ⟨outcome, p'⟩ := ran
  cases outcome with
  | error failure => exact .inl kept
  | ok value => exact .inr ⟨value, p', kept, rfl⟩

theorem output_setUpLog (s : Surroundings) (settings : Settings) (p : Progress) :
    ((Work.setUpLog s settings).run.run p).2.output = p.output := by
  let ready := p.log.setUp (Work.setting s) (some settings.dataPlane) none
  have opened : (Work.setUpLog s settings).run.run p =
      (MonadExcept.ofExcept (ready.1.mapError Failure.setup) >>= fun _ => pure () :
        Work Unit).run.run { p with log := ready.2 } := rfl
  rw [opened]
  cases ready.1 <;> rfl

theorem output_setUpTracking (s : Surroundings) (settings : Settings) (p : Progress) :
    ((Work.setUpTracking s settings).run.run p).2.output = p.output := by
  rw [Work.setUpTracking]
  cases settings.errorTracking.bind trackingError? <;> rfl

theorem output_effects (time : String) (effects : List Effect) (p : Progress) :
    (effects.foldl (Progress.add time) p).output = p.output ++ String.join (printed effects) := by
  induction effects generalizing p with
  | nil => simp [printed]
  | cons e effects ih =>
      rw [List.foldl_cons, ih]
      cases e <;> simp [printed, Progress.add, Progress.tell, String.append_assoc]

theorem output_launch (s : Surroundings) (settings : Settings) (action : Action) (path : String)
    (kind : RunKind) (p : Progress) :
    ((Work.launch s settings action path kind).run.run p).2.output =
      p.output ++
        String.join (printed (run settings path (s.file path) s.cluster kind action).2) := by
  rw [← output_effects s.time, Work.launch]
  generalize run settings path (s.file path) s.cluster kind action = launched
  obtain ⟨outcome, effects⟩ := launched
  cases outcome <;> rfl

/-- The launcher goes on to a launch only with settings that were loaded and are valid. -/
structure LoadsFirst (s : Surroundings) : Prop where
  checked : ∀ settings, Work.settings s = .ok settings ↔
    Layers.load s.configuration s.vars = .ok settings ∧ settings.invalid? = none
  stops : ∀ failure, Work.settings s = .error failure →
    ∀ action path kind, Work.all s action path kind = throw failure
  output : ∀ action path kind,
    Invocation.ofArguments? s.arguments = some (.launch action path kind) →
      (launcher s).output = "" ∨
        ∃ settings, Layers.load s.configuration s.vars = .ok settings ∧
          settings.invalid? = none ∧
          (launcher s).output =
            String.join (printed (run settings path (s.file path) s.cluster kind action).2)

theorem settings_eq_ok_iff {s : Surroundings} :
    Work.settings s = .ok settings ↔
      Layers.load s.configuration s.vars = .ok settings ∧ settings.invalid? = none := by
  rw [Work.settings, bind_eq_ok_iff]
  simp only [mapError_eq_ok_iff]
  constructor
  · rintro ⟨loaded, load, checked⟩
    cases invalid : loaded.invalid? with
    | some error => simp [invalid] at checked
    | none =>
        rw [invalid] at checked
        obtain rfl := Except.ok.inj checked
        exact ⟨load, invalid⟩
  · rintro ⟨load, valid⟩
    exact ⟨settings, load, by rw [valid]; rfl⟩

/-- With settings, the launcher's output is what its launch prints, if it comes to that. -/
theorem output_all {s : Surroundings} (loaded : Work.settings s = .ok settings) (action : Action)
    (path : String) (kind : RunKind) :
    ((Work.all s action path kind).run.run Progress.start).2.output = "" ∨
      ((Work.all s action path kind).run.run Progress.start).2.output =
        String.join (printed (run settings path (s.file path) s.cluster kind action).2) := by
  have all : Work.all s action path kind = (do
      Work.setUpLog s settings
      Work.setUpTracking s settings
      Work.launch s settings action path kind) := by
    rw [Work.all, loaded]
    rfl
  rw [all]
  rcases output_bind (output_setUpLog s settings) Progress.start with
    stopped | ⟨_, logging, kept, goesOn⟩
  · exact .inl stopped
  rw [goesOn]
  rcases output_bind (output_setUpTracking s settings) logging with
    stopped | ⟨_, tracking, kept', goesOn⟩
  · exact .inl (stopped.trans kept)
  rw [goesOn, output_launch, kept', kept]
  exact .inr String.empty_append

theorem loadsFirst (s : Surroundings) : LoadsFirst s := by
  have all_of_error {failure : Failure} (failed : Work.settings s = .error failure)
      (action : Action) (path : String) (kind : RunKind) :
      Work.all s action path kind = throw failure := by
    rw [Work.all, failed]
    rfl
  constructor
  case checked => exact fun settings => settings_eq_ok_iff
  case stops => exact fun failure failed => all_of_error failed
  case output =>
    intro action path kind launches
    have ends (ran : Except Failure Unit × Progress) :
        (Outcome.ofSteps ran).output = ran.2.output := by
      obtain ⟨failure | _, p⟩ := ran
      · rw [Outcome.ofSteps]
        split <;> rfl
      · rfl
    have output : (launcher s).output =
        ((Work.all s action path kind).run.run Progress.start).2.output := by
      simp only [launcher, launches, ends]
    rw [output]
    cases loaded : Work.settings s with
    | error failure =>
        rw [all_of_error loaded]
        exact .inl rfl
    | ok settings =>
        obtain ⟨load, valid⟩ := settings_eq_ok_iff.mp loaded
        exact (output_all loaded action path kind).imp_right fun same =>
          ⟨settings, load, valid, same⟩

/-- A launch lets nothing out before all else has succeeded, and then one text or one pod; the text
spells the value of the pod that would be handed over. The launcher does not get that far with
settings that it cannot load or that are not valid. -/
theorem launch_holds_back (fits : settings.cluster.runAs.Fits64) (path : String)
    (file : Except FileError ByteArray) (kind : RunKind) :
    (∀ cluster action, Orderly settings file cluster kind action
      (run settings path file cluster kind action)) ∧
    (∀ cluster cluster' namespaceName pod,
      (namespaceName, pod) ∈ handedOver (run settings path file cluster kind .submit).2 →
        ∃ text, printed (run settings path file cluster' kind .render).2 = [text] ∧
          Json.Value.ofText text = .ok pod.json ∧
          Json.Value.ofText pod.json.compact = .ok pod.json) ∧
    ∀ s, LoadsFirst s := by
  refine ⟨fun cluster action => orderly_run settings path file cluster kind action, ?_,
    loadsFirst⟩
  intro cluster cluster' namespaceName pod member
  have submitting := orderly_run settings path file cluster kind .submit
  have rendering := orderly_run settings path file cluster' kind .render
  by_cases prepared : ∃ pod, Prepares settings file kind pod
  · obtain ⟨own, prepares⟩ := prepared
    rw [submitting.submitted own prepares] at member
    split at member
    · obtain ⟨⟨⟩, rfl⟩ := Prod.mk.inj (List.mem_singleton.mp member)
      have shown := rendering.rendered pod prepares
      obtain ⟨_, _, request, _, _, _, built⟩ := prepares
      obtain ⟨compact, manifest⟩ := settings.ofText_built fits built
      exact ⟨_, shown, manifest, compact⟩
    · cases member
  · rw [(submitting.silent (not_exists.mp prepared)).2] at member
    cases member

/-- A file with the sample's request. -/
def sampleFile : Except FileError ByteArray := .ok Sample.request.text.toUTF8

/-- A cluster in which all names are taken. -/
def takenCluster : ClusterAccess := .ok fun _ =>
  .answer Cluster.conflictCode (String.toUTF8 "name is taken")

/-- A launch into a cluster where the name is taken hands its pod over once, and rendering prints
the same pod. -/
theorem launch_holds_back_takenCluster :
    Sample.settings.cluster.runAs.Fits64 ∧
      ∃ pod text,
        handedOver (run Sample.settings "request.json" sampleFile takenCluster .replication
            .submit).2 = [("jobs", pod)] ∧
          printed (run Sample.settings "request.json" sampleFile .unreachable .replication
            .render).2 = [text] ∧
          Json.Value.ofText text = .ok pod.json ∧
          (run Sample.settings "request.json" sampleFile takenCluster .replication
            .submit).1 ≠ .error (.submission .missingName) := by
  have fits : Sample.settings.cluster.runAs.Fits64 := by
    constructor <;> decide
  have prepares : Prepares Sample.settings sampleFile .replication
      (Sample.settings.plannedPod .replication Sample.request) :=
    ⟨_, _, Sample.request, rfl, fromUTF8?_toUTF8 _, RunRequest.readText_text Sample.request,
      Sample.built .replication⟩
  obtain ⟨orderly, agrees, -⟩ := launch_holds_back fits "request.json" sampleFile .replication
  have submitting := orderly takenCluster .submit
  have submitted := submitting.submitted _ prepares
  rw [if_pos ⟨rfl, rfl⟩] at submitted
  obtain ⟨text, printed, same, -⟩ := agrees takenCluster .unreachable _ _
    (submitted ▸ List.mem_singleton_self _)
  exact ⟨fits, _, text, submitted, printed, same, submitting.named⟩

end Launch

end SyncPods
