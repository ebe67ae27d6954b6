import SyncPods.Proofs.BuiltPod
import SyncPods.Run.Journal

/-!
# The order of calls

A build asks its suppliers in a fixed order and stops at the first call that fails, be it that the
supplier refuses it or that the settings or the request make it fail. This holds of every build in
a row of builds, of which none depends on the others but by the refusals of the suppliers.
-/

namespace SyncPods

open Assembly

/-- Which calls are refused for a reason, by the calls before them. -/
abbrev Refusals := List Call → Call → Option String

/-- The outcome of a build, and the journal of its own calls and events. -/
abbrev BuildRecord := Except BuildError Pod × Journal

/-! ## Steps up to the first that fails -/

namespace Assembly

/-- The error of a step after the calls of the past: of a refusal, or else its own. -/
def Step.failure (fails : Refusals) (past : List Call) (step : Step) : Option BuildError :=
  ((fails past step.call).bind (Journal.failure? · step.call)).or step.fault

theorem Step.failure_podSecurity (fails : Refusals) (past : List Call) :
    Step.failure fails past ⟨.podSecurity, none⟩ = none := by
  cases refused : fails past .podSecurity <;> simp [Step.failure, Journal.failure?, refused]

/-- None of the steps fails, each of them after the calls of the past and of the steps before it. -/
def AllPass (fails : Refusals) (past : List Call) (steps : List Step) : Prop :=
  ∀ earlier step later, steps = earlier ++ step :: later →
    step.failure fails (past ++ earlier.map (·.call)) = none

/-- The calls of the steps that are made after those of the past, and the error of the last one. -/
def tried (fails : Refusals) (past : List Call) : List Step → List Call × Option BuildError
  | [] => ([], none)
  | step :: later =>
    match step.failure fails past with
    | some error => ([step.call], some error)
    | none =>
      let (calls, error) := tried fails (past ++ [step.call]) later
      (step.call :: calls, error)

variable {fails : Refusals} {past : List Call} {step : Step} {steps later : List Step}
  {error : BuildError}

theorem allPass_nil : AllPass fails past [] := by
  intro earlier step later split
  simp at split

theorem allPass_cons (passes : step.failure fails past = none)
    (rest : AllPass fails (past ++ [step.call]) later) : AllPass fails past (step :: later) := by
  intro earlier other behind split
  cases earlier with
  | nil =>
      obtain ⟨rfl, rfl⟩ := List.cons.inj split
      simpa using passes
  | cons first earlier =>
      obtain ⟨rfl, tail⟩ := List.cons.inj split
      simpa using rest earlier other behind tail

theorem allPass_concat {last : Step} (rest : AllPass fails past steps)
    (passes : last.failure fails (past ++ steps.map (·.call)) = none) :
    AllPass fails past (steps ++ [last]) := by
  intro earlier step later split
  rcases List.eq_nil_or_concat later with rfl | ⟨inner, end_, rfl⟩
  · obtain ⟨rfl, same⟩ := List.append_inj' split rfl
    obtain ⟨rfl, _⟩ := List.cons.inj same
    exact passes
  · rw [List.concat_eq_append, ← List.cons_append, ← List.append_assoc] at split
    exact rest earlier step inner (List.append_inj' split rfl).1

theorem fault_eq_none_of_allPass (pass : AllPass fails past steps) (member : step ∈ steps) :
    step.fault = none := by
  obtain ⟨earlier, later, split⟩ := List.append_of_mem member
  exact (Option.or_eq_none_iff.mp (pass earlier step later split)).2

theorem tried_of_failure (failure : step.failure fails past = some error) :
    tried fails past (step :: later) = ([step.call], some error) := by
  rw [tried, failure]

theorem tried_of_passes (passes : step.failure fails past = none) :
    tried fails past (step :: later) =
      (step.call :: (tried fails (past ++ [step.call]) later).1,
        (tried fails (past ++ [step.call]) later).2) := by
  rw [tried, passes]

theorem tried_passed (passed : (tried fails past steps).2 = none) :
    AllPass fails past steps ∧ (tried fails past steps).1 = steps.map (·.call) := by
  induction steps generalizing past with
  | nil => exact ⟨allPass_nil, rfl⟩
  | cons step later ih =>
      cases failure : step.failure fails past with
      | some error =>
          rw [tried_of_failure failure] at passed
          cases passed
      | none =>
          rw [tried_of_passes failure] at passed ⊢
          obtain ⟨rest, calls⟩ := ih passed
          exact ⟨allPass_cons failure rest, congrArg (step.call :: ·) calls⟩

theorem tried_failed (failed : (tried fails past steps).2 = some error) :
    ∃ passed step later, steps = passed ++ step :: later ∧ AllPass fails past passed ∧
      step.failure fails (past ++ passed.map (·.call)) = some error ∧
      (tried fails past steps).1 = (passed ++ [step]).map (·.call) := by
  -- Each step is judged after the calls of those before it, so the past grows with the induction.
  induction steps generalizing past with
  | nil => cases failed
  | cons step later ih =>
      cases failure : step.failure fails past with
      | some other =>
          rw [tried_of_failure failure] at failed ⊢
          refine ⟨[], step, later, rfl, allPass_nil, ?_, rfl⟩
          simpa [failure] using failed
      | none =>
          rw [tried_of_passes failure] at failed ⊢
          obtain ⟨passed, failing, behind, rfl, passes, fault, calls⟩ := ih failed
          refine ⟨step :: passed, failing, behind, rfl, allPass_cons failure passes, ?_, ?_⟩
          · simpa using fault
          · exact congrArg (step.call :: ·) calls

/-- Refusals that do not look back treat steps alike after any calls. -/
theorem tried_memoryless (refused : Call → Option String) (past : List Call)
    (steps : List Step) :
    tried (fun _ => refused) past steps = tried (fun _ => refused) [] steps := by
  have alike (step : Step) (past : List Call) :
      step.failure (fun _ => refused) past = step.failure (fun _ => refused) [] := rfl
  induction steps generalizing past with
  | nil => rfl
  | cons step later ih =>
      rw [tried, tried, alike step past, ih (past ++ [step.call]), ih ([] ++ [step.call])]

end Assembly

/-! ## What a journal is left with -/

namespace Journal

instance : Append Journal := ⟨fun j k => ⟨j.calls ++ k.calls, j.events ++ k.events⟩⟩

theorem calls_empty : empty.calls = [] := rfl

theorem append_eq (j k : Journal) : j ++ k = ⟨j.calls ++ k.calls, j.events ++ k.events⟩ := rfl

theorem append_empty (j : Journal) : j ++ empty = j := by
  simp [append_eq, empty]

theorem empty_append (j : Journal) : empty ++ j = j := rfl

/-- The outcome of an assembly that goes on with a journal, and the journal then. -/
def goOn {α : Type} (assembly : Keeping α) (j : Journal) : Except BuildError α × Journal :=
  assembly.run.run j

section Bind

variable {α β : Type} {assembly : Keeping α} {next : α → Keeping β} {j k : Journal}

theorem goOn_bind_ok {value : α} (done : goOn assembly j = (.ok value, k)) :
    goOn (assembly >>= next) j = goOn (next value) k := by
  have opened : goOn (assembly >>= next) j =
      ExceptT.bindCont next (goOn assembly j).1 (goOn assembly j).2 := rfl
  rw [opened, done]
  rfl

theorem goOn_bind_error {error : BuildError} (failed : goOn assembly j = (.error error, k)) :
    goOn (assembly >>= next) j = (.error error, k) := by
  have opened : goOn (assembly >>= next) j =
      ExceptT.bindCont next (goOn assembly j).1 (goOn assembly j).2 := rfl
  rw [opened, failed]
  rfl

end Bind

variable (fails : Refusals)

theorem goOn_fail (fault : Option BuildError) (j : Journal) :
    goOn (fail fault) j = (guarded fault (), j) := by
  cases fault <;> rfl

theorem goOn_ask (step : Step) (j : Journal) :
    goOn (perform (observer fails) (.ask step)) j =
      (guarded (step.failure fails j.calls) (), { j with calls := j.calls ++ [step.call] }) := by
  have called : goOn ((observer fails).call step.call) j =
      (guarded ((fails j.calls step.call).bind (failure? · step.call)) (),
        { j with calls := j.calls ++ [step.call] }) :=
    goOn_fail ((fails j.calls step.call).bind (failure? · step.call)) _
  rw [perform, Step.failure]
  cases refusal : (fails j.calls step.call).bind (failure? · step.call) with
  | some error =>
      rw [refusal] at called
      exact goOn_bind_error called
  | none =>
      rw [refusal] at called
      exact (goOn_bind_ok called).trans (goOn_fail step.fault _)

theorem goOn_checks (faults : List (Option BuildError)) (j : Journal) :
    goOn (forM (faults.map .check) (perform (observer fails))) j =
      (guarded (firstFault faults) (), j) := by
  induction faults with
  | nil => rfl
  | cons fault later ih =>
      have checked : goOn (perform (observer fails) (.check fault)) j = (guarded fault (), j) :=
        goOn_fail fault j
      rw [List.map_cons, List.forM_cons, firstFault_cons]
      cases fault with
      | some error => exact goOn_bind_error checked
      | none => exact (goOn_bind_ok checked).trans ih

theorem goOn_steps (steps : List Step) (j : Journal) :
    goOn (forM (steps.map .ask) (perform (observer fails))) j =
      (guarded (tried fails j.calls steps).2 (),
        { j with calls := j.calls ++ (tried fails j.calls steps).1 }) := by
  induction steps generalizing j with
  | nil =>
      rw [tried, List.append_nil]
      rfl
  | cons step later ih =>
      have asked := goOn_ask fails step j
      rw [List.map_cons, List.forM_cons]
      cases failure : step.failure fails j.calls with
      | some error =>
          rw [failure] at asked
          rw [goOn_bind_error asked, tried_of_failure failure]
          rfl
      | none =>
          rw [failure] at asked
          rw [goOn_bind_ok asked, ih, tried_of_passes failure, List.append_assoc]
          rfl

/-- Nothing fails any more once the pod is told of. -/
theorem goOn_last (event : Log.Event) (j : Journal) :
    goOn (forM [.log event, .ask ⟨.podSecurity, none⟩] (perform (observer fails))) j =
      (.ok (), ⟨j.calls ++ [.podSecurity], j.events ++ [event]⟩) := by
  have told : goOn (perform (observer fails) (.log event)) j =
      (.ok (), { j with events := j.events ++ [event] }) := rfl
  have passes := Step.failure_podSecurity fails j.calls
  have asked := goOn_steps fails [⟨.podSecurity, none⟩] { j with events := j.events ++ [event] }
  rw [tried_of_passes passes] at asked
  rw [List.forM_cons, goOn_bind_ok told]
  exact asked

end Journal

/-! ## One build -/

namespace Settings

variable (settings : Settings) (fails : Refusals) (past : List Call) (kind : RunKind)
  (request : RunRequest)

/-- All steps of a build in their order. -/
def steps : List Step := settings.partSteps kind request ++ [⟨.podSecurity, none⟩]

/-- What a build leaves after the calls of the past. -/
def recordAfter : BuildRecord :=
  match firstFault (imageFaults kind request) with
  | some error => (.error error, Journal.empty)
  | none =>
    match tried fails past (settings.partSteps kind request) with
    | (calls, some error) => (.error error, ⟨calls, []⟩)
    | (calls, none) =>
      (.ok (settings.plannedPod kind request),
        ⟨calls ++ [.podSecurity], [settings.plannedEvent kind request]⟩)

theorem goOn_pod (j : Journal) :
    Journal.goOn (pod (Journal.observer fails) settings kind request) j =
      ((settings.recordAfter fails j.calls kind request).1,
        j ++ (settings.recordAfter fails j.calls kind request).2) := by
  have checked := Journal.goOn_checks fails (imageFaults kind request) j
  have stepped := Journal.goOn_steps fails (settings.partSteps kind request) j
  rw [pod_eq, performed, actions, List.forM_append, List.forM_append, bind_assoc, bind_assoc,
    recordAfter]
  cases images : firstFault (imageFaults kind request) with
  | some error =>
      rw [images] at checked
      rw [Journal.goOn_bind_error checked, Journal.append_empty]
  | none =>
      rw [images] at checked
      rw [Journal.goOn_bind_ok checked]
      generalize tried fails j.calls (settings.partSteps kind request) = result at stepped ⊢
      obtain ⟨calls, failure⟩ := result
      cases failure with
      | some error =>
          rw [Journal.goOn_bind_error stepped, Journal.append_eq, List.append_nil]
      | none =>
          rw [Journal.goOn_bind_ok stepped, Journal.goOn_bind_ok (Journal.goOn_last fails _ _)]
          rw [Journal.append_eq, List.append_assoc]
          rfl

/-- What a build may leave after the calls of the past: an error and no call if an image is missing;
the calls up to the first that fails, with its error; or all calls, the pod and the one event that
tells of it. -/
inductive Leaves : BuildRecord → Prop
  | withoutImage {error : BuildError}
      (missing : firstFault (imageFaults kind request) = some error) :
      Leaves (.error error, ⟨[], []⟩)
  | stopped {passed later : List Step} {step : Step} {error : BuildError}
      (given : firstFault (imageFaults kind request) = none)
      (split : settings.steps kind request = passed ++ step :: later)
      (pass : AllPass fails past passed)
      (failure : step.failure fails (past ++ passed.map (·.call)) = some error) :
      Leaves (.error error, ⟨(passed ++ [step]).map (·.call), []⟩)
  | assembled {pod : Pod} {spec : PodSpec}
      (given : firstFault (imageFaults kind request) = none)
      (pass : AllPass fails past (settings.steps kind request))
      (built : settings.buildPod kind request = .ok pod) (hasSpec : pod.spec = some spec) :
      Leaves (.ok pod, ⟨(settings.steps kind request).map (·.call),
        [assembledEvent kind request spec.containers spec.schedulerName]⟩)

theorem leaves_recordAfter :
    settings.Leaves fails past kind request (settings.recordAfter fails past kind request) := by
  rw [recordAfter]
  cases images : firstFault (imageFaults kind request) with
  | some error => exact .withoutImage images
  | none =>
      rcases result : tried fails past (settings.partSteps kind request) with ⟨calls, _ | error⟩
      · obtain ⟨pass, made⟩ := tried_passed (congrArg Prod.snd result)
        rw [result] at made
        have free : firstFault (settings.faults kind request) = none := by
          rw [firstFault_faults, images, Option.none_or, firstFault_eq_none_iff]
          intro fault member
          obtain ⟨step, inSteps, rfl⟩ := List.mem_map.mp member
          exact fault_eq_none_of_allPass pass inSteps
        have last : Step.failure fails (past ++ (settings.partSteps kind request).map (·.call))
            ⟨.podSecurity, none⟩ = none := Step.failure_podSecurity fails _
        have all : (settings.steps kind request).map (·.call) = calls ++ [.podSecurity] := by
          rw [steps, List.map_append, ← made]
          rfl
        have built : settings.buildPod kind request = .ok (settings.plannedPod kind request) :=
          buildPod_eq_ok_iff.mpr ⟨free, rfl⟩
        have record := Leaves.assembled images (allPass_concat pass last) built rfl
        rw [all] at record
        exact record
      · obtain ⟨passed, step, later, split, pass, failure, made⟩ :=
          tried_failed (congrArg Prod.snd result)
        rw [result] at made
        have all : settings.steps kind request =
            passed ++ step :: (later ++ [⟨.podSecurity, none⟩]) := by
          rw [steps, split, List.append_assoc, List.cons_append]
        have record := Leaves.stopped images all pass failure
        rw [← made] at record
        exact record

/-! ## Builds in a row -/

/-- What builds of the runs leave, one after the other. -/
def recordsAfter (past : List Call) : List (RunKind × RunRequest) → List BuildRecord
  | [] => []
  | run :: later =>
    let record := settings.recordAfter fails past run.1 run.2
    record :: recordsAfter (past ++ record.2.calls) later

theorem length_recordsAfter (runs : List (RunKind × RunRequest)) :
    (settings.recordsAfter fails past runs).length = runs.length := by
  induction runs generalizing past with
  | nil => rfl
  | cons run later ih => rw [recordsAfter, List.length_cons, List.length_cons, ih]

theorem leaves_recordsAfter {runs : List (RunKind × RunRequest)} {kind : RunKind}
    {request : RunRequest} {record : BuildRecord} (i : Nat)
    (atRun : runs[i]? = some (kind, request))
    (atRecord : (settings.recordsAfter fails past runs)[i]? = some record) :
    settings.Leaves fails
      (past ++ ((settings.recordsAfter fails past runs).take i).flatMap (·.2.calls))
      kind request record := by
  induction runs generalizing past i with
  | nil => cases atRun
  | cons run later ih =>
      rw [recordsAfter] at atRecord ⊢
      cases i with
      | zero =>
          obtain rfl := Option.some.inj atRun
          obtain rfl := Option.some.inj atRecord
          simpa using settings.leaves_recordAfter fails past kind request
      | succ i =>
          rw [List.getElem?_cons_succ] at atRun atRecord
          simpa [List.append_assoc] using ih _ i atRun atRecord

theorem goOn_builds (runs : List (RunKind × RunRequest)) (j : Journal) :
    (runs.mapM fun run => (pod (Journal.observer fails) settings run.1 run.2).run).run j =
      ((settings.recordsAfter fails j.calls runs).map (·.1),
        j ++ ⟨(settings.recordsAfter fails j.calls runs).flatMap (·.2.calls),
          (settings.recordsAfter fails j.calls runs).flatMap (·.2.events)⟩) := by
  induction runs generalizing j with
  | nil => exact congrArg (([] : List (Except BuildError Pod)), ·) j.append_empty.symm
  | cons run later ih =>
      have first := settings.goOn_pod fails run.1 run.2 j
      have opened : ((run :: later).mapM fun run =>
            (pod (Journal.observer fails) settings run.1 run.2).run).run j =
          let first := Journal.goOn (pod (Journal.observer fails) settings run.1 run.2) j
          let rest := (later.mapM fun run =>
            (pod (Journal.observer fails) settings run.1 run.2).run).run first.2
          (first.1 :: rest.1, rest.2) := by
        rw [List.mapM_cons]
        rfl
      rw [opened, first]
      dsimp only
      rw [ih]
      simp [recordsAfter, Journal.append_eq]

theorem traceBuild_eq (refused : Call → Option String) :
    settings.traceBuild refused kind request =
      settings.recordAfter (fun _ => refused) [] kind request := by
  have alone := settings.goOn_pod (fun _ => refused) kind request Journal.empty
  rw [Journal.empty_append, Journal.goOn, Journal.calls_empty] at alone
  rw [traceBuild, alone]

theorem recordsAfter_memoryless (refused : Call → Option String)
    (runs : List (RunKind × RunRequest)) :
    settings.recordsAfter (fun _ => refused) past runs =
      runs.map fun run => settings.traceBuild refused run.1 run.2 := by
  induction runs generalizing past with
  | nil => rfl
  | cons run later ih =>
      have alike : settings.recordAfter (fun _ => refused) past run.1 run.2 =
          settings.traceBuild refused run.1 run.2 := by
        rw [traceBuild_eq, recordAfter, recordAfter, tried_memoryless]
      rw [recordsAfter, ih, alike, List.map_cons]

/-- Builds in a row leave a record each, made of its own calls and events and of what is refused
after the calls before it. Where refusals do not look back, no build makes a difference to
another. -/
theorem traceBuilds_in_order (settings : Settings) (fails : Refusals)
    (runs : List (RunKind × RunRequest)) :
    ∃ records : List BuildRecord,
      settings.traceBuilds fails runs =
          (records.map (·.1),
            ⟨records.flatMap (·.2.calls), records.flatMap (·.2.events)⟩) ∧
        records.length = runs.length ∧
        (∀ i kind request record, runs[i]? = some (kind, request) → records[i]? = some record →
          settings.Leaves fails ((records.take i).flatMap (·.2.calls)) kind request record) ∧
        ∀ refused, fails = (fun _ => refused) →
          records = runs.map fun run => settings.traceBuild refused run.1 run.2 := by
  refine ⟨settings.recordsAfter fails [] runs, ?_, settings.length_recordsAfter fails [] runs,
    ?_, ?_⟩
  · exact settings.goOn_builds fails runs Journal.empty
  · intro i kind request record atRun atRecord
    exact settings.leaves_recordsAfter fails [] i atRun atRecord
  · rintro refused rfl
    exact settings.recordsAfter_memoryless [] refused runs

-- Suppliers that refuse every call once let each of six resets get one call further.
example :
    (Sample.settings.traceBuilds (fun past call => if call ∈ past then none else some "busy")
      (List.replicate 6 (.reset, Sample.request))).1.map Except.isOk =
      [false, false, false, false, false, true] := by
  decide

end Settings

end SyncPods
