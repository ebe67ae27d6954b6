import SyncPods.Proofs.ShellCommands
import SyncPods.Proofs.ShellQuotes
import SyncPods.Proofs.SidecarTrap

/-!
# The files that a connector's script names

A connector's script runs the connector in the background, with its output in a file, stops it once
the marker of the sidecar is there, and leaves its exit code in another file. The paths of the three
files stand in the script without quotes, so a shell reads each of them as one word only if nothing
in it needs quotes. The script is read piece by piece, and its commands are compared with those that
it is meant to consist of.
-/

namespace SyncPods

open Shell

/-! ## The parts of a connector's script -/

/-- Looks whether the entrypoint is set. -/
def guardCommands (entrypoint : String) : List Command :=
  [⟨[bare "[", bare "-z", [.parameter entrypoint true], bare "]"], []⟩,
    ⟨[bare "echo", quoted ("Entrypoint was not set! " ++ entrypoint ++
      " must be set in the container.")], []⟩,
    ⟨[bare "exit", bare "127"], []⟩,
    ⟨[bare "echo", quoted ("Using " ++ entrypoint ++ ": ") ++ [.parameter entrypoint true]], []⟩]

/-- What is evaluated to run the connector. -/
def execWords (entrypoint operation arguments : String) : List Word :=
  [bare "eval", quoted "exec " ++ .parameter entrypoint true ::
    quoted (" " ++ operation ++ " " ++ arguments)]

/-- Starts the connector, with its output in a file. -/
def launchCommands (entrypoint operation arguments : String) (jobOutput : Word) : List Command :=
  [⟨execWords entrypoint operation arguments,
      [⟨none, ">", jobOutput⟩, ⟨some "2", ">&", bare "1"⟩]⟩,
    ⟨[bare "CHILD_PID=" ++ [.parameter "!" false]], []⟩]

/-- Stops the connector once there is a file. -/
def watchdogCommands (marker : Word) : List Command :=
  [⟨[bare "kill", bare "-0", [.parameter "CHILD_PID" false]],
      [⟨some "2", ">", bare "/dev/null"⟩]⟩,
    ⟨[bare "[", bare "-f", marker, bare "]"], []⟩,
    ⟨[bare "kill", [.parameter "CHILD_PID" false]], []⟩,
    ⟨[bare "exit", bare "0"], []⟩,
    ⟨[bare "sleep", bare "10"], []⟩]

/-- Leaves the exit code of the connector in a file, and ends with it. -/
def handOverCommands (exitCode : Word) : List Command :=
  [⟨[bare "wait", [.parameter "CHILD_PID" false]], []⟩,
    ⟨[bare "EXIT_CODE=" ++ [.parameter "?" false]], []⟩,
    ⟨[bare "echo", [.parameter "EXIT_CODE" false]], [⟨none, ">", exitCode⟩]⟩,
    ⟨[bare "exit", [.parameter "EXIT_CODE" false]], []⟩]

theorem entrypointGuard_eq (entrypoint : String) :
    Script.entrypointGuard entrypoint =
      "if [ -z " ++ ("\"" ++ "" ++ "$" ++ entrypoint ++ "" ++ "\"" ++ " ") ++
        ("]; then\n" ++ "  echo ") ++
        ("\"" ++ ("Entrypoint was not set! " ++ entrypoint ++ " must be set in the container.") ++
          "\"" ++ "\n") ++
        ("  exit " ++ toString Script.unsetEntrypointCode ++ "\n" ++ "else\n" ++ "  echo ") ++
        ("\"" ++ ("Using " ++ entrypoint ++ ": ") ++ "$" ++ entrypoint ++ "" ++ "\"" ++ "\n") ++
        ("fi\n" ++ "\n") := by
  have test : "if [ -z \"$" = "if [ -z " ++ ("\"" ++ "$") := rfl
  have tested : "\" ]; then\n" = "\"" ++ (" " ++ "]; then\n") := rfl
  have complains : "  echo \"Entrypoint was not set! " =
      "  echo " ++ ("\"" ++ "Entrypoint was not set! ") := rfl
  have complained : " must be set in the container.\"\n" =
      " must be set in the container." ++ ("\"" ++ "\n") := rfl
  have reports : "  echo \"Using " = "  echo " ++ ("\"" ++ "Using ") := rfl
  have colon : ": $" = ": " ++ "$" := rfl
  have reported : "\"\n" = "\"" ++ "\n" := rfl
  unfold Script.entrypointGuard
  simp only [test, tested, complains, complained, reports, colon, reported, String.append_assoc,
    String.empty_append, -String.reduceAppend]

theorem readsAs_guard {entrypoint : String} (isName : isName entrypoint = true) :
    ReadsAs ∅ (Script.entrypointGuard entrypoint) (guardCommands entrypoint) ∅ := by
  have opening : Reads "if [ -z " [.word (bare "if"), .word (bare "["), .word (bare "-z")] :=
    reads_of_run rfl
  have value := spells_parameter "" entrypoint "" (.of_plain (by decide)) isName
    (.of_plain (by decide)) (by decide)
  have test : Reads ("]; then\n" ++ "  echo ")
      [.word (bare "]"), .operator ";", .word (bare "then"), .newline, .word (bare "echo")] :=
    reads_of_run rfl
  have complaint := spells_double (standsInDouble_message "Entrypoint was not set! " entrypoint
    " must be set in the container." isName (by decide))
  have leaves : Reads ("  exit " ++ toString Script.unsetEntrypointCode ++ "\n" ++ "else\n" ++
      "  echo ")
      [.word (bare "exit"), .word (bare "127"), .newline, .word (bare "else"), .newline,
        .word (bare "echo")] :=
    reads_of_run rfl
  have message := standsInDouble_message "Using " entrypoint ": " isName (by decide)
  have report := spells_parameter _ entrypoint "" message isName (.of_plain (by decide)) (by decide)
  have closing : Reads ("fi\n" ++ "\n") [.word (bare "fi"), .newline, .newline] :=
    reads_of_run rfl
  rw [entrypointGuard_eq]
  exact ⟨_, (((((opening.append value.blank).append test).append complaint.line).append
    leaves).append report.line).append closing, fun done rest => rfl⟩

/-- The beginning of the command that starts the connector. -/
def launchOpening (entrypoint operation arguments : String) : String :=
  ("# run the connector in the background and keep its pid\n" ++ "(eval ") ++
    ("\"" ++ "exec " ++ "$" ++ entrypoint ++ (" " ++ operation ++ " " ++ arguments) ++ "\"" ++ " ")

/-- What is done with the output of the connector. -/
def launchClosing (jobOutput : String) : String :=
  "> " ++ (jobOutput ++ " ") ++ ("2>&1) &\n" ++ "CHILD_PID=$!\n" ++ "\n")

theorem launch_eq (entrypoint operation arguments jobOutput : String) :
    Script.launch entrypoint operation arguments jobOutput =
      launchOpening entrypoint operation arguments ++ launchClosing jobOutput := by
  have opening : "(eval \"exec $" = "(eval " ++ ("\"" ++ ("exec " ++ "$")) := rfl
  have closing : "\" > " = "\"" ++ (" " ++ "> ") := rfl
  have ends : " 2>&1) &\n" = " " ++ "2>&1) &\n" := rfl
  unfold Script.launch launchOpening launchClosing
  simp only [opening, closing, ends, String.append_assoc, -String.reduceAppend]

theorem readsAs_launchOpening {entrypoint operation arguments : String}
    (isName : isName entrypoint = true)
    (stands : StandsInDouble (" " ++ operation ++ " " ++ arguments).toList) :
    ReadsAs ∅ (launchOpening entrypoint operation arguments) []
      ⟨execWords entrypoint operation arguments, []⟩ := by
  have comment : Reads "# run the connector in the background and keep its pid\n" [.newline] :=
    reads_comment " run the connector in the background and keep its pid" (by simp)
  have before : Reads "(eval " [.operator "(", .word (bare "eval")] := reads_of_run rfl
  have evaluated := spells_parameter "exec " entrypoint (" " ++ operation ++ " " ++ arguments)
    (.of_plain (by decide)) isName stands (by simp [String.toList_append]; decide)
  exact ⟨_, (comment.append before).append evaluated.blank, fun done rest => rfl⟩

theorem readsAs_launchClosing {jobOutput : String} {word : Word} (spells : Spells jobOutput word)
    (entrypoint operation arguments : String) :
    ReadsAs ⟨execWords entrypoint operation arguments, []⟩ (launchClosing jobOutput)
      (launchCommands entrypoint operation arguments word) ∅ := by
  have redirected : Reads "> " [.operator ">"] := reads_of_run rfl
  have after : Reads ("2>&1) &\n" ++ "CHILD_PID=$!\n" ++ "\n")
      [.descriptor "2", .operator ">&", .word (bare "1"), .operator ")", .operator "&", .newline,
        .word (bare "CHILD_PID=" ++ [Part.parameter "!" false]), .newline, .newline] :=
    reads_of_run rfl
  exact ⟨_, (redirected.append spells.blank).append after, fun done rest => rfl⟩

theorem watchdog_eq (marker : String) :
    Script.watchdog marker =
      ("# stop the connector once the termination marker shows up\n" ++
        ("(while kill -0 $CHILD_PID 2>/dev/null; " ++ "do if [ -f ")) ++ (marker ++ " ") ++
        ("]; then kill $CHILD_PID; exit 0; fi; sleep " ++
          (toString Script.pollSeconds ++ "; done) &\n" ++ "\n")) := by
  have waits : "(while kill -0 $CHILD_PID 2>/dev/null; do if [ -f " =
      "(while kill -0 $CHILD_PID 2>/dev/null; " ++ "do if [ -f " := rfl
  have closing : " ]; then kill $CHILD_PID; exit 0; fi; sleep " =
      " " ++ "]; then kill $CHILD_PID; exit 0; fi; sleep " := rfl
  unfold Script.watchdog
  simp only [waits, closing, String.append_assoc, -String.reduceAppend]

theorem readsAs_watchdog {marker : String} {word : Word} (spells : Spells marker word) :
    ReadsAs ∅ (Script.watchdog marker) (watchdogCommands word) ∅ := by
  have comment : Reads "# stop the connector once the termination marker shows up\n" [.newline] :=
    reads_comment " stop the connector once the termination marker shows up" (by simp)
  have looks : Reads "(while kill -0 $CHILD_PID 2>/dev/null; "
      [.operator "(", .word (bare "while"), .word (bare "kill"), .word (bare "-0"),
        .word [.parameter "CHILD_PID" false], .descriptor "2", .operator ">",
        .word (bare "/dev/null"), .operator ";"] :=
    reads_of_run rfl
  have before : Reads "do if [ -f " [.word (bare "do"), .word (bare "if"), .word (bare "["),
      .word (bare "-f")] :=
    reads_of_run rfl
  have stops : Reads "]; then kill $CHILD_PID; exit 0; fi; sleep "
      [.word (bare "]"), .operator ";", .word (bare "then"), .word (bare "kill"),
        .word [.parameter "CHILD_PID" false], .operator ";", .word (bare "exit"),
        .word (bare "0"), .operator ";", .word (bare "fi"), .operator ";", .word (bare "sleep")] :=
    reads_of_run rfl
  have closing : Reads (toString Script.pollSeconds ++ "; done) &\n" ++ "\n")
      [.word (bare "10"), .operator ";", .word (bare "done"), .operator ")", .operator "&",
        .newline, .newline] :=
    reads_of_run rfl
  rw [watchdog_eq]
  exact ⟨_, ((comment.append (looks.append before)).append spells.blank).append
    (stops.append closing), fun done rest => rfl⟩

theorem handOver_eq (exitCode : String) :
    Script.handOver exitCode =
      ("wait $CHILD_PID\n" ++ "EXIT_CODE=$?\n" ++ "\n" ++
        "# hand the exit code over to the sidecar\n" ++ "echo $EXIT_CODE > ") ++
        (exitCode ++ "\n") ++ ("\n" ++ "exit $EXIT_CODE\n") := by
  unfold Script.handOver
  simp only [String.append_assoc, -String.reduceAppend]

theorem readsAs_handOver {exitCode : String} {word : Word} (spells : Spells exitCode word) :
    ReadsAs ∅ (Script.handOver exitCode) (handOverCommands word) ∅ := by
  have waits : Reads ("wait $CHILD_PID\n" ++ "EXIT_CODE=$?\n" ++ "\n")
      [.word (bare "wait"), .word [.parameter "CHILD_PID" false], .newline,
        .word (bare "EXIT_CODE=" ++ [Part.parameter "?" false]), .newline, .newline] :=
    reads_of_run rfl
  have comment : Reads "# hand the exit code over to the sidecar\n" [.newline] :=
    reads_comment " hand the exit code over to the sidecar" (by simp)
  have report : Reads "echo $EXIT_CODE > "
      [.word (bare "echo"), .word [.parameter "EXIT_CODE" false], .operator ">"] :=
    reads_of_run rfl
  have after : Reads ("\n" ++ "exit $EXIT_CODE\n")
      [.newline, .word (bare "exit"), .word [.parameter "EXIT_CODE" false], .newline] :=
    reads_of_run rfl
  rw [handOver_eq]
  exact ⟨_, (((waits.append comment).append report).append spells.line).append after,
    fun done rest => rfl⟩

/-! ## The script of a connector -/

/-- The script is read as one that runs the operation with the arguments, in which the output, the
exit code and the file that stops the connector are those of the conventions. -/
def Supervises (c : Conventions) (operation arguments script : String) : Prop :=
  ∃ jobOutput marker exitCode : Word,
    jobOutput.target? = some (c.configFile c.jobOutputFile) ∧
      marker.literal? = some (c.configFile c.terminationMarker) ∧
      exitCode.target? = some (c.configFile c.exitCodeFile) ∧
      commands script = some (guardCommands c.entrypointVariable ++
        launchCommands c.entrypointVariable operation arguments jobOutput ++
        watchdogCommands marker ++ handOverCommands exitCode)

/-- What a script has behind the beginning of the command that starts the connector. -/
def supervision (jobOutput marker exitCode : String) : String :=
  launchClosing jobOutput ++ Script.watchdog marker ++ Script.handOver exitCode

theorem connector_eq (c : Conventions) (operation arguments : String) :
    Script.connector c operation arguments =
      Script.entrypointGuard c.entrypointVariable ++
        launchOpening c.entrypointVariable operation arguments ++
        supervision (c.configFile c.jobOutputFile) (c.configFile c.terminationMarker)
          (c.configFile c.exitCodeFile) := by
  unfold Script.connector supervision
  simp only [launch_eq, String.append_assoc]

/-- There are no quotes but those of the paths. -/
theorem countP_supervision (jobOutput marker exitCode : String) :
    (supervision jobOutput marker exitCode).toList.countP isQuote =
      jobOutput.toList.countP isQuote + marker.toList.countP isQuote +
        exitCode.toList.countP isQuote := by
  have texts : ∀ text ∈ ["> ", " ", "2>&1) &\n", "CHILD_PID=$!\n", "\n",
      "# stop the connector once the termination marker shows up\n",
      "(while kill -0 $CHILD_PID 2>/dev/null; ", "do if [ -f ",
      "]; then kill $CHILD_PID; exit 0; fi; sleep ", toString Script.pollSeconds, "; done) &\n",
      "wait $CHILD_PID\n", "EXIT_CODE=$?\n", "# hand the exit code over to the sidecar\n",
      "echo $EXIT_CODE > ", "exit $EXIT_CODE\n"], text.toList.countP isQuote = 0 := by
    decide
  simp only [List.forall_mem_cons] at texts
  simp only [supervision, launchClosing, watchdog_eq, handOver_eq, String.toList_append,
    List.countP_append, texts, Nat.zero_add, Nat.add_zero]

/-- The words of the three files are words of the script behind the beginning of the command that
starts the connector, each in a place of its own. -/
theorem Supervises.exists_tokens {c : Conventions} {operation arguments : String}
    (isName : isName c.entrypointVariable = true)
    (stands : StandsInDouble (" " ++ operation ++ " " ++ arguments).toList)
    (supervises : Supervises c operation arguments (Script.connector c operation arguments)) :
    ∃ jobOutput marker exitCode : Word, ∃ toks,
      jobOutput.target? = some (c.configFile c.jobOutputFile) ∧
        marker.literal? = some (c.configFile c.terminationMarker) ∧
        exitCode.target? = some (c.configFile c.exitCodeFile) ∧
        tokens (supervision (c.configFile c.jobOutputFile) (c.configFile c.terminationMarker)
          (c.configFile c.exitCodeFile)) = some toks ∧
        ∀ f : Word → Nat, f jobOutput + f marker + f exitCode ≤
          (toks.map (Token.weight f)).sum := by
  obtain ⟨jobOutput, marker, exitCode, output, mark, code, whole⟩ := supervises
  have begins := (readsAs_guard isName).append (readsAs_launchOpening isName stands)
  rw [List.append_nil] at begins
  rw [connector_eq, List.append_assoc, List.append_assoc] at whole
  obtain ⟨toks, read, weighs⟩ := begins.sum_weight_le whole
  refine ⟨jobOutput, marker, exitCode, toks, output, mark, code, read, fun f => ?_⟩
  have among := weighs f
  simp only [launchCommands, watchdogCommands, handOverCommands, Command.weight, List.map_append,
    List.map_cons, List.map_nil, List.sum_append, List.sum_cons, List.sum_nil] at among
  omega

theorem sum_weight_letters (p : Char → Bool) (toks : List Token) :
    (toks.map (Token.weight fun word => (Token.word word).letters.countP p)).sum =
      (toks.flatMap Token.letters).countP p := by
  rw [List.countP_flatMap]
  congr 1
  refine List.map_congr_left fun token _ => ?_
  cases token <;> rfl

theorem supervises_of_plain {c : Conventions} {operation arguments : String}
    (isName : isName c.entrypointVariable = true)
    (stands : StandsInDouble (" " ++ operation ++ " " ++ arguments).toList)
    (output : IsPlainWord (c.configFile c.jobOutputFile))
    (mark : IsPlainWord (c.configFile c.terminationMarker))
    (code : IsPlainWord (c.configFile c.exitCodeFile))
    (noPattern : (bare (c.configFile c.terminationMarker)).any Part.isPattern = false) :
    Supervises c operation arguments (Script.connector c operation arguments) := by
  have begins := (readsAs_guard isName).append (readsAs_launchOpening isName stands)
  have starts := begins.append
    (readsAs_launchClosing (spells_bare output) c.entrypointVariable operation arguments)
  have supervised := (starts.append (readsAs_watchdog (spells_bare mark))).append
    (readsAs_handOver (spells_bare code))
  refine ⟨_, _, _, target?_bare output, literal?_bare mark noPattern, target?_bare code, ?_⟩
  have read := supervised.commands_eq
  rw [List.append_nil] at read
  rw [connector_eq, supervision, ← String.append_assoc, ← String.append_assoc]
  exact read

/-- No other paths will do. A quote would have to come out of the paths, but outside of quotes none
does. -/
theorem Supervises.plain {c : Conventions} {operation arguments : String}
    (isName : isName c.entrypointVariable = true)
    (stands : StandsInDouble (" " ++ operation ++ " " ++ arguments).toList)
    (supervises : Supervises c operation arguments (Script.connector c operation arguments)) :
    (∀ file ∈ [c.jobOutputFile, c.terminationMarker, c.exitCodeFile],
        IsPlainWord (c.configFile file)) ∧
      (bare (c.configFile c.terminationMarker)).any Part.isPattern = false := by
  obtain ⟨jobOutput, marker, exitCode, toks, output, literal, code, read, among⟩ :=
    supervises.exists_tokens isName stands
  have mark := (target?_of_literal? literal).1
  -- Weighed by itself a word of the commands is a word of the script; weighed by its quotes, none
  -- of them is lost.
  have listed (word : Word) (one : word = jobOutput ∨ word = marker ∨ word = exitCode) :
      Token.word word ∈ toks := by
    have counted := among fun other => if other = word then 1 else 0
    refine mem_of_sum_weight (Nat.lt_of_lt_of_le ?_ counted)
    rcases one with rfl | rfl | rfl <;> simp only [↓reduceIte] <;> omega
  have quotes := among fun word => (Token.word word).letters.countP isQuote
  rw [sum_weight_letters, letters_of_target? output, letters_of_target? mark,
    letters_of_target? code, ← countP_supervision] at quotes
  have plain := plain_of_tokens read quotes
  have nonempty (file : String) : c.configFile file ≠ "" := by
    rw [ne_eq, ← String.toList_inj]
    simp [Conventions.configFile]
  have needsNone {word : Word} {file : String} (named : Token.word word ∈ toks)
      (target : word.target? = some (c.configFile file)) : IsPlainWord (c.configFile file) :=
    isPlainWord_of_target? (nonempty file) (plain word named).1 (plain word named).2 target
  have marked := listed marker (.inr (.inl rfl))
  refine ⟨?_, noPattern_of_literal? (plain marker marked).1 literal⟩
  simp only [List.forall_mem_cons]
  exact ⟨needsNone (listed _ (.inl rfl)) output, needsNone marked mark,
    needsNone (listed _ (.inr (.inr rfl))) code, by simp⟩

theorem supervises_connector_iff {c : Conventions} (isName : isName c.entrypointVariable = true)
    {operation arguments : String}
    (stands : StandsInDouble (" " ++ operation ++ " " ++ arguments).toList) :
    Supervises c operation arguments (Script.connector c operation arguments) ↔
      (∀ file ∈ [c.jobOutputFile, c.terminationMarker, c.exitCodeFile],
          IsPlainWord (c.configFile file)) ∧
        (bare (c.configFile c.terminationMarker)).any Part.isPattern = false := by
  refine ⟨Supervises.plain isName stands, ?_⟩
  rintro ⟨plain, noPattern⟩
  simp only [List.forall_mem_cons] at plain
  exact supervises_of_plain isName stands plain.1 plain.2.1 plain.2.2.1 noPattern

/-! ## All scripts -/

/-- The containers with these mounts of a volume have it at the directory of the conventions, and
the orchestrator leaves the marker in the same volume. -/
def SharesMarker (c : Conventions) (orchestratorMounts mounts : List VolumeMount)
    (volume : String) : Prop :=
  (mounts.filter (·.name = volume)).map (·.mountPath) = [c.configDir] ∧
    ∃ dir, (orchestratorMounts.filter (·.name = volume)).map (·.mountPath) = [dir] ∧
      dir ++ "/" ++ c.terminationMarker ∈ markerPaths c orchestratorMounts

theorem sharesMarker_replication (c : Conventions) (secret : Option String) (fileTransfer : Bool) :
    let volumes := VolumeSet.replication c secret fileTransfer
    SharesMarker c volumes.orchestratorMounts volumes.sourceMounts sourceVolume ∧
      SharesMarker c volumes.orchestratorMounts volumes.destinationMounts destinationVolume := by
  cases secret <;> cases fileTransfer <;>
    simp [SharesMarker, markerPaths, VolumeSet.replication, VolumeSet.secretMounts,
      VolumeMount.plain, sourceVolume, destinationVolume, configVolume, secretsVolume,
      stagingVolume]

theorem sharesMarker_reset (c : Conventions) (secret : Option String) :
    let volumes := VolumeSet.reset c secret
    SharesMarker c volumes.orchestratorMounts volumes.destinationMounts destinationVolume := by
  cases secret <;>
    simp [SharesMarker, markerPaths, VolumeSet.reset, VolumeSet.secretMounts, VolumeMount.plain,
      destinationVolume, configVolume, secretsVolume]

/-- A connector's operation with the files that it is given, each of them behind an option. -/
structure Operation where
  name : String
  files : List (String × String)

namespace Operation

def arguments (c : Conventions) (operation : Operation) : String :=
  " ".intercalate (operation.files.map fun (option, file) => option ++ " " ++ c.configFile file)

/-- The operations of connectors with their scripts. -/
def scripts (c : Conventions) : List (Operation × String) :=
  let config := ("--config", c.connectorConfigFile)
  let catalog := ("--catalog", c.catalogFile)
  let state := ("--state", c.inputStateFile)
  [(⟨"read", [config, catalog, state]⟩, Script.sourceRead c),
    (⟨"write", [config, catalog]⟩, Script.destinationWrite c),
    (⟨"check", [config]⟩, Script.check c),
    (⟨"discover", [config]⟩, Script.discover c),
    (⟨"spec", []⟩, Script.spec c)]

theorem scripts_eq_connector (c : Conventions) :
    ∀ script ∈ scripts c, script.2 = Script.connector c script.1.name (script.1.arguments c) := by
  have config : "--config " = "--config" ++ " " := rfl
  have catalog : "--catalog " = "--catalog" ++ " " := rfl
  have state : "--state " = "--state" ++ " " := rfl
  simp only [scripts, List.forall_mem_cons, Script.sourceRead, Script.destinationWrite,
    Script.check, Script.discover, Script.spec, Script.configArgument, Script.catalogArgument,
    Script.stateArgument, config, catalog, state, -String.reduceAppend]
  exact ⟨rfl, rfl, rfl, rfl, rfl, by simp⟩

/-- The names of operations and options are of letters and dashes. -/
theorem standsInDouble_of_mem_scripts {c : Conventions} {script : Operation × String}
    (listed : script ∈ scripts c) :
    ∀ text ∈ script.1.name :: script.1.files.map Prod.fst, StandsInDouble text.toList := by
  have known : ∀ text ∈ script.1.name :: script.1.files.map Prod.fst,
      text ∈ ["read", "write", "check", "discover", "spec", "--config", "--catalog",
        "--state"] := by
    revert script
    simp only [scripts, List.forall_mem_cons, List.map_cons, List.map_nil]
    simp
  have plain : ∀ text ∈ ["read", "write", "check", "discover", "spec", "--config", "--catalog",
      "--state"], text.toList.all (!isDoubleSpecial ·) = true := by
    decide
  exact fun text named => .of_plain (plain text (known text named))

theorem standsInDouble_arguments {c : Conventions} {operation : Operation}
    (options : ∀ option ∈ operation.files.map Prod.fst, StandsInDouble option.toList)
    (kept : ∀ file ∈ operation.files.map Prod.snd, StandsInDouble (c.configFile file).toList) :
    StandsInDouble (operation.arguments c).toList := by
  have blank : StandsInDouble " ".toList := .of_plain (by decide)
  rw [arguments, String.toList_intercalate]
  generalize operation.files = files at options kept
  induction files with
  | nil => exact .of_plain (by simp)
  | cons first files ih =>
      simp only [List.map_cons, List.forall_mem_cons] at options kept
      have one : StandsInDouble (first.1 ++ " " ++ c.configFile first.2).toList := by
        simp only [String.toList_append]
        exact (options.1.append blank).append kept.1
      have rest := ih options.2 kept.2
      cases files with
      | nil => simpa using one
      | cons next files =>
          simp only [List.map_cons] at rest ⊢
          rw [List.intercalate_cons_cons]
          exact (one.append blank).append rest

end Operation

/-- Where the entrypoint is the name of a variable, the script of an operation keeps the connector's
output, its exit code and the file that stops it in the files of the conventions just if no quotes
are needed for their paths. Other files must stand for themselves in the double quotes around the
arguments. The file that stops the connector is the one that the orchestrator leaves in the
connector's volume. -/
theorem scripts_supervise_iff (c : Conventions) (isName : isName c.entrypointVariable = true) :
    (∀ script ∈ Operation.scripts c,
        (∀ file ∈ script.1.files.map Prod.snd, StandsInDouble (c.configFile file).toList) →
          (Supervises c script.1.name (script.1.arguments c) script.2 ↔
            (∀ file ∈ [c.jobOutputFile, c.terminationMarker, c.exitCodeFile],
                IsPlainWord (c.configFile file)) ∧
              (bare (c.configFile c.terminationMarker)).any Part.isPattern = false)) ∧
      (∀ secret fileTransfer,
        let volumes := VolumeSet.replication c secret fileTransfer
        SharesMarker c volumes.orchestratorMounts volumes.sourceMounts sourceVolume ∧
          SharesMarker c volumes.orchestratorMounts volumes.destinationMounts
            destinationVolume) ∧
      ∀ secret,
        let volumes := VolumeSet.reset c secret
        SharesMarker c volumes.orchestratorMounts volumes.destinationMounts destinationVolume := by
  refine ⟨fun script listed kept => ?_, sharesMarker_replication c, sharesMarker_reset c⟩
  obtain ⟨named, options⟩ :=
    List.forall_mem_cons.mp (Operation.standsInDouble_of_mem_scripts listed)
  have blank : StandsInDouble " ".toList := .of_plain (by decide)
  rw [Operation.scripts_eq_connector c script listed]
  refine supervises_connector_iff isName ?_
  simp only [String.toList_append]
  exact ((blank.append named).append blank).append (Operation.standsInDouble_arguments options kept)

/-- The operation in which a source reads, with the names of the built-in conventions. -/
def readOperation : Operation where
  name := "read"
  files := [("--config", "connectorConfig.json"), ("--catalog", "catalog.json"),
    ("--state", "inputState.json")]

theorem scripts_supervise_builtIn :
    isName Conventions.builtIn.entrypointVariable = true ∧
      (readOperation, Script.sourceRead .builtIn) ∈ Operation.scripts .builtIn ∧
      Supervises .builtIn readOperation.name (readOperation.arguments .builtIn)
        (Script.sourceRead .builtIn) := by
  have isName : isName Conventions.builtIn.entrypointVariable = true := by decide
  have listed : (readOperation, Script.sourceRead .builtIn) ∈ Operation.scripts .builtIn :=
    List.mem_cons_self
  have kept : ∀ file ∈ readOperation.files.map Prod.snd,
      (Conventions.builtIn.configFile file).toList.all (!isDoubleSpecial ·) = true := by
    decide
  refine ⟨isName, listed, ?_⟩
  exact ((scripts_supervise_iff .builtIn isName).1 _ listed fun file given =>
    .of_plain (kept file given)).mpr (by decide)

/-- Conventions with a blank in the directory of the connectors. -/
def blankConventions : Conventions := { Conventions.builtIn with configDir := "/my config" }

theorem not_supervises_blankConventions :
    ¬Supervises blankConventions "spec" "" (Script.spec blankConventions) := by
  have isName : isName blankConventions.entrypointVariable = true := by decide
  intro supervises
  obtain ⟨plain, _⟩ := supervises.plain isName (.of_plain (by decide))
  exact absurd (plain _ List.mem_cons_self) (by decide)

end SyncPods
