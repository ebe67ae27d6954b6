import SyncPods.Proofs.ShellLetters
import SyncPods.Run.Assembly

/-!
# The trap of a sidecar

When the shell of the sidecar ends, a trap makes a marker in the directory of every connector. The
command of the trap stands in double quotes and is read twice: what comes out of the quotes when the
trap is installed is read as a command when it goes off. The paths in it are in single quotes, which
keep all characters in the second reading. In the first one the double quotes are around them, and
do not keep a double quote, a dollar sign, a backquote or a backslash before another one.
-/

namespace SyncPods

open Shell

/-- The command that makes files, each of them as a word in single quotes. -/
def touchCommand (paths : List String) : String :=
  "touch " ++ " ".intercalate (paths.map singleQuoted)

/-- The first command of a script installs a trap for the end of the shell. Its action comes out of
the quotes around it without any expansion, and is read as making exactly the files when the trap
goes off. The script goes on with `next`. -/
def Traps (script : String) (paths : List String) (next : String) : Prop :=
  ∃ action, simpleCommand script = some (["trap", action, "EXIT"], next) ∧
    simpleCommand action = some ("touch" :: paths, "")

/-- How a character is written between single quotes. -/
def singleEscape (c : Char) : List Char :=
  if c = '\'' then ['\'', '\\', '\'', '\''] else [c]

theorem toList_singleQuoted (text : String) :
    (singleQuoted text).toList = '\'' :: (text.toList.flatMap singleEscape ++ ['\'']) := by
  simp only [singleQuoted, String.toList_append, String.toList_ofList]
  rfl

/-! ## Words in single quotes -/

section Single

variable {word : List Part} {tokens : List Token}

theorem run_singleEscape (cs : List Char) :
    State.run ⟨.single, false, word, tokens⟩ (cs.flatMap singleEscape) =
      ⟨.single, false, (cs.map .quoted).reverse ++ word, tokens⟩ := by
  induction cs generalizing word with
  | nil => rfl
  | cons c cs ih =>
      have one : State.run ⟨.single, false, word, tokens⟩ (singleEscape c) =
          ⟨.single, false, .quoted c :: word, tokens⟩ := by
        rw [singleEscape]
        split
        next same => rw [same]; rfl
        next other => exact State.step_single other
      rw [List.flatMap_cons, State.run_append, one, ih]
      simp

/-- A text in single quotes is read as a word that stands for the text. -/
theorem spells_singleQuoted (text : String) : Spells (singleQuoted text) (quoted text) := by
  intro earlier
  calc
    State.run ⟨.between, false, [], earlier⟩ (singleQuoted text).toList
      = State.run ⟨.single, false, [], earlier⟩ (text.toList.flatMap singleEscape ++ ['\'']) := by
        rw [toList_singleQuoted]
        rfl
    _ = _ := by
        rw [State.run_append, run_singleEscape, List.append_nil]
        rfl

end Single

/-! ## The action of the trap -/

theorem close_paths (paths : List String) (tokens : List Token) :
    (State.run ⟨.between, false, [], tokens⟩
      (" ".intercalate (paths.map singleQuoted)).toList).close =
        some (tokens.reverse ++ paths.map fun path => .word (quoted path)) := by
  rw [String.toList_intercalate]
  induction paths generalizing tokens with
  | nil => simp [State.run, State.close, State.settle]
  | cons path paths ih =>
      cases paths with
      | nil =>
          rw [List.map_singleton, List.map_singleton, List.intercalate_singleton,
            spells_singleQuoted]
          simp [State.close, State.settle]
      | cons next paths =>
          have ended : State.step ⟨.word, false, (quoted path).reverse, tokens⟩ ' ' =
              ⟨.between, false, [], .word (quoted path).reverse.reverse :: tokens⟩ := rfl
          rw [List.reverse_reverse] at ended
          have later := ih (.word (quoted path) :: tokens)
          simp only [List.map_cons] at later ⊢
          rw [List.intercalate_cons_cons, List.append_assoc, State.run_append,
            spells_singleQuoted]
          calc
            _ = (State.run (State.step ⟨.word, false, (quoted path).reverse, tokens⟩ ' ')
                  (" ".toList.intercalate ((singleQuoted next).toList ::
                    (paths.map singleQuoted).map String.toList))).close := rfl
            _ = _ := by
              rw [ended, later]
              simp

theorem literals_quoted (texts : List String) :
    literals (texts.map fun text => .word (quoted text)) = some texts := by
  induction texts with
  | nil => rfl
  | cons text texts ih =>
      rw [literals] at ih ⊢
      rw [List.map_cons, List.mapM_cons, ih]
      simp [literal?_quoted]

/-- A shell that reads the command is to make exactly the files. -/
theorem simpleCommand_touchCommand (paths : List String) :
    simpleCommand (touchCommand paths) = some ("touch" :: paths, "") := by
  have touch : State.start.run "touch ".toList =
      ⟨.between, false, [], [.word (bare "touch")]⟩ := by decide
  have closed := close_paths paths [.word (bare "touch")]
  rw [← touch, ← State.run_append, ← String.toList_append] at closed
  have line := State.readLine_of_close _ closed (by simp)
  have words : literals (.word (bare "touch") :: paths.map fun path => .word (quoted path)) =
      some ("touch" :: paths) := by
    have name : Word.literal? (bare "touch") = some "touch" := by decide
    have rest := literals_quoted paths
    rw [literals] at rest ⊢
    rw [List.mapM_cons, rest]
    simp [name]
  have opened : [Token.word (bare "touch")].reverse ++
      paths.map (fun path => Token.word (quoted path)) =
        .word (bare "touch") :: paths.map fun path => .word (quoted path) := rfl
  rw [simpleCommand, touchCommand, line, opened]
  simp [words]

/-- An action that stands for itself in double quotes comes out of them so. -/
theorem simpleCommand_trap {action : String} (stands : StandsInDouble action.toList)
    (next : String) :
    simpleCommand ("trap \"" ++ action ++ "\" EXIT\n" ++ next) =
      some (["trap", action, "EXIT"], next) := by
  have opening : State.start.run "trap \"".toList =
      ⟨.double, false, [], [.word (bare "trap")]⟩ := by decide
  have closing (word : List Part) : State.run ⟨.double, false, word, [.word (bare "trap")]⟩
      "\" ".toList = ⟨.between, false, [], [.word word.reverse, .word (bare "trap")]⟩ := rfl
  have condition : Spells "EXIT" (bare "EXIT") := spells_of_run (by decide)
  have first : State.start.run ("trap \"".toList ++ action.toList ++ "\" ".toList ++
      "EXIT".toList) =
        ⟨.word, false, (bare "EXIT").reverse, [.word (quoted action), .word (bare "trap")]⟩ := by
    rw [State.run_append, State.run_append, State.run_append, opening, State.run_double stands,
      closing, condition]
    simp [quoted]
  have line : State.start.readLine ("trap \"" ++ action ++ "\" EXIT\n" ++ next).toList =
      some ([.word (bare "trap"), .word (quoted action), .word (bare "EXIT")], next.toList) := by
    have chars : ("trap \"" ++ action ++ "\" EXIT\n" ++ next).toList =
        ("trap \"".toList ++ action.toList ++ "\" ".toList ++ "EXIT".toList) ++
          '\n' :: next.toList := by
      simp [String.toList_append]
    rw [chars, State.readLine_append _ (by rw [first]; simp), first]
    rfl
  have words : literals [.word (bare "trap"), .word (quoted action), .word (bare "EXIT")] =
      some ["trap", action, "EXIT"] := by
    have name : Word.literal? (bare "trap") = some "trap" := by decide
    have condition : Word.literal? (bare "EXIT") = some "EXIT" := by decide
    simp [literals, name, condition, literal?_quoted]
  rw [simpleCommand, line]
  simp [words]

/-! ## Texts that the quotes keep -/

theorem head?_flatMap_singleEscape (cs rest : List Char) :
    (cs.flatMap singleEscape ++ '\'' :: rest).head? = some (cs.head?.getD '\'') := by
  cases cs with
  | nil => rfl
  | cons c cs =>
      rw [List.flatMap_cons, singleEscape]
      split
      next same => simp [same]
      next => simp

theorem keptByDouble_singleEscape (cs rest : List Char) :
    KeptByDouble (cs.flatMap singleEscape ++ '\'' :: rest) ↔
      KeptByDouble cs ∧ KeptByDouble rest := by
  induction cs with
  | nil => simp [keptByDouble_cons, keptByDouble_nil]
  | cons c cs ih =>
      have first := head?_flatMap_singleEscape cs rest
      by_cases quote : c = '\''
      · simp [quote, singleEscape, keptByDouble_cons, ih]
      · have one : (c :: cs).flatMap singleEscape ++ '\'' :: rest =
            c :: (cs.flatMap singleEscape ++ '\'' :: rest) := by
          simp [singleEscape, quote]
        have next (d : Char) (other : d ≠ '\'') :
            (cs.flatMap singleEscape ++ '\'' :: rest).head? = some d ↔ cs.head? = some d := by
          rw [first]
          cases cs.head? <;> simp [other.symm]
        simp only [one, keptByDouble_cons, ih, ne_eq, next '\\' (by decide), next '\n' (by decide),
          and_assoc]

theorem keptByDouble_paths (paths : List String) :
    KeptByDouble (" ".intercalate (paths.map singleQuoted)).toList ↔
      ∀ path ∈ paths, KeptByDouble path.toList := by
  rw [String.toList_intercalate]
  induction paths with
  | nil => simp [keptByDouble_nil]
  | cons path paths ih =>
      cases paths with
      | nil =>
          simp [toList_singleQuoted, keptByDouble_cons, keptByDouble_singleEscape,
            keptByDouble_nil]
      | cons next paths =>
          simp only [List.map_cons] at ih ⊢
          rw [List.intercalate_cons_cons, toList_singleQuoted]
          have chars (rest : List Char) :
              '\'' :: (path.toList.flatMap singleEscape ++ ['\'']) ++ (" ".toList ++ rest) =
                '\'' :: (path.toList.flatMap singleEscape ++ '\'' :: ' ' :: rest) := by simp
          rw [List.append_assoc, chars, keptByDouble_cons, keptByDouble_singleEscape,
            keptByDouble_cons, ih]
          simp

theorem keptByDouble_touchCommand (paths : List String) :
    KeptByDouble (touchCommand paths).toList ↔ ∀ path ∈ paths, KeptByDouble path.toList := by
  have name (rest : List Char) : KeptByDouble ("touch ".toList ++ rest) ↔ KeptByDouble rest := by
    simp [keptByDouble_cons]
  rw [touchCommand, String.toList_append, name, keptByDouble_paths]

/-- No backslash takes the meaning from the closing quote. -/
theorem getLast?_touchCommand (paths : List String) :
    (touchCommand paths).toList.getLast? ≠ some '\\' := by
  have last (path : String) : (singleQuoted path).toList.getLast? ≠ some '\\' := by
    rw [toList_singleQuoted, ← List.cons_append, List.getLast?_concat]
    decide
  rw [touchCommand, String.toList_append, String.toList_intercalate]
  refine getLast?_append_ne (by decide) ?_
  induction paths with
  | nil => simp
  | cons path paths ih =>
      cases paths with
      | nil => simpa using last path
      | cons next paths =>
          simp only [List.map_cons] at ih ⊢
          rw [List.intercalate_cons_cons]
          have blank : " ".toList.getLast? ≠ some '\\' := by decide
          exact getLast?_append_ne (getLast?_append_ne (last path) blank) ih

/-! ## What comes out of the quotes -/

section

variable {p q : Char → Bool}

theorem countP_singleEscape (escapes : ∀ c, (singleEscape c).countP p = [c].countP q)
    (cs : List Char) : (cs.flatMap singleEscape).countP p = cs.countP q := by
  induction cs with
  | nil => rfl
  | cons c cs ih =>
      rw [List.flatMap_cons, List.countP_append, ih, escapes, ← List.countP_append,
        List.singleton_append]

/-- The quotes and blanks around the paths do not count. -/
theorem countP_touchCommand (escapes : ∀ c, (singleEscape c).countP p = [c].countP q)
    (none : "touch '".toList.countP p = 0) (paths : List String) :
    (touchCommand paths).toList.countP p = (paths.flatMap String.toList).countP q := by
  have zero (cs : List Char) (among : cs.Sublist "touch '".toList) : cs.countP p = 0 :=
    Nat.eq_zero_of_le_zero (none ▸ among.countP_le)
  have word (path : String) : (singleQuoted path).toList.countP p = path.toList.countP q := by
    rw [toList_singleQuoted, ← List.singleton_append, List.countP_append, List.countP_append,
      countP_singleEscape escapes, zero ['\''] (by decide), Nat.zero_add, Nat.add_zero]
  rw [touchCommand, String.toList_append, List.countP_append, zero _ (by decide), Nat.zero_add,
    String.toList_intercalate]
  induction paths with
  | nil => simp
  | cons path paths ih =>
      cases paths with
      | nil => simpa using word path
      | cons next paths =>
          simp only [List.map_cons] at ih ⊢
          rw [List.intercalate_cons_cons, List.countP_append, List.countP_append, word,
            List.flatMap_cons, List.countP_append, ih, zero " ".toList (by decide),
            Nat.add_zero]

end

/-- Every single quote of a path is written with a backslash. -/
theorem countP_isDoubleSpecial_touchCommand (paths : List String) :
    (touchCommand paths).toList.countP isDoubleSpecial =
      (paths.flatMap String.toList).countP isQuoting := by
  refine countP_touchCommand (fun c => ?_) (by decide) paths
  rw [singleEscape]
  split
  next quote => rw [quote]; decide
  next other => simp [List.countP_singleton, isQuoting, other]

theorem count_touchCommand (paths : List String) :
    (touchCommand paths).toList.count '"' = (paths.flatMap String.toList).count '"' := by
  refine countP_touchCommand (fun c => ?_) (by decide) paths
  rw [singleEscape]
  split
  next quote => rw [quote]; decide
  next other => rfl

/-- The action comes out of the double quotes with no more of a kind of characters than stands
between them, and with all special ones only if the quotes keep them. -/
theorem trap_inv {command action next : String} (last : command.toList.getLast? ≠ some '\\')
    (nonempty : next ≠ "")
    (read : simpleCommand ("trap \"" ++ command ++ "\" EXIT\n" ++ next) =
      some (["trap", action, "EXIT"], next)) :
    action.toList.count '"' ≤ command.toList.count '"' ∧
      (command.toList.countP isDoubleSpecial ≤ action.toList.countP isDoubleSpecial →
        KeptByDouble command.toList) := by
  obtain ⟨toks, line, out⟩ := simpleCommand_eq_some read
  obtain ⟨before, text, ended⟩ := State.readLine_eq_some line
  have opening : State.start.run "trap \"".toList =
      ⟨.double, false, [], [.word (bare "trap")]⟩ := by decide
  have same : before = "trap \"".toList ++ (command.toList ++ '"' :: " EXIT\n".toList) := by
    refine List.append_cancel_right (text.symm.trans ?_)
    simp [String.toList_append]
  have finished : (State.run ⟨.double, false, [], [.word (bare "trap")]⟩
      (command.toList ++ '"' :: " EXIT\n".toList)).finished =
        "trap".toList ++ action.toList ++ "EXIT".toList := by
    rw [same, State.run_append, opening] at ended
    rcases ended with newline | ⟨none, -⟩
    · rw [State.finished_of_newline newline, out]
      simp
    · exact absurd (String.toList_inj.mp none) nonempty
  constructor
  · have begun : (State.letters ⟨.double, false, [], [.word (bare "trap")]⟩).countP (· == '"') =
        0 := by decide
    have bound : List.countP (· == '"') _ ≤ _ :=
      finished ▸ State.countP_finished_run_append rfl last (by decide) (by decide)
    rw [begun, Nat.zero_add] at bound
    simpa [List.countP_append, List.count] using bound
  · intro full
    have begun : (State.letters ⟨.double, false, [], [.word (bare "trap")]⟩).countP
        isDoubleSpecial = 0 := by decide
    refine State.keptByDouble_of_countP false [] [.word (bare "trap")] command.toList last
      (by decide : '\'' ∉ " EXIT\n".toList) (by decide) ?_
    rw [finished, List.countP_append, begun, Nat.zero_add]
    refine full.trans ?_
    rw [List.append_assoc, List.countP_append, List.countP_append]
    omega

/-! ## The trap -/

theorem traps_of_kept {paths : List String} (kept : ∀ path ∈ paths, KeptByDouble path.toList)
    (next : String) :
    Traps ("trap \"" ++ touchCommand paths ++ "\" EXIT\n" ++ next) paths next :=
  have stands : StandsInDouble (touchCommand paths).toList :=
    ⟨(keptByDouble_touchCommand paths).mpr kept, getLast?_touchCommand paths⟩
  ⟨touchCommand paths, simpleCommand_trap stands next, simpleCommand_touchCommand paths⟩

/-- No other paths will do: each of the two readings loses the characters that it takes a meaning
from, and none of them can be spared. -/
theorem traps_iff {paths : List String} {next : String} (nonempty : next ≠ "") :
    Traps ("trap \"" ++ touchCommand paths ++ "\" EXIT\n" ++ next) paths next ↔
      ∀ path ∈ paths, KeptByDouble path.toList := by
  refine ⟨?_, fun kept => traps_of_kept kept next⟩
  rintro ⟨action, installed, read⟩
  have last := getLast?_touchCommand paths
  obtain ⟨doubles, keeps⟩ := trap_inv last nonempty installed
  obtain ⟨toks, line, out⟩ := simpleCommand_eq_some read
  obtain ⟨before, text, ended⟩ := State.readLine_eq_some line
  have all : before = action.toList := by simpa using text.symm
  have kept : (("touch" :: paths).flatMap String.toList).Sublist
      (State.start.run action.toList).letters := by
    rw [← out, ← all]
    rcases ended with newline | ⟨-, closed⟩
    · rw [← State.finished_of_newline newline]
      exact State.finished_sublist_letters _
    · exact State.letters_close_sublist closed
  refine (keptByDouble_touchCommand paths).mp (keeps ?_)
  rw [countP_isDoubleSpecial_touchCommand]
  rw [count_touchCommand] at doubles
  have quoting := kept.countP_le (p := isQuoting)
  have double := kept.count_le '"'
  -- The command has as many double quotes as the paths, so the second reading cannot lose one. Then
  -- it needs a special character of the action for every quoting one of the paths.
  rcases State.count_letters_run (s := State.start) rfl action.toList with fewer | enough
  · have name : "touch".toList.count '"' = 0 := by decide
    have none : State.start.letters.count '"' = 0 := by decide
    rw [List.flatMap_cons, List.count_append] at double
    omega
  · have none : State.start.letters.countP isQuoting = 0 := by decide
    rw [List.flatMap_cons, List.countP_append] at quoting
    omega

/-! ## The orchestrator -/

/-- The files that an orchestrator with the mounts is to make, one for each mount of a connector's
volume. -/
def markerPaths (c : Conventions) (mounts : List VolumeMount) : List String :=
  (mounts.filter fun mount => mount.name = "source" ∨ mount.name = "destination").map fun mount =>
    mount.mountPath ++ "/" ++ c.terminationMarker

theorem markerPaths_eq (c : Conventions) (mounts : List VolumeMount) :
    markerPaths c mounts =
      (Assembly.markerDirs mounts).map fun dir => dir ++ "/" ++ c.terminationMarker := by
  have named (mount : VolumeMount) :
      (mount.name == sourceVolume || mount.name == destinationVolume) =
        decide (mount.name = "source" ∨ mount.name = "destination") := by
    simp [sourceVolume, destinationVolume, Bool.decide_or, beq_eq_decide]
  simp [markerPaths, Assembly.markerDirs, named, Function.comp_def]

theorem sidecar_eq_trap (c : Conventions) {dirs : List String} (marked : dirs ≠ []) :
    Script.sidecar c dirs =
      "trap \"" ++ touchCommand (dirs.map fun dir => dir ++ "/" ++ c.terminationMarker) ++
        "\" EXIT\n" ++ (c.sidecarBinary ++ "\n") := by
  have opened : "trap \"touch " = "trap \"" ++ "touch " := rfl
  rw [Script.sidecar, if_neg (by simpa using marked), touchCommand, List.map_map, opened]
  simp only [String.append_assoc, Function.comp_def]

/-- An orchestrator without mounts of the connectors' volumes just runs the sidecar. Any other has a
trap first, which makes exactly the files it is to make if and only if double quotes keep all their
paths. -/
theorem orchestrator_traps_iff (settings : Settings) (resources : Option ResourceSpec)
    (mounts : List VolumeMount) (env : List EnvVar) (image : String) :
    let c := settings.conventions
    let paths := markerPaths c mounts
    ∃ script,
      (Assembly.orchestrator Observer.silent settings resources mounts env image :
          Except BuildError Container).map (·.command) =
        (resourceRequirements .orchestrator resources).map (fun _ => some ["sh", "-c", script]) ∧
      (paths = [] → script = c.sidecarBinary ++ "\n") ∧
      (paths ≠ [] →
        (Traps script paths (c.sidecarBinary ++ "\n") ↔
          ∀ path ∈ paths, KeptByDouble path.toList)) := by
  intro c paths
  refine ⟨Script.sidecar c (Assembly.markerDirs mounts), ?_, fun none => ?_, fun marked => ?_⟩
  · simp only [Assembly.orchestrator, Assembly.container, Observer.silent, pure_bind]
    cases resourceRequirements .orchestrator resources <;> rfl
  · have dirs : Assembly.markerDirs mounts = [] :=
      List.map_eq_nil_iff.mp ((markerPaths_eq c mounts).symm.trans none)
    rw [dirs, Script.sidecar]
    rfl
  · have dirs : Assembly.markerDirs mounts ≠ [] := fun none =>
      marked ((markerPaths_eq c mounts).trans (by rw [none, List.map_nil]))
    have line : c.sidecarBinary ++ "\n" ≠ "" := by
      rw [ne_eq, ← String.toList_inj, String.toList_append]
      simp
    rw [sidecar_eq_trap c dirs, ← markerPaths_eq]
    exact traps_iff line

/-- A dollar sign in a path begins an expansion, so the action is not the command it was meant to
be. -/
theorem not_traps_dollar :
    ¬Traps (Script.sidecar .builtIn ["/data$1"]) ["/data$1/TERMINATED"]
      "/app/bin/workload-sidecar\n" := by
  rintro ⟨action, installed, -⟩
  have expands : simpleCommand (Script.sidecar .builtIn ["/data$1"]) = none := by decide
  rw [expands] at installed
  cases installed

end SyncPods
