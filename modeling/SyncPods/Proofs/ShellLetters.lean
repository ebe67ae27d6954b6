import SyncPods.Proofs.ShellWords

/-!
# What words keep of a text

The characters of a text that stand for themselves come out of it in their order, and no others do:
those that quote, escape or delimit are lost. So a text of which every character comes out has none
of these.
-/

namespace SyncPods.Shell

/-- The characters of a token that stand for themselves. -/
def Token.letters : Token → List Char
  | .word parts => parts.filterMap Part.char?
  | _ => []

/-- A character that double or single quotes take the meaning from. -/
def isQuoting (c : Char) : Bool := isDoubleSpecial c || c == '\''

namespace State

/-- The characters of the tokens that have been read. -/
def finished (s : State) : List Char := s.tokens.reverse.flatMap Token.letters

/-- The characters that have been read. -/
def visible (s : State) : List Char := s.finished ++ s.word.reverse.filterMap Part.char?

/-- A backslash that quotes the next character. -/
def pending (isEscaped : Bool) : List Char := if isEscaped then ['\\'] else []

/-- The characters that have been read, together with a backslash whose meaning is not clear yet. -/
def letters (s : State) : List Char := s.visible ++ pending s.isEscaped

theorem letters_of_plain {s : State} (plain : s.isEscaped = false) : s.letters = s.visible := by
  rw [letters, plain, pending, if_neg (by simp), List.append_nil]

theorem letters_of_escaped {s : State} (escaped : s.isEscaped = true) :
    s.letters = s.visible ++ ['\\'] := by
  rw [letters, escaped, pending, if_pos rfl]

/-! ## What comes out of a step -/

/-- Nothing but some of the characters comes out between two states, and no backslash begins or
ceases to quote the next character. -/
structure GivesOut (s next : State) (out : List Char) : Prop where
  escaped : next.isEscaped = s.isEscaped
  taken : next.visible.Sublist (s.visible ++ out)

namespace GivesOut

variable {s next last : State} {out more : List Char} {c : Char}

theorem trans (first : GivesOut s next out) (second : GivesOut next last more) :
    GivesOut s last (out ++ more) where
  escaped := second.escaped.trans first.escaped
  taken := by
    rw [← List.append_assoc]
    exact second.taken.trans (first.taken.append_right more)

theorem mono (gives : GivesOut s next out) (among : out.Sublist more) : GivesOut s next more where
  escaped := gives.escaped
  taken := gives.taken.trans (among.append_left s.visible)

theorem turn (s : State) (mode : Mode) : GivesOut s { s with mode } [] :=
  ⟨rfl, List.sublist_append_left _ _⟩

theorem add (s : State) (part : Part) (mode : Mode) :
    GivesOut s (s.add part mode) part.char?.toList := by
  refine ⟨rfl, ?_⟩
  cases part <;> simp [visible, finished, State.add, Part.char?]

theorem emit (s : State) {token : Token}
    (within : token.letters.Sublist (s.word.reverse.filterMap Part.char?)) :
    GivesOut s (s.emit token) [] := by
  refine ⟨rfl, ?_⟩
  simpa [visible, finished, State.emit] using within

variable (s) (c)

theorem ended : GivesOut s (s.emit (s.ended c)) [] := by
  refine emit s ?_
  rw [State.ended]
  split
  · exact List.nil_sublist _
  · exact List.Sublist.refl _

theorem settle : GivesOut s s.settle [] := by
  obtain ⟨mode, isEscaped, word, tokens⟩ := s
  cases mode with
  | name isQuoted letters => exact add _ _ _
  | operator first => exact emit _ (List.nil_sublist _)
  | _ => exact turn _ _

theorem readBare : GivesOut s (s.readBare c) [c] := by
  have turns (mode : Mode) := (turn s mode).mono (List.nil_sublist [c])
  rw [State.readBare.eq_def]
  split
  · exact turns _
  · exact turns _
  · exact turns _
  · exact turns _
  · exact add s (.bare c) .word

theorem readDelimiter : GivesOut s (s.readDelimiter c) [] := by
  rw [State.readDelimiter]
  split
  · exact turn s s.mode
  · split
    · exact emit s (List.nil_sublist _)
    · exact turn s _

theorem readDollar (isQuoted : Bool) : GivesOut s (s.readDollar isQuoted c) [] := by
  rw [State.readDollar]
  split
  · exact turn s _
  · split
    · exact add s _ _
    · exact turn s _

theorem readPlain : GivesOut s (s.readPlain c) [c] := by
  have turns (mode : Mode) := (turn s mode).mono (List.nil_sublist [c])
  have delimits := (readDelimiter s c).mono (List.nil_sublist [c])
  rw [State.readPlain.eq_def]
  split
  · split
    · exact delimits
    · split
      · exact turns _
      · exact readBare s c
  · split
    · exact ((ended s c).trans (readDelimiter _ c)).mono (List.nil_sublist [c])
    · exact readBare s c
  · split
    · exact turns _
    · exact add s (.quoted c) .single
  · split
    · exact turns _
    · exact turns _
    · exact turns _
    · exact add s (.quoted c) .double
  · exact (readDollar s c _).mono (List.nil_sublist [c])
  · split
    · have ends : GivesOut s (s.emit .newline) [] := emit s (List.nil_sublist _)
      exact ends.mono (List.nil_sublist [c])
    · exact turns s.mode
  · exact turns _

/-- A character behind a backslash takes the place of the backslash or stands behind it. -/
theorem readEscaped : GivesOut s (s.readEscaped c) ['\\', c] := by
  have adds (mode : Mode) : GivesOut s (s.add (.quoted c) mode) ['\\', c] :=
    (add s (.quoted c) mode).mono (List.sublist_cons_self _ _)
  rw [State.readEscaped.eq_def]
  split
  · exact adds _
  · exact adds _
  · split
    · exact adds _
    · exact (add s (.quoted '\\') .double).trans (add _ (.quoted c) .double)
  · exact (turn s _).mono (List.nil_sublist _)

variable {s c} in
theorem goOn? (goesOn : s.goOn? c = some next) : GivesOut s next [] := by
  obtain ⟨mode, isEscaped, word, tokens⟩ := s
  simp only [State.goOn?] at goesOn
  split at goesOn
  · split at goesOn
    · exact Option.some.inj goesOn ▸ turn _ _
    · cases goesOn
  · split at goesOn
    · exact Option.some.inj goesOn ▸ turn _ _
    · split at goesOn
      · obtain rfl := Option.some.inj goesOn
        exact emit _ (List.nil_sublist _)
      · cases goesOn
  · cases goesOn

theorem readNext : GivesOut s (s.readNext c) [c] := by
  rw [State.readNext]
  cases goesOn : s.goOn? c with
  | some next => exact (goOn? goesOn).mono (List.nil_sublist _)
  | none => exact (settle s).trans (readPlain s.settle c)

variable {s c}

theorem letters_sublist (gives : GivesOut s next out) (plain : s.isEscaped = false) :
    next.letters.Sublist (s.letters ++ out) := by
  rw [letters_of_plain plain, letters_of_plain (gives.escaped.trans plain)]
  exact gives.taken

theorem letters_sublist_self (gives : GivesOut s next []) (plain : s.isEscaped = false) :
    next.letters.Sublist s.letters := by
  simpa using gives.letters_sublist plain

end GivesOut

section

variable (s : State) (c : Char)

/-- One character comes out at most. -/
theorem letters_step_sublist : (s.step c).letters.Sublist (s.letters ++ [c]) := by
  let unescaped : State := { s with isEscaped := false }
  rw [step]
  split
  next escaped =>
    have same : s.letters ++ [c] = unescaped.letters ++ ['\\', c] := by
      rw [letters_of_escaped escaped, letters_of_plain (rfl : unescaped.isEscaped = false),
        List.append_assoc]
      rfl
    rw [same]
    split
    · exact List.sublist_append_left _ _
    · have gives := (GivesOut.settle unescaped).trans (.readEscaped unescaped.settle c)
      exact gives.letters_sublist rfl
  next plain =>
    have plain : s.isEscaped = false := eq_false_of_ne_true plain
    split
    next backslash =>
      obtain rfl : c = '\\' := by simp_all
      rw [letters_of_plain plain]
      exact List.Sublist.refl _
    next => exact (GivesOut.readNext s c).letters_sublist plain

/-- The characters that are read are among those of the text, in their order. -/
theorem letters_run_sublist (cs : List Char) : (s.run cs).letters.Sublist (s.letters ++ cs) := by
  induction cs generalizing s with
  | nil => simp [run]
  | cons c cs ih =>
      have first := (letters_step_sublist s c).append_right cs
      rw [List.append_assoc] at first
      exact (ih (s.step c)).trans first

end

/-! ## What may be pending -/

variable {s : State} {c : Char}

/-- Nothing but a backslash quotes the next character. -/
theorem isEscaped_step (other : c ≠ '\\') : (s.step c).isEscaped = false := by
  rw [step]
  split
  · split
    · rfl
    · exact ((GivesOut.settle _).trans (.readEscaped _ c)).escaped
  next plain =>
    rw [if_neg (by simp [other])]
    exact (GivesOut.readNext s c).escaped.trans (eq_false_of_ne_true plain)

theorem isEscaped_run (plain : s.isEscaped = false) {cs : List Char}
    (last : cs.getLast? ≠ some '\\') : (s.run cs).isEscaped = false := by
  rcases List.eq_nil_or_concat cs with rfl | ⟨before, c, rfl⟩
  · exact plain
  · rw [List.concat_eq_append, run_append]
    exact isEscaped_step fun same => last (by simp [same])

/-! ## Double quotes -/

/-- Within double quotes, also in the name of a parameter between them. -/
def isInDouble (s : State) : Bool :=
  match s.mode with
  | .double => true
  | .dollar isQuoted => isQuoted
  | .name isQuoted _ => isQuoted
  | _ => false

theorem isInDouble_settle (s : State) : s.settle.isInDouble = s.isInDouble := by
  obtain ⟨mode, isEscaped, word, tokens⟩ := s
  cases mode with
  | name isQuoted letters => cases isQuoted <;> rfl
  | _ => rfl

theorem readDelimiter_outside (outside : s.isInDouble = false) :
    (s.readDelimiter c).isInDouble = false := by
  rw [readDelimiter]
  split
  · exact outside
  · split <;> rfl

theorem readBare_outside (other : c ≠ '"') : (s.readBare c).isInDouble = false := by
  rw [readBare.eq_def]
  split
  · rfl
  · exact absurd rfl other
  · rfl
  · rfl
  · rfl

theorem readDollar_outside : (s.readDollar false c).isInDouble = false := by
  rw [readDollar]
  split
  · rfl
  · split <;> rfl

theorem readPlain_outside (outside : s.isInDouble = false) (other : c ≠ '"') :
    (s.readPlain c).isInDouble = false := by
  obtain ⟨mode, isEscaped, word, tokens⟩ := s
  cases mode with
  | between =>
      simp only [readPlain]
      split
      · exact readDelimiter_outside outside
      · split
        · rfl
        · exact readBare_outside other
  | word =>
      simp only [readPlain]
      split
      · exact readDelimiter_outside rfl
      · exact readBare_outside other
  | single =>
      simp only [readPlain]
      split <;> rfl
  | double => cases outside
  | dollar isQuoted =>
      cases isQuoted with
      | false => exact readDollar_outside
      | true => cases outside
  | comment =>
      simp only [readPlain]
      split
      · rfl
      · exact outside
  | _ => rfl

theorem readEscaped_outside (outside : s.isInDouble = false) :
    (s.readEscaped c).isInDouble = false := by
  obtain ⟨mode, isEscaped, word, tokens⟩ := s
  cases mode with
  | double => cases outside
  | _ => rfl

theorem goOn?_outside (outside : s.isInDouble = false) {next : State}
    (goesOn : s.goOn? c = some next) : next.isInDouble = false := by
  obtain ⟨mode, isEscaped, word, tokens⟩ := s
  cases mode with
  | name isQuoted letters =>
      simp only [goOn?] at goesOn
      split at goesOn
      · exact Option.some.inj goesOn ▸ outside
      · cases goesOn
  | operator first =>
      simp only [goOn?] at goesOn
      split at goesOn
      · exact Option.some.inj goesOn ▸ rfl
      · split at goesOn
        · exact Option.some.inj goesOn ▸ rfl
        · cases goesOn
  | _ => cases goesOn

/-- Nothing but a double quote leads into double quotes. -/
theorem step_outside (outside : s.isInDouble = false) (other : c ≠ '"') :
    (s.step c).isInDouble = false := by
  rw [step]
  split
  · split
    · exact outside
    · exact readEscaped_outside ((isInDouble_settle _).trans outside)
  · split
    · exact outside
    · rw [readNext]
      cases goesOn : s.goOn? c with
      | some next => exact goOn?_outside outside goesOn
      | none => exact readPlain_outside ((isInDouble_settle _).trans outside) other

theorem mode_settle_ne_single (outside : s.mode ≠ .single) : s.settle.mode ≠ .single := by
  obtain ⟨mode, isEscaped, word, tokens⟩ := s
  cases mode with
  | single => exact absurd rfl outside
  | name isQuoted letters => cases isQuoted <;> simp [settle, add, ground]
  | _ => simp [settle, emit]

namespace GivesOut

theorem readPlain_double (outside : s.mode ≠ .single) : GivesOut s (s.readPlain '"') [] := by
  obtain ⟨mode, isEscaped, word, tokens⟩ := s
  cases mode with
  | single => exact absurd rfl outside
  | dollar isQuoted => exact readDollar _ _ _
  | _ => exact turn _ _

theorem readPlain_single (outside : s.isInDouble = false) : GivesOut s (s.readPlain '\'') [] := by
  obtain ⟨mode, isEscaped, word, tokens⟩ := s
  cases mode with
  | double => cases outside
  | dollar isQuoted => exact readDollar _ _ _
  | _ => exact turn _ _

theorem step_of_readPlain (plain : s.isEscaped = false) (other : c ≠ '\\')
    (lost : GivesOut s.settle (s.settle.readPlain c) []) : GivesOut s (s.step c) [] := by
  have next : s.step c = s.readNext c := by simp [step, plain, other]
  rw [next, State.readNext]
  cases goesOn : s.goOn? c with
  | some next => exact goOn? goesOn
  | none => exact (settle s).trans lost

/-- A double quote is lost, but for single quotes around it. -/
theorem step_double (plain : s.isEscaped = false) (outside : s.mode ≠ .single) :
    GivesOut s (s.step '"') [] :=
  step_of_readPlain plain (by decide) (readPlain_double (mode_settle_ne_single outside))

/-- A single quote outside of double quotes is lost. -/
theorem step_single (plain : s.isEscaped = false) (outside : s.isInDouble = false) :
    GivesOut s (s.step '\'') [] :=
  step_of_readPlain plain (by decide) (readPlain_single ((isInDouble_settle s).trans outside))

theorem readEscaped_outside (outside : s.isInDouble = false) :
    GivesOut s (s.readEscaped c) [c] := by
  obtain ⟨mode, isEscaped, word, tokens⟩ := s
  cases mode with
  | double => cases outside
  | between => exact add _ (.quoted c) _
  | word => exact add _ (.quoted c) _
  | _ => exact (turn _ _).mono (List.nil_sublist _)

/-- Outside of double quotes a backslash is lost with the character behind it. -/
theorem step_escaped (escaped : s.isEscaped = true) (outside : s.isInDouble = false) :
    GivesOut { s with isEscaped := false } (s.step c) [c] := by
  rw [step, if_pos escaped]
  split
  · exact (turn _ s.mode).mono (List.nil_sublist _)
  · exact (settle _).trans (readEscaped_outside ((isInDouble_settle _).trans outside))

end GivesOut

/-- Outside of double quotes a single quote is lost, or the backslash before it. -/
theorem countP_letters_step_single (outside : s.isInDouble = false) :
    (s.step '\'').letters.countP isQuoting ≤ s.letters.countP isQuoting := by
  cases plain : s.isEscaped with
  | false => exact ((GivesOut.step_single plain outside).letters_sublist_self plain).countP_le
  | true =>
      have escaped := (GivesOut.step_escaped (c := '\'') plain outside).letters_sublist rfl
      rw [letters_of_escaped plain]
      refine escaped.countP_le.trans ?_
      simp [letters, visible, finished, pending, List.countP_append, isQuoting, isDoubleSpecial]

theorem outside_of_single (escaped : s.isEscaped = true ∨ s.mode = .single)
    (outside : s.isInDouble = false) : (s.step '"').isInDouble = false := by
  cases plain : s.isEscaped with
  | true =>
      have next : s.step '"' = ({ s with isEscaped := false } : State).settle.readEscaped '"' := by
        simp [step, plain]
      rw [next]
      exact readEscaped_outside ((isInDouble_settle _).trans outside)
  | false =>
      have single := escaped.resolve_left (by simp [plain])
      have next : s.step '"' = s.add (.quoted '"') .single := by
        simp [step, plain, readNext, goOn?, settle, readPlain, single]
      rw [next]
      rfl

/-- A run that begins outside of double quotes loses one when it gets into them. If it never does,
no more quoting characters come out than there are special ones: a single quote comes out only
behind a backslash. -/
theorem count_letters_run (outside : s.isInDouble = false) (cs : List Char) :
    (s.run cs).letters.count '"' < s.letters.count '"' + cs.count '"' ∨
      (s.run cs).letters.countP isQuoting ≤
        s.letters.countP isQuoting + cs.countP isDoubleSpecial := by
  induction cs generalizing s with
  | nil => exact .inr (Nat.le_refl _)
  | cons c cs ih =>
      have step := s.letters_step_sublist c
      cases opens : (s.step c).isInDouble with
      | true =>
          have same : c = '"' := by
            by_contra other
            rw [step_outside outside other] at opens
            cases opens
          subst same
          -- The quote that opens is lost for good: no later character makes up for it.
          have never : ¬(s.isEscaped = true ∨ s.mode = .single) := fun escaped => by
            rw [outside_of_single escaped outside] at opens
            cases opens
          obtain ⟨plain, single⟩ := not_or.mp never
          have plain := eq_false_of_ne_true plain
          have lost := (GivesOut.step_double plain single).letters_sublist_self plain
          have later := ((s.step '"').letters_run_sublist cs).count_le '"'
          have first := lost.count_le '"'
          rw [List.count_append] at later
          left
          rw [List.count_cons_self]
          change ((s.step '"').run cs).letters.count '"' < _
          omega
      | false =>
          change ((s.step c).run cs).letters.count '"' < _ ∨
            ((s.step c).run cs).letters.countP isQuoting ≤ _
          rcases ih opens with fewer | enough
          · have first := step.count_le '"'
            rw [List.count_append] at first
            left
            rw [← List.singleton_append, List.count_append]
            omega
          · have first : (s.step c).letters.countP isQuoting ≤
                s.letters.countP isQuoting + [c].countP isDoubleSpecial := by
              by_cases quote : c = '\''
              · rw [quote]
                exact (countP_letters_step_single outside).trans (Nat.le_add_right _ _)
              · have special : isQuoting c = isDoubleSpecial c := by simp [isQuoting, quote]
                have counted := step.countP_le (p := isQuoting)
                simpa [List.countP_append, List.countP_singleton, special] using counted
            right
            rw [← List.singleton_append, List.countP_append]
            omega

/-! ## What comes out of double quotes -/

variable {word : List Part} {tokens : List Token}

theorem run_single {cs : List Char} (noneSingle : '\'' ∉ cs) :
    run ⟨.single, false, word, tokens⟩ cs =
      ⟨.single, false, (cs.map .quoted).reverse ++ word, tokens⟩ := by
  induction cs generalizing word with
  | nil => rfl
  | cons c cs ih =>
      obtain ⟨other, rest⟩ : '\'' ≠ c ∧ '\'' ∉ cs := by simpa using noneSingle
      calc
        run ⟨.single, false, word, tokens⟩ (c :: cs)
          = run (step ⟨.single, false, word, tokens⟩ c) cs := rfl
        _ = _ := by
          rw [step_single other.symm, ih rest]
          simp

theorem finished_sublist_letters (s : State) : s.finished.Sublist s.letters := by
  rw [letters, visible, List.append_assoc]
  exact List.sublist_append_left _ _

/-- The double quote that is to end a word is lost, or the word does not end. -/
theorem countP_finished_run {p : Char → Bool} (plain : s.isEscaped = false) {cs : List Char}
    (noneSingle : '\'' ∉ cs) (none : cs.countP p = 0) :
    (s.run ('"' :: cs)).finished.countP p ≤ s.letters.countP p := by
  by_cases single : s.mode = .single
  · obtain ⟨mode, isEscaped, word, tokens⟩ := s
    obtain rfl : mode = .single := single
    obtain rfl : isEscaped = false := plain
    rw [run_single (by simpa using noneSingle)]
    exact (finished_sublist_letters ⟨.single, false, word, tokens⟩).countP_le
  · have lost := (GivesOut.step_double plain single).letters_sublist_self plain
    have closed := lost.countP_le (p := p)
    have rest := ((s.step '"').letters_run_sublist cs).countP_le (p := p)
    rw [List.countP_append, none] at rest
    calc
      (s.run ('"' :: cs)).finished.countP p
        ≤ ((s.step '"').run cs).letters.countP p :=
          (finished_sublist_letters _).countP_le
      _ ≤ s.letters.countP p := Nat.le_trans rest closed

/-- No more comes out of a text and the double quote behind it than is in the text. -/
theorem countP_finished_run_append {p : Char → Bool} (plain : s.isEscaped = false)
    {text cs : List Char} (last : text.getLast? ≠ some '\\') (noneSingle : '\'' ∉ cs)
    (none : cs.countP p = 0) :
    (s.run (text ++ '"' :: cs)).finished.countP p ≤ s.letters.countP p + text.countP p := by
  have read := (s.letters_run_sublist text).countP_le (p := p)
  rw [List.countP_append] at read
  rw [run_append]
  exact (countP_finished_run (isEscaped_run plain last) noneSingle none).trans read

theorem countP_lt_of_letters_eq {next : State} (s : State) (same : next.letters = s.letters)
    (special : isDoubleSpecial c = true) :
    next.letters.countP isDoubleSpecial < (s.letters ++ [c]).countP isDoubleSpecial := by
  rw [same, List.countP_append, List.countP_singleton, if_pos special]
  exact Nat.lt_succ_self _

/-- Between double quotes a character comes out and the quotes keep it, or a special character does
not come out. -/
theorem step_double_cases (isEscaped : Bool) (word : List Part) (tokens : List Token) (c : Char) :
    let s : State := ⟨.double, isEscaped, word, tokens⟩
    (∃ isEscaped' word', s.step c = ⟨.double, isEscaped', word', tokens⟩ ∧
        (s.step c).letters = s.letters ++ [c] ∧ (isEscaped' = true → c = '\\') ∧
        ∀ text, KeptByDouble (pending isEscaped' ++ text) →
          KeptByDouble (pending isEscaped ++ c :: text)) ∨
      (s.step c).isEscaped = false ∧
        (s.step c).letters.countP isDoubleSpecial < (s.letters ++ [c]).countP isDoubleSpecial := by
  intro s
  cases isEscaped with
  | false =>
    by_cases backslash : c = '\\'
    · subst backslash
      have out : (s.step '\\').letters = s.letters ++ ['\\'] := by
        rw [letters_of_plain (rfl : s.isEscaped = false)]
        rfl
      exact .inl ⟨true, word, rfl, out, fun _ => rfl, fun text kept => kept⟩
    · by_cases special : c ≠ '"' ∧ c ≠ '$' ∧ c ≠ '`'
      · have same : s.step c = ⟨.double, false, .quoted c :: word, tokens⟩ :=
          step_double special backslash
        refine .inl ⟨false, .quoted c :: word, same, ?_, by simp, fun text kept => ?_⟩
        · rw [same]
          simp [s, letters, visible, finished, pending, Part.char?]
        · exact keptByDouble_cons.mpr ⟨special, fun same => absurd same backslash, kept⟩
      · have quoting : c = '"' ∨ c = '$' ∨ c = '`' := by
          by_contra none
          exact special ⟨fun same => none (.inl same), fun same => none (.inr (.inl same)),
            fun same => none (.inr (.inr same))⟩
        right
        rcases quoting with rfl | rfl | rfl
        · exact ⟨rfl, countP_lt_of_letters_eq s rfl (by decide)⟩
        · exact ⟨rfl, countP_lt_of_letters_eq s rfl (by decide)⟩
        · exact ⟨rfl, countP_lt_of_letters_eq s rfl (by decide)⟩
  | true =>
    by_cases newline : c = '\n'
    · subst newline
      have gone : s.step '\n' = ⟨.double, false, word, tokens⟩ := rfl
      exact .inr ⟨rfl, by rw [gone]; simp [s, letters, visible, finished, pending, isDoubleSpecial]⟩
    · cases special : isDoubleSpecial c with
      | true =>
        have same : s.step c = ⟨.double, false, .quoted c :: word, tokens⟩ := by
          simp [s, step, settle, readEscaped, special, add, newline]
        refine .inr ⟨by rw [same], ?_⟩
        rw [same]
        simp [s, letters, visible, finished, pending, Part.char?, isDoubleSpecial]
      | false =>
        obtain ⟨plain, other⟩ := isDoubleSpecial_eq_false_iff.mp special
        have same : s.step c = ⟨.double, false, .quoted c :: .quoted '\\' :: word, tokens⟩ :=
          step_double_escaped plain ⟨other, newline⟩
        refine .inl ⟨false, _, same, ?_, by simp, fun text kept => ?_⟩
        · rw [same]
          simp [s, letters, visible, finished, pending, Part.char?]
        · have first := keptByDouble_cons.mpr ⟨plain, fun same => absurd same other, kept⟩
          refine keptByDouble_cons.mpr ⟨by decide, fun _ => ⟨?_, ?_⟩, first⟩
          · simpa using other
          · simpa using newline

/-- Between double quotes all special characters come out of a text just if the quotes keep it. -/
theorem keptByDouble_of_countP (isEscaped : Bool) (word : List Part) (tokens : List Token)
    (text : List Char) {cs : List Char}
    (last : (pending isEscaped ++ text).getLast? ≠ some '\\') (noneSingle : '\'' ∉ cs)
    (none : cs.countP isDoubleSpecial = 0)
    (full : (letters ⟨.double, isEscaped, word, tokens⟩ ++ text).countP isDoubleSpecial ≤
      (run ⟨.double, isEscaped, word, tokens⟩ (text ++ '"' :: cs)).finished.countP
        isDoubleSpecial) :
    KeptByDouble (pending isEscaped ++ text) := by
  induction text generalizing isEscaped word with
  | nil =>
    cases isEscaped with
    | false => exact keptByDouble_nil
    | true => exact absurd rfl last
  | cons c text ih =>
    have ends : text.getLast? ≠ some '\\' := by
      cases text with
      | nil => simp
      | cons d text => simpa [List.getLast?_append] using last
    have read : run ⟨.double, isEscaped, word, tokens⟩ (c :: text ++ '"' :: cs) =
        run (State.step ⟨.double, isEscaped, word, tokens⟩ c) (text ++ '"' :: cs) := rfl
    rw [read, ← List.singleton_append, ← List.append_assoc] at full
    rcases step_double_cases isEscaped word tokens c with
      ⟨isEscaped', word', same, out, backslash, keeps⟩ | ⟨plain, fewer⟩
    · rw [← out, same] at full
      refine keeps text (ih isEscaped' word' ?_ full)
      cases isEscaped' with
      | false => exact ends
      | true =>
        cases text with
        | nil => exact absurd (by simp [backslash rfl]) last
        | cons d text => simpa [List.getLast?_append] using ends
    · -- A special character is lost here, and what follows gives no more than its own.
      have bound := countP_finished_run_append plain ends noneSingle none
      rw [List.countP_append] at full
      omega

end State

/-! ## What comes out of a line -/

theorem State.readLine_eq_some {s : State} {cs rest : List Char} {toks : List Token}
    (read : s.readLine cs = some (toks, rest)) :
    ∃ before, cs = before ++ rest ∧
      ((s.run before).tokens = .newline :: toks.reverse ∨
        rest = [] ∧ (s.run before).close = some toks) := by
  induction cs generalizing s with
  | nil =>
      rw [readLine, Option.map_eq_some_iff] at read
      obtain ⟨toks', closed, same⟩ := read
      obtain ⟨rfl, rfl⟩ := Prod.mk.inj same
      exact ⟨[], rfl, .inr ⟨rfl, closed⟩⟩
  | cons c cs ih =>
      rw [readLine] at read
      split at read
      next ends =>
        obtain ⟨rfl, rfl⟩ := Prod.mk.inj (Option.some.inj read)
        refine ⟨[c], rfl, .inl ?_⟩
        change (s.step c).tokens = _
        rw [List.reverse_reverse]
        exact (List.cons_head?_tail ends).symm
      next =>
        obtain ⟨before, rfl, found⟩ := ih read
        exact ⟨c :: before, rfl, found⟩

theorem State.letters_close_sublist {s : State} {toks : List Token}
    (closed : s.close = some toks) : (toks.flatMap Token.letters).Sublist s.letters := by
  have plain : s.isEscaped = false := by
    by_contra escaped
    rw [close, if_pos (by simpa using escaped)] at closed
    cases closed
  refine List.Sublist.trans ?_ ((GivesOut.settle s).letters_sublist_self plain)
  rw [close, if_neg (by simp [plain])] at closed
  split at closed
  · rw [← Option.some.inj closed]
    exact finished_sublist_letters _
  · rw [← Option.some.inj closed]
    exact finished_sublist_letters _
  · rw [← Option.some.inj closed]
    simp [letters, visible, finished, Token.letters]
  · cases closed

theorem State.finished_of_newline {s : State} {toks : List Token}
    (ends : s.tokens = .newline :: toks.reverse) : s.finished = toks.flatMap Token.letters := by
  rw [finished, ends, List.reverse_cons, List.reverse_reverse, List.flatMap_append]
  exact List.append_nil _

theorem filterMap_of_mapM {word : Word} {cs : List Char} (all : word.mapM Part.char? = some cs) :
    word.filterMap Part.char? = cs := by
  induction word generalizing cs with
  | nil => cases all; rfl
  | cons part word ih =>
      rw [List.mapM_cons] at all
      obtain ⟨c, here, cs', rest, rfl⟩ :
          ∃ c, part.char? = some c ∧ ∃ cs', word.mapM Part.char? = some cs' ∧ c :: cs' = cs := by
        simpa [Option.bind_eq_some_iff] using all
      rw [List.filterMap_cons_some here, ih rest]

theorem letters_of_target? {word : Word} {text : String} (target : word.target? = some text) :
    (Token.word word).letters = text.toList :=
  filterMap_of_mapM (mapM_of_target? target).1

theorem letters_of_literals {toks : List Token} {texts : List String}
    (all : literals toks = some texts) :
    toks.flatMap Token.letters = texts.flatMap String.toList := by
  rw [literals] at all
  induction toks generalizing texts with
  | nil => cases all; rfl
  | cons token toks ih =>
      rw [List.mapM_cons] at all
      simp only [Option.bind_eq_bind, Option.bind_eq_some_iff] at all
      obtain ⟨text, here, texts', rest, same⟩ := all
      obtain rfl := Option.some.inj same
      rw [List.flatMap_cons, List.flatMap_cons, ih rest]
      cases token with
      | word word => rw [letters_of_target? (target?_of_literal? here).1]
      | _ => cases here

theorem simpleCommand_eq_some {text rest : String} {texts : List String}
    (read : simpleCommand text = some (texts, rest)) :
    ∃ toks, State.start.readLine text.toList = some (toks, rest.toList) ∧
      toks.flatMap Token.letters = texts.flatMap String.toList := by
  simp only [simpleCommand, Option.bind_eq_bind, Option.bind_eq_some_iff] at read
  obtain ⟨⟨toks, rest'⟩, line, texts', all, same⟩ := read
  obtain ⟨rfl, rfl⟩ := Prod.mk.inj (Option.some.inj same)
  exact ⟨toks, by rw [line, String.toList_ofList], letters_of_literals all⟩

end SyncPods.Shell
