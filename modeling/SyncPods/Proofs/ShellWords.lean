import SyncPods.Proofs.ShellText

/-!
# Texts that stand for themselves

Not every text is read as itself. Between double quotes most characters are, and so are the letters
of a word without quotes, but for those that begin something else.
-/

namespace SyncPods.Shell

/-! ## Texts in double quotes -/

theorem isDoubleSpecial_eq_false_iff {c : Char} :
    isDoubleSpecial c = false ↔ (c ≠ '"' ∧ c ≠ '$' ∧ c ≠ '`') ∧ c ≠ '\\' := by
  simp only [isDoubleSpecial, Bool.or_eq_false_iff, beq_eq_false_iff_ne]
  constructor
  · rintro ⟨⟨⟨dollar, back⟩, double⟩, other⟩
    exact ⟨⟨double, dollar, back⟩, other⟩
  · rintro ⟨⟨double, dollar, back⟩, other⟩
    exact ⟨⟨⟨dollar, back⟩, double⟩, other⟩

/-- Nothing in a text ends the double quotes around it or begins an expansion, and no backslash in
it takes the meaning from the character behind it or goes away with the end of a line. -/
structure KeptByDouble (cs : List Char) : Prop where
  noneSpecial : ∀ c ∈ cs, c ≠ '"' ∧ c ≠ '$' ∧ c ≠ '`'
  backslashes : cs.IsChain fun c next => c = '\\' → next ≠ '\\' ∧ next ≠ '\n'

/-- A text that stands for itself between double quotes: it does not take the meaning from the
closing one either. -/
structure StandsInDouble (cs : List Char) : Prop extends KeptByDouble cs where
  last : cs.getLast? ≠ some '\\'

theorem keptByDouble_nil : KeptByDouble [] := ⟨by simp, by simp⟩

theorem keptByDouble_cons {c : Char} {cs : List Char} :
    KeptByDouble (c :: cs) ↔ (c ≠ '"' ∧ c ≠ '$' ∧ c ≠ '`') ∧
      (c = '\\' → cs.head? ≠ some '\\' ∧ cs.head? ≠ some '\n') ∧ KeptByDouble cs := by
  constructor
  · intro kept
    have chain := List.isChain_cons.mp kept.backslashes
    refine ⟨kept.noneSpecial c List.mem_cons_self, fun backslash => ?_,
      ⟨fun d listed => kept.noneSpecial d (List.mem_cons_of_mem c listed), chain.2⟩⟩
    exact ⟨fun first => (chain.1 _ first backslash).1 rfl,
      fun first => (chain.1 _ first backslash).2 rfl⟩
  · rintro ⟨special, next, kept⟩
    refine ⟨List.forall_mem_cons.mpr ⟨special, kept.noneSpecial⟩,
      List.isChain_cons.mpr ⟨fun d first backslash => ?_, kept.backslashes⟩⟩
    exact ⟨fun same => (next backslash).1 (same ▸ first),
      fun same => (next backslash).2 (same ▸ first)⟩

theorem KeptByDouble.tail {c : Char} {cs : List Char} (kept : KeptByDouble (c :: cs)) :
    KeptByDouble cs :=
  (keptByDouble_cons.mp kept).2.2

theorem getLast?_append_ne {cs ds : List Char} {c : Char} (first : cs.getLast? ≠ some c)
    (second : ds.getLast? ≠ some c) : (cs ++ ds).getLast? ≠ some c := by
  rw [List.getLast?_append, ne_eq, Option.or_eq_some_iff]
  rintro (ends | ⟨-, ends⟩)
  · exact second ends
  · exact first ends

namespace StandsInDouble

variable {cs ds : List Char}

theorem append (stands : StandsInDouble cs) (stands' : StandsInDouble ds) :
    StandsInDouble (cs ++ ds) := by
  refine ⟨⟨fun c listed => ?_, List.isChain_append.mpr ⟨stands.backslashes, stands'.backslashes,
    fun c ends d _ same => absurd (same ▸ ends) stands.last⟩⟩,
    getLast?_append_ne stands.last stands'.last⟩
  exact (List.mem_append.mp listed).elim (stands.noneSpecial c) (stands'.noneSpecial c)

theorem of_plain (plain : cs.all (!isDoubleSpecial ·) = true) : StandsInDouble cs := by
  induction cs with
  | nil => exact ⟨keptByDouble_nil, by simp⟩
  | cons c cs ih =>
      obtain ⟨here, there⟩ : isDoubleSpecial c = false ∧ cs.all (!isDoubleSpecial ·) = true := by
        simpa using plain
      obtain ⟨special, other⟩ := isDoubleSpecial_eq_false_iff.mp here
      obtain ⟨kept, last⟩ := ih there
      refine ⟨keptByDouble_cons.mpr ⟨special, fun same => absurd same other, kept⟩, ?_⟩
      have one : [c].getLast? ≠ some '\\' := by simpa using other
      exact getLast?_append_ne one last

end StandsInDouble

namespace State

variable {word : List Part} {tokens : List Token}

theorem run_double {cs : List Char} (stands : StandsInDouble cs) :
    run ⟨.double, false, word, tokens⟩ cs =
      ⟨.double, false, (cs.map .quoted).reverse ++ word, tokens⟩ := by
  obtain ⟨kept, last⟩ := stands
  -- A backslash waits for the next character, so two characters are read at a time behind one.
  induction cs using List.twoStepInduction generalizing word with
  | nil => rfl
  | singleton c =>
      have other : c ≠ '\\' := fun same => last (congrArg _ same)
      exact step_double (kept.noneSpecial c List.mem_cons_self) other
  | cons_cons c d rest behindBoth behindFirst =>
      have special := kept.noneSpecial c List.mem_cons_self
      by_cases backslash : c = '\\'
      · have next := (List.isChain_cons_cons.mp kept.backslashes).1 backslash
        have ends : rest.getLast? ≠ some '\\' := by
          cases rest with
          | nil => simp
          | cons e rest => simpa using last
        have special' := kept.tail.noneSpecial d List.mem_cons_self
        calc
          run ⟨.double, false, word, tokens⟩ (c :: d :: rest)
            = run (step ⟨.double, true, word, tokens⟩ d) rest := by rw [backslash]; rfl
          _ = run ⟨.double, false, .quoted d :: .quoted '\\' :: word, tokens⟩ rest := by
            rw [step_double_escaped special' next]
          _ = _ := by
            rw [behindBoth kept.tail.tail ends, backslash]
            simp
      · calc
          run ⟨.double, false, word, tokens⟩ (c :: d :: rest)
            = run (step ⟨.double, false, word, tokens⟩ c) (d :: rest) := rfl
          _ = run ⟨.double, false, .quoted c :: word, tokens⟩ (d :: rest) := by
            rw [step_double special backslash]
          _ = _ := by
            rw [behindFirst d kept.tail (by simpa using last)]
            simp

end State

/-! ## Words -/

/-- A character that stands for itself in a word without quotes. -/
def isPlain (c : Char) : Bool :=
  !State.isDelimiter c && !(c == '\'' || c == '"' || c == '$' || c == '`' || c == '\\')

/-- A part of a word for which no quotes are needed. -/
def Part.isPlain : Part → Bool
  | .bare c => Shell.isPlain c
  | .quoted _ => false
  | .parameter _ isQuoted => !isQuoted

/-- A text that is a word without quotes around it, in which nothing is expanded but perhaps a
pattern for the names of files. -/
structure IsPlainWord (text : String) : Prop where
  nonempty : text.toList ≠ []
  plain : text.toList.all isPlain = true
  noComment : text.toList.head? ≠ some '#'
  noTilde : text.toList.head? ≠ some '~'

instance (text : String) : Decidable (IsPlainWord text) :=
  decidable_of_iff (text.toList ≠ [] ∧ text.toList.all isPlain = true ∧
      text.toList.head? ≠ some '#' ∧ text.toList.head? ≠ some '~')
    ⟨fun ⟨nonempty, plain, noComment, noTilde⟩ => ⟨nonempty, plain, noComment, noTilde⟩,
      fun ⟨nonempty, plain, noComment, noTilde⟩ => ⟨nonempty, plain, noComment, noTilde⟩⟩

/-- The name of a variable of the shell. -/
def isName (text : String) : Bool :=
  match text.toList with
  | [] => false
  | c :: cs => isNameStart c && cs.all isNameChar

section

variable {word : List Part} {tokens : List Token}

theorem run_plain {cs : List Char} (plain : ∀ c ∈ cs, isPlain c = true) :
    State.run ⟨.word, false, word, tokens⟩ cs =
      ⟨.word, false, (cs.map .bare).reverse ++ word, tokens⟩ := by
  induction cs generalizing word with
  | nil => rfl
  | cons c cs ih =>
      have first : State.step ⟨.word, false, word, tokens⟩ c =
          ⟨.word, false, .bare c :: word, tokens⟩ := by
        have here := plain c List.mem_cons_self
        simp only [isPlain, Bool.and_eq_true, Bool.not_eq_true', Bool.or_eq_false_iff,
          beq_eq_false_iff_ne] at here
        obtain ⟨inWord, ⟨⟨⟨single, double⟩, dollar⟩, back⟩, backslash⟩ := here
        exact State.step_bare inWord ⟨single, double, dollar, back, backslash⟩
      calc
        State.run ⟨.word, false, word, tokens⟩ (c :: cs)
          = State.run (State.step ⟨.word, false, word, tokens⟩ c) cs := rfl
        _ = _ := by
          rw [first, ih fun d listed => plain d (List.mem_cons_of_mem c listed)]
          simp

theorem step_between_plain {c : Char} (plain : isPlain c = true) (noComment : c ≠ '#') :
    State.step ⟨.between, false, [], tokens⟩ c = ⟨.word, false, [.bare c], tokens⟩ := by
  simp only [isPlain, Bool.and_eq_true, Bool.not_eq_true', Bool.or_eq_false_iff,
    beq_eq_false_iff_ne] at plain
  obtain ⟨inWord, ⟨⟨⟨single, double⟩, dollar⟩, back⟩, backslash⟩ := plain
  simp [State.step, State.keepsBackslash, State.readNext, State.goOn?, State.settle,
    State.readPlain, State.readBare, State.add, inWord, backslash, noComment]

theorem isNameChar_ne_backslash {c : Char} (inName : isNameChar c = true) : c ≠ '\\' := by
  rintro rfl
  exact absurd inName (by decide)

theorem isNameStart_ne_backslash {c : Char} (begins : isNameStart c = true) : c ≠ '\\' := by
  rintro rfl
  exact absurd begins (by decide)

theorem run_letters {cs : List Char} (inName : ∀ c ∈ cs, isNameChar c = true) (isQuoted : Bool)
    (letters : List Char) :
    State.run ⟨.name isQuoted letters, false, word, tokens⟩ cs =
      ⟨.name isQuoted (cs.reverse ++ letters), false, word, tokens⟩ := by
  induction cs generalizing letters with
  | nil => rfl
  | cons c cs ih =>
      have here := inName c List.mem_cons_self
      have first : State.step ⟨.name isQuoted letters, false, word, tokens⟩ c =
          ⟨.name isQuoted (c :: letters), false, word, tokens⟩ := by
        simp [State.step, State.keepsBackslash, State.readNext, State.goOn?, here,
          isNameChar_ne_backslash here]
      calc
        State.run ⟨.name isQuoted letters, false, word, tokens⟩ (c :: cs)
          = State.run (State.step ⟨.name isQuoted letters, false, word, tokens⟩ c) cs := rfl
        _ = _ := by
          rw [first, ih fun d listed => inName d (List.mem_cons_of_mem c listed)]
          simp

/-- The name of a parameter goes on up to the first character that is in no name. -/
theorem run_name {name : String} (isName : isName name = true) {c : Char}
    (ends : isNameChar c = false) (other : c ≠ '\\') (rest : List Char) :
    State.run ⟨.dollar true, false, word, tokens⟩ (name.toList ++ c :: rest) =
      State.run ⟨.double, false, .parameter name true :: word, tokens⟩ (c :: rest) := by
  have last (letters : List Char) : State.step ⟨.name true letters, false, word, tokens⟩ c =
      State.step ⟨.double, false, .parameter (String.ofList letters.reverse) true :: word, tokens⟩
        c := by
    simp [State.step, State.keepsBackslash, State.readNext, State.goOn?, State.settle, State.add,
      State.ground, ends, other]
  rw [Shell.isName] at isName
  split at isName
  next => cases isName
  next d ds chars =>
    obtain ⟨begins, inName⟩ := (Bool.and_eq_true _ _).mp isName
    have first : State.step ⟨.dollar true, false, word, tokens⟩ d =
        ⟨.name true [d], false, word, tokens⟩ := by
      simp [State.step, State.keepsBackslash, State.readNext, State.goOn?, State.settle,
        State.readPlain, State.readDollar, begins, isNameStart_ne_backslash begins]
    calc
      State.run ⟨.dollar true, false, word, tokens⟩ (name.toList ++ c :: rest)
        = State.run (State.step ⟨.dollar true, false, word, tokens⟩ d) (ds ++ c :: rest) := by
          rw [chars]; rfl
      _ = State.run (State.step ⟨.name true (ds.reverse ++ [d]), false, word, tokens⟩ c) rest := by
          rw [first, State.run_append, run_letters (List.all_eq_true.mp inName)]
          rfl
      _ = _ := by
          rw [last, List.reverse_append, List.reverse_reverse, List.reverse_singleton,
            List.singleton_append, ← chars, String.ofList_toList]
          rfl

end

theorem spells_bare {text : String} (plain : IsPlainWord text) : Spells text (bare text) := by
  intro earlier
  cases chars : text.toList with
  | nil => exact absurd chars plain.nonempty
  | cons c cs =>
      have all := List.all_eq_true.mp plain.plain
      rw [chars] at all
      have noComment : c ≠ '#' := fun same => plain.noComment (by rw [chars, same]; rfl)
      calc
        State.run ⟨.between, false, [], earlier⟩ (c :: cs)
          = State.run (State.step ⟨.between, false, [], earlier⟩ c) cs := rfl
        _ = _ := by
          rw [step_between_plain (all c List.mem_cons_self) noComment,
            run_plain fun d listed => all d (List.mem_cons_of_mem c listed), bare, chars]
          simp

theorem spells_double {text : String} (stands : StandsInDouble text.toList) :
    Spells ("\"" ++ text ++ "\"") (quoted text) := by
  intro earlier
  calc
    State.run ⟨.between, false, [], earlier⟩ ("\"" ++ text ++ "\"").toList
      = State.run ⟨.double, false, [], earlier⟩ (text.toList ++ ['"']) := by
        simp only [String.toList_append]
        rfl
    _ = _ := by
        rw [State.run_append, State.run_double stands, List.append_nil]
        rfl

/-- The value of a variable between texts that stand for themselves. -/
theorem spells_parameter (before name after : String) (stands : StandsInDouble before.toList)
    (isName : isName name = true) (stands' : StandsInDouble after.toList)
    (ends : (after.toList ++ ['"']).head?.all (fun c => !isNameChar c && c != '\\') = true) :
    Spells ("\"" ++ before ++ "$" ++ name ++ after ++ "\"")
      (quoted before ++ .parameter name true :: quoted after) := by
  intro earlier
  obtain ⟨c, rest, chars⟩ : ∃ c rest, after.toList ++ ['"'] = c :: rest :=
    List.exists_cons_of_ne_nil (by simp)
  obtain ⟨ended, other⟩ : isNameChar c = false ∧ c ≠ '\\' := by
    simpa [chars] using ends
  calc
    State.run ⟨.between, false, [], earlier⟩
        ("\"" ++ before ++ "$" ++ name ++ after ++ "\"").toList
      = State.run ⟨.double, false, [], earlier⟩
          (before.toList ++ '$' :: (name.toList ++ (after.toList ++ ['"']))) := by
        simp only [String.toList_append, List.append_assoc]
        rfl
    _ = State.run ⟨.dollar true, false, (quoted before).reverse, earlier⟩
          (name.toList ++ (after.toList ++ ['"'])) := by
        rw [State.run_append, State.run_double stands, List.append_nil]
        rfl
    _ = State.run ⟨.double, false, .parameter name true :: (quoted before).reverse, earlier⟩
          (after.toList ++ ['"']) := by
        rw [chars, run_name isName ended other]
    _ = ⟨.word, false, (quoted before ++ .parameter name true :: quoted after).reverse,
          earlier⟩ := by
        rw [State.run_append, State.run_double stands']
        simp only [quoted, List.reverse_append, List.reverse_cons]
        simp
        rfl

/-! ## Names in a text -/

theorem isNameChar_of_isNameStart {c : Char} (begins : isNameStart c = true) :
    isNameChar c = true := by
  rcases (Bool.or_eq_true _ _).mp begins with letter | underscore
  · simp [isNameChar, Char.isAlphanum, letter]
  · simp [isNameChar, underscore]

theorem isNameChar_of_isName {name : String} (isName : isName name = true) :
    ∀ c ∈ name.toList, isNameChar c = true := by
  rw [Shell.isName] at isName
  split at isName
  next => cases isName
  next d ds chars =>
    obtain ⟨begins, inName⟩ := (Bool.and_eq_true _ _).mp isName
    rw [chars]
    exact List.forall_mem_cons.mpr
      ⟨isNameChar_of_isNameStart begins, List.all_eq_true.mp inName⟩

/-- A message may mention a name between double quotes. -/
theorem standsInDouble_message (before name after : String) (isName : isName name = true)
    (plain : (before.toList ++ after.toList).all (!isDoubleSpecial ·) = true) :
    StandsInDouble (before ++ name ++ after).toList := by
  obtain ⟨first, last⟩ := (Bool.and_eq_true _ _).mp (List.all_append.symm.trans plain)
  have named : name.toList.all (!isDoubleSpecial ·) = true := by
    refine List.all_eq_true.mpr fun c listed => ?_
    have inName := isNameChar_of_isName isName c listed
    rw [Bool.not_eq_true', isDoubleSpecial_eq_false_iff]
    refine ⟨⟨?_, ?_, ?_⟩, ?_⟩ <;> rintro rfl <;> exact absurd inName (by decide)
  simp only [String.toList_append]
  exact ((StandsInDouble.of_plain first).append (.of_plain named)).append (.of_plain last)

/-! ## Words that stand for a text -/

theorem target?_bare {text : String} (plain : IsPlainWord text) :
    Word.target? (bare text) = some text := by
  have mapped (cs : List Char) : (cs.map Part.bare).mapM Part.char? = some cs := by
    induction cs with
    | nil => rfl
    | cons c cs ih => rw [List.map_cons, List.mapM_cons, ih]; rfl
  have noTilde : (bare text).head? ≠ some (.bare '~') := by
    rw [bare, List.head?_map, ne_eq, Option.map_eq_some_iff]
    rintro ⟨c, first, same⟩
    exact plain.noTilde (Part.bare.inj same ▸ first)
  rw [Word.target?, if_neg noTilde, bare, mapped]
  simp

theorem literal?_bare {text : String} (plain : IsPlainWord text)
    (noPattern : (bare text).any Part.isPattern = false) :
    Word.literal? (bare text) = some text := by
  rw [Word.literal?, noPattern, target?_bare plain]
  simp

theorem mapM_of_target? {word : Word} {text : String} (target : word.target? = some text) :
    word.mapM Part.char? = some text.toList ∧ word.head? ≠ some (.bare '~') := by
  rw [Word.target?] at target
  split at target
  next => cases target
  next noTilde =>
    obtain ⟨cs, all, rfl⟩ := Option.map_eq_some_iff.mp target
    exact ⟨by rw [all, String.toList_ofList], noTilde⟩

theorem target?_of_literal? {word : Word} {text : String} (literal : word.literal? = some text) :
    word.target? = some text ∧ word.any Part.isPattern = false := by
  rw [Word.literal?] at literal
  split at literal
  next => cases literal
  next noPattern => exact ⟨literal, eq_false_of_ne_true noPattern⟩

theorem eq_map_bare {word : Word} {cs : List Char} (plain : ∀ part ∈ word, part.isPlain = true)
    (all : word.mapM Part.char? = some cs) :
    word = cs.map .bare ∧ ∀ c ∈ cs, isPlain c = true := by
  induction word generalizing cs with
  | nil => cases all; simp
  | cons part word ih =>
      obtain ⟨here, there⟩ := List.forall_mem_cons.mp plain
      rw [List.mapM_cons] at all
      obtain ⟨c, first, cs', rest, rfl⟩ :
          ∃ c, part.char? = some c ∧ ∃ cs', word.mapM Part.char? = some cs' ∧ c :: cs' = cs := by
        simpa [Option.bind_eq_some_iff] using all
      obtain ⟨same, later⟩ := ih there rest
      cases part with
      | bare d =>
          obtain rfl := Option.some.inj first
          exact ⟨by rw [List.map_cons, ← same], List.forall_mem_cons.mpr ⟨here, later⟩⟩
      | quoted d => cases here
      | parameter name isQuoted => cases first

/-- A word without quotes, and not in the place of a comment, stands for a text only if the text
needs no quotes. -/
theorem isPlainWord_of_target? {word : Word} {text : String} (nonempty : text ≠ "")
    (plain : ∀ part ∈ word, part.isPlain = true) (noComment : word.head? ≠ some (.bare '#'))
    (target : word.target? = some text) : IsPlainWord text := by
  obtain ⟨all, noTilde⟩ := mapM_of_target? target
  obtain ⟨same, letters⟩ := eq_map_bare plain all
  have first (c : Char) (begins : text.toList.head? = some c) : word.head? = some (.bare c) := by
    rw [same, List.head?_map, begins]
    rfl
  exact ⟨fun none => nonempty (String.toList_inj.mp none), List.all_eq_true.mpr letters,
    fun begins => noComment (first _ begins), fun begins => noTilde (first _ begins)⟩

theorem noPattern_of_literal? {word : Word} {text : String}
    (plain : ∀ part ∈ word, part.isPlain = true) (literal : word.literal? = some text) :
    (bare text).any Part.isPattern = false := by
  obtain ⟨target, noPattern⟩ := target?_of_literal? literal
  obtain ⟨same, -⟩ := eq_map_bare plain (mapM_of_target? target).1
  rwa [same] at noPattern

end SyncPods.Shell
