import Mathlib.Data.List.Chain

/-!
# Texts as a shell reads them

A shell takes a text apart into words, operators and ends of lines, character by character, and
knows of each part of a word whether it is quoted. This is what happens before any word is expanded,
so the reading tells which words stand for themselves. A text has no reading here where it goes into
a substitution or a document of its own, where a quotation does not end, and where it is left open
what a text means, as it is for a dollar sign that begins no expansion.
-/

namespace SyncPods.Shell

/-! ## Words and commands -/

/-- A part of a word that has not been expanded. -/
inductive Part where
  | bare (c : Char)
  | quoted (c : Char)
  /-- A parameter, whose value comes in its place. -/
  | parameter (name : String) (isQuoted : Bool)
deriving DecidableEq, Repr

abbrev Word := List Part

def bare (text : String) : Word := text.toList.map .bare

def quoted (text : String) : Word := text.toList.map .quoted

inductive Token where
  | word (word : Word)
  /-- A number right before a redirection. -/
  | descriptor (digits : String)
  | operator (text : String)
  | newline
deriving DecidableEq, Repr

namespace Part

/-- The character that a part stands for; none for a parameter. -/
def char? : Part → Option Char
  | bare c => some c
  | quoted c => some c
  | parameter _ _ => none

/-- A character that may make a pattern for the names of files of its word. -/
def isPattern : Part → Bool
  | bare c => c == '*' || c == '?' || c == '['
  | _ => false

end Part

namespace Word

/-- The text of a word behind a redirection, if no expansion touches it. A home directory may be put
in the place of a tilde at its start; it is no pattern for names of files. -/
def target? (word : Word) : Option String :=
  if word.head? = some (.bare '~') then none
  else (word.mapM Part.char?).map String.ofList

/-- The text of a word of a command, if no expansion touches it. -/
def literal? (word : Word) : Option String :=
  if word.any Part.isPattern then none else target? word

end Word

/-! ## Reading -/

/-- What a character of a text is read as part of. -/
inductive Mode where
  | between
  | word
  | single
  | double
  /-- Right behind a dollar sign. -/
  | dollar (isQuoted : Bool)
  /-- In the name of a parameter, of which the last letter comes first. -/
  | name (isQuoted : Bool) (letters : List Char)
  /-- Behind a character of which another one may make a longer operator. -/
  | operator (c : Char)
  | comment
  /-- Where the text has no reading any more. -/
  | lost
deriving DecidableEq, Repr

/-- How far a text has been read. The last part of the word and the last token come first. -/
structure State where
  mode : Mode
  /-- Whether the last character was a backslash that quotes the next one. -/
  isEscaped : Bool
  word : List Part
  tokens : List Token
deriving DecidableEq, Repr

def isBlank (c : Char) : Bool := c == ' ' || c == '\t'

def isOperator (c : Char) : Bool :=
  c == '&' || c == '|' || c == ';' || c == '<' || c == '>' || c == '(' || c == ')'

/-- Two characters that make one operator. -/
def joins : Char → Char → Bool
  | '&', '&' | '|', '|' | ';', ';' | '>', '>' | '<', '&' | '>', '&' | '<', '>' | '>', '|' => true
  | _, _ => false

def isNameStart (c : Char) : Bool := c.isAlpha || c == '_'

def isNameChar (c : Char) : Bool := c.isAlphanum || c == '_'

/-- A parameter whose name is this one character. -/
def isShortName (c : Char) : Bool :=
  c.isDigit || c == '@' || c == '*' || c == '#' || c == '?' || c == '-' || c == '$' || c == '!'

/-- A character that a backslash takes its meaning from between double quotes. -/
def isDoubleSpecial (c : Char) : Bool := c == '$' || c == '`' || c == '"' || c == '\\'

def Part.isDigit : Part → Bool
  | .bare c => c.isDigit
  | _ => false

namespace State

def start : State := ⟨.between, false, [], []⟩

def add (s : State) (part : Part) (mode : Mode) : State :=
  { s with mode, word := part :: s.word }

/-- Goes on behind a token, outside of words. -/
def emit (s : State) (token : Token) : State :=
  { s with mode := .between, word := [], tokens := token :: s.tokens }

def lost (s : State) : State := { s with mode := .lost }

/-- Outside of quotes, or in double quotes. -/
def ground (isQuoted : Bool) : Mode := if isQuoted then .double else .word

/-- Ends a name or an operator that does not go on. -/
def settle (s : State) : State :=
  match s.mode with
  | .name isQuoted letters =>
    s.add (.parameter (String.ofList letters.reverse) isQuoted) (ground isQuoted)
  | .operator c => s.emit (.operator (String.singleton c))
  | _ => s

/-- The word that ends before a character, or a number before a redirection. -/
def ended (s : State) (next : Char) : Token :=
  if (next == '<' || next == '>') && !s.word.isEmpty && s.word.all Part.isDigit then
    .descriptor (String.ofList (s.word.reverse.filterMap Part.char?))
  else .word s.word.reverse

/-- A character of a word outside of quotes. -/
def readBare (s : State) (c : Char) : State :=
  match c with
  | '\'' => { s with mode := .single }
  | '"' => { s with mode := .double }
  | '$' => { s with mode := .dollar false }
  | '`' => s.lost
  | c => s.add (.bare c) .word

/-- A character that is no part of a word. -/
def readDelimiter (s : State) (c : Char) : State :=
  if isBlank c then s
  else if c == '\n' then s.emit .newline
  else { s with mode := .operator c }

def isDelimiter (c : Char) : Bool := isBlank c || c == '\n' || isOperator c

def readDollar (s : State) (isQuoted : Bool) (c : Char) : State :=
  if isNameStart c then { s with mode := .name isQuoted [c] }
  else if isShortName c then s.add (.parameter (String.singleton c) isQuoted) (ground isQuoted)
  else s.lost

/-- A character that neither a backslash quotes nor a name or an operator goes on with. -/
def readPlain (s : State) (c : Char) : State :=
  match s.mode with
  | .between =>
    if isDelimiter c then s.readDelimiter c
    else if c == '#' then { s with mode := .comment }
    else s.readBare c
  | .word => if isDelimiter c then (s.emit (s.ended c)).readDelimiter c else s.readBare c
  | .single => if c == '\'' then { s with mode := .word } else s.add (.quoted c) .single
  | .double =>
    match c with
    | '"' => { s with mode := .word }
    | '$' => { s with mode := .dollar true }
    | '`' => s.lost
    | c => s.add (.quoted c) .double
  | .dollar isQuoted => s.readDollar isQuoted c
  | .comment => if c == '\n' then s.emit .newline else s
  | _ => s.lost

/-- A character behind a backslash. Between double quotes most backslashes stand for themselves. -/
def readEscaped (s : State) (c : Char) : State :=
  match s.mode with
  | .between => s.add (.quoted c) .word
  | .word => s.add (.quoted c) .word
  | .double =>
    if isDoubleSpecial c then s.add (.quoted c) .double
    else (s.add (.quoted '\\') .double).add (.quoted c) .double
  | _ => s.lost

def keepsBackslash (s : State) : Bool :=
  s.mode == .single || s.mode == .comment || s.mode == .lost

/-- A name or an operator goes on as long as it can. -/
def goOn? (s : State) (c : Char) : Option State :=
  match s.mode with
  | .name isQuoted letters =>
    if isNameChar c then some { s with mode := .name isQuoted (c :: letters) } else none
  | .operator first =>
    if first == '<' && c == '<' then some s.lost
    else if joins first c then some (s.emit (.operator (String.ofList [first, c])))
    else none
  | _ => none

def readNext (s : State) (c : Char) : State := (s.goOn? c).getD (s.settle.readPlain c)

/-- Reads one character. A backslash at the end of a line goes away together with the end. -/
def step (s : State) (c : Char) : State :=
  if s.isEscaped then
    if c == '\n' then { s with isEscaped := false }
    else ({ s with isEscaped := false }).settle.readEscaped c
  else if c == '\\' && !s.keepsBackslash then { s with isEscaped := true }
  else s.readNext c

def run (s : State) (cs : List Char) : State := cs.foldl step s

/-- The tokens of a text that ends here. -/
def close (s : State) : Option (List Token) :=
  let settled := s.settle
  if s.isEscaped then none
  else match settled.mode with
    | .between => some settled.tokens.reverse
    | .comment => some settled.tokens.reverse
    | .word => some (.word settled.word.reverse :: settled.tokens).reverse
    | _ => none

end State

def tokens (text : String) : Option (List Token) := (State.start.run text.toList).close

/-- The tokens of the first line of commands, and the text behind the line. -/
def State.readLine (s : State) : List Char → Option (List Token × List Char)
  | [] => s.close.map (·, [])
  | c :: cs =>
    let next := s.step c
    if next.tokens.head? = some .newline then some (next.tokens.tail.reverse, cs)
    else next.readLine cs

def literals (tokens : List Token) : Option (List String) :=
  tokens.mapM fun
    | .word word => word.literal?
    | _ => none

/-- The words of the first command of a text and the text behind its line, if the command is a
simple one and nothing in it is expanded. -/
def simpleCommand (text : String) : Option (List String × String) := do
  let (tokens, rest) ← State.start.readLine text.toList
  return (← literals tokens, String.ofList rest)

/-! ## What reading keeps

Nothing that is read later depends on the tokens that have been read before.
-/

namespace State

variable {s : State} {cs : List Char}

theorem run_append (s : State) (cs ds : List Char) : s.run (cs ++ ds) = (s.run cs).run ds :=
  List.foldl_append

/-- Behind some earlier tokens. -/
def behind (s : State) (earlier : List Token) : State := { s with tokens := s.tokens ++ earlier }

variable (s : State) (earlier : List Token) (c : Char)

theorem behind_readBare : (s.behind earlier).readBare c = (s.readBare c).behind earlier := by
  rw [readBare.eq_def, readBare.eq_def]
  split <;> rfl

theorem behind_readDelimiter :
    (s.behind earlier).readDelimiter c = (s.readDelimiter c).behind earlier := by
  rw [readDelimiter, readDelimiter]
  split
  · rfl
  · split <;> rfl

theorem behind_readDollar (isQuoted : Bool) :
    (s.behind earlier).readDollar isQuoted c = (s.readDollar isQuoted c).behind earlier := by
  rw [readDollar, readDollar]
  split
  · rfl
  · split <;> rfl

theorem behind_settle : (s.behind earlier).settle = s.settle.behind earlier := by
  obtain ⟨mode, _, _, _⟩ := s
  cases mode <;> rfl

theorem behind_readPlain : (s.behind earlier).readPlain c = (s.readPlain c).behind earlier := by
  obtain ⟨mode, isEscaped, word, tokens⟩ := s
  cases mode with
  | between =>
      simp only [behind, readPlain]
      split
      · exact behind_readDelimiter ⟨.between, isEscaped, word, tokens⟩ earlier c
      · split
        · rfl
        · exact behind_readBare ⟨.between, isEscaped, word, tokens⟩ earlier c
  | word =>
      simp only [behind, readPlain]
      split
      · exact behind_readDelimiter
          (emit ⟨.word, isEscaped, word, tokens⟩ (ended ⟨.word, isEscaped, word, tokens⟩ c))
          earlier c
      · exact behind_readBare ⟨.word, isEscaped, word, tokens⟩ earlier c
  | single =>
      simp only [behind, readPlain]
      split <;> rfl
  | double =>
      simp only [behind, readPlain]
      split <;> rfl
  | dollar isQuoted =>
      exact behind_readDollar ⟨.dollar isQuoted, isEscaped, word, tokens⟩ earlier c isQuoted
  | comment =>
      simp only [behind, readPlain]
      split <;> rfl
  | name _ _ => rfl
  | operator _ => rfl
  | lost => rfl

theorem behind_readEscaped :
    (s.behind earlier).readEscaped c = (s.readEscaped c).behind earlier := by
  obtain ⟨mode, isEscaped, word, tokens⟩ := s
  cases mode with
  | double =>
      simp only [behind, readEscaped]
      split <;> rfl
  | _ => rfl

theorem behind_goOn? : (s.behind earlier).goOn? c = (s.goOn? c).map (·.behind earlier) := by
  obtain ⟨mode, isEscaped, word, tokens⟩ := s
  cases mode with
  | name isQuoted letters =>
      simp only [behind, goOn?]
      split <;> rfl
  | operator first =>
      simp only [behind, goOn?]
      split
      · rfl
      · split <;> rfl
  | _ => rfl

theorem behind_readNext : (s.behind earlier).readNext c = (s.readNext c).behind earlier := by
  rw [readNext, readNext, behind_goOn?, behind_settle, behind_readPlain]
  cases s.goOn? c <;> rfl

theorem behind_step : (s.behind earlier).step c = (s.step c).behind earlier := by
  simp only [step]
  have escape : (s.behind earlier).isEscaped = s.isEscaped := rfl
  have keeps : (s.behind earlier).keepsBackslash = s.keepsBackslash := rfl
  rw [escape, keeps]
  split
  · split
    · rfl
    · have settled := behind_settle { s with isEscaped := false } earlier
      rw [← behind_readEscaped, ← settled]
      rfl
  · split
    · rfl
    · exact s.behind_readNext earlier c

theorem behind_close :
    (s.behind earlier).close = s.close.map (earlier.reverse ++ ·) := by
  have settled := behind_settle s earlier
  rw [close, close, settled]
  have escape : (s.behind earlier).isEscaped = s.isEscaped := rfl
  have mode : (s.settle.behind earlier).mode = s.settle.mode := rfl
  rw [escape, mode]
  split
  · rfl
  · split
    · simp [behind]
    · simp [behind]
    · simp [behind]
    · rfl

theorem behind_run (cs : List Char) : (s.behind earlier).run cs = (s.run cs).behind earlier := by
  induction cs generalizing s with
  | nil => rfl
  | cons c cs ih =>
      calc
        (s.behind earlier).run (c :: cs) = ((s.behind earlier).step c).run cs := rfl
        _ = ((s.step c).behind earlier).run cs := by rw [behind_step]
        _ = (s.run (c :: cs)).behind earlier := ih (s.step c)

theorem suffix_settle : s.tokens <:+ s.settle.tokens := by
  obtain ⟨mode, isEscaped, word, tokens⟩ := s
  cases mode with
  | operator _ => exact List.suffix_cons _ _
  | _ => exact List.suffix_refl _

theorem suffix_run (cs : List Char) : s.tokens <:+ (s.run cs).tokens := by
  have split : s.run cs = (({ s with tokens := [] } : State).run cs).behind s.tokens := by
    rw [← behind_run]
    rfl
  rw [split]
  exact List.suffix_append _ _

theorem readLine_append (within : Token.newline ∉ (s.run cs).tokens) (ds : List Char) :
    s.readLine (cs ++ ds) = (s.run cs).readLine ds := by
  induction cs generalizing s with
  | nil => rfl
  | cons c cs ih =>
      -- The end of a line would still be among the tokens of the whole run.
      have goesOn : (s.step c).tokens.head? ≠ some .newline := by
        intro ends
        exact within (((s.step c).suffix_run cs).mem (List.mem_of_mem_head? ends))
      rw [List.cons_append, readLine, if_neg goesOn]
      exact ih _ within

variable {s} in
theorem mem_of_close {toks : List Token} (closed : s.close = some toks) :
    ∀ token ∈ s.tokens, token ∈ toks := by
  intro token listed
  have settled := s.suffix_settle.mem listed
  rw [close] at closed
  split at closed
  · cases closed
  · split at closed
    · exact Option.some.inj closed ▸ List.mem_reverse.mpr settled
    · exact Option.some.inj closed ▸ List.mem_reverse.mpr settled
    · exact Option.some.inj closed ▸ List.mem_reverse.mpr (List.mem_cons_of_mem _ settled)
    · cases closed

/-- The tokens of a text without the end of a line are those of its first line. -/
theorem readLine_of_close {toks : List Token} (closed : (s.run cs).close = some toks)
    (within : Token.newline ∉ toks) : s.readLine cs = some (toks, []) := by
  have whole := readLine_append s (fun ends => within (mem_of_close closed _ ends)) []
  rw [List.append_nil, readLine, closed] at whole
  exact whole

/-! ## Characters that stand for themselves -/

variable {word : List Part} {tokens : List Token} {c : Char}

theorem step_single (other : c ≠ '\'') :
    step ⟨.single, false, word, tokens⟩ c = ⟨.single, false, .quoted c :: word, tokens⟩ := by
  simp [step, keepsBackslash, readNext, goOn?, settle, readPlain, add, other]

theorem step_bare (inWord : isDelimiter c = false)
    (plain : c ≠ '\'' ∧ c ≠ '"' ∧ c ≠ '$' ∧ c ≠ '`' ∧ c ≠ '\\') :
    step ⟨.word, false, word, tokens⟩ c = ⟨.word, false, .bare c :: word, tokens⟩ := by
  obtain ⟨single, double, dollar, back, backslash⟩ := plain
  simp [step, keepsBackslash, readNext, goOn?, settle, readPlain, readBare, add, inWord, backslash]

theorem step_double (kept : c ≠ '"' ∧ c ≠ '$' ∧ c ≠ '`') (other : c ≠ '\\') :
    step ⟨.double, false, word, tokens⟩ c = ⟨.double, false, .quoted c :: word, tokens⟩ := by
  obtain ⟨double, dollar, back⟩ := kept
  simp [step, keepsBackslash, readNext, goOn?, settle, readPlain, add, other]

theorem step_double_escaped (kept : c ≠ '"' ∧ c ≠ '$' ∧ c ≠ '`') (next : c ≠ '\\' ∧ c ≠ '\n') :
    step ⟨.double, true, word, tokens⟩ c =
      ⟨.double, false, .quoted c :: .quoted '\\' :: word, tokens⟩ := by
  obtain ⟨double, dollar, back⟩ := kept
  simp [step, settle, readEscaped, isDoubleSpecial, add, double, dollar, back, next]

theorem run_comment (within : '\n' ∉ cs) :
    run ⟨.comment, false, [], tokens⟩ cs = ⟨.comment, false, [], tokens⟩ := by
  induction cs with
  | nil => rfl
  | cons c cs ih =>
      obtain ⟨other, later⟩ := not_or.mp (mt List.mem_cons.mpr within)
      have passes : step ⟨.comment, false, [], tokens⟩ c = ⟨.comment, false, [], tokens⟩ := by
        simp [step, keepsBackslash, readNext, goOn?, settle, readPlain, Ne.symm other]
      rw [run, List.foldl_cons, passes]
      exact ih later

end State

/-! ## Pieces of a text

What a piece of a text is read as does not depend on what has been read before.
-/

/-- Between words, the text is read as the tokens and ends between words. -/
def Reads (text : String) (toks : List Token) : Prop :=
  ∀ earlier, State.run ⟨.between, false, [], earlier⟩ text.toList =
    ⟨.between, false, [], toks.reverse ++ earlier⟩

/-- Between words, the text is read as the beginning of a word. -/
def Spells (text : String) (word : Word) : Prop :=
  ∀ earlier, State.run ⟨.between, false, [], earlier⟩ text.toList =
    ⟨.word, false, word.reverse, earlier⟩

theorem reads_of_run {text : String} {toks : List Token}
    (alone : State.run ⟨.between, false, [], []⟩ text.toList =
      ⟨.between, false, [], toks.reverse⟩) :
    Reads text toks := by
  intro earlier
  calc
    State.run ⟨.between, false, [], earlier⟩ text.toList
      = (State.run ⟨.between, false, [], []⟩ text.toList).behind earlier :=
        State.behind_run ⟨.between, false, [], []⟩ earlier text.toList
    _ = ⟨.between, false, [], toks.reverse ++ earlier⟩ := by rw [alone]; rfl

theorem spells_of_run {text : String} {word : Word}
    (alone : State.run ⟨.between, false, [], []⟩ text.toList = ⟨.word, false, word.reverse, []⟩) :
    Spells text word := by
  intro earlier
  calc
    State.run ⟨.between, false, [], earlier⟩ text.toList
      = (State.run ⟨.between, false, [], []⟩ text.toList).behind earlier :=
        State.behind_run ⟨.between, false, [], []⟩ earlier text.toList
    _ = ⟨.word, false, word.reverse, earlier⟩ := by rw [alone]; rfl

theorem Reads.append {first second : String} {toks toks' : List Token} (reads : Reads first toks)
    (reads' : Reads second toks') : Reads (first ++ second) (toks ++ toks') := by
  intro earlier
  rw [String.toList_append, State.run_append, reads, reads']
  simp

/-- Of a comment the end of its line is left. -/
theorem reads_comment (text : String) (within : '\n' ∉ text.toList) :
    Reads ("#" ++ text ++ "\n") [.newline] := by
  intro earlier
  have begun : State.run ⟨.between, false, [], earlier⟩ "#".toList =
      ⟨.comment, false, [], earlier⟩ := rfl
  rw [String.toList_append, String.toList_append, State.run_append, State.run_append, begun,
    State.run_comment within]
  rfl

/-- What a text is read as goes on behind its first piece. -/
theorem Reads.tokens_append {first rest : String} {toks : List Token} (reads : Reads first toks) :
    tokens (first ++ rest) = (tokens rest).map (toks ++ ·) := by
  have begun : State.start.run first.toList = State.start.behind toks.reverse := by
    simpa [State.start, State.behind] using reads []
  rw [tokens, tokens, String.toList_append, State.run_append, begun, State.behind_run,
    State.behind_close, List.reverse_reverse]

theorem Spells.blank {text : String} {word : Word} (spells : Spells text word) :
    Reads (text ++ " ") [.word word] := by
  intro earlier
  have ended : State.step ⟨.word, false, word.reverse, earlier⟩ ' ' =
      ⟨.between, false, [], .word word.reverse.reverse :: earlier⟩ := rfl
  rw [String.toList_append, State.run_append, spells]
  rw [List.reverse_reverse] at ended
  exact ended

theorem Spells.line {text : String} {word : Word} (spells : Spells text word) :
    Reads (text ++ "\n") [.word word, .newline] := by
  intro earlier
  have ended : State.step ⟨.word, false, word.reverse, earlier⟩ '\n' =
      ⟨.between, false, [], .newline :: .word word.reverse.reverse :: earlier⟩ := rfl
  rw [String.toList_append, State.run_append, spells]
  rw [List.reverse_reverse] at ended
  exact ended

@[simp]
theorem mapM_char?_quoted (cs : List Char) : (cs.map Part.quoted).mapM Part.char? = some cs := by
  induction cs with
  | nil => rfl
  | cons c cs ih => rw [List.map_cons, List.mapM_cons, ih]; rfl

theorem literal?_quoted (text : String) : Word.literal? (quoted text) = some text := by
  have noTilde : (quoted text).head? ≠ some (.bare '~') := by
    cases chars : text.toList <;> simp [quoted, chars]
  have noPattern : (quoted text).any Part.isPattern = false := by
    simp [quoted, Part.isPattern]
  rw [Word.literal?, noPattern, Word.target?, if_neg noTilde, quoted, mapM_char?_quoted]
  simp

end SyncPods.Shell
