import SyncPods.Proofs.SidecarTrap

/-!
# Quoted words survive

Words in single quotes with a blank between them come out of a shell as they went in, whatever
characters they are made of. This hangs on three rules for reading only: what stands in single
quotes is kept, a backslash outside of them keeps the character behind it, and blanks outside of
them part words. The reader here knows these three rules and no other; the shell, which knows many
more, finds nothing to apply them to.
-/

namespace SyncPods.Shell

/-- How far a text has been parted into words. The last word comes first, and in the word that is
being read the last character. -/
structure Splitter where
  isQuoted : Bool
  /-- Whether the last character was a backslash that quotes the next one. -/
  isEscaped : Bool
  word : Option (List Char)
  words : List String

namespace Splitter

def start : Splitter := ⟨false, false, none, []⟩

def add (s : Splitter) (c : Char) : Splitter :=
  { s with isEscaped := false, word := some (c :: s.word.getD []) }

/-- Opens single quotes. A word that begins with them is there even if they hold nothing. -/
def openQuotes (s : Splitter) : Splitter :=
  { s with isQuoted := true, word := some (s.word.getD []) }

/-- Ends the word that is being read, if there is one. -/
def endWord (s : Splitter) : Splitter :=
  match s.word with
  | some cs => { s with word := none, words := String.ofList cs.reverse :: s.words }
  | none => s

/-- Reads one character. A backslash at the end of a line goes away together with the end. -/
def step (s : Splitter) (c : Char) : Splitter :=
  if s.isQuoted then if c = '\'' then { s with isQuoted := false } else s.add c
  else if s.isEscaped then if c = '\n' then { s with isEscaped := false } else s.add c
  else if c = '\\' then { s with isEscaped := true }
  else if c = '\'' then s.openQuotes
  else if isBlank c ∨ c = '\n' then s.endWord
  else s.add c

def run (s : Splitter) (cs : List Char) : Splitter := cs.foldl step s

/-- The words of a text that ends here; none if a quotation has not ended. -/
def close (s : Splitter) : Option (List String) :=
  if s.isQuoted || s.isEscaped then none else some s.endWord.words.reverse

end Splitter

/-- The words of a text by single quotes, backslashes and blanks. -/
def splitWords (text : String) : Option (List String) := (Splitter.start.run text.toList).close

/-- Words in single quotes with a blank between them. -/
def quotedLine (words : List String) : String := " ".intercalate (words.map singleQuoted)

theorem toList_quotedLine_singleton (text : String) :
    (quotedLine [text]).toList = (singleQuoted text).toList := by
  simp [quotedLine]

theorem toList_quotedLine_cons (text next : String) (texts : List String) :
    (quotedLine (text :: next :: texts)).toList =
      (singleQuoted text).toList ++ ' ' :: (quotedLine (next :: texts)).toList := by
  simp [quotedLine, String.toList_intercalate]

/-! ## Reading -/

namespace Splitter

variable {s : Splitter} {word : List Char} {words : List String}

theorem run_append (s : Splitter) (cs ds : List Char) : s.run (cs ++ ds) = (s.run cs).run ds :=
  List.foldl_append

theorem run_singleEscape (cs : List Char) :
    run ⟨true, false, some word, words⟩ (cs.flatMap singleEscape) =
      ⟨true, false, some (cs.reverse ++ word), words⟩ := by
  induction cs generalizing word with
  | nil => rfl
  | cons c cs ih =>
      -- A quote inside ends the quotes, comes escaped, and opens them again in the same word.
      have one : run ⟨true, false, some word, words⟩ (singleEscape c) =
          ⟨true, false, some (c :: word), words⟩ := by
        rw [singleEscape]
        split
        next same => rw [same]; rfl
        next other => simp [run, step, other, add]
      rw [List.flatMap_cons, run_append, one, ih]
      simp

/-- Between words, a text in single quotes is read as that text. -/
theorem run_singleQuoted (text : String) :
    run ⟨false, false, none, words⟩ (singleQuoted text).toList =
      ⟨false, false, some text.toList.reverse, words⟩ := by
  have opened : step ⟨false, false, none, words⟩ '\'' = ⟨true, false, some [], words⟩ := rfl
  have closed (word : List Char) : run ⟨true, false, some word, words⟩ ['\''] =
      ⟨false, false, some word, words⟩ := rfl
  calc
    run ⟨false, false, none, words⟩ (singleQuoted text).toList
      = run (step ⟨false, false, none, words⟩ '\'')
          (text.toList.flatMap singleEscape ++ ['\'']) := by
        rw [toList_singleQuoted]
        rfl
    _ = _ := by
        rw [opened, run_append, run_singleEscape, closed, List.append_nil]

/-- The blank behind a word in single quotes ends it. -/
theorem run_singleQuoted_blank (text : String) (rest : List Char) :
    run ⟨false, false, none, words⟩ ((singleQuoted text).toList ++ ' ' :: rest) =
      run ⟨false, false, none, text :: words⟩ rest := by
  have ended : step ⟨false, false, some text.toList.reverse, words⟩ ' ' =
      ⟨false, false, none, String.ofList text.toList.reverse.reverse :: words⟩ := rfl
  rw [List.reverse_reverse, String.ofList_toList] at ended
  rw [run_append, run_singleQuoted]
  exact congrArg (run · rest) ended

theorem close_quotedLine (texts : List String) :
    (run ⟨false, false, none, words⟩ (quotedLine texts).toList).close =
      some (words.reverse ++ texts) := by
  induction texts generalizing words with
  | nil => simp [quotedLine, run, close, endWord]
  | cons text texts ih =>
      cases texts with
      | nil => simp [toList_quotedLine_singleton, run_singleQuoted, close, endWord]
      | cons next texts =>
          rw [toList_quotedLine_cons, run_singleQuoted_blank, ih]
          simp

theorem run_quotedLine_blank (texts : List String) (rest : List Char) :
    run ⟨false, false, none, words⟩ ((quotedLine texts).toList ++ ' ' :: rest) =
      run ⟨false, false, none, texts.reverse ++ words⟩ rest := by
  induction texts generalizing words with
  | nil => rfl
  | cons text texts ih =>
      cases texts with
      | nil =>
          rw [toList_quotedLine_singleton, run_singleQuoted_blank]
          rfl
      | cons next texts =>
          rw [toList_quotedLine_cons, List.append_assoc, List.cons_append, run_singleQuoted_blank,
            ih]
          simp

/-! Nothing that is read later depends on the words that have been read before. -/

/-- Behind some earlier words. -/
def behind (s : Splitter) (earlier : List String) : Splitter :=
  { s with words := s.words ++ earlier }

variable (s : Splitter) (earlier : List String)

theorem behind_endWord : (s.behind earlier).endWord = s.endWord.behind earlier := by
  obtain ⟨isQuoted, isEscaped, word, words⟩ := s
  cases word <;> rfl

theorem behind_step (c : Char) : (s.behind earlier).step c = (s.step c).behind earlier := by
  simp only [step, apply_ite (behind · earlier), behind_endWord]
  rfl

theorem behind_run (cs : List Char) : (s.behind earlier).run cs = (s.run cs).behind earlier := by
  induction cs generalizing s with
  | nil => rfl
  | cons c cs ih => rw [run, List.foldl_cons, behind_step, ← run, ih, run, run, List.foldl_cons]

theorem behind_close :
    (s.behind earlier).close = s.close.map (earlier.reverse ++ ·) := by
  have ended : (s.endWord.behind earlier).words = s.endWord.words ++ earlier := rfl
  rw [close, close, behind_endWord, ended, apply_ite (Option.map _), Option.map_none,
    Option.map_some, ← List.reverse_append]
  rfl

end Splitter

/-! ## The words of a line -/

theorem splitWords_quotedLine (words : List String) :
    splitWords (quotedLine words) = some words :=
  Splitter.close_quotedLine words

example : splitWords "'' 'it'\\''s' 'a\\' '\n'" = some ["", "it's", "a\\", "\n"] := by
  decide

/-- What stands behind the words is read as if it stood alone. -/
theorem splitWords_quotedLine_append (words : List String) (rest : String) :
    splitWords (quotedLine words ++ " " ++ rest) = (splitWords rest).map (words ++ ·) := by
  have chars : (quotedLine words ++ " " ++ rest).toList =
      (quotedLine words).toList ++ ' ' :: rest.toList := by
    simp [String.toList_append]
  have begun : Splitter.start.run ((quotedLine words).toList ++ ' ' :: rest.toList) =
      (Splitter.start.behind words.reverse).run rest.toList := by
    rw [Splitter.start, Splitter.run_quotedLine_blank, List.append_nil]
    rfl
  rw [splitWords, chars, begun, Splitter.behind_run, Splitter.behind_close, List.reverse_reverse,
    splitWords]

/-- A shell, with all that it knows besides, reads the same words. -/
theorem literals_tokens_quotedLine (words : List String) :
    (tokens (quotedLine words)).bind literals = some words := by
  have read : tokens (quotedLine words) = some (words.map fun word => .word (quoted word)) :=
    close_paths words []
  rw [read, Option.bind_some, literals_quoted]

/-- Words in single quotes come out of a line as they went in, and what follows them is read as if
it stood alone, so no word can merge with or escape into its neighbours. A shell finds nothing else
to read in them, and no two words look the same in quotes. -/
theorem quoted_words_survive :
    (∀ words,
      splitWords (quotedLine words) = some words ∧
        (tokens (quotedLine words)).bind literals = some words ∧
        ∀ rest, splitWords (quotedLine words ++ " " ++ rest) =
          (splitWords rest).map (words ++ ·)) ∧
      singleQuoted.Injective ∧ quotedLine.Injective := by
  have line : quotedLine.Injective := by
    intro left right same
    have words := splitWords_quotedLine left
    rw [same, splitWords_quotedLine] at words
    exact (Option.some.inj words).symm
  refine ⟨fun words => ⟨splitWords_quotedLine words, literals_tokens_quotedLine words,
    splitWords_quotedLine_append words⟩, fun left right same => ?_, line⟩
  have single (text : String) : quotedLine [text] = singleQuoted text :=
    String.toList_inj.mp (toList_quotedLine_singleton text)
  exact List.singleton_inj.mp (line (by rw [single, single, same]))

end SyncPods.Shell
