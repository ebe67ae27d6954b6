import SyncPods.Proofs.ShellLetters

/-!
# Texts without quotes

No character that quotes others comes out of a text outside of quotes. So a text of which every such
character comes out has none, and its words are those of a text without quotes.
-/

namespace SyncPods.Shell

/-- A character that takes the meaning from others. -/
def isQuote (c : Char) : Bool := c == '"' || c == '\'' || c == '\\'

namespace State

/-- Not in quotes, and never was. The last part of the word and of any other one comes first. -/
structure IsCalm (s : State) : Prop where
  escaped : s.isEscaped = false
  outside : s.isInDouble = false
  single : s.mode ≠ .single
  begun : s.mode = .word → s.word ≠ []
  parts : ∀ part ∈ s.word, part.isPlain = true
  first : s.word.getLast? ≠ some (.bare '#')
  tokens : ∀ word, .word word ∈ s.tokens →
    (∀ part ∈ word, part.isPlain = true) ∧ word.head? ≠ some (.bare '#')

variable {s : State} {c : Char}

namespace IsCalm

theorem emit (calm : s.IsCalm) {token : Token}
    (plain : ∀ word, token = .word word →
      (∀ part ∈ word, part.isPlain = true) ∧ word.head? ≠ some (.bare '#')) :
    (s.emit token).IsCalm where
  escaped := calm.escaped
  outside := rfl
  single := by simp [State.emit]
  begun := by simp [State.emit]
  parts := by simp [State.emit]
  first := by simp [State.emit]
  tokens word listed := by
    rcases List.mem_cons.mp listed with same | earlier
    · exact plain word same.symm
    · exact calm.tokens word earlier

theorem add (calm : s.IsCalm) {part : Part} (plain : part.isPlain = true)
    (first : s.word = [] → part ≠ .bare '#') : (s.add part .word).IsCalm where
  escaped := calm.escaped
  outside := rfl
  single := by simp [State.add]
  begun := by simp [State.add]
  parts := List.forall_mem_cons.mpr ⟨plain, calm.parts⟩
  first := by
    have earlier := calm.first
    cases word : s.word with
    | nil => simpa [State.add, word] using first word
    | cons last parts => simpa [State.add, word] using earlier
  tokens := calm.tokens

/-- In another mode, but neither in quotes nor in a word. -/
theorem mode (calm : s.IsCalm) {mode : Mode} (outside : { s with mode }.isInDouble = false)
    (single : mode ≠ .single) (noWord : mode ≠ .word) : { s with mode }.IsCalm :=
  { calm with outside, single, begun := fun same => absurd same noWord }

theorem settle (calm : s.IsCalm) : s.settle.IsCalm := by
  obtain ⟨mode, isEscaped, word, tokens⟩ := s
  cases mode with
  | name isQuoted letters =>
    cases isQuoted with
    | true => cases calm.outside
    | false => exact calm.add rfl (by simp)
  | operator first => exact calm.emit (by simp)
  | _ => exact calm

theorem readBare (calm : s.IsCalm) (word : isDelimiter c = false) (noQuote : isQuote c = false)
    (first : s.word = [] → c ≠ '#') : (s.readBare c).IsCalm := by
  rw [State.readBare.eq_def]
  split
  · cases noQuote
  · cases noQuote
  · exact calm.mode rfl (by simp) (by simp)
  · exact calm.mode rfl (by simp) (by simp)
  next single double dollar back =>
    have plain : isPlain c = true := by
      have other : c ≠ '\\' := fun same => by rw [same] at noQuote; cases noQuote
      simp only [isPlain, word, Bool.not_false, Bool.true_and, Bool.not_eq_true',
        Bool.or_eq_false_iff, beq_eq_false_iff_ne]
      exact ⟨⟨⟨⟨single, double⟩, dollar⟩, back⟩, other⟩
    exact calm.add plain fun empty same => first empty (Part.bare.inj same)

theorem readDelimiter (calm : s.IsCalm) : (s.readDelimiter c).IsCalm := by
  rw [State.readDelimiter]
  split
  · exact calm
  · split
    · exact calm.emit (by simp)
    · exact calm.mode rfl (by simp) (by simp)

theorem ended (calm : s.IsCalm) : (s.emit (s.ended c)).IsCalm := by
  refine calm.emit fun word same => ?_
  rw [State.ended] at same
  split at same
  · cases same
  · obtain rfl := Token.word.inj same
    exact ⟨fun part listed => calm.parts part (List.mem_reverse.mp listed),
      by rw [List.head?_reverse]; exact calm.first⟩

theorem readDollar (calm : s.IsCalm) : (s.readDollar false c).IsCalm := by
  rw [State.readDollar]
  split
  · exact calm.mode rfl (by simp) (by simp)
  · split
    · exact calm.add rfl (by simp)
    · exact calm.mode rfl (by simp) (by simp)

theorem readPlain (calm : s.IsCalm) (noQuote : isQuote c = false) : (s.readPlain c).IsCalm := by
  obtain ⟨mode, isEscaped, word, tokens⟩ := s
  cases mode with
  | between =>
      simp only [State.readPlain]
      split
      · exact calm.readDelimiter
      next inWord =>
        split
        · exact calm.mode rfl (by simp) (by simp)
        next noComment =>
          exact calm.readBare (eq_false_of_ne_true inWord) noQuote fun _ => by simpa using noComment
  | word =>
      simp only [State.readPlain]
      split
      · exact calm.ended.readDelimiter
      next inWord =>
        exact calm.readBare (eq_false_of_ne_true inWord) noQuote fun empty =>
          absurd empty (calm.begun rfl)
  | single => exact absurd rfl calm.single
  | double => cases calm.outside
  | dollar isQuoted =>
      cases isQuoted with
      | false => exact calm.readDollar
      | true => cases calm.outside
  | comment =>
      simp only [State.readPlain]
      split
      · exact calm.emit (by simp)
      · exact calm
  | _ => exact calm.mode rfl (by simp) (by simp)

theorem goOn? (calm : s.IsCalm) {next : State} (goesOn : s.goOn? c = some next) :
    next.IsCalm := by
  obtain ⟨mode, isEscaped, word, tokens⟩ := s
  cases mode with
  | name isQuoted letters =>
      simp only [State.goOn?] at goesOn
      split at goesOn
      · exact Option.some.inj goesOn ▸ calm.mode calm.outside (by simp) (by simp)
      · cases goesOn
  | operator first =>
      simp only [State.goOn?] at goesOn
      split at goesOn
      · exact Option.some.inj goesOn ▸ calm.mode rfl (by simp) (by simp)
      · split at goesOn
        · exact Option.some.inj goesOn ▸ calm.emit (by simp)
        · cases goesOn
  | _ => cases goesOn

/-- Only a quote or a backslash leads away. -/
theorem step (calm : s.IsCalm) (noQuote : isQuote c = false) : (s.step c).IsCalm := by
  have other : (c == '\\') = false := by
    rw [isQuote] at noQuote
    exact (Bool.or_eq_false_iff.mp noQuote).2
  rw [State.step, if_neg (by simp [calm.escaped]), if_neg (by simp [other]), readNext]
  cases goesOn : s.goOn? c with
  | some next => exact calm.goOn? goesOn
  | none => exact calm.settle.readPlain noQuote

theorem step_backslash (calm : s.IsCalm) :
    s.step '\\' = { s with isEscaped := true } ∨ s.step '\\' = s ∨ s.step '\\' = s.lost := by
  obtain ⟨mode, isEscaped, word, tokens⟩ := s
  obtain rfl : isEscaped = false := calm.escaped
  cases mode with
  | single => exact absurd rfl calm.single
  | comment => exact .inr (.inl rfl)
  | lost => exact .inr (.inr rfl)
  | _ => exact .inl rfl

/-- A quote is lost, or it is a backslash that waits for the next character. -/
theorem lost (calm : s.IsCalm) (quote : isQuote c = true) (cs : List Char) :
    (s.run (c :: cs)).letters.countP isQuote < s.letters.countP isQuote + (c :: cs).countP isQuote ∨
      (s.run (c :: cs)).isEscaped = true := by
  have all : (c :: cs).countP isQuote = cs.countP isQuote + 1 := List.countP_cons_of_pos quote
  have gone (none : GivesOut s (s.step c) []) :
      (s.run (c :: cs)).letters.countP isQuote <
        s.letters.countP isQuote + (c :: cs).countP isQuote := by
    have step := none.letters_sublist_self calm.escaped
    have later := ((s.step c).letters_run_sublist cs).trans (step.append_right cs)
    have counted := later.countP_le (p := isQuote)
    rw [List.countP_append] at counted
    change ((s.step c).run cs).letters.countP isQuote < _
    omega
  have cases : c = '"' ∨ c = '\'' ∨ c = '\\' := by
    simpa [isQuote, or_assoc] using quote
  rcases cases with rfl | rfl | rfl
  · exact .inl (gone (.step_double calm.escaped calm.single))
  · exact .inl (gone (.step_single calm.escaped calm.outside))
  · rcases calm.step_backslash with waits | same | same
    · cases cs with
      | nil => exact .inr (congrArg State.isEscaped waits)
      | cons d cs =>
          left
          have same : ({ s.step '\\' with isEscaped := false } : State) = s := by
            rw [waits, ← calm.escaped]
          have escaped : (s.step '\\').isEscaped = true := by rw [waits]
          have outside : (s.step '\\').isInDouble = false := by rw [waits]; exact calm.outside
          have taken := (GivesOut.step_escaped (c := d) escaped outside).letters_sublist rfl
          rw [same] at taken
          have later := (((s.step '\\').step d).letters_run_sublist cs).trans
            (taken.append_right cs)
          have counted := later.countP_le (p := isQuote)
          rw [List.append_assoc, List.singleton_append, List.countP_append] at counted
          change (((s.step '\\').step d).run cs).letters.countP isQuote < _
          omega
    · exact .inl (gone (by rw [same]; exact .turn s s.mode))
    · exact .inl (gone (by rw [same]; exact .turn s .lost))

end IsCalm

/-- Where no quote is lost there is none. -/
theorem isCalm_run (calm : s.IsCalm) (cs : List Char) :
    (s.run cs).IsCalm ∨
      (s.run cs).letters.countP isQuote < s.letters.countP isQuote + cs.countP isQuote ∨
      (s.run cs).isEscaped = true := by
  induction cs generalizing s with
  | nil => exact .inl calm
  | cons c cs ih =>
      cases quote : isQuote c with
      | true => exact .inr (calm.lost quote cs)
      | false =>
          have first := (s.letters_step_sublist c).countP_le (p := isQuote)
          rw [List.countP_append, List.countP_singleton, if_neg (by simp [quote])] at first
          have all : (c :: cs).countP isQuote = cs.countP isQuote := by simp [quote]
          rcases ih (calm.step quote) with later | fewer | waits
          · exact .inl later
          · refine .inr (.inl ?_)
            rw [all]
            exact fewer.trans_le (Nat.add_le_add_right first _)
          · exact .inr (.inr waits)

theorem IsCalm.of_close (calm : s.IsCalm) {toks : List Token} (closed : s.close = some toks) :
    ∀ word, .word word ∈ toks →
      (∀ part ∈ word, part.isPlain = true) ∧ word.head? ≠ some (.bare '#') := by
  have settled := calm.settle
  rw [close, if_neg (by simp [calm.escaped])] at closed
  split at closed
  · obtain rfl := Option.some.inj closed
    exact fun word listed => settled.tokens word (List.mem_reverse.mp listed)
  · obtain rfl := Option.some.inj closed
    exact fun word listed => settled.tokens word (List.mem_reverse.mp listed)
  · obtain rfl := Option.some.inj closed
    intro word listed
    rcases List.mem_cons.mp (List.mem_reverse.mp listed) with same | earlier
    · obtain rfl := Token.word.inj same
      exact ⟨fun part among => settled.parts part (List.mem_reverse.mp among),
        by rw [List.head?_reverse]; exact settled.first⟩
    · exact settled.tokens word earlier
  · cases closed

end State

/-- Where all the quotes of a text come out of it, no word of it needs any. -/
theorem plain_of_tokens {text : String} {toks : List Token} (read : tokens text = some toks)
    (all : text.toList.countP isQuote ≤ (toks.flatMap Token.letters).countP isQuote) :
    ∀ word, .word word ∈ toks →
      (∀ part ∈ word, part.isPlain = true) ∧ word.head? ≠ some (.bare '#') := by
  have start : State.start.IsCalm :=
    ⟨rfl, rfl, by decide, by decide, by simp [State.start], by decide, by simp [State.start]⟩
  have out := (State.letters_close_sublist read).countP_le (p := isQuote)
  rcases State.isCalm_run start text.toList with calm | fewer | waits
  · exact calm.of_close read
  · have none : State.start.letters.countP isQuote = 0 := by decide
    omega
  · rw [tokens, State.close, if_pos waits] at read
    cases read

end SyncPods.Shell
