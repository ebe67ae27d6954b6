import Mathlib.Algebra.Ring.Nat
import SyncPods.Proofs.ShellWords

/-!
# Commands as a shell reads them

The tokens of a text make simple commands, with the reserved words and operators between them. Which
commands a text consists of is found piece by piece, as long as every piece ends behind a command.
-/

namespace SyncPods.Shell

/-! ## Commands -/

structure Redirection where
  descriptor : Option String
  operator : String
  target : Word
deriving DecidableEq, Repr

structure Command where
  words : List Word
  redirections : List Redirection
deriving DecidableEq, Repr

namespace Command

instance : EmptyCollection Command := ⟨⟨[], []⟩⟩

def isEmpty (c : Command) : Bool := c.words.isEmpty && c.redirections.isEmpty

/-- Adds a command that has come to its end, if there is one. The last command comes first. -/
def onto (c : Command) (done : List Command) : List Command :=
  if c.isEmpty then done else c :: done

theorem onto_empty (done : List Command) : onto ∅ done = done := rfl

def addWord (c : Command) (word : Word) : Command := { c with words := c.words ++ [word] }

def redirect (c : Command) (descriptor : Option String) (operator : String) (target : Word) :
    Command :=
  { c with redirections := c.redirections ++ [⟨descriptor, operator, target⟩] }

end Command

/-- A word that stands around commands where it is the first one of a command. -/
def isReserved (word : Word) : Bool :=
  ["if", "then", "elif", "else", "fi", "while", "until", "do", "done", "\x7b", "\x7d", "!"].any
    fun name => word == bare name

/-- A word with which commands begin whose words are not those of a simple command. -/
def isUnread (word : Word) : Bool :=
  ["case", "for"].any fun name => word == bare name

def isRedirection (operator : String) : Bool :=
  ["<", ">", ">>", "<&", ">&", "<>", ">|"].any fun other => operator == other

/-- The simple commands of the tokens, behind other ones and the first part of a command. The
reserved words around them and the way they are nested are left out. -/
def commandsFrom (done : List Command) (current : Command) : List Token → Option (List Command)
  | [] => some (current.onto done).reverse
  | .newline :: rest => commandsFrom (current.onto done) ∅ rest
  | .word word :: rest =>
    if current.isEmpty && isReserved word then commandsFrom done current rest
    else if current.isEmpty && isUnread word then none
    else commandsFrom done (current.addWord word) rest
  | .descriptor digits :: rest =>
    match rest with
    | .operator operator :: .word target :: rest =>
      commandsFrom done (current.redirect (some digits) operator target) rest
    | _ => none
  | .operator operator :: rest =>
    if isRedirection operator then
      match rest with
      | .word target :: rest => commandsFrom done (current.redirect none operator target) rest
      | _ => none
    else if operator == "(" && !current.isEmpty then none
    else commandsFrom (current.onto done) ∅ rest

def commands (text : String) : Option (List Command) :=
  (tokens text).bind (commandsFrom [] ∅)

example : commands "if [ -f x ]; then (kill 1 2>/dev/null) & fi\n" =
    some [⟨["[", "-f", "x", "]"].map bare, []⟩,
      ⟨["kill", "1"].map bare, [⟨some "2", ">", bare "/dev/null"⟩]⟩] := by decide +kernel

/-! ## Commands of a text -/

/-- Behind the first part of a command, the text is read as the commands and what is left of it as
the first part of another one. -/
def ReadsAs (begun : Command) (text : String) (made : List Command) (left : Command) : Prop :=
  ∃ toks, Reads text toks ∧ ∀ done rest,
    commandsFrom done begun (toks ++ rest) = commandsFrom (made.reverse ++ done) left rest

namespace ReadsAs

variable {begun left last : Command} {first rest text : String} {made made' : List Command}

theorem append (reads : ReadsAs begun first made left) (reads' : ReadsAs left rest made' last) :
    ReadsAs begun (first ++ rest) (made ++ made') last := by
  obtain ⟨toks, read, makes⟩ := reads
  obtain ⟨toks', read', makes'⟩ := reads'
  refine ⟨toks ++ toks', read.append read', fun done rest => ?_⟩
  rw [List.append_assoc, makes, makes', List.reverse_append, List.append_assoc]

theorem commands_append (reads : ReadsAs ∅ first made left) :
    commands (first ++ rest) = (tokens rest).bind (commandsFrom made.reverse left) := by
  obtain ⟨toks, read, makes⟩ := reads
  have goesOn (others : List Token) :
      commandsFrom [] ∅ (toks ++ others) = commandsFrom made.reverse left others := by
    rw [makes, List.append_nil]
  rw [commands, read.tokens_append, Option.bind_map]
  exact congrArg (tokens rest).bind (funext goesOn)

theorem commands_eq (reads : ReadsAs ∅ text made ∅) : commands text = some made := by
  have whole : commands (text ++ "") = _ := reads.commands_append
  rw [String.append_empty] at whole
  have none : tokens "" = some [] := rfl
  rw [whole, none, Option.bind_some, commandsFrom, Command.onto_empty, List.reverse_reverse]

end ReadsAs

/-! ## What the words of commands weigh -/

namespace Command

/-- What the words of a command weigh, also those behind redirections. -/
def weight (f : Word → Nat) (c : Command) : Nat :=
  (c.words.map f).sum + (c.redirections.map fun r => f r.target).sum

variable {f : Word → Nat} {c : Command}

theorem weight_empty : weight f ∅ = 0 := rfl

theorem weight_addWord (word : Word) : (c.addWord word).weight f = c.weight f + f word := by
  simp [weight, addWord, Nat.add_right_comm]

theorem weight_redirect (digits : Option String) (operator : String) (target : Word) :
    (c.redirect digits operator target).weight f = c.weight f + f target := by
  simp [weight, redirect, Nat.add_assoc]

theorem sum_weight_onto (done : List Command) :
    ((c.onto done).map (weight f)).sum = (done.map (weight f)).sum + c.weight f := by
  rw [onto]
  split
  next empty =>
    have none : c.words = [] ∧ c.redirections = [] := by simpa [isEmpty] using empty
    simp [weight, none]
  next => simp [Nat.add_comm]

end Command

def Token.weight (f : Word → Nat) : Token → Nat
  | .word parts => f parts
  | _ => 0

theorem mem_of_sum_weight {word : Word} {toks : List Token}
    (positive : 0 < (toks.map (Token.weight fun other => if other = word then 1 else 0)).sum) :
    .word word ∈ toks := by
  obtain ⟨n, listed, counts⟩ := List.sum_pos_iff_exists_pos_nat.mp positive
  obtain ⟨token, among, rfl⟩ := List.mem_map.mp listed
  cases token with
  | word other =>
      obtain rfl : other = word := by
        by_contra different
        exact absurd counts (by simp [Token.weight, different])
      exact among
  | _ => cases counts

theorem sum_weight_commandsFrom (f : Word → Nat) {done : List Command} {current : Command}
    {toks : List Token} {made : List Command} (read : commandsFrom done current toks = some made) :
    (made.map (Command.weight f)).sum ≤
      (done.map (Command.weight f)).sum + current.weight f + (toks.map (Token.weight f)).sum := by
  fun_induction commandsFrom done current toks with
  | case1 done current =>
      obtain rfl := Option.some.inj read
      simp [Command.sum_weight_onto, List.sum_reverse]
  | case2 done current rest ih =>
      have later := ih read
      rw [Command.sum_weight_onto, Command.weight_empty] at later
      simpa [Token.weight] using later
  | case3 done current word rest reserved ih =>
      -- A reserved word is in no command, so the commands weigh less than the tokens.
      have later := ih read
      simp only [List.map_cons, List.sum_cons]
      omega
  | case4 => cases read
  | case5 done current word rest _ _ ih =>
      have later := ih read
      rw [Command.weight_addWord] at later
      simp only [List.map_cons, List.sum_cons, Token.weight]
      omega
  | case6 done current digits operator target rest ih =>
      have later := ih read
      rw [Command.weight_redirect] at later
      simp only [List.map_cons, List.sum_cons, Token.weight]
      omega
  | case7 => cases read
  | case8 done current operator _ target rest ih =>
      have later := ih read
      rw [Command.weight_redirect] at later
      simp only [List.map_cons, List.sum_cons, Token.weight]
      omega
  | case9 => cases read
  | case10 => cases read
  | case11 done current operator rest _ _ ih =>
      have later := ih read
      rw [Command.sum_weight_onto, Command.weight_empty] at later
      simpa [Token.weight] using later

/-- What comes behind a piece of a text has no words but those of its tokens. -/
theorem ReadsAs.sum_weight_le {first rest : String} {made more : List Command} {left : Command}
    (reads : ReadsAs ∅ first made left) (whole : commands (first ++ rest) = some (made ++ more)) :
    ∃ toks, tokens rest = some toks ∧ ∀ f,
      (more.map (Command.weight f)).sum ≤ left.weight f + (toks.map (Token.weight f)).sum := by
  rw [reads.commands_append, Option.bind_eq_some_iff] at whole
  obtain ⟨toks, read, makes⟩ := whole
  refine ⟨toks, read, fun f => ?_⟩
  have weighs := sum_weight_commandsFrom f makes
  simp only [List.map_append, List.sum_append, List.map_reverse, List.sum_reverse] at weighs
  omega

end SyncPods.Shell
