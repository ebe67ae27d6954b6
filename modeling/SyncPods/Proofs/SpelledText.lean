import SyncPods.Json.Reader
import SyncPods.Proofs.SpelledTokens

/-!
# Spelled texts are read

The tokens of a spelled text are taken for the node that it spells, with enough steps to spare, and
nothing is left of them. So a reader of texts gets to see the node of the text and nothing else.
-/

namespace SyncPods.Json

/-- The tokens are taken for a node at a depth, whatever follows them. -/
structure ReadAs (depth : Nat) (node : Node) (ts : List Token) : Prop where
  opens : ∃ token more, ts = token :: more ∧ token ≠ .closeBracket
  read : ∀ fuel rest, 2 * ts.length ≤ fuel → nodeFrom fuel depth (ts ++ rest) = (node, some rest)

/-- The tokens are taken for the items of a list, up to its closing mark. -/
structure ItemsReadAs (depth : Nat) (nodes : List Node) (ts : List Token) : Prop where
  opens : ∃ token more, ts = token :: more ∧ token ≠ .closeBracket
  read : ∀ fuel rest, 2 * ts.length + 1 ≤ fuel →
    itemsFrom fuel depth (ts ++ .closeBracket :: rest) = (Items.closed nodes, some rest)

/-- The tokens are taken for the members of an object, up to its closing mark. -/
structure MembersReadAs (depth : Nat) (members : List (Except Fault String × Node))
    (ts : List Token) : Prop where
  opens : ∃ name more, ts = .string name :: more
  read : ∀ fuel rest, 2 * ts.length + 1 ≤ fuel →
    membersFrom fuel depth (ts ++ .closeBrace :: rest) = (Members.closed members, some rest)

variable {depth : Nat} {node : Node} {nodes : List Node} {name : Except Fault String}
  {members : List (Except Fault String × Node)} {ts us : List Token}

/-! ## Lists of items and members -/

theorem ItemsReadAs.single (reads : ReadAs depth node ts) : ItemsReadAs depth [node] ts where
  opens := reads.opens
  read := by
    intro fuel rest enough
    cases fuel with
    | zero => omega
    | succ fuel => simp only [itemsFrom, reads.read fuel _ (by omega), Items.closed, List.foldr]

theorem ItemsReadAs.cons (reads : ReadAs depth node ts) (others : ItemsReadAs depth nodes us) :
    ItemsReadAs depth (node :: nodes) (ts ++ .comma :: us) where
  opens := by
    obtain ⟨token, more, rfl, other⟩ := reads.opens
    exact ⟨token, more ++ .comma :: us, rfl, other⟩
  read := by
    intro fuel rest enough
    rw [List.length_append, List.length_cons] at enough
    cases fuel with
    | zero => omega
    | succ fuel =>
        have later := others.read fuel rest (by omega)
        obtain ⟨token, more, rfl, other⟩ := others.opens
        rw [List.append_assoc]
        simp only [List.cons_append] at later ⊢
        simp only [itemsFrom, reads.read fuel _ (by omega)]
        cases token with
        | closeBracket => exact absurd rfl other
        | _ =>
            simp only [later]
            rfl

theorem MembersReadAs.single (reads : ReadAs depth node ts) :
    MembersReadAs depth [(name, node)] (.string name :: .colon :: ts) where
  opens := ⟨name, _, rfl⟩
  read := by
    intro fuel rest enough
    simp only [List.length_cons] at enough
    cases fuel with
    | zero => omega
    | succ fuel =>
        simp only [List.cons_append, membersFrom, reads.read fuel _ (by omega), Members.closed,
          List.foldr]

theorem MembersReadAs.cons (reads : ReadAs depth node ts)
    (others : MembersReadAs depth members us) :
    MembersReadAs depth ((name, node) :: members)
      (.string name :: .colon :: ts ++ .comma :: us) where
  opens := ⟨name, _, rfl⟩
  read := by
    intro fuel rest enough
    simp only [List.length_append, List.length_cons] at enough
    cases fuel with
    | zero => omega
    | succ fuel =>
        have later := others.read fuel rest (by omega)
        obtain ⟨next, more, rfl⟩ := others.opens
        simp only [List.cons_append, List.append_assoc] at later ⊢
        simp only [membersFrom, reads.read fuel _ (by omega), later]
        rfl

/-! ## Values -/

theorem ReadAs.single {token : Token} (visible : token ≠ .closeBracket)
    (isNode : ∀ fuel rest, nodeFrom (fuel + 1) depth (token :: rest) = (node, some rest)) :
    ReadAs depth node [token] where
  opens := ⟨token, [], rfl, visible⟩
  read := by
    intro fuel rest enough
    cases fuel with
    | zero => simp at enough
    | succ fuel => exact isNode fuel rest

theorem ReadAs.array (reads : ItemsReadAs (depth + 1) nodes ts) :
    ReadAs depth (.within (depth + 1) (.array (.closed nodes)))
      (.openBracket :: ts ++ [.closeBracket]) where
  opens := ⟨_, _, rfl, nofun⟩
  read := by
    intro fuel rest enough
    simp only [List.length_append, List.length_cons] at enough
    cases fuel with
    | zero => omega
    | succ fuel =>
        have body := reads.read fuel rest (by omega)
        obtain ⟨token, more, rfl, other⟩ := reads.opens
        simp only [List.cons_append, List.append_assoc, List.nil_append] at body ⊢
        cases token with
        | closeBracket => exact absurd rfl other
        | _ => simp only [nodeFrom, body]

theorem ReadAs.object (reads : MembersReadAs (depth + 1) members ts) :
    ReadAs depth (.within (depth + 1) (.object (.closed members)))
      (.openBrace :: ts ++ [.closeBrace]) where
  opens := ⟨_, _, rfl, nofun⟩
  read := by
    intro fuel rest enough
    simp only [List.length_append, List.length_cons] at enough
    cases fuel with
    | zero => omega
    | succ fuel =>
        have body := reads.read fuel rest (by omega)
        obtain ⟨next, more, rfl⟩ := reads.opens
        simp only [List.cons_append, List.append_assoc, List.nil_append] at body ⊢
        simp only [nodeFrom, body]

/-- A text has tokens that are taken for the node. -/
def Parses (depth : Nat) (node : Node) (cs : List Char) : Prop :=
  ∃ ts, LexesAs cs ts ∧ ReadAs depth node ts

theorem ends_comma (rest : List Char) : Ends (',' :: rest) := by simp [Ends]

theorem parses_items {items : List (Node × List Char)} (nonempty : items ≠ [])
    (parse : ∀ item ∈ items, Parses depth item.1 item.2) :
    ∃ ts, LexesAs (List.intercalate [','] (items.map (·.2))) ts ∧
      ItemsReadAs depth (items.map (·.1)) ts := by
  induction items with
  | nil => exact absurd rfl nonempty
  | cons item items ih =>
      have ⟨first, others⟩ := List.forall_mem_cons.mp parse
      obtain ⟨ts, lexes, reads⟩ := first
      cases items with
      | nil => exact ⟨ts, by simpa using lexes, .single reads⟩
      | cons next items =>
          obtain ⟨us, lexesOthers, readOthers⟩ := ih (List.cons_ne_nil _ _) others
          refine ⟨ts ++ .comma :: us, ?_, .cons reads readOthers⟩
          rw [List.map_cons, List.map_cons, List.intercalate_cons_cons, List.append_assoc]
          exact lexes.append (lexesOthers.mark (fun _ => rfl) rfl) fun _ _ => ends_comma _

theorem lexesAs_member {m : MemberSpelling} (named : NameSpelled m.name m.label)
    (lexes : LexesAs m.text ts) : LexesAs m.chars (.string m.name :: .colon :: ts) := by
  have colon : LexesAs (':' :: m.text) (.colon :: ts) := lexes.mark (fun _ => rfl) rfl
  exact (lexesAs_name named).append colon fun _ _ => by simp [Ends]

theorem parses_members {members : List MemberSpelling} (nonempty : members ≠ [])
    (named : ∀ m ∈ members, NameSpelled m.name m.label)
    (parse : ∀ m ∈ members, Parses depth m.node m.text) :
    ∃ ts, LexesAs (List.intercalate [','] (members.map MemberSpelling.chars)) ts ∧
      MembersReadAs depth (members.map MemberSpelling.member) ts := by
  induction members with
  | nil => exact absurd rfl nonempty
  | cons m members ih =>
      have ⟨firstNamed, othersNamed⟩ := List.forall_mem_cons.mp named
      have ⟨first, others⟩ := List.forall_mem_cons.mp parse
      obtain ⟨ts, lexes, reads⟩ := first
      have lexesMember := lexesAs_member firstNamed lexes
      cases members with
      | nil => exact ⟨_, by simpa using lexesMember, .single reads⟩
      | cons next members =>
          obtain ⟨us, lexesOthers, readOthers⟩ := ih (List.cons_ne_nil _ _) othersNamed others
          refine ⟨_, ?_, .cons reads readOthers⟩
          rw [List.map_cons, List.map_cons, List.intercalate_cons_cons, List.append_assoc]
          exact lexesMember.append (lexesOthers.mark (fun _ => rfl) rfl) fun _ _ => ends_comma _

theorem readAs_number (n : Option Number) : ReadAs depth (.ofNumber n) [.number n] := by
  cases n with
  | none => exact .single nofun fun _ _ => rfl
  | some n => exact .single nofun fun _ _ => rfl

theorem readAs_string (s : Except Fault String) : ReadAs depth (.ofString s) [.string s] := by
  cases s with
  | error fault => exact .single nofun fun _ _ => rfl
  | ok s => exact .single nofun fun _ _ => rfl

theorem readAs_noItems :
    ReadAs depth (.within (depth + 1) (.array (.closed []))) [.openBracket, .closeBracket] where
  opens := ⟨_, _, rfl, nofun⟩
  read := by
    intro fuel rest enough
    cases fuel with
    | zero => simp at enough
    | succ fuel => rfl

theorem readAs_noMembers :
    ReadAs depth (.within (depth + 1) (.object (.closed []))) [.openBrace, .closeBrace] where
  opens := ⟨_, _, rfl, nofun⟩
  read := by
    intro fuel rest enough
    cases fuel with
    | zero => simp at enough
    | succ fuel => rfl

/-- The grammar's texts are all read. -/
theorem parses_of_spelled {cs : List Char} (spelled : Spelled depth node cs) :
    Parses depth node cs := by
  have closed (mark : Char) {token : Token}
      (isMark : ∀ rest, tokenAt mark rest = (token, some rest)) (visible : isSpace mark = false) :
      LexesAs [mark] [token] := LexesAs.nil.mark isMark visible
  induction spelled with
  | null => exact ⟨_, .single rfl fun _ _ => rfl, .single nofun fun _ _ => rfl⟩
  | true => exact ⟨_, .single rfl fun _ _ => rfl, .single nofun fun _ _ => rfl⟩
  | false => exact ⟨_, .single rfl fun _ _ => rfl, .single nofun fun _ _ => rfl⟩
  | number spelled => exact ⟨_, lexesAs_number spelled, readAs_number _⟩
  | string spelled => exact ⟨_, lexesAs_string spelled, readAs_string _⟩
  | noItems areBlank =>
      have inner := LexesAs.blanks areBlank (closed ']' (fun _ => rfl) rfl)
      exact ⟨_, inner.mark (fun _ => rfl) rfl, readAs_noItems⟩
  | noMembers areBlank =>
      have inner := LexesAs.blanks areBlank (closed '}' (fun _ => rfl) rfl)
      exact ⟨_, inner.mark (fun _ => rfl) rfl, readAs_noMembers⟩
  | array nonempty _ ih =>
      obtain ⟨ts, lexes, reads⟩ := parses_items nonempty ih
      have inner := lexes.append (closed ']' (fun _ => rfl) rfl)
        fun _ _ => by simp [Ends]
      exact ⟨_, inner.mark (fun _ => rfl) rfl, .array reads⟩
  | object nonempty named _ ih =>
      obtain ⟨ts, lexes, reads⟩ := parses_members nonempty named ih
      have inner := lexes.append (closed '}' (fun _ => rfl) rfl)
        fun _ _ => by simp [Ends]
      exact ⟨_, inner.mark (fun _ => rfl) rfl, .object reads⟩
  | blankBefore blank _ ih =>
      obtain ⟨ts, lexes, reads⟩ := ih
      exact ⟨ts, lexes.blank blank, reads⟩
  | blankAfter blank _ ih =>
      obtain ⟨ts, lexes, reads⟩ := ih
      exact ⟨ts, lexes.blankAfter blank, reads⟩

/-! ## Documents -/

theorem ofText_of_spelled {text : String} (spelled : Spelled 0 node text.toList) :
    Document.ofText text = ⟨node, false⟩ := by
  obtain ⟨ts, lexes, reads⟩ := parses_of_spelled spelled
  have enough : (text.toList ++ []).length ≤ text.length := by
    rw [List.append_nil]
    exact Nat.le_of_eq String.length_toList
  obtain ⟨left, -, cut⟩ := lexes text.length [] ends_nil enough
  have all : tokens text = ts := by
    rw [tokens, ← List.append_nil text.toList, cut]
    cases left <;> simp [tokensFrom]
  have whole := reads.read (2 * ts.length + 2) [] (by omega)
  rw [List.append_nil] at whole
  simp only [Document.ofText, all, whole]
  rfl

/-- A reader of a spelled text is given the node that the text spells. -/
theorem readText_of_spelled {α : Type} {text : String} (read : Reader α)
    (spelled : Spelled 0 node text.toList) : readText read text = read node := by
  rw [readText, ofText_of_spelled spelled]
  cases read node <;> rfl

end SyncPods.Json
