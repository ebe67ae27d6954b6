import SyncPods.Proofs.ReadBack

/-!
# Texts with a line for each part

The text of a value with a line for each item and member spells the same node as its compact text,
with blanks between the parts. A value in which nothing is too great, too deep or out of order is
read back from either text as it is.
-/

namespace SyncPods.Json

variable {depth : Nat}

/-! ## Blanks -/

section Blanks

variable {node : Node} {name : Except Fault String} {blanks cs : List Char}

theorem Spelled.blanksBefore (areBlank : ∀ c ∈ blanks, isSpace c)
    (spelled : Spelled depth node cs) : Spelled depth node (blanks ++ cs) := by
  induction blanks with
  | nil => exact spelled
  | cons c blanks ih =>
      obtain ⟨first, others⟩ := List.forall_mem_cons.mp areBlank
      exact .blankBefore first (ih others)

theorem Spelled.blanksAfter (areBlank : ∀ c ∈ blanks, isSpace c)
    (spelled : Spelled depth node cs) : Spelled depth node (cs ++ blanks) := by
  induction blanks generalizing cs with
  | nil => rwa [List.append_nil]
  | cons c blanks ih =>
      obtain ⟨first, others⟩ := List.forall_mem_cons.mp areBlank
      rw [List.append_cons]
      exact ih others (.blankAfter first spelled)

theorem NameSpelled.blanksBefore (areBlank : ∀ c ∈ blanks, isSpace c)
    (spelled : NameSpelled name cs) : NameSpelled name (blanks ++ cs) := by
  induction blanks with
  | nil => exact spelled
  | cons c blanks ih =>
      obtain ⟨first, others⟩ := List.forall_mem_cons.mp areBlank
      exact .blankBefore first (ih others)

theorem isSpace_of_mem_indent {c : Char} (member : c ∈ (Value.indent depth).toList) :
    isSpace c = true := by
  rw [toList_indent] at member
  rcases List.mem_cons.mp member with rfl | blank
  · rfl
  · obtain rfl := List.eq_of_mem_replicate blank
    rfl

end Blanks

/-! ## Parts apart -/

section Spread

variable {α : Type} (front back : α → α)

/-- The parts of a list, each changed at its front and the last one at its back too. -/
def spread : List α → List α
  | [] => []
  | [last] => [back (front last)]
  | first :: next :: rest => front first :: spread (next :: rest)

variable {front back}

theorem spread_ne_nil {parts : List α} (nonempty : parts ≠ []) : spread front back parts ≠ [] := by
  cases parts with
  | nil => exact absurd rfl nonempty
  | cons first rest => cases rest <;> exact List.cons_ne_nil _ _

theorem map_spread {β : Type} {key : α → β} (atFront : ∀ part, key (front part) = key part)
    (atBack : ∀ part, key (back part) = key part) (parts : List α) :
    (spread front back parts).map key = parts.map key := by
  fun_induction spread front back parts with
  | case1 => rfl
  | case2 last => rw [List.map_singleton, List.map_singleton, atBack, atFront]
  | case3 first next rest ih =>
      rw [List.map_cons, ih, atFront]
      rfl

theorem forall_mem_spread {property : α → Prop}
    (atFront : ∀ part, property part → property (front part))
    (atBack : ∀ part, property part → property (back part)) {parts : List α}
    (all : ∀ part ∈ parts, property part) : ∀ part ∈ spread front back parts, property part := by
  fun_induction spread front back parts with
  | case1 => exact all
  | case2 last =>
      exact List.forall_mem_singleton.mpr (atBack _ (atFront _ (all last List.mem_cons_self)))
  | case3 first next rest ih =>
      obtain ⟨head, tail⟩ := List.forall_mem_cons.mp all
      exact List.forall_mem_cons.mpr ⟨atFront first head, ih tail⟩

theorem intercalate_spread {text : α → List Char} {before after : List Char}
    (atFront : ∀ part, text (front part) = before ++ text part)
    (atBack : ∀ part, text (back part) = text part ++ after) {parts : List α}
    (nonempty : parts ≠ []) :
    List.intercalate [','] ((spread front back parts).map text) =
      before ++ List.intercalate (',' :: before) (parts.map text) ++ after := by
  fun_induction spread front back parts with
  | case1 => exact absurd rfl nonempty
  | case2 last => simp [atFront, atBack]
  | case3 first next rest ih =>
      have later := ih (List.cons_ne_nil next rest)
      have others : spread front back (next :: rest) ≠ [] :=
        spread_ne_nil (List.cons_ne_nil next rest)
      obtain ⟨second, others, split⟩ := List.exists_cons_of_ne_nil others
      rw [split, List.map_cons] at later ⊢
      rw [List.map_cons, List.intercalate_cons_cons, later, atFront]
      simp [List.intercalate_cons_cons]

end Spread

/-! ## Values -/

theorem toList_block {opening closing : String} {lines : List String} (some : lines ≠ []) :
    (Value.block opening closing depth lines).toList =
      opening.toList ++ ((Value.indent (depth + 1)).toList ++
        List.intercalate (',' :: (Value.indent (depth + 1)).toList) (lines.map String.toList) ++
        (Value.indent depth).toList) ++ closing.toList := by
  have notEmpty : ¬ lines.isEmpty = true := by simpa using some
  rw [Value.block, if_neg notEmpty]
  simp [String.toList_intercalate]

theorem spelled_pretty_array {items : List Value}
    (spelled : ∀ item ∈ items,
      Spelled (depth + 1) (item.node (depth + 1)) (item.prettyAt (depth + 1)).toList) :
    Spelled depth ((Value.array items).node depth) ((Value.array items).prettyAt depth).toList := by
  rw [Value.node, Value.prettyAt, itemNodes_eq, Value.prettyItems_eq]
  by_cases empty : items = []
  · subst empty
    have noBlanks : ∀ c ∈ ([] : List Char), isSpace c = true := by simp
    have text : (Value.block "[" "]" depth []).toList = ['[', ']'] := by simp [Value.block]
    rw [List.map_nil, List.map_nil, text]
    exact .noItems noBlanks
  · let parts := items.map fun item => (item.node (depth + 1), (item.prettyAt (depth + 1)).toList)
    let front (part : Node × List Char) := (part.1, (Value.indent (depth + 1)).toList ++ part.2)
    let back (part : Node × List Char) := (part.1, part.2 ++ (Value.indent depth).toList)
    have nonempty : parts ≠ [] := by simpa [parts] using empty
    have all : ∀ part ∈ parts, Spelled (depth + 1) part.1 part.2 :=
      List.forall_mem_map.mpr spelled
    have front_spelled (part : Node × List Char) (spelled : Spelled (depth + 1) part.1 part.2) :
        Spelled (depth + 1) (front part).1 (front part).2 :=
      spelled.blanksBefore fun _ => isSpace_of_mem_indent
    have back_spelled (part : Node × List Char) (spelled : Spelled (depth + 1) part.1 part.2) :
        Spelled (depth + 1) (back part).1 (back part).2 :=
      spelled.blanksAfter fun _ => isSpace_of_mem_indent
    have spaced : ∀ part ∈ spread front back parts, Spelled (depth + 1) part.1 part.2 :=
      forall_mem_spread front_spelled back_spelled all
    have whole := Spelled.array (spread_ne_nil nonempty) spaced
    have nodes : (spread front back parts).map (·.1) = parts.map (·.1) := by
      apply map_spread <;> exact fun _ => rfl
    have front_text (part : Node × List Char) :
        (front part).2 = (Value.indent (depth + 1)).toList ++ part.2 := rfl
    have back_text (part : Node × List Char) :
        (back part).2 = part.2 ++ (Value.indent depth).toList := rfl
    rw [nodes, intercalate_spread front_text back_text nonempty] at whole
    rw [toList_block (by simpa using empty)]
    simpa [parts, Function.comp_def] using whole

theorem spelled_pretty_object {members : List (String × Value)}
    (spelled : ∀ member ∈ members,
      Spelled (depth + 1) (member.2.node (depth + 1)) (member.2.prettyAt (depth + 1)).toList) :
    Spelled depth ((Value.object members).node depth)
      ((Value.object members).prettyAt depth).toList := by
  rw [Value.node, Value.prettyAt, memberNodes_eq, Value.prettyMembers_eq]
  by_cases empty : members = []
  · subst empty
    have noBlanks : ∀ c ∈ ([] : List Char), isSpace c = true := by simp
    have text : (Value.block "\x7b" "\x7d" depth []).toList = ['{', '}'] := by
      simp [Value.block]
    rw [List.map_nil, List.map_nil, text]
    exact .noMembers noBlanks
  · let parts : List MemberSpelling := members.map fun member =>
      ⟨.ok member.1, member.2.node (depth + 1), (stringText member.1).toList,
        ' ' :: (member.2.prettyAt (depth + 1)).toList⟩
    let front (part : MemberSpelling) : MemberSpelling :=
      { part with label := (Value.indent (depth + 1)).toList ++ part.label }
    let back (part : MemberSpelling) : MemberSpelling :=
      { part with text := part.text ++ (Value.indent depth).toList }
    have nonempty : parts ≠ [] := by simpa [parts] using empty
    have named : ∀ part ∈ parts, NameSpelled part.name part.label := by
      intro part listed
      obtain ⟨member, _, rfl⟩ := List.mem_map.mp listed
      dsimp only
      exact nameSpelled_stringText member.1
    have blank : isSpace ' ' = true := rfl
    have all : ∀ part ∈ parts, Spelled (depth + 1) part.node part.text :=
      List.forall_mem_map.mpr fun member listed => (spelled member listed).blankBefore blank
    have front_named (part : MemberSpelling) (named : NameSpelled part.name part.label) :
        NameSpelled (front part).name (front part).label :=
      named.blanksBefore fun _ => isSpace_of_mem_indent
    have back_named (part : MemberSpelling) (named : NameSpelled part.name part.label) :
        NameSpelled (back part).name (back part).label := named
    have front_spelled (part : MemberSpelling) (spelled : Spelled (depth + 1) part.node part.text) :
        Spelled (depth + 1) (front part).node (front part).text := spelled
    have back_spelled (part : MemberSpelling) (spelled : Spelled (depth + 1) part.node part.text) :
        Spelled (depth + 1) (back part).node (back part).text :=
      spelled.blanksAfter fun _ => isSpace_of_mem_indent
    have spacedNames : ∀ part ∈ spread front back parts, NameSpelled part.name part.label :=
      forall_mem_spread front_named back_named named
    have spaced : ∀ part ∈ spread front back parts, Spelled (depth + 1) part.node part.text :=
      forall_mem_spread front_spelled back_spelled all
    have whole := Spelled.object (spread_ne_nil nonempty) spacedNames spaced
    have front_chars (part : MemberSpelling) :
        (front part).chars = (Value.indent (depth + 1)).toList ++ part.chars := by
      simp [front, MemberSpelling.chars]
    have back_chars (part : MemberSpelling) :
        (back part).chars = part.chars ++ (Value.indent depth).toList := by
      simp [back, MemberSpelling.chars]
    have sameMembers : (spread front back parts).map MemberSpelling.member =
        parts.map MemberSpelling.member := by
      apply map_spread <;> exact fun _ => rfl
    rw [sameMembers, intercalate_spread front_chars back_chars nonempty] at whole
    rw [toList_block (by simpa using empty)]
    simpa [parts, Function.comp_def, Value.memberText, MemberSpelling.member,
      MemberSpelling.chars] using whole

theorem spelled_pretty {v : Value} (exact : v.Exact) (depth : Nat) :
    Spelled depth (v.node depth) (v.prettyAt depth).toList := by
  induction exact generalizing depth with
  | null => simpa [Value.node, Value.prettyAt] using Spelled.null
  | bool b =>
      cases b with
      | true => simpa [Value.node, Value.prettyAt] using Spelled.true
      | false => simpa [Value.node, Value.prettyAt] using Spelled.false
  | integer n =>
      rw [Value.node, Value.prettyAt]
      exact .number (spelled_wholeText n)
  | string s =>
      rw [Value.node, Value.prettyAt]
      exact spelled_stringText depth s
  | array _ ih => exact spelled_pretty_array fun item member => ih item member (depth + 1)
  | object _ ih => exact spelled_pretty_object fun member listed => ih member listed (depth + 1)

end SyncPods.Json
