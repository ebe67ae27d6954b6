import SyncPods.Proofs.WrittenString

/-!
# Different values are written differently

The text of a value with a line for each item says where it ends and which value it is, as long as
nothing but a comma or a new line comes behind it and no number is in double precision. The first
character tells the kind of value, and behind it the parts follow one after the other.
-/

namespace SyncPods.Json

/-- A value without numbers in double precision. -/
inductive Value.Exact : Value → Prop where
  | null : Exact .null
  | bool (b : Bool) : Exact (.bool b)
  | integer (n : Int) : Exact (.number (.integer n))
  | string (s : String) : Exact (.string s)
  | array {items : List Value} : (∀ item ∈ items, Exact item) → Exact (.array items)
  | object {members : List (String × Value)} :
      (∀ member ∈ members, Exact member.2) → Exact (.object members)

/-- What may stand behind a written value: nothing, a comma or a new line. -/
def Stops (rest : List Char) : Prop := ∀ c ∈ rest.head?, c = ',' ∨ c = '\n'

/-! ## Numbers -/

theorem toList_toString_int (n : Int) :
    (toString n).toList =
      if 0 ≤ n then Nat.toDigits 10 n.toNat else '-' :: Nat.toDigits 10 (-n).toNat := by
  rw [Int.toString_eq_repr, Int.repr_eq_if]
  split
  · exact Nat.toList_repr
  · rw [String.toList_append, Nat.toList_repr]
    rfl

theorem isDigit_or_eq_minus_of_mem {n : Int} {c : Char} (member : c ∈ (toString n).toList) :
    c.isDigit = true ∨ c = '-' := by
  rw [toList_toString_int] at member
  split at member
  · exact .inl (Nat.isDigit_of_mem_toDigits (by decide) (by decide) member)
  · rcases List.mem_cons.mp member with minus | digit
    · exact .inr minus
    · exact .inl (Nat.isDigit_of_mem_toDigits (by decide) (by decide) digit)

private theorem toDigits_inj {m n : Nat} (same : Nat.toDigits 10 m = Nat.toDigits 10 n) :
    m = n := by
  rw [← Nat.ofDigitChars_ten_toDigits (n := m), same, Nat.ofDigitChars_ten_toDigits]

private theorem toDigits_ne_minus {m : Nat} {cs : List Char} :
    Nat.toDigits 10 m ≠ '-' :: cs := by
  intro same
  have digit : '-'.isDigit = true :=
    Nat.isDigit_of_mem_toDigits (by decide) (by decide) (same ▸ List.mem_cons_self)
  exact absurd digit (by decide)

theorem toString_int_inj {m n : Int} (same : (toString m).toList = (toString n).toList) :
    m = n := by
  rw [toList_toString_int, toList_toString_int] at same
  split at same <;> split at same
  · have magnitude := toDigits_inj same
    omega
  · exact absurd same toDigits_ne_minus
  · exact absurd same.symm toDigits_ne_minus
  · have magnitude := toDigits_inj (List.cons.inj same).2
    omega

/-- A text without commas and new lines ends where one of them comes first. -/
theorem append_inj_of_stops {p q s t : List Char} (plain : ∀ c ∈ p, c ≠ ',' ∧ c ≠ '\n')
    (plain' : ∀ c ∈ q, c ≠ ',' ∧ c ≠ '\n') (stops : Stops s) (stops' : Stops t)
    (same : p ++ s = q ++ t) : p = q ∧ s = t := by
  induction p generalizing q with
  | nil =>
      cases q with
      | nil => exact ⟨rfl, same⟩
      | cons c q =>
          have head : c = ',' ∨ c = '\n' := stops c (by rw [← List.nil_append s, same]; rfl)
          have notStop := plain' c List.mem_cons_self
          exact absurd head (not_or.mpr notStop)
  | cons c p ih =>
      cases q with
      | nil =>
          have head : c = ',' ∨ c = '\n' := stops' c (by rw [← List.nil_append t, ← same]; rfl)
          have notStop := plain c List.mem_cons_self
          exact absurd head (not_or.mpr notStop)
      | cons d q =>
          obtain ⟨rfl, tail⟩ := List.cons.inj same
          have ⟨samePrefix, sameRest⟩ := ih
            (fun e member => plain e (List.mem_cons_of_mem c member))
            (fun e member => plain' e (List.mem_cons_of_mem c member)) tail
          exact ⟨congrArg (c :: ·) samePrefix, sameRest⟩

theorem toString_int_append_inj {m n : Int} {s t : List Char} (stops : Stops s)
    (stops' : Stops t) (same : (toString m).toList ++ s = (toString n).toList ++ t) :
    m = n ∧ s = t := by
  have plain (k : Int) : ∀ c ∈ (toString k).toList, c ≠ ',' ∧ c ≠ '\n' := by
    intro c member
    rcases isDigit_or_eq_minus_of_mem member with digit | minus
    · constructor <;> (rintro rfl; exact absurd digit (by decide))
    · subst minus
      decide
  obtain ⟨sameText, sameRest⟩ := append_inj_of_stops (plain m) (plain n) stops stops' same
  exact ⟨toString_int_inj sameText, sameRest⟩

/-! ## Parts one behind the other -/

/-- Two parts are the same if their texts are, whatever stands behind them. -/
def ToldApart {α : Type} (text : α → String) (a b : α) : Prop :=
  ∀ ⦃s t : List Char⦄, Stops s → Stops t → (text a).toList ++ s = (text b).toList ++ t →
    a = b ∧ s = t

/-- What comes behind the line of an item in a block. -/
def blockRest (closing : String) (depth : Nat) : List String → List Char
  | [] => (Value.indent depth).toList ++ closing.toList
  | line :: lines =>
    ',' :: (Value.indent (depth + 1)).toList ++ line.toList ++ blockRest closing depth lines

theorem toList_indent (depth : Nat) :
    (Value.indent depth).toList = '\n' :: List.replicate (2 * depth) ' ' := by
  simp [Value.indent]

theorem toList_block_cons (opening closing : String) (depth : Nat) (line : String)
    (lines : List String) :
    (Value.block opening closing depth (line :: lines)).toList =
      opening.toList ++ (Value.indent (depth + 1)).toList ++
        (line.toList ++ blockRest closing depth lines) := by
  have behind (line : String) :
      (("," ++ Value.indent (depth + 1)).intercalate (line :: lines)).toList ++
          (Value.indent depth).toList ++ closing.toList =
        line.toList ++ blockRest closing depth lines := by
    induction lines generalizing line with
    | nil => simp [blockRest]
    | cons next lines ih =>
        rw [String.intercalate_cons_cons, blockRest]
        simpa using ih next
  rw [← behind]
  simp [Value.block]

theorem stops_blockRest (closing : String) (depth : Nat) (lines : List String) (rest : List Char) :
    Stops (blockRest closing depth lines ++ rest) := by
  cases lines <;> simp [Stops, blockRest, toList_indent]

/-- A line says which item it is, and what follows it whether there are more. -/
theorem lines_append_inj {α : Type} {text : α → String} {closing : String} {depth : Nat}
    {a b : α} {as bs : List α} {s t : List Char}
    (apart : ∀ x ∈ a :: as, ∀ y ∈ b :: bs, ToldApart text x y)
    (same : (text a).toList ++ (blockRest closing depth (as.map text) ++ s) =
      (text b).toList ++ (blockRest closing depth (bs.map text) ++ t)) :
    a :: as = b :: bs ∧ s = t := by
  induction as generalizing a b bs with
  | nil =>
      obtain ⟨rfl, rest⟩ := apart a List.mem_cons_self b List.mem_cons_self
        (stops_blockRest _ _ _ _) (stops_blockRest _ _ _ _) same
      cases bs with
      | nil => exact ⟨rfl, List.append_cancel_left rest⟩
      | cons b bs => simp [blockRest, toList_indent] at rest
  | cons c as ih =>
      obtain ⟨rfl, rest⟩ := apart a List.mem_cons_self b List.mem_cons_self
        (stops_blockRest _ _ _ _) (stops_blockRest _ _ _ _) same
      cases bs with
      | nil => simp [blockRest, toList_indent] at rest
      | cons d bs =>
          have tail : (text c).toList ++ (blockRest closing depth (as.map text) ++ s) =
              (text d).toList ++ (blockRest closing depth (bs.map text) ++ t) := by
            simpa [blockRest] using rest
          have ⟨sameItems, sameRest⟩ := ih
            (fun x member y member' =>
              apart x (List.mem_cons_of_mem a member) y (List.mem_cons_of_mem a member')) tail
          exact ⟨congrArg (a :: ·) sameItems, sameRest⟩

/-- A block says how many items it has, and which. -/
theorem block_append_inj {α : Type} {text : α → String} {opening closing : String}
    {mark : Char} {depth : Nat} {as bs : List α} {s t : List Char}
    (closes : closing.toList = [mark]) (visible : mark ≠ '\n')
    (apart : ∀ a ∈ as, ∀ b ∈ bs, ToldApart text a b)
    (same : (Value.block opening closing depth (as.map text)).toList ++ s =
      (Value.block opening closing depth (bs.map text)).toList ++ t) :
    as = bs ∧ s = t := by
  have empty : (Value.block opening closing depth []).toList = opening.toList ++ [mark] := by
    simp [Value.block, closes]
  cases as with
  | nil =>
      cases bs with
      | nil => exact ⟨rfl, List.append_cancel_left same⟩
      | cons b bs =>
          rw [List.map_nil, empty, List.map_cons, toList_block_cons] at same
          simp [toList_indent, visible] at same
  | cons a as =>
      cases bs with
      | nil =>
          rw [List.map_nil, empty, List.map_cons, toList_block_cons] at same
          simp [toList_indent, visible.symm] at same
      | cons b bs =>
          rw [List.map_cons, List.map_cons, toList_block_cons, toList_block_cons] at same
          have lines : (text a).toList ++ (blockRest closing depth (as.map text) ++ s) =
              (text b).toList ++ (blockRest closing depth (bs.map text) ++ t) := by
            simpa using same
          exact lines_append_inj apart lines

namespace Value

/-! ## The kind of a value -/

/-- The first character of a value's text, as `markOf` sees it. -/
def mark : Value → Char
  | .null => 'n'
  | .bool _ => 't'
  | .number _ => '0'
  | .string _ => '"'
  | .array _ => '['
  | .object _ => '\x7b'

/-- The kind of value that a first character tells. Digits and the sign are alike, and so are the
first letters of both booleans. -/
def markOf (c : Char) : Char :=
  if c.isDigit ∨ c = '-' then '0' else if c = 'f' then 't' else c

theorem head?_block (opening closing : String) (depth : Nat) (lines : List String) {c : Char}
    (opens : opening.toList = [c]) : (block opening closing depth lines).toList.head? = some c := by
  unfold block
  split <;> simp [opens]

theorem markOf_head_toString (n : Int) : (toString n).toList.head?.map markOf = some '0' := by
  cases first : (toString n).toList with
  | nil =>
      rw [toList_toString_int] at first
      split at first
      · exact absurd first Nat.toDigits_ne_nil
      · cases first
  | cons c cs =>
      have member : c ∈ (toString n).toList := first ▸ List.mem_cons_self
      simp [markOf, isDigit_or_eq_minus_of_mem member]

theorem markOf_head_prettyAt {v : Value} (exact : v.Exact) (depth : Nat) (rest : List Char) :
    ((v.prettyAt depth).toList ++ rest).head?.map markOf = some v.mark := by
  suffices first : (v.prettyAt depth).toList.head?.map markOf = some v.mark by
    rw [List.head?_append]
    cases head : (v.prettyAt depth).toList.head? with
    | none => simp [head] at first
    | some c => simpa [head] using first
  cases exact with
  | null => simp [prettyAt, mark, markOf]
  | bool b => cases b <;> simp [prettyAt, mark, markOf]
  | integer n => simpa [prettyAt, mark, Number.text] using markOf_head_toString n
  | string s => simp [prettyAt, mark, markOf, stringText]
  | array _ => simp [prettyAt, mark, markOf, head?_block]
  | object _ => simp [prettyAt, mark, markOf, head?_block]

/-- Values with equal texts are of one kind. -/
theorem mark_eq_of_prettyAt {v w : Value} (exact : v.Exact) (exact' : w.Exact) {depth : Nat}
    {s t : List Char} (same : (v.prettyAt depth).toList ++ s = (w.prettyAt depth).toList ++ t) :
    v.mark = w.mark := by
  rw [← Option.some_inj, ← markOf_head_prettyAt exact depth s, same,
    markOf_head_prettyAt exact' depth t]

/-! ## Values -/

theorem prettyItems_eq (depth : Nat) (items : List Value) :
    prettyItems depth items = items.map (prettyAt depth) := by
  induction items with
  | nil => rfl
  | cons item items ih => rw [prettyItems, ih, List.map_cons]

def memberText (depth : Nat) (entry : String × Value) : String :=
  stringText entry.1 ++ ": " ++ entry.2.prettyAt depth

theorem prettyMembers_eq (depth : Nat) (members : List (String × Value)) :
    prettyMembers depth members = members.map (memberText depth) := by
  induction members with
  | nil => rfl
  | cons entry members ih => rw [prettyMembers, ih, List.map_cons, memberText]

theorem toldApart_memberText {depth : Nat} {entry other : String × Value}
    (apart : ToldApart (prettyAt depth) entry.2 other.2) :
    ToldApart (memberText depth) entry other := by
  intro s t stops stops' same
  have named :
      (stringText entry.1).toList ++ (": ".toList ++ ((entry.2.prettyAt depth).toList ++ s)) =
        (stringText other.1).toList ++ (": ".toList ++ ((other.2.prettyAt depth).toList ++ t)) := by
    simpa [memberText] using same
  obtain ⟨sameName, rest⟩ := stringText_append_inj named
  obtain ⟨sameValue, sameRest⟩ := apart stops stops' (List.append_cancel_left rest)
  exact ⟨Prod.ext sameName sameValue, sameRest⟩

/-- The text of an exact value tells it from all others, at every depth. -/
theorem toldApart_prettyAt {v w : Value} (exact : v.Exact) (exact' : w.Exact) (depth : Nat) :
    ToldApart (prettyAt depth) v w := by
  -- Only values of one kind have texts with the same first character.
  induction exact generalizing w depth with
  | null =>
      intro s t stops stops' same
      have sameMark := mark_eq_of_prettyAt .null exact' same
      cases exact' with
      | null => exact ⟨rfl, List.append_cancel_left same⟩
      | _ => simp [mark] at sameMark
  | bool b =>
      intro s t stops stops' same
      have sameMark := mark_eq_of_prettyAt (.bool b) exact' same
      cases exact' with
      | bool b' =>
          have sameBool : b = b' := by
            cases b <;> cases b' <;> simp [prettyAt] at same ⊢
          subst sameBool
          exact ⟨rfl, List.append_cancel_left same⟩
      | _ => simp [mark] at sameMark
  | integer n =>
      intro s t stops stops' same
      have sameMark := mark_eq_of_prettyAt (.integer n) exact' same
      cases exact' with
      | integer n' =>
          obtain ⟨rfl, sameRest⟩ := toString_int_append_inj stops stops' same
          exact ⟨rfl, sameRest⟩
      | _ => simp [mark] at sameMark
  | string text =>
      intro s t stops stops' same
      have sameMark := mark_eq_of_prettyAt (.string text) exact' same
      cases exact' with
      | string text' =>
          obtain ⟨rfl, sameRest⟩ := stringText_append_inj same
          exact ⟨rfl, sameRest⟩
      | _ => simp [mark] at sameMark
  | @array items exacts ih =>
      intro s t stops stops' same
      have sameMark := mark_eq_of_prettyAt (.array exacts) exact' same
      cases exact' with
      | @array items' exacts' =>
          simp only [prettyAt, prettyItems_eq] at same
          have apart : ∀ item ∈ items, ∀ item' ∈ items',
              ToldApart (prettyAt (depth + 1)) item item' :=
            fun item member item' member' => ih item member (exacts' item' member') (depth + 1)
          obtain ⟨rfl, sameRest⟩ := block_append_inj rfl (by decide) apart same
          exact ⟨rfl, sameRest⟩
      | _ => simp [mark] at sameMark
  | @object members exacts ih =>
      intro s t stops stops' same
      have sameMark := mark_eq_of_prettyAt (.object exacts) exact' same
      cases exact' with
      | @object members' exacts' =>
          simp only [prettyAt, prettyMembers_eq] at same
          have apart : ∀ entry ∈ members, ∀ other ∈ members',
              ToldApart (memberText (depth + 1)) entry other :=
            fun entry member other member' => toldApart_memberText
              (ih entry member (exacts' other member') (depth + 1))
          obtain ⟨rfl, sameRest⟩ := block_append_inj rfl (by decide) apart same
          exact ⟨rfl, sameRest⟩
      | _ => simp [mark] at sameMark

theorem pretty_inj {v w : Value} (exact : v.Exact) (exact' : w.Exact)
    (same : v.pretty = w.pretty) : v = w := by
  have texts : (v.prettyAt 0).toList ++ [] = (w.prettyAt 0).toList ++ [] := by
    simpa [pretty] using congrArg String.toList same
  have stops : Stops [] := by simp [Stops]
  exact (toldApart_prettyAt exact exact' 0 stops stops texts).1

end Value

end SyncPods.Json
