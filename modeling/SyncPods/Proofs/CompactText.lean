import Mathlib.Algebra.Group.Int.Defs
import SyncPods.Proofs.SpelledText
import SyncPods.Proofs.WrittenValue

/-!
# Compact texts are spelled

The compact text of a value without numbers in double precision is a text of the grammar, and a
reader of it gets to see the parts of the value in their order. Whole numbers of 64 bits are seen as
they are.
-/

namespace SyncPods.Json

/-! ## Whole numbers -/

theorem head?_toDigits_ne_zero {m : Nat} (positive : 0 < m) :
    (Nat.toDigits 10 m).head? ≠ some '0' := by
  induction m using Nat.strongRecOn with
  | _ m ih =>
      by_cases small : m < 10
      · rw [Nat.toDigits_of_lt_base small]
        have digit : ∀ d < 10, 0 < d → [Nat.digitChar d].head? ≠ some '0' := by decide
        exact digit m small positive
      · have large : 10 ≤ m := Nat.not_lt.mp small
        rw [Nat.toDigits_of_base_le (by decide) large,
          List.head?_append_of_ne_nil _ Nat.toDigits_ne_nil]
        exact ih (m / 10) (by omega) (by omega)

theorem areWhole_toDigits (m : Nat) : AreWhole (Nat.toDigits 10 m) := by
  refine ⟨⟨Nat.toDigits_ne_nil, fun c => Nat.isDigit_of_mem_toDigits (by decide) (by decide)⟩, ?_⟩
  intro c rest zeroFirst
  cases m with
  | zero => simp at zeroFirst
  | succ m => exact head?_toDigits_ne_zero (Nat.succ_pos m) (congrArg List.head? zeroFirst)

/-- The text of a whole number, taken apart. -/
def wholeText (n : Int) : NumberText where
  negative := n < 0
  whole := Nat.toDigits 10 n.natAbs
  fraction := []
  exponent := none

theorem spelled_wholeText (n : Int) : (wholeText n).Spelled (toString n).toList := by
  have digits := areWhole_toDigits n.natAbs
  rw [toList_toString_int]
  by_cases negative : n < 0
  · have spelled := NumberText.Spelled.negative digits .absent .absent
    have magnitude : (-n).toNat = n.natAbs := by omega
    rw [if_neg (Int.not_le.mpr negative), magnitude]
    simpa [wholeText, negative] using spelled
  · have spelled := NumberText.Spelled.positive digits .absent .absent
    have magnitude : n.toNat = n.natAbs := by omega
    rw [if_pos (Int.not_lt.mp negative), magnitude]
    simpa [wholeText, negative] using spelled

theorem le_ofDigitChars (digits : List Char) (n : Nat) : n ≤ Nat.ofDigitChars 10 digits n := by
  induction digits generalizing n with
  | nil => exact Nat.le_refl n
  | cons d digits ih =>
      rw [Nat.ofDigitChars_cons]
      exact Nat.le_trans (by omega) (ih _)

theorem gather_eq {bound n : Nat} {digits : List Char}
    (bounded : Nat.ofDigitChars 10 digits n ≤ bound) :
    gather bound n digits = (Nat.ofDigitChars 10 digits n, []) := by
  induction digits generalizing n with
  | nil => rfl
  | cons d digits ih =>
      have next : n * 10 + digitValue d = 10 * n + (d.toNat - '0'.toNat) := by
        rw [Nat.mul_comm]
        rfl
      rw [Nat.ofDigitChars_cons] at bounded ⊢
      have within : ¬ bound < 10 * n + (d.toNat - '0'.toNat) :=
        Nat.not_lt.mpr (Nat.le_trans (le_ofDigitChars digits _) bounded)
      rw [gather]
      simp only [next, if_neg within]
      exact ih bounded

/-- A whole number of 64 bits, signed or not, is read from its text. -/
theorem value?_wholeText {n : Int} (lower : -2 ^ 63 ≤ n) (upper : n < 2 ^ 64) :
    (wholeText n).value? = some (.integer n) := by
  have bounded : Nat.ofDigitChars 10 (Nat.toDigits 10 n.natAbs) 0 ≤ maxSignificand := by
    rw [Nat.ofDigitChars_ten_toDigits, maxSignificand]
    simp only [Nat.pow_eq]
    omega
  have gathered := gather_eq bounded
  rw [Nat.ofDigitChars_ten_toDigits] at gathered
  have whole : (wholeText n).value? = ofWhole (n < 0) n.natAbs := by
    simp only [NumberText.value?, wholeText, gathered]
    rfl
  rw [whole, ofWhole]
  by_cases negative : n < 0
  · have inRange : ¬ (n.natAbs = 0 ∨ Nat.pow 2 63 < n.natAbs) := by
      simp only [Nat.pow_eq]
      omega
    have magnitude : -(n.natAbs : Int) = n := by omega
    rw [if_pos (decide_eq_true negative), if_neg inRange, magnitude]
  · have magnitude : (n.natAbs : Int) = n := by omega
    rw [if_neg (by simpa using negative), magnitude]

/-! ## Strings -/

theorem exists_spelled_stringChar (c : Char) :
    ∃ piece : Piece, piece.Spells c ∧ piece.Spelled (stringChar c) := by
  unfold stringChar
  split
  · exact ⟨.char '"', .inl rfl, .short rfl⟩
  · exact ⟨.char '\\', .inl rfl, .short rfl⟩
  · exact ⟨.char '\x08', .inl rfl, .short rfl⟩
  · exact ⟨.char '\x0c', .inl rfl, .short rfl⟩
  · exact ⟨.char '\n', .inl rfl, .short rfl⟩
  · exact ⟨.char '\r', .inl rfl, .short rfl⟩
  · exact ⟨.char '\t', .inl rfl, .short rfl⟩
  · next notQuote notBackslash _ _ _ _ _ =>
    split
    · next control =>
      have spelled : (Piece.unit (((0 * 16 + 0) * 16 + c.toNat / 16) * 16 + c.toNat % 16)).Spelled
          ['\\', 'u', '0', '0', hexDigit (c.toNat / 16), hexDigit (c.toNat % 16)] :=
        .code rfl rfl (hexValue?_hexDigit (by omega)) (hexValue?_hexDigit (by omega))
      have code : ((0 * 16 + 0) * 16 + c.toNat / 16) * 16 + c.toNat % 16 = c.toNat := by omega
      rw [code] at spelled
      exact ⟨.unit c.toNat, .inr ⟨rfl, control⟩, spelled⟩
    · next printed =>
      exact ⟨.char c, .inl rfl, .plain (Nat.not_lt.mp printed) notQuote notBackslash⟩

theorem exists_piecesSpelled (cs : List Char) :
    ∃ pieces, stringOf pieces = .ok (String.ofList cs) ∧
      PiecesSpelled pieces (cs.flatMap stringChar) := by
  have written : ∃ pieces, List.Forall₂ Piece.Spells pieces cs ∧
      PiecesSpelled pieces (cs.flatMap stringChar) := by
    induction cs with
    | nil => exact ⟨[], .nil, .nil⟩
    | cons c cs ih =>
        obtain ⟨pieces, spells, spelled⟩ := ih
        obtain ⟨piece, first, firstSpelled⟩ := exists_spelled_stringChar c
        exact ⟨piece :: pieces, .cons first spells, .cons firstSpelled spelled⟩
  obtain ⟨pieces, spells, spelled⟩ := written
  refine ⟨pieces, ?_, spelled⟩
  rw [stringOf, pieceChars_of_spells spells]
  rfl

theorem toList_stringText (s : String) :
    (stringText s).toList = '"' :: s.toList.flatMap stringChar ++ ['"'] := by
  simp [stringText]

theorem spelled_stringText (depth : Nat) (s : String) :
    Spelled depth (.string s) (stringText s).toList := by
  obtain ⟨pieces, value, spelled⟩ := exists_piecesSpelled s.toList
  have node : Node.ofString (stringOf pieces) = .string s := by
    rw [value, String.ofList_toList]
    rfl
  rw [toList_stringText, ← node]
  exact .string spelled

theorem nameSpelled_stringText (s : String) : NameSpelled (.ok s) (stringText s).toList := by
  obtain ⟨pieces, value, spelled⟩ := exists_piecesSpelled s.toList
  rw [String.ofList_toList] at value
  rw [toList_stringText, ← value]
  exact .quoted spelled

/-! ## Values -/

mutual

/-- What a reader sees of the text of a value at a depth. -/
def Value.node (depth : Nat) : Value → Node
  | .null => .null
  | .bool b => .bool b
  | .number (.integer n) => .ofNumber (wholeText n).value?
  | .number (.float x) => .number (.float x)
  | .string s => .string s
  | .array items => .within (depth + 1) (.array (.closed (itemNodes (depth + 1) items)))
  | .object members => .within (depth + 1) (.object (.closed (memberNodes (depth + 1) members)))

def itemNodes (depth : Nat) : List Value → List Node
  | [] => []
  | value :: rest => value.node depth :: itemNodes depth rest

def memberNodes (depth : Nat) : List (String × Value) → List (Except Fault String × Node)
  | [] => []
  | (name, value) :: rest => (.ok name, value.node depth) :: memberNodes depth rest

end

theorem itemNodes_eq (depth : Nat) (items : List Value) :
    itemNodes depth items = items.map (Value.node depth) := by
  induction items with
  | nil => rfl
  | cons value rest ih => rw [itemNodes, ih, List.map_cons]

theorem memberNodes_eq (depth : Nat) (members : List (String × Value)) :
    memberNodes depth members =
      members.map fun member => (.ok member.1, member.2.node depth) := by
  induction members with
  | nil => rfl
  | cons member rest ih => rw [memberNodes, ih, List.map_cons]

theorem compactItems_eq (items : List Value) :
    Value.compactItems items = items.map Value.compact := by
  induction items with
  | nil => rfl
  | cons value rest ih => rw [Value.compactItems, ih, List.map_cons]

theorem compactMembers_eq (members : List (String × Value)) :
    Value.compactMembers members =
      members.map fun member => stringText member.1 ++ ":" ++ member.2.compact := by
  induction members with
  | nil => rfl
  | cons member rest ih => rw [Value.compactMembers, ih, List.map_cons]

theorem spelled_compact_array {depth : Nat} {items : List Value} (nodeOf : Value → Node)
    (spelled : ∀ item ∈ items, Spelled (depth + 1) (nodeOf item) item.compact.toList) :
    Spelled depth (.within (depth + 1) (.array (.closed (items.map nodeOf))))
      (Value.array items).compact.toList := by
  rw [Value.compact, compactItems_eq]
  by_cases empty : items = []
  · subst empty
    have noBlanks : ∀ c ∈ ([] : List Char), isSpace c = true := by simp
    simpa using Spelled.noItems noBlanks
  · let parts := items.map fun item => (nodeOf item, item.compact.toList)
    have nonempty : parts ≠ [] := by simpa [parts] using empty
    have all : ∀ part ∈ parts, Spelled (depth + 1) part.1 part.2 := by
      intro part member
      obtain ⟨item, listed, rfl⟩ := List.mem_map.mp member
      exact spelled item listed
    have whole := Spelled.array nonempty all
    simpa [parts, Function.comp_def, String.toList_intercalate] using whole

theorem spelled_compact_object {depth : Nat} {members : List (String × Value)}
    (nodeOf : Value → Node)
    (spelled : ∀ member ∈ members,
      Spelled (depth + 1) (nodeOf member.2) member.2.compact.toList) :
    Spelled depth
      (.within (depth + 1) (.object (.closed
        (members.map fun member => (.ok member.1, nodeOf member.2)))))
      (Value.object members).compact.toList := by
  rw [Value.compact, compactMembers_eq]
  by_cases empty : members = []
  · subst empty
    have noBlanks : ∀ c ∈ ([] : List Char), isSpace c = true := by simp
    simpa using Spelled.noMembers noBlanks
  · let parts : List MemberSpelling := members.map fun member =>
      ⟨.ok member.1, nodeOf member.2, (stringText member.1).toList, member.2.compact.toList⟩
    have nonempty : parts ≠ [] := by simpa [parts] using empty
    have named : ∀ part ∈ parts, NameSpelled part.name part.label := by
      intro part listed
      obtain ⟨member, _, rfl⟩ := List.mem_map.mp listed
      dsimp only
      exact nameSpelled_stringText member.1
    have all : ∀ part ∈ parts, Spelled (depth + 1) part.node part.text := by
      intro part listed
      obtain ⟨member, given, rfl⟩ := List.mem_map.mp listed
      dsimp only
      exact spelled member given
    have whole := Spelled.object nonempty named all
    simpa [parts, Function.comp_def, String.toList_intercalate, MemberSpelling.member,
      MemberSpelling.chars] using whole

theorem spelled_compact {v : Value} (exact : v.Exact) (depth : Nat) :
    Spelled depth (v.node depth) v.compact.toList := by
  induction exact generalizing depth with
  | null => exact .null
  | bool b =>
      cases b with
      | true => exact .true
      | false => exact .false
  | integer n => exact .number (spelled_wholeText n)
  | string s => exact spelled_stringText depth s
  | array _ ih =>
      rw [Value.node, itemNodes_eq]
      exact spelled_compact_array _ fun item member => ih item member (depth + 1)
  | object _ ih =>
      rw [Value.node, memberNodes_eq]
      exact spelled_compact_object _ fun member listed => ih member listed (depth + 1)

/-- What is read from the compact text of a value is what is read from its node. -/
theorem readText_compact {α : Type} (read : Reader α) {v : Value} (exact : v.Exact) :
    readText read v.compact = read (v.node 0) :=
  readText_of_spelled read (spelled_compact exact 0)

end SyncPods.Json
