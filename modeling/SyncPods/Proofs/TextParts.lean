import Mathlib.Data.String.Basic

/-!
# Parts of a text

A text that is split at a sign falls into the parts that its list of characters falls into. A text
that is joined by a sign has the characters of its parts and of the sign.
-/

namespace SyncPods

theorem forall_mem_intercalate {P : Char → Prop} {sign : List Char} {parts : List (List Char)}
    (signs : ∀ c ∈ sign, P c) (all : ∀ part ∈ parts, ∀ c ∈ part, P c) :
    ∀ c ∈ sign.intercalate parts, P c := by
  induction parts with
  | nil => nofun
  | cons part parts ih =>
      obtain ⟨first, others⟩ := List.forall_mem_cons.mp all
      cases parts with
      | nil => simpa [List.intercalate] using first
      | cons next parts =>
          rw [List.intercalate_cons_cons, List.append_assoc]
          simp only [List.forall_mem_append]
          exact ⟨first, signs, ih others⟩

open String in
/-- What is left of a text behind some parts, a part that has begun, and the place reached. -/
theorem splitOnAux_comma (l m r : List Char) (parts : List String) :
    String.splitOnAux (ofList (l ++ m ++ r)) "," ⟨utf8Len l⟩ ⟨utf8Len l + utf8Len m⟩ 0 parts =
      parts.reverse ++ (List.splitOnPPrepend (· == ',') r m.reverse).map ofList := by
  have start : Pos.Raw.get "," 0 = ',' := by decide
  have next : Pos.Raw.next "," 0 = ⟨1⟩ := by decide
  have ended : Pos.Raw.atEnd "," ⟨1⟩ = true := by decide
  rw [String.splitOnAux]
  cases r with
  | nil =>
      have atEnd : Pos.Raw.atEnd (ofList (l ++ m ++ [])) ⟨utf8Len l + utf8Len m⟩ = true := by
        rw [← utf8Len_append]
        exact (atEnd_of_valid (l ++ m) []).mpr rfl
      rw [if_pos atEnd, extract_of_valid]
      simp [List.splitOnPPrepend]
  | cons c r =>
      have notEnd : ¬Pos.Raw.atEnd (ofList (l ++ m ++ c :: r)) ⟨utf8Len l + utf8Len m⟩ = true := by
        rw [← utf8Len_append]
        exact fun ended => absurd ((atEnd_of_valid (l ++ m) (c :: r)).mp ended) (List.cons_ne_nil c r)
      have get : Pos.Raw.get (ofList (l ++ m ++ c :: r)) ⟨utf8Len l + utf8Len m⟩ = c := by
        rw [← utf8Len_append]
        exact get_of_valid (l ++ m) (c :: r)
      have past : Pos.Raw.next (ofList (l ++ m ++ c :: r)) ⟨utf8Len l + utf8Len m⟩ =
          ⟨utf8Len l + utf8Len m + c.utf8Size⟩ := by
        rw [← utf8Len_append]
        exact next_of_valid (l ++ m) c r
      rw [if_neg notEnd, get, start]
      by_cases isComma : c = ','
      · subst isComma
        have size : ','.utf8Size = 1 := by decide
        have back : (⟨utf8Len l + utf8Len m + 1⟩ : Pos.Raw).unoffsetBy ⟨1⟩ =
            ⟨utf8Len l + utf8Len m⟩ := rfl
        have text : l ++ m ++ ',' :: r = (l ++ m ++ [',']) ++ [] ++ r := by simp
        have place : utf8Len l + utf8Len m + 1 = utf8Len (l ++ m ++ [',']) := by
          simp [utf8Len_append, size, Nat.add_assoc]
        have rest := splitOnAux_comma (l ++ m ++ [',']) [] r (ofList m :: parts)
        simp only [utf8Len_nil, Nat.add_zero] at rest
        simp only [beq_self_eq_true, if_true, next, ended, past, size, back, extract_of_valid]
        rw [text, place, rest, List.splitOnPPrepend_cons_eq_if, if_pos (beq_self_eq_true ',')]
        simp
      · have other : (c == ',') = false := by simp [isComma]
        have here : (⟨utf8Len l + utf8Len m⟩ : Pos.Raw).unoffsetBy 0 = ⟨utf8Len l + utf8Len m⟩ := rfl
        have text : l ++ m ++ c :: r = l ++ (m ++ [c]) ++ r := by simp
        have place : utf8Len l + utf8Len m + c.utf8Size = utf8Len l + utf8Len (m ++ [c]) := by
          simp [utf8Len_append, Nat.add_assoc]
        have rest := splitOnAux_comma l (m ++ [c]) r parts
        simp only [other, Bool.false_eq_true, if_false, here, past]
        rw [text, place, rest, List.splitOnPPrepend_cons_eq_if, if_neg (by simp [isComma]),
          List.reverse_append]
        rfl
termination_by r.length

/-- A text falls into its parts at its commas. -/
theorem splitOn_comma (s : String) : s.splitOn "," = (s.toList.splitOn ',').map String.ofList := by
  have split := splitOnAux_comma [] [] s.toList []
  rw [List.nil_append, List.nil_append, String.ofList_toList] at split
  exact split

end SyncPods
