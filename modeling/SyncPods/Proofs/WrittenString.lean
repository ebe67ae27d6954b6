import Mathlib.Data.List.Forall2
import SyncPods.Json.Token
import SyncPods.Json.Writer

/-!
# Written strings are read back

A string as it is written holds no mark that could end it early, and the reader gets its characters
back one by one. So a written string says where it ends and what it holds, whatever follows it.
-/

namespace SyncPods.Json

/-- The pieces in which a character may be read: itself, or the unit of its code. -/
def Piece.Spells (piece : Piece) (c : Char) : Prop :=
  piece = .char c ∨ piece = .unit c.toNat ∧ c.toNat < 0x20

theorem hexValue?_hexDigit {n : Nat} (digit : n < 16) : hexValue? (hexDigit n) = some n := by
  decide +revert

/-- A control is written by its code. -/
private theorem stringPieces_code {n : Nat} (control : n < 0x20) (rest : List Char) :
    stringPieces ('\\' :: 'u' :: '0' :: '0' :: hexDigit (n / 16) :: hexDigit (n % 16) :: rest) =
      (.unit n :: (stringPieces rest).1, (stringPieces rest).2) := by
  have high : hexValue? (hexDigit (n / 16)) = some (n / 16) := hexValue?_hexDigit (by omega)
  have low : hexValue? (hexDigit (n % 16)) = some (n % 16) := hexValue?_hexDigit (by omega)
  have zero : hexValue? '0' = some 0 := rfl
  rw [stringPieces, high, low, zero]
  simp only [Nat.zero_mul, Nat.zero_add, Nat.div_add_mod']

theorem stringPieces_stringChar (c : Char) (rest : List Char) :
    ∃ piece : Piece, piece.Spells c ∧
      stringPieces (stringChar c ++ rest) =
        (piece :: (stringPieces rest).1, (stringPieces rest).2) := by
  unfold stringChar
  split
  · exact ⟨.char '"', .inl rfl, rfl⟩
  · exact ⟨.char '\\', .inl rfl, rfl⟩
  · exact ⟨.char '\x08', .inl rfl, rfl⟩
  · exact ⟨.char '\x0c', .inl rfl, rfl⟩
  · exact ⟨.char '\n', .inl rfl, rfl⟩
  · exact ⟨.char '\r', .inl rfl, rfl⟩
  · exact ⟨.char '\t', .inl rfl, rfl⟩
  · next notQuote notBackslash _ _ _ _ _ =>
    split
    · next control => exact ⟨.unit c.toNat, .inr ⟨rfl, control⟩, stringPieces_code control rest⟩
    · next printed =>
      refine ⟨.char c, .inl rfl, ?_⟩
      rw [List.cons_append, List.nil_append, stringPieces]
      · rw [if_neg printed]
      all_goals simp_all

/-- Every written character is read in one piece, up to the mark that ends the string. -/
theorem stringPieces_written (cs rest : List Char) :
    ∃ pieces, List.Forall₂ Piece.Spells pieces cs ∧
      stringPieces (cs.flatMap stringChar ++ '"' :: rest) = (pieces, .ok rest) := by
  induction cs with
  | nil => exact ⟨[], .nil, rfl⟩
  | cons c cs ih =>
      obtain ⟨pieces, spelled, read⟩ := ih
      obtain ⟨piece, spells, first⟩ :=
        stringPieces_stringChar c (cs.flatMap stringChar ++ '"' :: rest)
      refine ⟨piece :: pieces, .cons spells spelled, ?_⟩
      rw [List.flatMap_cons, List.append_assoc, first, read]

theorem pieceChars_of_spells {pieces : List Piece} {cs : List Char}
    (spelled : List.Forall₂ Piece.Spells pieces cs) : pieceChars false pieces = .ok cs := by
  induction spelled with
  | nil => rfl
  | @cons piece c pieces cs spells _ ih =>
      rcases spells with rfl | ⟨rfl, control⟩
      · rw [pieceChars, ih]
        rfl
      · have notTrailing : ¬ isTrailing c.toNat = true := by
          simp only [isTrailing, Bool.and_eq_true, decide_eq_true_eq]
          omega
        have notLeading : ¬ isLeading c.toNat = true := by
          simp only [isLeading, Bool.and_eq_true, decide_eq_true_eq]
          omega
        rw [pieceChars.eq_def]
        simp only [if_neg notTrailing, if_neg notLeading, ih, Char.ofNat_toNat]
        rfl

theorem stringToken_written (s : String) (rest : List Char) :
    stringToken (s.toList.flatMap stringChar ++ '"' :: rest) = (.string (.ok s), some rest) := by
  obtain ⟨pieces, spelled, read⟩ := stringPieces_written s.toList rest
  rw [stringToken, read]
  simp [pieceChars_of_spells spelled, Except.map]

/-- A written string with anything behind it holds one string and has one rest. -/
theorem stringText_append_inj {s s' : String} {rest rest' : List Char}
    (same : (stringText s).toList ++ rest = (stringText s').toList ++ rest') :
    s = s' ∧ rest = rest' := by
  have tail : s.toList.flatMap stringChar ++ '"' :: rest =
      s'.toList.flatMap stringChar ++ '"' :: rest' := by
    simpa [stringText] using same
  have tokens := congrArg stringToken tail
  rw [stringToken_written, stringToken_written] at tokens
  simpa using tokens

end SyncPods.Json
