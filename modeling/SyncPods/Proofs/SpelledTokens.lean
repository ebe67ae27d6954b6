import SyncPods.Proofs.Spelling

/-!
# Spelled texts are cut into tokens

Every word, number and string of the grammar is one token, and so is every mark. Tokens come one
after the other as their texts do, since a text ends where a mark, a blank or nothing follows.
-/

namespace SyncPods.Json

/-- What may stand behind a spelled part: nothing, a blank or a mark that closes or parts. -/
def Ends (rest : List Char) : Prop :=
  ∀ c ∈ rest.head?, isSpace c = true ∨ c ∈ [',', ':', ']', '}']

/-- A text is cut into the tokens, whatever follows it. The steps left are enough for the rest. -/
def LexesAs (cs : List Char) (ts : List Token) : Prop :=
  ∀ fuel rest, Ends rest → (cs ++ rest).length ≤ fuel →
    ∃ left, rest.length ≤ left ∧ tokensFrom fuel (cs ++ rest) = ts ++ tokensFrom left rest

theorem ends_nil : Ends [] := by simp [Ends]

theorem ends_cons_of_isSpace {c : Char} (blank : isSpace c = true) (rest : List Char) :
    Ends (c :: rest) := by
  simp [Ends, blank]

/-! ## Putting texts together -/

namespace LexesAs

variable {c : Char} {cs ds : List Char} {token : Token} {ts us : List Token}

theorem nil : LexesAs [] [] := fun fuel _ _ enough => ⟨fuel, enough, rfl⟩

theorem blank (isBlank : isSpace c = true) (lexes : LexesAs cs ts) : LexesAs (c :: cs) ts := by
  intro fuel rest ends enough
  cases fuel with
  | zero => simp at enough
  | succ fuel =>
      obtain ⟨left, more, cut⟩ := lexes fuel rest ends (Nat.le_of_succ_le_succ enough)
      refine ⟨left, more, ?_⟩
      rw [List.cons_append, tokensFrom, if_pos isBlank, cut]

theorem blanks (areBlank : ∀ c ∈ cs, isSpace c = true) (lexes : LexesAs ds ts) :
    LexesAs (cs ++ ds) ts := by
  induction cs with
  | nil => exact lexes
  | cons c cs ih =>
      have ⟨first, others⟩ := List.forall_mem_cons.mp areBlank
      exact (ih others).blank first

/-- A mark is a token of its own. -/
theorem mark (isMark : ∀ rest, tokenAt c rest = (token, some rest)) (visible : isSpace c = false)
    (lexes : LexesAs cs ts) : LexesAs (c :: cs) (token :: ts) := by
  intro fuel rest ends enough
  cases fuel with
  | zero => simp at enough
  | succ fuel =>
      obtain ⟨left, more, cut⟩ := lexes fuel rest ends (Nat.le_of_succ_le_succ enough)
      refine ⟨left, more, ?_⟩
      rw [List.cons_append, tokensFrom, if_neg (by simp [visible]), isMark]
      exact congrArg (token :: ·) cut

theorem append (lexes : LexesAs cs ts) (lexes' : LexesAs ds us)
    (parts : ∀ rest, Ends rest → Ends (ds ++ rest)) : LexesAs (cs ++ ds) (ts ++ us) := by
  intro fuel rest ends enough
  rw [List.append_assoc] at enough ⊢
  obtain ⟨middle, more, cut⟩ := lexes fuel (ds ++ rest) (parts rest ends) enough
  obtain ⟨left, more', cut'⟩ := lexes' middle rest ends more
  exact ⟨left, more', by rw [cut, cut', List.append_assoc]⟩

theorem blankAfter (lexes : LexesAs cs ts) (isBlank : isSpace c = true) :
    LexesAs (cs ++ [c]) ts := by
  have lexesBlank : LexesAs [c] [] := nil.blank isBlank
  have both := lexes.append lexesBlank fun rest _ => ends_cons_of_isSpace isBlank rest
  rwa [List.append_nil] at both

/-- A text of one token. -/
theorem single (visible : isSpace c = false)
    (isToken : ∀ rest, Ends rest → tokenAt c (cs ++ rest) = (token, some rest)) :
    LexesAs (c :: cs) [token] := by
  intro fuel rest ends enough
  cases fuel with
  | zero => simp at enough
  | succ fuel =>
      have more : rest.length ≤ fuel := by
        simp only [List.cons_append, List.length_cons, List.length_append] at enough
        omega
      refine ⟨fuel, more, ?_⟩
      rw [List.cons_append, tokensFrom, if_neg (by simp [visible]), isToken rest ends]
      rfl

end LexesAs

/-! ## Strings -/

theorem stringPieces_of_spelled {piece : Piece} {cs : List Char} (spelled : piece.Spelled cs)
    (rest : List Char) :
    stringPieces (cs ++ rest) = (piece :: (stringPieces rest).1, (stringPieces rest).2) := by
  cases spelled with
  | @plain c printed notMark notEscape =>
      rw [List.cons_append, List.nil_append, stringPieces]
      · rw [if_neg (Nat.not_lt.mpr printed)]
      all_goals simp_all
  | @short letter c means =>
      have notCode : letter ≠ 'u' := by
        rintro rfl
        cases means
      rw [List.cons_append, List.cons_append, List.nil_append, stringPieces]
      · rw [means]
      all_goals simp_all
  | code first second third fourth =>
      simp only [List.cons_append, List.nil_append]
      rw [stringPieces, first, second, third, fourth]

theorem stringPieces_of_piecesSpelled {pieces : List Piece} {cs : List Char}
    (spelled : PiecesSpelled pieces cs) (rest : List Char) :
    stringPieces (cs ++ '"' :: rest) = (pieces, .ok rest) := by
  induction spelled with
  | nil => rfl
  | cons first _ ih => rw [List.append_assoc, stringPieces_of_spelled first, ih]

theorem lexesAs_string {pieces : List Piece} {cs : List Char}
    (spelled : PiecesSpelled pieces cs) :
    LexesAs ('"' :: cs ++ ['"']) [.string (stringOf pieces)] := by
  rw [List.cons_append]
  refine LexesAs.single rfl fun rest _ => ?_
  have token : stringToken (cs ++ '"' :: rest) = (.string (stringOf pieces), some rest) := by
    rw [stringToken, stringPieces_of_piecesSpelled spelled]
    rfl
  rw [List.append_assoc]
  exact token

theorem lexesAs_name {name : Except Fault String} {cs : List Char}
    (spelled : NameSpelled name cs) : LexesAs cs [.string name] := by
  induction spelled with
  | quoted spelled => exact lexesAs_string spelled
  | blankBefore blank _ ih => exact ih.blank blank
  | blankAfter blank _ ih => exact ih.blankAfter blank

/-! ## Numbers -/

/-- No digit goes on with a number. -/
def NoDigitAhead (rest : List Char) : Prop := ∀ c ∈ rest.head?, c.isDigit = false

theorem noDigitAhead_of_ends {rest : List Char} (ends : Ends rest) : NoDigitAhead rest := by
  intro c head
  rcases ends c head with blank | mark
  · simp only [isSpace, Bool.or_eq_true, beq_iff_eq] at blank
    rcases blank with ((rfl | rfl) | rfl) | rfl <;> rfl
  · simp only [List.mem_cons, List.not_mem_nil, or_false] at mark
    rcases mark with rfl | rfl | rfl | rfl <;> rfl

theorem takeWhile_append_digits {cs rest : List Char} (digits : ∀ c ∈ cs, c.isDigit = true)
    (ahead : NoDigitAhead rest) :
    (cs ++ rest).takeWhile Char.isDigit = cs ∧ (cs ++ rest).dropWhile Char.isDigit = rest := by
  have none : rest.takeWhile Char.isDigit = [] ∧ rest.dropWhile Char.isDigit = rest := by
    cases rest with
    | nil => exact ⟨rfl, rfl⟩
    | cons c rest =>
        have other : c.isDigit = false := ahead c rfl
        simp [other]
  rw [List.takeWhile_append_of_pos digits, List.dropWhile_append_of_pos digits, none.1, none.2,
    List.append_nil]
  exact ⟨rfl, rfl⟩

theorem not_exponentMark_of_ends {c : Char} {rest : List Char} (ends : Ends (c :: rest)) :
    c ≠ '.' ∧ ¬ (c = 'e' ∨ c = 'E') := by
  rcases ends c rfl with blank | mark
  · simp only [isSpace, Bool.or_eq_true, beq_iff_eq] at blank
    rcases blank with ((rfl | rfl) | rfl) | rfl <;> decide
  · simp only [List.mem_cons, List.not_mem_nil, or_false] at mark
    rcases mark with rfl | rfl | rfl | rfl <;> decide

theorem exponentToken_of_spelled {exponent : Option (Bool × List Char)} {cs rest : List Char}
    (negative : Bool) (whole fraction : List Char) (spelled : ExponentSpelled exponent cs)
    (ends : Ends rest) :
    exponentToken negative whole fraction (cs ++ rest) =
      (.number (NumberText.value? ⟨negative, whole, fraction, exponent⟩), some rest) := by
  have ahead := noDigitAhead_of_ends ends
  cases spelled with
  | absent =>
      cases rest with
      | nil => rfl
      | cons c rest =>
          have other := (not_exponentMark_of_ends ends).2
          simp only [List.nil_append, exponentToken, if_neg other]
  | @unsigned mark digits isMark areDigits =>
      obtain ⟨some, all⟩ := areDigits
      obtain ⟨taken, dropped⟩ := takeWhile_append_digits all ahead
      obtain ⟨d, ds, rfl⟩ := List.exists_cons_of_ne_nil some
      have first : d.isDigit = true := all d List.mem_cons_self
      have notMinus : d ≠ '-' := by
        rintro rfl
        cases first
      have notPlus : d ≠ '+' := by
        rintro rfl
        cases first
      rw [List.cons_append] at taken dropped
      simp [exponentToken, if_pos isMark, notMinus, notPlus, taken, dropped]
  | @positive mark digits isMark areDigits =>
      obtain ⟨some, all⟩ := areDigits
      obtain ⟨taken, dropped⟩ := takeWhile_append_digits all ahead
      simp [exponentToken, if_pos isMark, taken, dropped, some]
  | @negative mark digits isMark areDigits =>
      obtain ⟨some, all⟩ := areDigits
      obtain ⟨taken, dropped⟩ := takeWhile_append_digits all ahead
      simp [exponentToken, if_pos isMark, taken, dropped, some]

theorem noDigitAhead_of_exponentSpelled {exponent : Option (Bool × List Char)}
    {cs rest : List Char} (spelled : ExponentSpelled exponent cs) (ends : Ends rest) :
    NoDigitAhead (cs ++ rest) ∧ (cs ++ rest).head? ≠ some '.' := by
  have ofMark {mark : Char} (isMark : mark = 'e' ∨ mark = 'E') (digits : List Char) :
      NoDigitAhead (mark :: digits) ∧ (mark :: digits).head? ≠ some '.' := by
    rcases isMark with rfl | rfl <;> simp [NoDigitAhead]
  cases spelled with
  | absent =>
      refine ⟨noDigitAhead_of_ends ends, ?_⟩
      cases rest with
      | nil => simp
      | cons c rest => simpa using (not_exponentMark_of_ends ends).1
  | unsigned isMark => exact ofMark isMark _
  | positive isMark => exact ofMark isMark _
  | negative isMark => exact ofMark isMark _

theorem unsignedToken_of_spelled {whole fraction cs ds rest : List Char}
    {exponent : Option (Bool × List Char)} (negative : Bool) (areWhole : AreWhole whole)
    (fractionSpelled : FractionSpelled fraction cs) (exponentSpelled : ExponentSpelled exponent ds)
    (ends : Ends rest) :
    unsignedToken negative (whole ++ (cs ++ ds) ++ rest) =
      (.number (NumberText.value? ⟨negative, whole, fraction, exponent⟩), some rest) := by
  obtain ⟨⟨some, all⟩, noZero⟩ := areWhole
  obtain ⟨ahead, noPoint⟩ := noDigitAhead_of_exponentSpelled exponentSpelled ends
  rw [List.append_assoc, List.append_assoc, unsignedToken]
  cases fractionSpelled with
  | absent =>
      obtain ⟨taken, dropped⟩ := takeWhile_append_digits all ahead
      -- The digits are neither none nor a zero with others behind it, so one case is left of them.
      simp only [List.nil_append, taken, dropped]
      split
      · next point => exact absurd (congrArg List.head? point) noPoint
      · exact exponentToken_of_spelled negative whole [] exponentSpelled ends
  | present areDigits =>
      obtain ⟨someFraction, allFraction⟩ := areDigits
      have point : NoDigitAhead ('.' :: (fraction ++ (ds ++ rest))) := by simp [NoDigitAhead]
      obtain ⟨taken, dropped⟩ := takeWhile_append_digits all point
      obtain ⟨taken', dropped'⟩ := takeWhile_append_digits allFraction ahead
      have given : fraction.isEmpty = false := List.isEmpty_eq_false_iff.mpr someFraction
      simp only [List.cons_append, taken, dropped, taken', dropped', given]
      exact exponentToken_of_spelled negative whole fraction exponentSpelled ends

theorem tokenAt_digit {c : Char} (digit : c.isDigit = true) (rest : List Char) :
    tokenAt c rest = unsignedToken false (c :: rest) := by
  unfold tokenAt
  split
  all_goals first
    | exact absurd digit (by decide)
    | exact if_pos digit

theorem isSpace_eq_false_of_isDigit {c : Char} (digit : c.isDigit = true) :
    isSpace c = false := by
  rw [Bool.eq_false_iff]
  intro blank
  simp only [isSpace, Bool.or_eq_true, beq_iff_eq] at blank
  rcases blank with ((rfl | rfl) | rfl) | rfl <;> cases digit

theorem lexesAs_number {t : NumberText} {cs : List Char} (spelled : t.Spelled cs) :
    LexesAs cs [.number t.value?] := by
  cases spelled with
  | @positive whole fraction cs ds exponent areWhole fractionSpelled exponentSpelled =>
      obtain ⟨c, digits, rfl⟩ := List.exists_cons_of_ne_nil areWhole.1.1
      have first : c.isDigit = true := areWhole.1.2 c List.mem_cons_self
      refine LexesAs.single (isSpace_eq_false_of_isDigit first) fun rest ends => ?_
      rw [tokenAt_digit first]
      exact unsignedToken_of_spelled false areWhole fractionSpelled exponentSpelled ends
  | negative areWhole fractionSpelled exponentSpelled =>
      exact LexesAs.single rfl fun rest ends =>
        unsignedToken_of_spelled true areWhole fractionSpelled exponentSpelled ends

end SyncPods.Json
