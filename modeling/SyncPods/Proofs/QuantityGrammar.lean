import SyncPods.Quantity

/-!
# The grammar of quantities

A quantity is a sign, a number and a suffix, one behind the other. The check accepts exactly the
texts that are put together so, and each of them in one way only: the number reaches as far as there
are digits and points, and no suffix begins with one of these.
-/

namespace SyncPods.Quantity

/-- A sign, or none. -/
inductive Sign : List Char → Prop where
  | absent : Sign []
  | plus : Sign ['+']
  | minus : Sign ['-']

def Digits (cs : List Char) : Prop := ∀ c ∈ cs, c.isDigit = true

/-- Digits with perhaps a point behind or among them, or a point with digits behind it. -/
inductive Number : List Char → Prop where
  | whole {digits : List Char} : digits ≠ [] → Digits digits → Number digits
  | fraction {digits places : List Char} :
      digits ≠ [] → Digits digits → Digits places → Number (digits ++ '.' :: places)
  | places {places : List Char} : places ≠ [] → Digits places → Number ('.' :: places)

def decimalUnits : List Char := ['n', 'u', 'm', 'k', 'M', 'G', 'T', 'P', 'E']

/-- The letters that stand before the `i` of a binary unit. -/
def binaryUnits : List Char := ['K', 'M', 'G', 'T', 'P', 'E']

/-- A unit or an exponent, or neither. -/
inductive Suffix : List Char → Prop where
  | absent : Suffix []
  | decimal {unit : Char} : unit ∈ decimalUnits → Suffix [unit]
  | binary {unit : Char} : unit ∈ binaryUnits → Suffix [unit, 'i']
  | exponent {mark : Char} {sign digits : List Char} :
      mark = 'e' ∨ mark = 'E' → Sign sign → digits ≠ [] → Digits digits →
        Suffix (mark :: (sign ++ digits))

structure Parts where
  sign : String
  number : String
  suffix : String

/-- The text is the parts, one behind the other, and each is of its form. -/
structure Parts.Spell (parts : Parts) (text : String) : Prop where
  text : text = parts.sign ++ parts.number ++ parts.suffix
  sign : Sign parts.sign.toList
  number : Number parts.number.toList
  suffix : Suffix parts.suffix.toList

/-- What a number is made of. -/
def isNumberChar (c : Char) : Bool := c.isDigit || c == '.'

/-- No sign stands at the start. -/
def Unsigned (cs : List Char) : Prop := ∀ c ∈ cs.head?, c ≠ '+' ∧ c ≠ '-'

/-- No digit and no point stands at the start. -/
def BehindNumber (cs : List Char) : Prop := ∀ c ∈ cs.head?, isNumberChar c = false

variable {cs sign number suffix : List Char}

/-! ## Signs -/

theorem exists_sign (cs : List Char) : ∃ sign, Sign sign ∧ cs = sign ++ dropSign cs := by
  rw [dropSign.eq_def]
  split
  · exact ⟨['+'], .plus, rfl⟩
  · exact ⟨['-'], .minus, rfl⟩
  · exact ⟨[], .absent, rfl⟩

theorem dropSign_append (isSign : Sign sign) (unsigned : Unsigned cs) :
    dropSign (sign ++ cs) = cs := by
  cases isSign with
  | plus => rfl
  | minus => rfl
  | absent =>
      rw [List.nil_append, dropSign.eq_def]
      split
      · exact absurd rfl (unsigned _ rfl).1
      · exact absurd rfl (unsigned _ rfl).2
      · rfl

theorem unsigned_of_isNumberChar (all : ∀ c ∈ cs, isNumberChar c = true) : Unsigned cs := by
  intro c head
  have listed := all c (List.mem_of_mem_head? head)
  constructor <;> (rintro rfl; exact absurd listed (by decide))

/-! ## Numbers -/

theorem Digits.numberChars (digits : Digits cs) : ∀ c ∈ cs, isNumberChar c = true := by
  intro c listed
  rw [isNumberChar, digits c listed, Bool.true_or]

theorem Number.numberChars (isNumber : Number cs) : ∀ c ∈ cs, isNumberChar c = true := by
  cases isNumber with
  | whole _ digits => exact digits.numberChars
  | fraction _ digits places =>
      intro c listed
      rcases List.mem_append.mp listed with before | point | behind
      · exact digits.numberChars c before
      · rfl
      · exact places.numberChars c (by assumption)
  | places _ places =>
      intro c listed
      rcases List.mem_cons.mp listed with rfl | behind
      · rfl
      · exact places.numberChars c behind

theorem Number.ne_nil (isNumber : Number cs) : cs ≠ [] := by
  cases isNumber with
  | whole some _ => exact some
  | fraction _ _ _ => simp
  | places _ _ => simp

theorem Digits.point_not_mem (digits : Digits cs) : '.' ∉ cs := fun listed =>
  absurd (digits '.' listed) (by decide)

theorem isNumber_of_no_point (none : '.' ∉ cs) : isNumber cs = true ↔ cs ≠ [] ∧ Digits cs := by
  have others : ∀ c ∈ cs, decide (c ≠ '.') = true := fun c listed =>
    decide_eq_true fun same => none (same ▸ listed)
  have taken : cs.takeWhile (fun c => decide (c ≠ '.')) = cs := by
    have whole : (cs ++ []).takeWhile _ = _ := List.takeWhile_append_of_pos others
    simpa using whole
  have dropped : cs.dropWhile (fun c => decide (c ≠ '.')) = [] := by
    have whole : (cs ++ []).dropWhile _ = _ := List.dropWhile_append_of_pos others
    simpa using whole
  rw [isNumber, taken, dropped]
  simp [Digits, and_comm]

theorem isNumber_with_point {places : List Char} (none : '.' ∉ cs) :
    isNumber (cs ++ '.' :: places) = true ↔
      Digits cs ∧ Digits places ∧ (cs ≠ [] ∨ places ≠ []) := by
  have others : ∀ c ∈ cs, decide (c ≠ '.') = true := fun c listed =>
    decide_eq_true fun same => none (same ▸ listed)
  have taken : (cs ++ '.' :: places).takeWhile (fun c => decide (c ≠ '.')) = cs := by
    rw [List.takeWhile_append_of_pos others]
    simp
  have dropped : (cs ++ '.' :: places).dropWhile (fun c => decide (c ≠ '.')) = '.' :: places := by
    rw [List.dropWhile_append_of_pos others]
    simp
  rw [isNumber, taken, dropped]
  simp [Digits, and_assoc]

theorem isNumber_iff : isNumber cs = true ↔ Number cs := by
  constructor
  · intro accepted
    by_cases point : '.' ∈ cs
    · obtain ⟨digits, places, rfl, first⟩ := List.eq_append_cons_of_mem point
      obtain ⟨allDigits, allPlaces, some⟩ := (isNumber_with_point first).mp accepted
      cases digits with
      | nil => exact .places (some.resolve_left (by simp)) allPlaces
      | cons digit digits => exact .fraction (by simp) allDigits allPlaces
    · obtain ⟨some, allDigits⟩ := (isNumber_of_no_point point).mp accepted
      exact .whole some allDigits
  · intro number
    cases number with
    | whole some digits => exact (isNumber_of_no_point digits.point_not_mem).mpr ⟨some, digits⟩
    | fraction some digits places =>
        exact (isNumber_with_point digits.point_not_mem).mpr ⟨digits, places, .inl some⟩
    | places some places =>
        have none : '.' ∉ ([] : List Char) := List.not_mem_nil
        exact (isNumber_with_point none).mpr ⟨by simp [Digits], places, .inr some⟩

/-! ## Suffixes -/

theorem isExponent_iff :
    isExponent cs = true ↔ ∃ mark sign digits, (mark = 'e' ∨ mark = 'E') ∧ Sign sign ∧
      digits ≠ [] ∧ Digits digits ∧ cs = mark :: (sign ++ digits) := by
  constructor
  · intro accepted
    cases cs with
    | nil => exact absurd accepted (by decide)
    | cons mark rest =>
        simp only [isExponent, Bool.and_eq_true, Bool.or_eq_true, beq_iff_eq,
          Bool.not_eq_true', List.isEmpty_eq_false_iff, List.all_eq_true] at accepted
        obtain ⟨⟨letter, some⟩, digits⟩ := accepted
        obtain ⟨sign, isSign, split⟩ := exists_sign rest
        exact ⟨mark, sign, dropSign rest, letter, isSign, some, digits, congrArg _ split⟩
  · rintro ⟨mark, sign, digits, letter, isSign, some, all, rfl⟩
    have bare := dropSign_append isSign (unsigned_of_isNumberChar all.numberChars)
    simp only [isExponent, bare, Bool.and_eq_true, Bool.or_eq_true, beq_iff_eq,
      Bool.not_eq_true', List.isEmpty_eq_false_iff, List.all_eq_true]
    exact ⟨⟨letter, some⟩, all⟩

theorem mem_units_iff :
    String.ofList cs ∈ units ↔
      cs = [] ∨ (∃ unit ∈ decimalUnits, cs = [unit]) ∨ ∃ unit ∈ binaryUnits, cs = [unit, 'i'] := by
  have spelled (text : String) : String.ofList cs = text ↔ cs = text.toList := by
    rw [← String.toList_inj, String.toList_ofList]
  simp [units, decimalUnits, binaryUnits, spelled, or_assoc]

theorem isSuffix_iff : (units.contains (String.ofList cs) || isExponent cs) = true ↔ Suffix cs := by
  rw [Bool.or_eq_true, List.contains_iff_mem, mem_units_iff, isExponent_iff]
  constructor
  · rintro ((rfl | ⟨unit, listed, rfl⟩ | ⟨unit, listed, rfl⟩) |
      ⟨mark, sign, digits, letter, isSign, some, all, rfl⟩)
    · exact .absent
    · exact .decimal listed
    · exact .binary listed
    · exact .exponent letter isSign some all
  · intro suffix
    cases suffix with
    | absent => exact .inl (.inl rfl)
    | decimal listed => exact .inl (.inr (.inl ⟨_, listed, rfl⟩))
    | binary listed => exact .inl (.inr (.inr ⟨_, listed, rfl⟩))
    | exponent letter isSign some all =>
        exact .inr ⟨_, _, _, letter, isSign, some, all, rfl⟩

theorem Suffix.behindNumber (isSuffix : Suffix cs) : BehindNumber cs := by
  have units : (decimalUnits ++ binaryUnits).all (!isNumberChar ·) = true := by decide
  have inNoNumber (unit : Char) (listed : unit ∈ decimalUnits ++ binaryUnits) :
      isNumberChar unit = false := by
    simpa using List.all_eq_true.mp units unit listed
  intro c head
  cases isSuffix with
  | absent => simp at head
  | decimal listed =>
      obtain rfl : _ = c := by simpa using head
      exact inNoNumber _ (List.mem_append_left _ listed)
  | binary listed =>
      obtain rfl : _ = c := by simpa using head
      exact inNoNumber _ (List.mem_append_right _ listed)
  | exponent letter _ _ _ =>
      obtain rfl : _ = c := by simpa using head
      rcases letter with rfl | rfl <;> rfl

/-! ## Texts -/

/-- A text that is put together of a sign, a number and a suffix comes apart where the check takes
it apart. -/
theorem split_spelled (isSign : Sign sign) (isNumber : Number number) (isSuffix : Suffix suffix) :
    dropSign (sign ++ number ++ suffix) = number ++ suffix ∧
      (number ++ suffix).takeWhile isNumberChar = number ∧
      (number ++ suffix).dropWhile isNumberChar = suffix := by
  have unsigned : Unsigned (number ++ suffix) := by
    have first := unsigned_of_isNumberChar isNumber.numberChars
    cases number with
    | nil => exact absurd rfl isNumber.ne_nil
    | cons c number => exact first
  have behind : suffix.takeWhile isNumberChar = [] ∧ suffix.dropWhile isNumberChar = suffix := by
    have first := isSuffix.behindNumber
    cases suffix with
    | nil => exact ⟨rfl, rfl⟩
    | cons c suffix => simp [first c rfl]
  refine ⟨?_, ?_, ?_⟩
  · rw [List.append_assoc, dropSign_append isSign unsigned]
  · rw [List.takeWhile_append_of_pos isNumber.numberChars, behind.1, List.append_nil]
  · rw [List.dropWhile_append_of_pos isNumber.numberChars, behind.2]

theorem isValid_iff (text : String) :
    isValid text = true ↔
      Number ((dropSign text.toList).takeWhile isNumberChar) ∧
        Suffix ((dropSign text.toList).dropWhile isNumberChar) := by
  rw [← isNumber_iff, ← isSuffix_iff, ← Bool.and_eq_true]
  rfl

variable {text : String}

theorem Parts.Spell.toList {parts : Parts} (spelled : parts.Spell text) :
    text.toList = parts.sign.toList ++ parts.number.toList ++ parts.suffix.toList := by
  rw [spelled.text, String.toList_append, String.toList_append]

theorem exists_parts (valid : isValid text = true) : ∃ parts : Parts, parts.Spell text := by
  obtain ⟨isNumber, isSuffix⟩ := (isValid_iff text).mp valid
  obtain ⟨sign, isSign, split⟩ := exists_sign text.toList
  refine ⟨⟨String.ofList sign, String.ofList ((dropSign text.toList).takeWhile isNumberChar),
    String.ofList ((dropSign text.toList).dropWhile isNumberChar)⟩, ?_, ?_, ?_, ?_⟩
  · rw [← String.toList_inj]
    simp only [String.toList_append, String.toList_ofList]
    rw [List.append_assoc, List.takeWhile_append_dropWhile, ← split]
  · simpa using isSign
  · simpa using isNumber
  · simpa using isSuffix

theorem isValid_of_spelled {parts : Parts} (spelled : parts.Spell text) : isValid text = true := by
  obtain ⟨bare, taken, dropped⟩ := split_spelled spelled.sign spelled.number spelled.suffix
  rw [isValid_iff, spelled.toList, bare, taken, dropped]
  exact ⟨spelled.number, spelled.suffix⟩

theorem parts_unique {parts parts' : Parts} (spelled : parts.Spell text)
    (spelled' : parts'.Spell text) : parts = parts' := by
  obtain ⟨bare, taken, dropped⟩ := split_spelled spelled.sign spelled.number spelled.suffix
  obtain ⟨bare', taken', dropped'⟩ := split_spelled spelled'.sign spelled'.number spelled'.suffix
  rw [← spelled.toList] at bare
  rw [← spelled'.toList, bare] at bare'
  rw [← bare', taken] at taken'
  rw [← bare', dropped] at dropped'
  have sign : parts.sign.toList = parts'.sign.toList := by
    have texts := spelled.toList.symm.trans spelled'.toList
    rw [← taken', ← dropped', List.append_assoc, List.append_assoc] at texts
    exact List.append_cancel_right texts
  obtain ⟨_, _, _⟩ := parts
  obtain ⟨_, _, _⟩ := parts'
  rw [Parts.mk.injEq]
  exact ⟨String.toList_inj.mp sign, String.toList_inj.mp taken', String.toList_inj.mp dropped'⟩

/-- The check accepts exactly the texts of the grammar, and there is one way to read each. -/
theorem isValid_iff_spelled_once (text : String) :
    (isValid text = true ↔ ∃ parts : Parts, parts.Spell text) ∧
      ∀ parts parts' : Parts, parts.Spell text → parts'.Spell text → parts = parts' :=
  ⟨⟨exists_parts, fun ⟨_, spelled⟩ => isValid_of_spelled spelled⟩,
    fun _ _ spelled spelled' => parts_unique spelled spelled'⟩

end SyncPods.Quantity
