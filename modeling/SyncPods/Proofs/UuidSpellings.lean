import Mathlib.Data.List.Induction
import SyncPods.Proofs.UuidText

/-!
# The spellings of an identifier

An identifier is spelled in four ways, in letters of any case. The reader takes these spellings and
no others: `parse_eq_ok_iff`. It heeds no case, so what it takes is settled by texts in small
letters.
-/

namespace SyncPods.Uuid

/-- The spellings of an identifier in small letters: bare digits, groups, groups in braces and
groups behind the mark. -/
def smallSpellings (id : Uuid) : List (List Char) :=
  let digits := hexDigits 32 id.bits.toNat
  let grouped := group groupLengths digits
  [digits, grouped, '{' :: grouped ++ ['}'], urnMark ++ grouped]

/-- A text is one of an identifier's spellings, in letters of any case. -/
def Spells (s : String) (id : Uuid) : Prop := s.toList.map Char.toLower ∈ id.smallSpellings

instance (s : String) (id : Uuid) : Decidable (Spells s id) :=
  inferInstanceAs (Decidable (_ ∈ _))

/-! ## Small letters -/

theorem toLower_cases (c : Char) :
    c.toLower = c ∨ ∃ n, n < 26 ∧ c = Char.ofNat (65 + n) ∧ c.toLower = Char.ofNat (97 + n) := by
  by_cases upper : c.val ≥ 'A'.val ∧ c.val ≤ 'Z'.val
  · have ⟨least, greatest⟩ : 65 ≤ c.toNat ∧ c.toNat ≤ 90 := by
      simpa [UInt32.le_iff_toNat_le] using upper
    have small : ∀ n < 26, (Char.ofNat (65 + n)).toLower = Char.ofNat (97 + n) := by decide
    have own : c = Char.ofNat (65 + (c.toNat - 65)) := by
      rw [Nat.add_sub_cancel' least, Char.ofNat_toNat]
    refine .inr ⟨c.toNat - 65, by omega, own, ?_⟩
    calc
      c.toLower = (Char.ofNat (65 + (c.toNat - 65))).toLower := by rw [← own]
      _ = Char.ofNat (97 + (c.toNat - 65)) := small _ (by omega)
  · exact .inl (dif_neg upper)

theorem hexValue?_toLower (c : Char) : Json.hexValue? c.toLower = Json.hexValue? c := by
  have letters : ∀ n < 26,
      Json.hexValue? (Char.ofNat (97 + n)) = Json.hexValue? (Char.ofNat (65 + n)) := by decide
  rcases toLower_cases c with same | ⟨n, small, upper, lower⟩
  · rw [same]
  · rw [lower, upper, letters n small]

theorem utf8Size_toLower (c : Char) : c.toLower.utf8Size = c.utf8Size := by
  have letters : ∀ n < 26, (Char.ofNat (97 + n)).utf8Size = (Char.ofNat (65 + n)).utf8Size := by
    decide
  rcases toLower_cases c with same | ⟨n, small, upper, lower⟩
  · rw [same]
  · rw [lower, upper, letters n small]

/-- No letter turns into a mark. -/
theorem toLower_eq_mark_iff {mark : Char} (isMark : mark ∈ ['-', '{', '}']) (c : Char) :
    c.toLower = mark ↔ c = mark := by
  have letters : ∀ n < 26, ['-', '{', '}'].all fun mark =>
      Char.ofNat (97 + n) ≠ mark ∧ Char.ofNat (65 + n) ≠ mark := by decide
  rcases toLower_cases c with same | ⟨n, small, upper, lower⟩
  · rw [same]
  · obtain ⟨lowerNot, upperNot⟩ :=
      of_decide_eq_true (List.all_eq_true.mp (letters n small) mark isMark)
    rw [lower, upper]
    exact iff_of_false lowerNot upperNot

/-- A text in small letters. -/
abbrev lowered (cs : List Char) : List Char := cs.map Char.toLower

theorem byteCount_lowered (cs : List Char) : Json.byteCount (lowered cs) = Json.byteCount cs := by
  induction cs with
  | nil => rfl
  | cons c cs ih =>
      rw [lowered, List.map_cons, Json.byteCount, Json.byteCount, utf8Size_toLower, ih]

/-! ## Digits -/

theorem digit_of_hexValue? {c : Char} {d : Nat} (value : Json.hexValue? c = some d) :
    d < 16 ∧ c.toLower = Nat.digitChar d := by
  have ascii : ∀ n < 128, ∀ d ∈ Json.hexValue? (Char.ofNat n),
      d < 16 ∧ (Char.ofNat n).toLower = Nat.digitChar d := by decide
  have bounded : c.toNat < 128 := by
    refine Nat.lt_of_not_le fun large => ?_
    have beyond (greatest : Char) (small : greatest.toNat < 128) : ¬ c ≤ greatest :=
      fun within => Nat.not_lt.mpr large (Nat.lt_of_le_of_lt within small)
    have foreign : Json.hexValue? c = none := by
      simp [Json.hexValue?, beyond '9', beyond 'f', beyond 'F']
    cases foreign.symm.trans value
  have found := ascii c.toNat bounded d
  rw [Char.ofNat_toNat] at found
  exact found value

/-- Digits that stand for a number are its digits, but for their case. -/
theorem lowered_of_mapM {cs : List Char} {values : List Nat}
    (read : cs.mapM Json.hexValue? = some values) :
    lowered cs = hexDigits cs.length (values.foldl (fun n d => n * 16 + d) 0) ∧
      values.foldl (fun n d => n * 16 + d) 0 < 16 ^ cs.length := by
  -- A number grows at its end, so the digits are taken from there.
  induction cs using List.reverseRecOn generalizing values with
  | nil =>
      obtain rfl : [] = values := by simpa using read
      exact ⟨rfl, by decide⟩
  | append_singleton cs c ih =>
      obtain ⟨earlier, d, first, last, rfl⟩ :
          ∃ earlier d, cs.mapM Json.hexValue? = some earlier ∧ Json.hexValue? c = some d ∧
            earlier ++ [d] = values := by
        simpa [Option.bind_eq_some_iff] using read
      obtain ⟨small, lower⟩ := digit_of_hexValue? last
      obtain ⟨digits, bounded⟩ := ih first
      have number : (earlier ++ [d]).foldl (fun n d => n * 16 + d) 0 =
          earlier.foldl (fun n d => n * 16 + d) 0 * 16 + d := by simp
      rw [number, List.length_append, List.length_singleton]
      generalize earlier.foldl (fun n d => n * 16 + d) 0 = n at digits bounded ⊢
      have front : (n * 16 + d) / 16 = n := by omega
      have back : (n * 16 + d) % 16 = d := by omega
      refine ⟨?_, by rw [Nat.pow_succ]; omega⟩
      rw [hexDigits, front, back, ← digits, lowered, List.map_append, ← lower]
      rfl

/-- As many digits as there are stand for an identifier just if they are its own, but for their
case. -/
theorem ofDigits?_eq_some_iff {cs : List Char} {id : Uuid} (all : cs.length = 32) :
    ofDigits? cs = some id ↔ lowered cs = hexDigits 32 id.bits.toNat := by
  constructor
  · intro read
    obtain ⟨values, given, same⟩ := Option.bind_eq_some_iff.mp read
    obtain rfl := Option.some.inj same
    obtain ⟨digits, bounded⟩ := lowered_of_mapM given
    rw [all] at digits bounded
    have fits : values.foldl (fun n d => n * 16 + d) 0 < 2 ^ 128 :=
      Nat.lt_of_lt_of_eq bounded (by decide)
    rw [digits, BitVec.toNat_ofNat, Nat.mod_eq_of_lt fits]
  · intro digits
    have noCase : cs.mapM Json.hexValue? = (lowered cs).mapM Json.hexValue? := by
      rw [List.mapM_map]
      congr 1
      funext c
      exact (hexValue?_toLower c).symm
    have same : ofDigits? cs = ofDigits? (lowered cs) := by rw [ofDigits?, ofDigits?, noCase]
    rw [same, digits, ofDigits?_hexDigits]

/-! ## Groups -/

theorem group_append {n next : Nat} {lengths : List Nat} {first : List Char}
    (long : first.length = n) (rest : List Char) :
    group (n :: next :: lengths) (first ++ rest) =
      first ++ '-' :: group (next :: lengths) rest := by
  simp only [group, List.take_left' long, List.drop_left' long]

theorem lowered_group (lengths : List Nat) (digits : List Char) :
    lowered (group lengths digits) = group lengths (lowered digits) := by
  induction lengths generalizing digits with
  | nil => rfl
  | cons n lengths ih =>
      cases lengths with
      | nil => rfl
      | cons next lengths =>
          have hyphen : '-'.toLower = '-' := by decide
          have rest := ih (digits.drop n)
          simp only [lowered] at rest
          simp only [lowered, group, List.map_append, List.map_cons, hyphen, rest, List.map_take,
            List.map_drop]

theorem exists_of_lowered_eq_group {lengths : List Nat} {cs small : List Char}
    (total : small.length = lengths.sum) (same : lowered cs = group lengths small) :
    ∃ digits, cs = group lengths digits ∧ lowered digits = small := by
  induction lengths generalizing cs small with
  | nil =>
      have nothing : small = [] := List.eq_nil_of_length_eq_zero total
      exact ⟨[], List.map_eq_nil_iff.mp same, nothing.symm⟩
  | cons n lengths ih =>
      cases lengths with
      | nil => exact ⟨cs, rfl, same⟩
      | cons next lengths =>
          rw [List.sum_cons] at total
          have later : (small.drop n).length = (next :: lengths).sum := by
            rw [List.length_drop]
            omega
          obtain ⟨first, behind, rfl, firstSame, behindSame⟩ := List.map_eq_append_iff.mp same
          obtain ⟨hyphen, rest, rfl, isHyphen, restSame⟩ := List.map_eq_cons_iff.mp behindSame
          obtain ⟨digits, rfl, digitsSame⟩ := ih later restSame
          obtain rfl := (toLower_eq_mark_iff (by decide) hyphen).mp isHyphen
          have long : first.length = n := by
            have lengths := congrArg List.length firstSame
            rw [List.length_map, List.length_take] at lengths
            omega
          refine ⟨first ++ digits, ?_, ?_⟩
          · exact (group_append long digits).symm
          · calc
              lowered (first ++ digits) = lowered first ++ lowered digits := List.map_append
              _ = small.take n ++ small.drop n := by rw [digitsSame, ← firstSame]
              _ = small := List.take_append_drop n small

/-- Groups are read just from what is grouped. -/
theorem ungroup?_eq_some_iff {lengths : List Nat} {cs digits : List Char} :
    ungroup? lengths cs = some digits ↔
      lengths ≠ [] ∧ digits.length = lengths.sum ∧ cs = group lengths digits := by
  constructor
  · intro ungrouped
    induction lengths generalizing cs digits with
    | nil => cases ungrouped
    | cons n lengths ih =>
        refine ⟨List.cons_ne_nil n lengths, ?_⟩
        cases lengths with
        | nil =>
            rw [ungroup?] at ungrouped
            split at ungrouped
            · next fits =>
              obtain rfl := Option.some.inj ungrouped
              exact ⟨by simpa using fits, rfl⟩
            · cases ungrouped
        | cons next lengths =>
            simp only [ungroup?] at ungrouped
            split at ungrouped
            · next rest behind =>
              split at ungrouped
              · next long =>
                obtain ⟨later, read, rfl⟩ := Option.map_eq_some_iff.mp ungrouped
                obtain ⟨-, total, grouped⟩ := ih read
                have first : (cs.take n).length = n := List.length_take_of_le long
                refine ⟨?_, ?_⟩
                · rw [List.length_append, first, total, List.sum_cons (a := n)]
                · rw [group_append first, ← grouped, ← behind, List.take_append_drop]
              · cases ungrouped
            · cases ungrouped
  · rintro ⟨some, total, rfl⟩
    exact ungroup?_group some total

/-! ## Braces and the mark -/

theorem betweenBraces?_eq_some_iff {cs inner : List Char} :
    betweenBraces? cs = some inner ↔ cs = '{' :: inner ++ ['}'] := by
  constructor
  · intro between
    unfold betweenBraces? at between
    split at between
    · next rest =>
      split at between
      · next last =>
        obtain ⟨content, rfl⟩ := List.getLast?_eq_some_iff.mp last
        obtain rfl := Option.some.inj between
        rw [List.dropLast_concat, List.cons_append]
      · cases between
    · cases between
  · rintro rfl
    simp [betweenBraces?]

theorem afterUrnMark?_eq_some_iff {cs rest : List Char} :
    afterUrnMark? cs = some rest ↔ ∃ mark, lowered mark = urnMark ∧ cs = mark ++ rest := by
  rw [afterUrnMark?]
  constructor
  · intro after
    split at after
    · next isMark =>
      obtain rfl := Option.some.inj after
      exact ⟨cs.take 9, isMark, (List.take_append_drop 9 cs).symm⟩
    · cases after
  · rintro ⟨mark, isMark, rfl⟩
    have long : mark.length = 9 := by
      have lengths := congrArg List.length isMark
      rwa [List.length_map] at lengths
    rw [List.take_left' long, List.drop_left' long, if_pos isMark]

/-! ## Spellings -/

/-- A text with the digits of an identifier in it, grouped and marked as in one of the spellings. -/
inductive Holds (digits : List Char) : List Char → Prop
  | bare : Holds digits digits
  | grouped : Holds digits (group groupLengths digits)
  | braced : Holds digits ('{' :: group groupLengths digits ++ ['}'])
  | marked {mark : List Char} (isMark : lowered mark = urnMark) :
      Holds digits (mark ++ group groupLengths digits)

theorem holds_of_digits? {cs digits : List Char} (read : digits? cs = some digits) :
    digits.length = 32 ∧ Holds digits cs := by
  unfold digits? at read
  split at read
  · next subject grouped =>
    obtain ⟨-, total, rfl⟩ := ungroup?_eq_some_iff.mp read
    refine ⟨total, ?_⟩
    unfold grouped? at grouped
    split at grouped
    · obtain rfl := Option.some.inj grouped
      exact .grouped
    · rw [betweenBraces?_eq_some_iff.mp grouped]
      exact .braced
    · obtain ⟨mark, isMark, rfl⟩ := afterUrnMark?_eq_some_iff.mp grouped
      exact .marked isMark
    · cases grouped
  · split at read
    · next all =>
      obtain rfl := Option.some.inj read
      exact ⟨all, .bare⟩
    · cases read

theorem mem_smallSpellings_iff {cs : List Char} {id : Uuid} :
    lowered cs ∈ id.smallSpellings ↔
      ∃ digits, lowered digits = hexDigits 32 id.bits.toNat ∧ Holds digits cs := by
  have total : (hexDigits 32 id.bits.toNat).length = groupLengths.sum := length_hexDigits 32 _
  constructor
  · intro member
    simp only [smallSpellings, List.mem_cons, List.not_mem_nil, or_false] at member
    rcases member with bare | grouped | braced | marked
    · exact ⟨cs, bare, .bare⟩
    · obtain ⟨digits, rfl, same⟩ := exists_of_lowered_eq_group total grouped
      exact ⟨digits, same, .grouped⟩
    · obtain ⟨front, closing, rfl, frontSame, closes⟩ := List.map_eq_append_iff.mp braced
      obtain ⟨opening, inner, rfl, opens, innerSame⟩ := List.map_eq_cons_iff.mp frontSame
      obtain ⟨last, rest, rfl, isLast, nothing⟩ := List.map_eq_cons_iff.mp closes
      obtain rfl := List.map_eq_nil_iff.mp nothing
      obtain rfl := (toLower_eq_mark_iff (by decide) opening).mp opens
      obtain rfl := (toLower_eq_mark_iff (by decide) last).mp isLast
      obtain ⟨digits, rfl, same⟩ := exists_of_lowered_eq_group total innerSame
      exact ⟨digits, same, .braced⟩
    · obtain ⟨mark, inner, rfl, isMark, innerSame⟩ := List.map_eq_append_iff.mp marked
      obtain ⟨digits, rfl, same⟩ := exists_of_lowered_eq_group total innerSame
      exact ⟨digits, same, .marked isMark⟩
  · rintro ⟨digits, same, holds⟩
    have grouped : lowered (group groupLengths digits) =
        group groupLengths (hexDigits 32 id.bits.toNat) := by
      rw [lowered_group, same]
    have opening : '{'.toLower = '{' := by decide
    have closing : '}'.toLower = '}' := by decide
    simp only [smallSpellings, List.mem_cons, List.not_mem_nil, or_false]
    cases holds with
    | bare => exact .inl same
    | grouped => exact .inr (.inl grouped)
    | braced =>
        refine .inr (.inr (.inl ?_))
        simp only [lowered] at grouped
        simp [lowered, grouped, opening, closing]
    | marked isMark =>
        refine .inr (.inr (.inr ?_))
        simp only [lowered] at grouped isMark
        simp [lowered, grouped, isMark]

theorem byteCount_append (cs ds : List Char) :
    Json.byteCount (cs ++ ds) = Json.byteCount cs + Json.byteCount ds := by
  induction cs with
  | nil => simp [Json.byteCount]
  | cons c cs ih => rw [List.cons_append, Json.byteCount, Json.byteCount, ih, Nat.add_assoc]

theorem digits?_of_holds {cs digits : List Char} {id : Uuid}
    (same : lowered digits = hexDigits 32 id.bits.toNat) (holds : Holds digits cs) :
    digits? cs = some digits := by
  have all : digits.length = 32 := by
    have lengths := congrArg List.length same
    rwa [List.length_map, length_hexDigits] at lengths
  have ungrouped : ungroup? groupLengths (group groupLengths digits) = some digits :=
    ungroup?_group (by decide) all
  have bareBytes : Json.byteCount digits = 32 := by
    rw [← byteCount_lowered, same, byteCount_eq_length, length_hexDigits]
    intro c member
    obtain ⟨d, small, rfl⟩ := exists_of_mem_hexDigits member
    exact utf8Size_digitChar small
  have groupedBytes : Json.byteCount (group groupLengths digits) = 36 := by
    rw [← byteCount_lowered, lowered_group, same, ← toList_text, byteCount_text]
  -- The number of bytes tells the spellings apart.
  cases holds with
  | bare => simp only [digits?, grouped?, bareBytes, if_pos all]
  | grouped => simp only [digits?, grouped?, groupedBytes, ungrouped]
  | braced =>
      have bytes : Json.byteCount ('{' :: group groupLengths digits ++ ['}']) = 38 := by
        rw [byteCount_append, Json.byteCount, groupedBytes]
        decide
      simp only [digits?, grouped?, bytes, betweenBraces?_eq_some_iff.mpr rfl, ungrouped]
  | @marked mark isMark =>
      have bytes : Json.byteCount (mark ++ group groupLengths digits) = 45 := by
        rw [byteCount_append, ← byteCount_lowered, isMark, groupedBytes]
        decide
      have after : afterUrnMark? (mark ++ group groupLengths digits) =
          some (group groupLengths digits) := afterUrnMark?_eq_some_iff.mpr ⟨mark, isMark, rfl⟩
      simp only [digits?, grouped?, bytes, after, ungrouped]

/-- The reader takes the spellings of an identifier for the identifier, and no other texts. -/
theorem parse_eq_ok_iff {s : String} {id : Uuid} : parse s = .ok id ↔ Spells s id := by
  have parsed : parse s = .ok id ↔ (digits? s.toList).bind ofDigits? = some id := by
    rw [parse]
    cases (digits? s.toList).bind ofDigits? <;> simp
  rw [parsed, Option.bind_eq_some_iff, Spells, mem_smallSpellings_iff]
  constructor
  · rintro ⟨digits, read, value⟩
    obtain ⟨all, holds⟩ := holds_of_digits? read
    exact ⟨digits, (ofDigits?_eq_some_iff all).mp value, holds⟩
  · rintro ⟨digits, same, holds⟩
    have read := digits?_of_holds same holds
    exact ⟨digits, read, (ofDigits?_eq_some_iff (holds_of_digits? read).1).mpr same⟩

theorem spells_text (id : Uuid) : Spells id.text id := parse_eq_ok_iff.mp id.parse_text

end SyncPods.Uuid
