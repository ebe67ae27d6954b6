import Mathlib.Algebra.GroupWithZero.Nat
import SyncPods.Uuid

/-!
# Written identifiers are read back

An identifier is written as all its digits, in groups with a hyphen between them. The reader takes
the groups apart again and finds the number that the digits stand for.
-/

namespace SyncPods.Uuid

/-! ## Digits -/

theorem hexValue?_digitChar {d : Nat} (digit : d < 16) :
    Json.hexValue? (Nat.digitChar d) = some d := by
  decide +revert

@[simp]
theorem length_hexDigits (count n : Nat) : (hexDigits count n).length = count := by
  induction count generalizing n with
  | zero => rfl
  | succ count ih => simp [hexDigits, ih]

theorem utf8Size_digitChar {d : Nat} (digit : d < 16) : (Nat.digitChar d).utf8Size = 1 := by
  decide +revert

theorem exists_of_mem_hexDigits {count n : Nat} {c : Char} (member : c ∈ hexDigits count n) :
    ∃ d, d < 16 ∧ c = Nat.digitChar d := by
  induction count generalizing n with
  | zero => cases member
  | succ count ih =>
      rcases List.mem_append.mp member with earlier | last
      · exact ih earlier
      · exact ⟨n % 16, Nat.mod_lt n (by decide), List.mem_singleton.mp last⟩

/-- The digits stand for the number, as far as there are digits for it. -/
theorem mapM_hexDigits (count n : Nat) :
    ∃ values, (hexDigits count n).mapM Json.hexValue? = some values ∧
      values.foldl (fun n d => n * 16 + d) 0 = n % 16 ^ count := by
  induction count generalizing n with
  | zero => exact ⟨[], rfl, by simp [Nat.mod_one]⟩
  | succ count ih =>
      obtain ⟨values, read, number⟩ := ih (n / 16)
      have last : Json.hexValue? (Nat.digitChar (n % 16)) = some (n % 16) :=
        hexValue?_digitChar (Nat.mod_lt n (by decide))
      refine ⟨values ++ [n % 16], by simp [hexDigits, read, last], ?_⟩
      calc
        (values ++ [n % 16]).foldl (fun n d => n * 16 + d) 0
          = n / 16 % 16 ^ count * 16 + n % 16 := by simp [number]
        _ = n % (16 * 16 ^ count) := by rw [Nat.mod_mul]; omega
        _ = n % 16 ^ (count + 1) := by rw [Nat.pow_succ']

theorem ofDigits?_hexDigits (id : Uuid) : ofDigits? (hexDigits 32 id.bits.toNat) = some id := by
  obtain ⟨values, read, number⟩ := mapM_hexDigits 32 id.bits.toNat
  have bounded : id.bits.toNat % 16 ^ 32 = id.bits.toNat :=
    Nat.mod_eq_of_lt (Nat.lt_of_lt_of_eq id.bits.isLt (by decide))
  have digits : ofDigits? (hexDigits 32 id.bits.toNat) =
      some ⟨BitVec.ofNat 128 (values.foldl (fun n d => n * 16 + d) 0)⟩ := by
    rw [ofDigits?, read]
    rfl
  rw [digits, number, bounded, BitVec.ofNat_toNat, BitVec.setWidth_eq]

/-! ## Groups -/

theorem ungroup?_append {n next : Nat} {lengths : List Nat} {first : List Char}
    (long : first.length = n) (rest : List Char) :
    ungroup? (n :: next :: lengths) (first ++ '-' :: rest) =
      (ungroup? (next :: lengths) rest).map (first ++ ·) := by
  have enough : n ≤ (first ++ '-' :: rest).length := by
    rw [List.length_append, long]
    exact Nat.le_add_right n _
  simp only [ungroup?, List.drop_left' long, List.take_left' long, if_pos enough]

theorem ungroup?_group {lengths : List Nat} {digits : List Char} (grouped : lengths ≠ [])
    (total : digits.length = lengths.sum) :
    ungroup? lengths (group lengths digits) = some digits := by
  induction lengths generalizing digits with
  | nil => exact absurd rfl grouped
  | cons n lengths ih =>
      cases lengths with
      | nil =>
          have fits : digits.length = n := by simpa using total
          rw [group, ungroup?, if_pos fits]
      | cons next lengths =>
          rw [List.sum_cons] at total
          have first : (digits.take n).length = n := by
            rw [List.length_take]
            omega
          have later : (digits.drop n).length = (next :: lengths).sum := by
            rw [List.length_drop]
            omega
          calc
            ungroup? (n :: next :: lengths) (group (n :: next :: lengths) digits)
              = (ungroup? (next :: lengths) (group (next :: lengths) (digits.drop n))).map
                  (digits.take n ++ ·) := ungroup?_append first _
            _ = some digits := by
              rw [ih (List.cons_ne_nil next lengths) later, Option.map_some,
                List.take_append_drop]

theorem mem_of_mem_group {lengths : List Nat} {digits : List Char} {c : Char}
    (member : c ∈ group lengths digits) : c = '-' ∨ c ∈ digits := by
  induction lengths generalizing digits with
  | nil => cases member
  | cons n lengths ih =>
      cases lengths with
      | nil => exact .inr member
      | cons next lengths =>
          rcases List.mem_append.mp member with first | behind
          · exact .inr (List.mem_of_mem_take first)
          · rcases List.mem_cons.mp behind with hyphen | later
            · exact .inl hyphen
            · exact (ih later).imp_right List.mem_of_mem_drop

theorem byteCount_eq_length {cs : List Char} (single : ∀ c ∈ cs, c.utf8Size = 1) :
    Json.byteCount cs = cs.length := by
  induction cs with
  | nil => rfl
  | cons c cs ih =>
      have ⟨first, rest⟩ := List.forall_mem_cons.mp single
      rw [Json.byteCount, first, ih rest, List.length_cons, Nat.add_comm]

/-! ## Identifiers -/

/-- The text of an identifier, as its characters. -/
theorem toList_text (id : Uuid) :
    id.text.toList = group groupLengths (hexDigits 32 id.bits.toNat) := by
  simp [text]

theorem byteCount_text (id : Uuid) : Json.byteCount id.text.toList = 36 := by
  have single : ∀ c ∈ id.text.toList, c.utf8Size = 1 := by
    intro c member
    rw [toList_text] at member
    rcases mem_of_mem_group member with rfl | digit
    · rfl
    · obtain ⟨d, small, rfl⟩ := exists_of_mem_hexDigits digit
      exact utf8Size_digitChar small
  rw [byteCount_eq_length single, toList_text]
  simp [group, groupLengths]

/-- The text of an identifier is one of its spellings. -/
theorem parse_text (id : Uuid) : parse id.text = .ok id := by
  have grouped : grouped? id.text.toList = some id.text.toList := by
    simp only [grouped?, byteCount_text]
  have digits : digits? id.text.toList = some (hexDigits 32 id.bits.toNat) := by
    rw [digits?, grouped, toList_text]
    exact ungroup?_group (by decide) (by simp [groupLengths])
  rw [parse, digits, Option.bind_some, ofDigits?_hexDigits]

theorem text_injective : Function.Injective text := by
  intro id id' same
  have read : (.ok id : Except Refusal Uuid) = .ok id' := by
    rw [← parse_text, same, parse_text]
  exact Except.ok.inj read

end SyncPods.Uuid
