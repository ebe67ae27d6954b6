import SyncPods.Proofs.NamedPaths
import SyncPods.Proofs.UuidSpellings

/-!
# Full lower-casing and the case of ASCII letters

Lower-casing goes by the data of all characters and by what stands around a capital sigma. Still no
text becomes an ASCII word but that word in letters of either case, as long as there is no k in it,
which the Kelvin sign becomes as well: `toLower_eq_iff`. Nor does lower-casing heed the case of ASCII
letters anywhere in a text, next to a sigma included: `toLower_toLower`.
-/

namespace SyncPods.Text

/-- Texts that differ at most in the case of letters from A to Z. -/
def SameButCase (s t : String) : Prop := s.toLower = t.toLower

theorem toList_toLower (s : String) : s.toLower.toList = s.toList.map Char.toLower :=
  String.toList_map

theorem sameButCase_iff {s t : String} :
    SameButCase s t ↔ s.toList.map Char.toLower = t.toList.map Char.toLower := by
  rw [SameButCase, ← String.toList_inj, toList_toLower, toList_toLower]

instance (s t : String) : Decidable (SameButCase s t) := decidable_of_iff' _ sameButCase_iff

theorem SameButCase.congr {s t u : String} (same : SameButCase s t) :
    SameButCase s u ↔ SameButCase t u :=
  ⟨fun other => same.symm.trans other, fun other => same.trans other⟩

section Characters

variable {c : Char}

theorem toNat_ofNat {n : Nat} (valid : n.isValidChar) : (Char.ofNat n).toNat = n := by
  rw [Char.ofNat, dif_pos valid]
  rfl

/-- What holds of the letters from A to Z and their small ones, and of each character and itself,
holds of every character and its small form in ASCII. -/
theorem toLower_induction {P : Char → Char → Prop}
    (letters : ∀ n < 26, P (Char.ofNat (65 + n)) (Char.ofNat (97 + n))) (others : ∀ c, P c c)
    (c : Char) : P c c.toLower := by
  rcases Uuid.toLower_cases c with same | ⟨n, within, upper, lower⟩
  · rw [same]
    exact others c
  · rw [lower, upper]
    exact letters n within

theorem toNat_letter_lt : ∀ n < 26,
    (Char.ofNat (65 + n)).toNat < 128 ∧ (Char.ofNat (97 + n)).toNat < 128 := by decide

theorem toNat_lt_of_toLower (isAscii : c.toLower.toNat < 128) : c.toNat < 128 :=
  toLower_induction (P := fun c small => small.toNat < 128 → c.toNat < 128) (by decide)
    (fun _ => id) c isAscii

/-! ## What becomes an ASCII letter -/

/-- What the runs of capitals lead to: from within ASCII to anywhere, from the Kelvin sign to k, and
from all else to characters beyond ASCII. -/
theorem target_of_mem_caseRuns : ∀ run ∈ caseRuns,
    run.last < 128 ∨ run = ⟨0x212A, 0x212A, 1, -8383⟩ ∨
      128 ≤ run.first + run.shift ∧
        (run.last + run.shift < 0xD800 ∨
          0xDFFF < run.first + run.shift ∧ run.last + run.shift < 0x110000) := by
  decide +kernel

/-- The dotted capital I is none of those that become ASCII, since its dot does not. -/
theorem ascii_of_lowerChar (isAscii : ∀ d ∈ lowerChar c, d.toNat < 128) :
    c.toNat < 128 ∨ c = '\u212A' := by
  rw [lowerChar] at isAscii
  split at isAscii
  · exact absurd (isAscii '\u0307' (by simp)) (by decide)
  · split at isAscii
    · next run found =>
        have listed := List.mem_of_find?_eq_some found
        have covered := List.find?_some found
        have small := isAscii _ (List.mem_singleton_self _)
        simp only [CaseRun.covers, Bool.and_eq_true, decide_eq_true_eq, beq_iff_eq] at covered
        obtain ⟨⟨first, last⟩, _⟩ := covered
        rcases target_of_mem_caseRuns run listed with below | rfl | ⟨beyond, valid⟩
        · exact Or.inl (Nat.lt_of_le_of_lt last below)
        · exact Or.inr (Char.toNat_inj.mp (Nat.le_antisymm last first))
        · have isChar : (c.toNat + run.shift).toNat.isValidChar := by
            rw [Nat.isValidChar]
            omega
          rw [toNat_ofNat isChar] at small
          omega
    · exact Or.inl (isAscii c (List.mem_singleton_self c))

end Characters

section Texts

variable {cs : List Char} {s word : String}

/-- The small forms of all characters are there, but for those of a capital sigma. -/
theorem mem_lowerFrom {c d : Char} (listed : c ∈ cs) (noSigma : c ≠ 'Σ') (small : d ∈ lowerChar c)
    (before : List Char) : d ∈ lowerFrom before cs := by
  induction cs generalizing before with
  | nil => cases listed
  | cons first cs ih =>
      rw [lowerFrom, List.mem_append]
      rcases List.mem_cons.mp listed with rfl | later
      · exact Or.inl (by rwa [if_neg noSigma])
      · exact Or.inr (ih later _)

theorem sigma_not_mem {before : List Char} (isAscii : ∀ d ∈ lowerFrom before cs, d.toNat < 128) :
    'Σ' ∉ cs := by
  induction cs generalizing before with
  | nil => exact List.not_mem_nil
  | cons first cs ih =>
      rw [lowerFrom, List.forall_mem_append] at isAscii
      rw [List.mem_cons, not_or]
      refine ⟨?_, ih isAscii.2⟩
      rintro rfl
      -- Neither of the small sigmas is in ASCII.
      have small := isAscii.1
      rw [if_pos rfl] at small
      split at small
      · exact absurd (small 'ς' List.mem_cons_self) (by decide)
      · exact absurd (small 'σ' List.mem_cons_self) (by decide)

theorem ascii_of_lowerFrom (isAscii : ∀ d ∈ lowerFrom [] cs, d.toNat < 128)
    (noK : 'k' ∉ lowerFrom [] cs) : ∀ c ∈ cs, c.toNat < 128 := by
  intro c listed
  have noSigma : c ≠ 'Σ' := fun same => sigma_not_mem isAscii (same ▸ listed)
  have small : ∀ d ∈ lowerChar c, d ∈ lowerFrom [] cs :=
    fun d given => mem_lowerFrom listed noSigma given []
  rcases ascii_of_lowerChar fun d given => isAscii d (small d given) with below | rfl
  · exact below
  · have kelvin : 'k' ∈ lowerChar '\u212A' := by decide
    exact absurd (small 'k' kelvin) noK

theorem toLower_of_ascii (isAscii : ∀ c ∈ s.toList, c.toNat < 128) : toLower s = s.toLower := by
  rw [toLower_of_lt isAscii, ← String.toList_inj, toList_toLower, String.toList_ofList]

/-- What becomes an ASCII word without a k is that word, but for the case of ASCII letters. -/
theorem toLower_eq_iff (isAscii : ∀ d ∈ word.toList, d.toNat < 128) (noK : 'k' ∉ word.toList) :
    toLower s = word ↔ s.toLower = word := by
  constructor
  · rintro rfl
    rw [toLower, String.toList_ofList] at isAscii noK
    exact (toLower_of_ascii (ascii_of_lowerFrom isAscii noK)).symm
  · rintro rfl
    refine toLower_of_ascii fun c listed => toNat_lt_of_toLower (isAscii c.toLower ?_)
    rw [toList_toLower]
    exact List.mem_map_of_mem listed

example : toLower "\u212A" = "k" := by decide

end Texts

/-! ## The case of ASCII letters -/

theorem lowerChar_toLower (c : Char) : lowerChar c.toLower = lowerChar c := by
  refine toLower_induction (P := fun c small => lowerChar small = lowerChar c) (fun n within => ?_)
    (fun _ => rfl) c
  have small : ∀ n < 26, (Char.ofNat (97 + n)).toLower = (Char.ofNat (65 + n)).toLower := by decide
  obtain ⟨upper, lower⟩ := toNat_letter_lt n within
  rw [lowerChar_of_lt lower, lowerChar_of_lt upper, small n within]

/-- An ASCII character is in none but the ranges that begin in ASCII. -/
theorem inRanges_of_lt {n : Nat} (below : n < 128) (ranges : List (Nat × Nat)) :
    inRanges ranges n = inRanges (ranges.filter fun range => range.1 < 128) n := by
  rw [inRanges, inRanges, List.any_filter]
  congr 1
  funext ⟨first, last⟩
  by_cases isAscii : first < 128
  · simp [isAscii]
  · have beyond : ¬first ≤ n := by omega
    simp [isAscii, beyond]

theorem inRanges_toLower {ranges ascii : List (Nat × Nat)}
    (begins : (ranges.filter fun range => range.1 < 128) = ascii)
    (letters : ∀ n < 26, inRanges ascii (Char.ofNat (97 + n)).toNat =
      inRanges ascii (Char.ofNat (65 + n)).toNat) (c : Char) :
    inRanges ranges c.toLower.toNat = inRanges ranges c.toNat := by
  refine toLower_induction (P := fun c small => inRanges ranges small.toNat =
    inRanges ranges c.toNat) (fun n within => ?_) (fun _ => rfl) c
  obtain ⟨upper, lower⟩ := toNat_letter_lt n within
  rw [inRanges_of_lt upper, inRanges_of_lt lower, begins, letters n within]

theorem isCaseIgnorable_toLower (c : Char) :
    inRanges caseIgnorableRanges c.toLower.toNat = inRanges caseIgnorableRanges c.toNat := by
  have begins : (caseIgnorableRanges.filter fun range => range.1 < 128) =
      [(0x27, 0x27), (0x2E, 0x2E), (0x3A, 0x3A), (0x5E, 0x5E), (0x60, 0x60)] := by decide
  exact inRanges_toLower begins (by decide) c

theorem isCased_toLower (c : Char) :
    inRanges casedRanges c.toLower.toNat = inRanges casedRanges c.toNat := by
  have begins : (casedRanges.filter fun range => range.1 < 128) =
      [(0x41, 0x5A), (0x61, 0x7A)] := by decide
  exact inRanges_toLower begins (by decide) c

theorem toLower_eq_sigma_iff (c : Char) : c.toLower = 'Σ' ↔ c = 'Σ' :=
  toLower_induction (P := fun c small => small = 'Σ' ↔ c = 'Σ') (by decide)
    (fun _ => Iff.rfl) c

theorem meetsCased_map (cs : List Char) : meetsCased (cs.map Char.toLower) = meetsCased cs := by
  have passed : (fun c : Char => !inRanges caseIgnorableRanges c.toNat) ∘ Char.toLower =
      fun c => !inRanges caseIgnorableRanges c.toNat :=
    funext fun c => congrArg (!·) (isCaseIgnorable_toLower c)
  rw [meetsCased, meetsCased, List.find?_map, passed]
  cases cs.find? fun c => !inRanges caseIgnorableRanges c.toNat with
  | none => rfl
  | some c => exact isCased_toLower c

theorem lowerFrom_map (before cs : List Char) :
    lowerFrom (before.map Char.toLower) (cs.map Char.toLower) = lowerFrom before cs := by
  induction cs generalizing before with
  | nil => rfl
  | cons c cs ih =>
      have rest := ih (c :: before)
      rw [List.map_cons] at rest
      rw [List.map_cons, lowerFrom, lowerFrom, rest, meetsCased_map, meetsCased_map,
        lowerChar_toLower]
      simp only [toLower_eq_sigma_iff]

/-- It makes no difference to have the ASCII letters small before. -/
theorem toLower_toLower (s : String) : toLower s.toLower = toLower s := by
  have small := lowerFrom_map [] s.toList
  rw [List.map_nil] at small
  rw [toLower, toLower, toList_toLower, small]

theorem SameButCase.toLower_eq {s t : String} (same : SameButCase s t) : toLower s = toLower t := by
  rw [← toLower_toLower s, same, toLower_toLower]

end SyncPods.Text
