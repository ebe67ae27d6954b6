import SyncPods.Layers.Path
import SyncPods.Layers.Variable
import SyncPods.Proofs.TextParts

/-!
# Paths of plain names

Where names are made of small letters, digits, underlines and hyphens, a path falls into its names
at its points, and no name is changed by writing it in small letters. Of other texts, those without
points and brackets are still one name. A path of such names has a variable, in capitals and with two
underlines for each point: `variablePath?_variableOf`.
-/

namespace SyncPods

open Layers

/-! ## Small letters -/

/-- A small letter, a digit, an underline or a hyphen. -/
def isKeyChar (c : Char) : Bool := c.isLower || c.isDigit || c == '_' || c == '-'

namespace Text

/-- All capitals but those from A to Z are beyond ASCII. -/
theorem le_first_of_mem_tail : ∀ run ∈ caseRuns.tail, 128 ≤ run.first := by decide +kernel

theorem find?_caseRuns {n : ℕ} (isAscii : n < 128) :
    caseRuns.find? (·.covers n) = [CaseRun.mk 0x41 0x5A 1 32].find? (·.covers n) := by
  have beyond : caseRuns.tail.find? (·.covers n) = none := by
    refine List.find?_eq_none.mpr fun run listed covered => ?_
    have least := le_first_of_mem_tail run listed
    simp only [CaseRun.covers, Bool.and_eq_true, decide_eq_true_eq] at covered
    omega
  have runs : caseRuns = CaseRun.mk 0x41 0x5A 1 32 :: caseRuns.tail := rfl
  rw [runs, List.find?_cons, List.find?_cons, beyond]
  rfl

theorem lowerChar_ofNat (n : Fin 128) :
    lowerChar (Char.ofNat n) = [(Char.ofNat n).toLower] := by
  have code : (Char.ofNat n).toNat = n := by
    revert n
    decide
  rw [lowerChar, code, find?_caseRuns n.isLt]
  revert n
  decide

theorem lowerChar_of_lt {c : Char} (isAscii : c.toNat < 128) : lowerChar c = [c.toLower] := by
  have same := lowerChar_ofNat ⟨c.toNat, isAscii⟩
  simp only [Char.ofNat_toNat] at same
  exact same

theorem lowerFrom_of_lt {cs : List Char} (before : List Char)
    (isAscii : ∀ c ∈ cs, c.toNat < 128) : lowerFrom before cs = cs.map Char.toLower := by
  induction cs generalizing before with
  | nil => rfl
  | cons c cs ih =>
      have below := isAscii c List.mem_cons_self
      have noSigma : c ≠ 'Σ' := by
        rintro rfl
        revert below
        decide
      rw [lowerFrom, if_neg noSigma, lowerChar_of_lt below,
        ih _ fun c listed => isAscii c (List.mem_cons_of_mem _ listed)]
      rfl

theorem toLower_of_lt {s : String} (isAscii : ∀ c ∈ s.toList, c.toNat < 128) :
    toLower s = String.ofList (s.toList.map Char.toLower) := by
  rw [toLower, lowerFrom_of_lt [] isAscii]

theorem toNat_lt_of_isKeyChar {c : Char} (isKey : isKeyChar c = true) : c.toNat < 128 := by
  have below {bound : Char} (bounded : c.val ≤ bound.val) (isAscii : bound.toNat < 128) :
      c.toNat < 128 :=
    Nat.lt_of_le_of_lt (UInt32.le_iff_toNat_le.mp bounded) isAscii
  simp only [isKeyChar, Bool.or_eq_true, beq_iff_eq] at isKey
  rcases isKey with ((lower | digit) | rfl) | rfl
  · exact below (of_decide_eq_true (Bool.and_eq_true_iff.mp lower).2) (by decide)
  · exact below (of_decide_eq_true (Bool.and_eq_true_iff.mp digit).2) (by decide)
  · decide
  · decide

theorem cases_ofNat (n : Fin 128) (isKey : isKeyChar (Char.ofNat n) = true) :
    (Char.ofNat n).toLower = Char.ofNat n ∧ (Char.ofNat n).toUpper.toLower = Char.ofNat n ∧
      (Char.ofNat n).toUpper.toNat < 128 := by
  revert n
  decide

/-- A character of names is a small one, which its capital leads back to. -/
theorem cases_of_isKeyChar {c : Char} (isKey : isKeyChar c = true) :
    c.toLower = c ∧ c.toUpper.toLower = c ∧ c.toUpper.toNat < 128 := by
  have same := cases_ofNat ⟨c.toNat, toNat_lt_of_isKeyChar isKey⟩
  simp only [Char.ofNat_toNat] at same
  exact same isKey

theorem toLower_of_isKeyChar {s : String} (plain : ∀ c ∈ s.toList, isKeyChar c = true) :
    toLower s = s := by
  have same : s.toList.map Char.toLower = s.toList.map id :=
    List.map_congr_left fun c listed => (cases_of_isKeyChar (plain c listed)).1
  rw [toLower_of_lt fun c listed => toNat_lt_of_isKeyChar (plain c listed), same, List.map_id,
    String.ofList_toList]

end Text

namespace Layers

/-- The names of a path. -/
def keysOf (path : String) : List String := (path.toList.splitOn '.').map String.ofList

/-- A name in a variable's path. -/
def IsName (key : String) : Prop := key ≠ "" ∧ ∀ c ∈ key.toList, isKeyChar c = true

instance (key : String) : Decidable (IsName key) :=
  haveI : Decidable (∀ c ∈ key.toList, isKeyChar c = true) := List.decidableBAll _ _
  instDecidableAnd

/-- A name in a document, which no case and no sign of a path changes. -/
def IsPlain (key : String) : Prop :=
  Text.toLower key = key ∧ '.' ∉ key.toList ∧ '[' ∉ key.toList

instance (key : String) : Decidable (IsPlain key) := inferInstanceAs (Decidable (_ ∧ _))

namespace Path

theorem isNameChar_of_isKeyChar {c : Char} (isKey : isKeyChar c = true) :
    isNameChar c = true := by
  simp only [isKeyChar, Bool.or_eq_true] at isKey
  simp only [isNameChar, Bool.or_eq_true]
  rcases isKey with ((lower | digit) | underline) | hyphen
  · have alpha : c.isAlpha = true := Bool.or_eq_true_iff.mpr (Or.inr lower)
    exact Or.inl (Or.inl (Or.inl (Bool.or_eq_true_iff.mpr (Or.inl alpha))))
  · exact Or.inl (Or.inl (Or.inl (Bool.or_eq_true_iff.mpr (Or.inr digit))))
  · exact Or.inl (Or.inl (Or.inr underline))
  · exact Or.inl (Or.inr hyphen)

/-- The characters of some names, each behind a point. -/
def dotted (keys : List (List Char)) : List Char := keys.flatMap ('.' :: ·)

variable {cs : List Char} {keys : List (List Char)}

theorem takeWhile_isNameChar (plain : ∀ c ∈ cs, isKeyChar c = true) (keys : List (List Char)) :
    (cs ++ dotted keys).takeWhile isNameChar = cs := by
  rw [List.takeWhile_append_of_pos fun c listed => isNameChar_of_isKeyChar (plain c listed)]
  cases keys with
  | nil => exact List.append_nil cs
  | cons key keys => exact List.append_nil cs

theorem dropWhile_isNameChar (plain : ∀ c ∈ cs, isKeyChar c = true) (keys : List (List Char)) :
    (cs ++ dotted keys).dropWhile isNameChar = dotted keys := by
  rw [List.dropWhile_append_of_pos fun c listed => isNameChar_of_isKeyChar (plain c listed)]
  cases keys <;> rfl

theorem furtherSteps?_dotted {fuel : Nat} (enough : (dotted keys).length ≤ fuel)
    (named : ∀ key ∈ keys, key ≠ [] ∧ ∀ c ∈ key, isKeyChar c = true) :
    furtherSteps? fuel (dotted keys) = some (keys.map fun key => .name (String.ofList key)) := by
  induction keys generalizing fuel with
  | nil => cases fuel <;> rfl
  | cons key keys ih =>
      obtain ⟨nonempty, plain⟩ := named key List.mem_cons_self
      have split : dotted (key :: keys) = '.' :: (key ++ dotted keys) := rfl
      rw [split] at enough ⊢
      cases fuel with
      | zero => cases enough
      | succ fuel =>
          have later : (dotted keys).length ≤ fuel := by
            simp only [List.length_cons, List.length_append] at enough
            omega
          have rest := ih later fun key listed => named key (List.mem_cons_of_mem _ listed)
          rw [furtherSteps?, takeWhile_isNameChar plain, dropWhile_isNameChar plain, rest]
          cases key with
          | nil => exact absurd rfl nonempty
          | cons c cs => rfl

theorem intercalate_eq (key : List Char) (keys : List (List Char)) :
    ['.'].intercalate (key :: keys) = key ++ dotted keys := by
  induction keys generalizing key with
  | nil => simp [dotted, List.intercalate]
  | cons next keys ih =>
      rw [List.intercalate_cons_cons, ih, List.append_assoc]
      rfl

theorem ofText?_dotted (nonempty : cs ≠ []) (plain : ∀ c ∈ cs, isKeyChar c = true)
    (named : ∀ key ∈ keys, key ≠ [] ∧ ∀ c ∈ key, isKeyChar c = true) :
    ofText? (String.ofList (cs ++ dotted keys)) =
      some ((cs :: keys).map fun key => .name (String.ofList key)) := by
  rw [ofText?, String.toList_ofList]
  dsimp only
  rw [takeWhile_isNameChar plain, dropWhile_isNameChar plain,
    furtherSteps?_dotted (Nat.le_refl _) named]
  cases cs with
  | nil => exact absurd rfl nonempty
  | cons c cs => rfl

/-- A path of names leads through them. -/
theorem steps_eq_keysOf {path : String} (named : ∀ key ∈ keysOf path, IsName key) :
    steps path = (keysOf path).map .name := by
  have joined : ['.'].intercalate (path.toList.splitOn '.') = path.toList :=
    List.intercalate_splitOn '.'
  have split : ∀ key ∈ path.toList.splitOn '.', key ≠ [] ∧ ∀ c ∈ key, isKeyChar c = true := by
    intro key listed
    obtain ⟨nonempty, plain⟩ := named (String.ofList key) (List.mem_map_of_mem listed)
    rw [String.toList_ofList] at plain
    exact ⟨fun empty => nonempty (congrArg String.ofList empty), plain⟩
  rw [keysOf]
  cases parts : path.toList.splitOn '.' with
  | nil => exact absurd parts (List.splitOn_ne_nil '.' path.toList)
  | cons key keys =>
      rw [parts] at split joined
      obtain ⟨nonempty, plain⟩ := split key List.mem_cons_self
      rw [intercalate_eq] at joined
      have text : path = String.ofList (key ++ dotted keys) := by
        rw [joined, String.ofList_toList]
      have later : ∀ key ∈ keys, key ≠ [] ∧ ∀ c ∈ key, isKeyChar c = true :=
        fun key listed => split key (List.mem_cons_of_mem _ listed)
      rw [steps, text, ofText?_dotted nonempty plain later, Option.getD_some, List.map_map]
      rfl

theorem furtherSteps?_eq_none {fuel : Nat} {c : Char} (noPoint : c ≠ '.') (noBracket : c ≠ '[') :
    furtherSteps? fuel (c :: cs) = none := by
  cases fuel with
  | zero => rfl
  | succ fuel => rw [furtherSteps?] <;> simp [noPoint, noBracket]

/-- Names with points between them lead through them. -/
theorem steps_intercalate {keys : List String} (nonempty : keys ≠ [])
    (named : ∀ key ∈ keys, IsName key) :
    steps (".".intercalate keys) = keys.map .name := by
  obtain ⟨key, keys, rfl⟩ := List.exists_cons_of_ne_nil nonempty
  have parts : ∀ cs ∈ keys.map String.toList, cs ≠ [] ∧ ∀ c ∈ cs, isKeyChar c = true := by
    intro cs listed
    obtain ⟨other, isKey, rfl⟩ := List.mem_map.mp listed
    obtain ⟨nonempty, plain⟩ := named other (List.mem_cons_of_mem _ isKey)
    exact ⟨fun empty => nonempty (String.toList_eq_nil_iff.mp empty), plain⟩
  obtain ⟨nonempty, plain⟩ := named key List.mem_cons_self
  have text : ".".intercalate (key :: keys) =
      String.ofList (key.toList ++ dotted (keys.map String.toList)) := by
    rw [← intercalate_eq, ← String.toList_inj, String.toList_intercalate, String.toList_ofList,
      String.toList_ofList, List.map_cons]
  rw [steps, text, ofText?_dotted (fun empty => nonempty (String.toList_eq_nil_iff.mp empty))
    plain parts, Option.getD_some]
  simp

/-- A name without points and brackets is one step. -/
theorem steps_of_isPlain {key : String} (plain : IsPlain key) : steps key = [.name key] := by
  obtain ⟨_, noPoint, noBracket⟩ := plain
  rw [steps, ofText?]
  dsimp only
  cases name : key.toList.takeWhile isNameChar with
  | nil => rfl
  | cons c cs =>
      dsimp only
      have whole : key.toList.takeWhile isNameChar ++ key.toList.dropWhile isNameChar =
          key.toList := List.takeWhile_append_dropWhile
      cases rest : key.toList.dropWhile isNameChar with
      | nil =>
          rw [name, rest, List.append_nil] at whole
          rw [whole, String.ofList_toList]
          rfl
      | cons sign rest' =>
          have listed : sign ∈ key.toList := by
            rw [← whole, rest]
            simp
          rw [furtherSteps?_eq_none (fun same => noPoint (same ▸ listed))
            (fun same => noBracket (same ▸ listed))]
          rfl

end Path

theorem IsName.isPlain {key : String} (isName : IsName key) : IsPlain key := by
  obtain ⟨_, plain⟩ := isName
  refine ⟨Text.toLower_of_isKeyChar plain, fun listed => ?_, fun listed => ?_⟩
  · exact absurd (plain _ listed) (by decide)
  · exact absurd (plain _ listed) (by decide)

/-! ## Variables of paths -/

/-- Underlines stand one by one, and not at the end. -/
def loneUnderlines : List Char → Bool
  | '_' :: '_' :: _ => false
  | ['_'] => false
  | _ :: cs => loneUnderlines cs
  | [] => true

/-- The name of the variable that sets what is at a path, such as `APP_KUBERNETES__NAMESPACE`. -/
def variableOf (keys : List String) : String := "APP_" ++ ("__".intercalate keys).toUpper

section Variables

variable {keys : List String}

theorem pointed_cons {c : Char} {cs : List Char}
    (noPair : ∀ tail, c = '_' → cs = '_' :: tail → False) :
    pointed (c :: cs) = c :: pointed cs := by
  rw [pointed]
  exact noPair

theorem pointed_of_lone {cs : List Char} (lone : loneUnderlines cs = true) : pointed cs = cs := by
  fun_induction loneUnderlines cs with
  | case1 => cases lone
  | case2 => cases lone
  | case3 c cs noPair notLast ih => rw [pointed_cons noPair, ih lone]
  | case4 => rfl

theorem pointed_append {cs : List Char} (lone : loneUnderlines cs = true) (rest : List Char) :
    pointed (cs ++ '_' :: '_' :: rest) = cs ++ '.' :: pointed rest := by
  fun_induction loneUnderlines cs with
  | case1 => cases lone
  | case2 => cases lone
  | case3 c cs noPair notLast ih =>
      -- No underline is last, so none makes a pair with the two behind.
      have noPair' : ∀ tail, c = '_' → cs ++ '_' :: '_' :: rest = '_' :: tail → False := by
        intro tail underline same
        cases cs with
        | nil => exact notLast underline rfl
        | cons next cs => exact noPair cs underline (by rw [(List.cons.inj same).1])
      rw [List.cons_append, pointed_cons noPair', ih lone]
      rfl
  | case4 => rfl

theorem pointed_intercalate {parts : List (List Char)}
    (lone : ∀ part ∈ parts, loneUnderlines part = true) :
    pointed (['_', '_'].intercalate parts) = ['.'].intercalate parts := by
  induction parts with
  | nil => rfl
  | cons part parts ih =>
      obtain ⟨first, others⟩ := List.forall_mem_cons.mp lone
      cases parts with
      | nil => simpa [List.intercalate] using pointed_of_lone first
      | cons next parts =>
          rw [List.intercalate_cons_cons, List.intercalate_cons_cons, List.append_assoc,
            List.append_assoc, ← ih others]
          exact pointed_append first _

/-- In small letters, the name of a variable spells out its path. -/
theorem toLower_variableOf (plain : ∀ key ∈ keys, IsName key) :
    Text.toLower (variableOf keys) = "app_" ++ "__".intercalate keys := by
  have isKey : ∀ c ∈ ("__".intercalate keys).toList, isKeyChar c = true := by
    rw [String.toList_intercalate]
    exact forall_mem_intercalate (List.all_eq_true.mp (by decide))
      (List.forall_mem_map.mpr fun key listed => (plain key listed).2)
  have isAscii : ∀ c ∈ (variableOf keys).toList, c.toNat < 128 := by
    rw [variableOf, String.toList_append, String.toUpper, String.toList_map, List.forall_mem_append,
      List.forall_mem_map]
    have start : ∀ c ∈ "APP_".toList, c.toNat < 128 := by simp
    exact ⟨start, fun c listed => (Text.cases_of_isKeyChar (isKey c listed)).2.2⟩
  have back : ("__".intercalate keys).toList.map (Char.toLower ∘ Char.toUpper) =
      ("__".intercalate keys).toList.map id :=
    List.map_congr_left fun c listed => (Text.cases_of_isKeyChar (isKey c listed)).2.1
  rw [Text.toLower_of_lt isAscii, variableOf, String.toUpper, String.toList_append,
    String.toList_map, List.map_append, List.map_map, back, List.map_id, String.ofList_append,
    String.ofList_toList]
  rfl

theorem variablePath?_variableOf (plain : ∀ key ∈ keys, IsName key)
    (lone : ∀ key ∈ keys, loneUnderlines key.toList = true) :
    variablePath? (variableOf keys) = some (".".intercalate keys) := by
  have parted : pointed ("__".intercalate keys).toList = (".".intercalate keys).toList := by
    rw [String.toList_intercalate, String.toList_intercalate]
    exact pointed_intercalate (List.forall_mem_map.mpr lone)
  have start : variableStart.toList.isPrefixOf ("app_" ++ "__".intercalate keys).toList = true := by
    rw [String.toList_append, List.isPrefixOf_iff_prefix]
    exact List.prefix_append _ _
  have rest : ("app_" ++ "__".intercalate keys).toList.drop variableStart.length =
      ("__".intercalate keys).toList := by
    rw [String.toList_append]
    rfl
  rw [variablePath?, toLower_variableOf plain, if_pos start, rest, parted, String.ofList_toList]

end Variables

end Layers

end SyncPods
