/-!
# Blank characters

The characters of the Unicode property White_Space, and texts without the blanks at their ends.
-/

namespace SyncPods.Text

/-- A character of the Unicode property White_Space. -/
def isBlank (c : Char) : Bool :=
  let n := c.toNat
  (0x9 ≤ n && n ≤ 0xD) || n == 0x20 || n == 0x85 || n == 0xA0 || n == 0x1680 ||
    (0x2000 ≤ n && n ≤ 0x200A) || n == 0x2028 || n == 0x2029 || n == 0x202F || n == 0x205F ||
    n == 0x3000

/-- The characters between the first and the last that are not blank. -/
def trimChars (cs : List Char) : List Char :=
  ((cs.dropWhile isBlank).reverse.dropWhile isBlank).reverse

/-- A text without the blanks at its two ends. -/
def trim (s : String) : String :=
  String.ofList (trimChars s.toList)

/-- Whether a text holds nothing but blanks. -/
def isBlankText (s : String) : Bool :=
  s.toList.all isBlank

theorem trimChars_eq_nil_iff (cs : List Char) :
    trimChars cs = [] ↔ cs.all isBlank = true := by
  have dropped (ds : List Char) : ds.dropWhile isBlank = [] ↔ ds.all isBlank = true := by
    induction ds with
    | nil => simp
    | cons d ds ih =>
      cases h : isBlank d with
      | false => simp [h]
      | true => simp [h, ih]
  constructor
  · intro h
    have inner : (cs.dropWhile isBlank).all isBlank = true := by
      simpa using (dropped _).1 (List.reverse_eq_nil_iff.1 h)
    cases hd : cs.dropWhile isBlank with
    | nil => exact (dropped cs).1 hd
    | cons d ds =>
      have head := List.head?_dropWhile_not isBlank cs
      simp [hd] at head inner
      simp [head] at inner
  · intro h
    simp [trimChars, (dropped cs).2 h]

end SyncPods.Text
