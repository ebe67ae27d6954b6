import SyncPods.Proofs.ReadBack
import SyncPods.Proofs.ScientificText

/-!
# Values found in texts

What a text is read as has numbers of the format, members in the order of their names, and no more
levels than a reader allows. The compact text of such a value can be read again. Whole numbers,
strings and names come back as they were; a number in double precision may become a neighbour.
-/

namespace SyncPods.Json

/-! ## Tokens -/

/-- Whether the number of a token, if it is one that can be read, is one of the format. -/
def Token.Fits : Token → Prop
  | .number (some n) => n.Fits
  | _ => True

theorem Token.fits_number (t : NumberText) : (Token.number t.value?).Fits := by
  cases found : t.value? with
  | none => trivial
  | some n => exact fits_value? found

theorem fits_brokenNumber (cs : List Char) : (brokenNumber cs).1.Fits := trivial

theorem fits_exponentToken (negative : Bool) (whole fraction cs : List Char) :
    (exponentToken negative whole fraction cs).1.Fits := by
  unfold exponentToken
  split
  · split
    · split
      dsimp only
      split
      · exact fits_brokenNumber _
      · exact Token.fits_number _
    · exact Token.fits_number _
  · exact Token.fits_number _

theorem fits_unsignedToken (negative : Bool) (cs : List Char) :
    (unsignedToken negative cs).1.Fits := by
  unfold unsignedToken
  dsimp only
  split
  · exact fits_brokenNumber _
  · trivial
  · split
    · split
      · exact fits_brokenNumber _
      · exact fits_exponentToken _ _ _ _
    · exact fits_exponentToken _ _ _ _

theorem fits_nameToken (token : Token) (fits : token.Fits) (name cs : List Char) :
    (nameToken token name cs).1.Fits := by
  fun_induction nameToken token name cs with
  | case1 => exact fits
  | case2 => trivial
  | case3 _ _ _ ih => exact ih
  | case4 => trivial

theorem fits_stringToken (cs : List Char) : (stringToken cs).1.Fits := by
  unfold stringToken
  split
  · trivial
  · split <;> trivial

theorem fits_tokenAt (c : Char) (rest : List Char) : (tokenAt c rest).1.Fits := by
  unfold tokenAt
  split
  case h_7 => exact fits_stringToken _
  case h_8 => exact fits_nameToken .null trivial _ _
  case h_9 => exact fits_nameToken (.bool true) trivial _ _
  case h_10 => exact fits_nameToken (.bool false) trivial _ _
  case h_11 => exact fits_unsignedToken _ _
  case h_12 =>
    split
    · exact fits_unsignedToken _ _
    · trivial
  all_goals trivial

theorem fits_tokensFrom (fuel : Nat) (cs : List Char) :
    ∀ token ∈ tokensFrom fuel cs, token.Fits := by
  fun_induction tokensFrom fuel cs with
  | case1 => simp
  | case2 => simp
  | case3 _ _ _ _ ih => exact ih
  | case4 _ c rest _ token rest' found ih =>
      have first := fits_tokenAt c rest
      rw [found] at first
      exact List.forall_mem_cons.mpr ⟨first, ih⟩
  | case5 _ c rest _ token found =>
      have first := fits_tokenAt c rest
      rw [found] at first
      exact List.forall_mem_singleton.mpr first

/-! ## Nodes -/

mutual

/-- Whether the numbers of a node at a depth are numbers of the format, and nothing in it lies too
deep. -/
def Node.Fits (depth : Nat) : Node → Prop
  | .number n => n.Fits
  | .array items => depth < depthLimit ∧ items.Fits (depth + 1)
  | .object members => depth < depthLimit ∧ members.Fits (depth + 1)
  | _ => True

def Items.Fits (depth : Nat) : Items → Prop
  | .stop _ => True
  | .item node rest => node.Fits depth ∧ rest.Fits depth

def Members.Fits (depth : Nat) : Members → Prop
  | .stop _ => True
  | .member _ node rest => node.Fits depth ∧ rest.Fits depth

end

theorem fits_within_array {depth : Nat} {items : Items} (fits : items.Fits (depth + 1)) :
    (Node.within (depth + 1) (.array items)).Fits depth := by
  unfold Node.within
  split
  · next shallow => exact ⟨shallow, fits⟩
  · trivial

theorem fits_within_object {depth : Nat} {members : Members} (fits : members.Fits (depth + 1)) :
    (Node.within (depth + 1) (.object members)).Fits depth := by
  unfold Node.within
  split
  · next shallow => exact ⟨shallow, fits⟩
  · trivial

/-- Whether the numbers of all tokens, if there are any tokens, are numbers of the format. -/
def FitsAll (tokens : Option (List Token)) : Prop := ∀ ts ∈ tokens, ∀ token ∈ ts, token.Fits

theorem fitsAll_none : FitsAll none := nofun

theorem fitsAll_some {ts : List Token} : FitsAll (some ts) ↔ ∀ token ∈ ts, token.Fits := by
  simp [FitsAll]

theorem FitsAll.tail {token : Token} {ts : List Token} (fits : FitsAll (some (token :: ts))) :
    FitsAll (some ts) :=
  fitsAll_some.mpr (List.forall_mem_cons.mp (fitsAll_some.mp fits)).2

/-- With so many steps, tokens whose numbers are of the format are taken for what fits, and such
tokens are left. -/
structure NodesFit (fuel : Nat) : Prop where
  node : ∀ depth ts, (∀ token ∈ ts, token.Fits) →
    (nodeFrom fuel depth ts).1.Fits depth ∧ FitsAll (nodeFrom fuel depth ts).2
  items : ∀ depth ts, (∀ token ∈ ts, token.Fits) →
    (itemsFrom fuel depth ts).1.Fits depth ∧ FitsAll (itemsFrom fuel depth ts).2
  members : ∀ depth ts, (∀ token ∈ ts, token.Fits) →
    (membersFrom fuel depth ts).1.Fits depth ∧ FitsAll (membersFrom fuel depth ts).2

section Step

variable {fuel : Nat} (nodesFit : NodesFit fuel) (depth : Nat) {ts : List Token}

include nodesFit

theorem fits_nodeFrom_succ (fits : ∀ token ∈ ts, token.Fits) :
    (nodeFrom (fuel + 1) depth ts).1.Fits depth ∧ FitsAll (nodeFrom (fuel + 1) depth ts).2 := by
  cases ts with
  | nil => exact ⟨trivial, fitsAll_none⟩
  | cons token rest =>
      obtain ⟨first, others⟩ := List.forall_mem_cons.mp fits
      have left : FitsAll (some rest) := fitsAll_some.mpr others
      cases token with
      | null => exact ⟨trivial, left⟩
      | bool b => exact ⟨trivial, left⟩
      | number n =>
          cases n with
          | none => exact ⟨trivial, left⟩
          | some n => exact ⟨first, left⟩
      | string s =>
          cases s with
          | error fault => exact ⟨trivial, left⟩
          | ok s => exact ⟨trivial, left⟩
      | openBracket =>
          simp only [nodeFrom]
          split
          · exact ⟨fits_within_array trivial, left.tail⟩
          · exact ⟨fits_within_array trivial, fitsAll_none⟩
          · obtain ⟨items, after⟩ := nodesFit.items (depth + 1) rest others
            exact ⟨fits_within_array items, after⟩
      | openBrace =>
          simp only [nodeFrom]
          split
          · exact ⟨fits_within_object trivial, left.tail⟩
          · exact ⟨fits_within_object trivial, fitsAll_none⟩
          · obtain ⟨members, after⟩ := nodesFit.members (depth + 1) rest others
            exact ⟨fits_within_object members, after⟩
      | _ => exact ⟨trivial, fitsAll_none⟩

theorem fits_itemsFrom_succ (fits : ∀ token ∈ ts, token.Fits) :
    (itemsFrom (fuel + 1) depth ts).1.Fits depth ∧ FitsAll (itemsFrom (fuel + 1) depth ts).2 := by
  obtain ⟨node, after⟩ := nodesFit.node depth ts fits
  unfold itemsFrom
  split
  next first rest read =>
  rw [read] at node after
  split
  · exact ⟨⟨node, trivial⟩, fitsAll_none⟩
  · exact ⟨⟨node, trivial⟩, after.tail⟩
  · exact ⟨⟨node, trivial, trivial⟩, fitsAll_none⟩
  · obtain ⟨items, later⟩ := nodesFit.items depth _ (fitsAll_some.mp after.tail)
    exact ⟨⟨node, items⟩, later⟩
  · exact ⟨⟨node, trivial⟩, fitsAll_none⟩
  · exact ⟨⟨node, trivial⟩, fitsAll_none⟩

theorem fits_membersFrom_succ (fits : ∀ token ∈ ts, token.Fits) :
    (membersFrom (fuel + 1) depth ts).1.Fits depth ∧
      FitsAll (membersFrom (fuel + 1) depth ts).2 := by
  unfold membersFrom
  split
  · next name rest =>
    have others := (fitsAll_some.mpr fits).tail.tail
    obtain ⟨node, after⟩ := nodesFit.node depth rest (fitsAll_some.mp others)
    split
    next first rest' read =>
    rw [read] at node after
    split
    · exact ⟨⟨node, trivial⟩, fitsAll_none⟩
    · exact ⟨⟨node, trivial⟩, after.tail⟩
    · exact ⟨⟨node, trivial⟩, fitsAll_none⟩
    · exact ⟨⟨node, trivial⟩, fitsAll_none⟩
    · obtain ⟨members, later⟩ := nodesFit.members depth _ (fitsAll_some.mp after.tail)
      exact ⟨⟨node, members⟩, later⟩
    · exact ⟨⟨node, trivial⟩, fitsAll_none⟩
    · exact ⟨⟨node, trivial⟩, fitsAll_none⟩
  · exact ⟨⟨trivial, trivial⟩, fitsAll_none⟩
  · exact ⟨⟨trivial, trivial⟩, fitsAll_none⟩
  · exact ⟨trivial, fitsAll_none⟩
  · exact ⟨trivial, fitsAll_none⟩

end Step

theorem nodesFit (fuel : Nat) : NodesFit fuel := by
  induction fuel with
  | zero =>
      exact ⟨fun _ _ _ => ⟨trivial, fitsAll_none⟩, fun _ _ _ => ⟨trivial, fitsAll_none⟩,
        fun _ _ _ => ⟨trivial, fitsAll_none⟩⟩
  | succ fuel ih =>
      exact ⟨fun depth _ => fits_nodeFrom_succ ih depth, fun depth _ => fits_itemsFrom_succ ih depth,
        fun depth _ => fits_membersFrom_succ ih depth⟩

theorem fits_ofText (text : String) : (Document.ofText text).root.Fits 0 := by
  have ts : ∀ token ∈ tokens text, token.Fits := fits_tokensFrom _ _
  exact ((nodesFit (2 * (tokens text).length + 2)).node 0 _ ts).1

/-! ## Values -/

/-- A value that a text can be read as: its numbers are of the format, members come in the order of
their names, and arrays and objects lie in each other at most so many deep. -/
inductive Value.Found : Nat → Value → Prop
  | null {levels : Nat} : Found levels .null
  | bool {levels : Nat} (b : Bool) : Found levels (.bool b)
  | number {levels : Nat} {n : Number} (fits : n.Fits) : Found levels (.number n)
  | string {levels : Nat} (s : String) : Found levels (.string s)
  | array {levels : Nat} {items : List Value} (parts : ∀ item ∈ items, Found levels item) :
      Found (levels + 1) (.array items)
  | object {levels : Nat} {members : List (String × Value)} (order : Ascending members)
      (parts : ∀ member ∈ members, Found levels member.2) :
      Found (levels + 1) (.object members)

theorem ascending_values (nodes : Members) {sofar members : List (String × Value)}
    (order : Ascending sofar) (found : nodes.values sofar = .ok members) : Ascending members := by
  match nodes with
  | .stop (.cut read skipped) => cases found
  | .stop .closed => exact Except.ok.inj found ▸ order
  | .stop .counted => exact Except.ok.inj found ▸ order
  | .member (.error fault) node rest => cases found
  | .member (.ok name) node rest =>
      obtain ⟨value, _, later⟩ := bind_eq_ok_iff.mp found
      exact ascending_values rest (ascending_insertEntry name value order) later

mutual

theorem found_value (node : Node) {depth levels : Nat} {v : Value}
    (total : depth + levels = depthLimit) (fits : node.Fits depth) (read : node.value = .ok v) :
    v.Found levels := by
  match node with
  | .null => exact Except.ok.inj read ▸ .null
  | .bool b => exact Except.ok.inj read ▸ .bool b
  | .number n => exact Except.ok.inj read ▸ .number fits
  | .string s => exact Except.ok.inj read ▸ .string s
  | .array items =>
      obtain ⟨values, found, same⟩ := bind_eq_ok_iff.mp read
      obtain ⟨fewer, rfl⟩ : ∃ fewer, levels = fewer + 1 :=
        Nat.exists_eq_add_one_of_ne_zero (by have := fits.1; omega)
      exact Except.ok.inj same ▸ .array (found_items items (by omega) fits.2 found)
  | .object members =>
      obtain ⟨values, found, same⟩ := bind_eq_ok_iff.mp read
      obtain ⟨fewer, rfl⟩ : ∃ fewer, levels = fewer + 1 :=
        Nat.exists_eq_add_one_of_ne_zero (by have := fits.1; omega)
      exact Except.ok.inj same ▸ .object (ascending_values members List.Pairwise.nil found)
        (found_members members (by omega) fits.2 (fun _ none => absurd none List.not_mem_nil) found)
  | .unreadable fault _ => cases read

theorem found_items (nodes : Items) {depth levels : Nat} {items : List Value}
    (total : depth + levels = depthLimit) (fits : nodes.Fits depth)
    (read : nodes.values = .ok items) : ∀ item ∈ items, item.Found levels := by
  match nodes with
  | .stop (.cut _ _) => cases read
  | .stop .closed => exact Except.ok.inj read ▸ nofun
  | .stop .counted => exact Except.ok.inj read ▸ nofun
  | .item node rest =>
      obtain ⟨first, found, later⟩ := bind_eq_ok_iff.mp read
      obtain ⟨others, foundOthers, same⟩ := bind_eq_ok_iff.mp later
      rw [← Except.ok.inj same]
      exact List.forall_mem_cons.mpr
        ⟨found_value node total fits.1 found, found_items rest total fits.2 foundOthers⟩

theorem found_members (nodes : Members) {depth levels : Nat}
    {sofar members : List (String × Value)} (total : depth + levels = depthLimit)
    (fits : nodes.Fits depth) (before : ∀ member ∈ sofar, member.2.Found levels)
    (read : nodes.values sofar = .ok members) : ∀ member ∈ members, member.2.Found levels := by
  match nodes with
  | .stop (.cut _ _) => cases read
  | .stop .closed => exact Except.ok.inj read ▸ before
  | .stop .counted => exact Except.ok.inj read ▸ before
  | .member (.error fault) node rest => cases read
  | .member (.ok name) node rest =>
      obtain ⟨value, found, later⟩ := bind_eq_ok_iff.mp read
      refine found_members rest total fits.2 ?_ later
      intro member listed
      rcases mem_insertEntry listed with rfl | listed
      · exact found_value node total fits.1 found
      · exact before member listed

end

theorem found_of_ofText {text : String} {v : Value} (read : Value.ofText text = .ok v) :
    v.Found depthLimit := by
  obtain ⟨value, reads, ends⟩ := bind_eq_ok_iff.mp read
  split at ends
  · cases ends
  · obtain rfl := Except.ok.inj ends
    exact found_value _ (Nat.zero_add _) (fits_ofText text) reads

/-! ## What is seen of a compact text -/

variable {depth levels : Nat}

theorem values_items {items : List Value}
    (found : ∀ item ∈ items, (item.node depth).value = .ok item) :
    (Items.closed (itemNodes depth items)).values = .ok items := by
  induction items with
  | nil => rfl
  | cons item items ih =>
      obtain ⟨first, others⟩ := List.forall_mem_cons.mp found
      have rest := ih others
      simp only [Items.closed] at rest
      simp only [itemNodes, Items.closed, List.foldr_cons, Items.values, first, rest, ok_bind]
      rfl

theorem values_members {members sofar : List (String × Value)} (order : Ascending members)
    (behind : ∀ member ∈ members, ∀ before ∈ sofar, before.1 < member.1)
    (found : ∀ member ∈ members, (member.2.node depth).value = .ok member.2) :
    (Members.closed (memberNodes depth members)).values sofar = .ok (sofar ++ members) := by
  induction members generalizing sofar with
  | nil => exact congrArg Except.ok (List.append_nil sofar).symm
  | cons member members ih =>
      -- The names ascend, so each member goes behind all that were found before.
      obtain ⟨first, others⟩ := List.forall_mem_cons.mp found
      obtain ⟨firstBehind, othersBehind⟩ := List.forall_mem_cons.mp behind
      obtain ⟨head, tail⟩ := List.pairwise_cons.mp order
      have stillBehind : ∀ later ∈ members, ∀ before ∈ sofar ++ [member],
          before.1 < later.1 := by
        intro later listed before earlier
        rcases List.mem_append.mp earlier with earlier | own
        · exact othersBehind later listed before earlier
        · obtain rfl := List.mem_singleton.mp own
          exact head later listed
      have rest := ih tail stillBehind others
      simp only [Members.closed] at rest
      simp only [memberNodes, Members.closed, List.foldr_cons, Members.values, first, ok_bind,
        insertEntry_of_greatest firstBehind, rest, List.append_assoc, List.singleton_append]

theorem node_number {n : Number} (fits : n.Fits) : (Value.number n).node depth = .number n := by
  cases n with
  | integer n => rw [Value.node, value?_wholeText fits.1 fits.2, Node.ofNumber]
  | float x => rw [Value.node]

theorem value_node {v : Value} (found : v.Found levels) (room : depth + levels ≤ depthLimit) :
    (v.node depth).value = .ok v := by
  induction found generalizing depth with
  | null => rfl
  | bool b => rfl
  | number fits =>
      rw [node_number fits]
      rfl
  | string s => rfl
  | @array _ items parts ih =>
      have shallow : depth < depthLimit := by omega
      have found : ∀ item ∈ items, (item.node (depth + 1)).value = .ok item :=
        fun item member => ih item member (by omega)
      rw [Value.node, within_of_shallow shallow, Node.value, values_items found]
      rfl
  | @object _ members order parts ih =>
      have shallow : depth < depthLimit := by omega
      have found : ∀ member ∈ members, (member.2.node (depth + 1)).value = .ok member.2 :=
        fun member listed => ih member listed (by omega)
      have own := values_members order (fun _ _ _ before => absurd before List.not_mem_nil) found
      rw [Value.node, within_of_shallow shallow, Node.value, own]
      rfl

/-! ## Reading again -/

/-- The number that a number's text is read as. -/
def Number.reread (n : Number) : Number :=
  match Value.ofText n.text with
  | .ok (.number m) => m
  | _ => n

mutual

/-- The value with all its numbers as their texts are read. -/
def Value.reread : Value → Value
  | .number n => .number n.reread
  | .array items => .array (rereadItems items)
  | .object members => .object (rereadMembers members)
  | v => v

def rereadItems : List Value → List Value
  | [] => []
  | value :: rest => value.reread :: rereadItems rest

def rereadMembers : List (String × Value) → List (String × Value)
  | [] => []
  | (name, value) :: rest => (name, value.reread) :: rereadMembers rest

end

theorem rereadItems_eq (items : List Value) : rereadItems items = items.map Value.reread := by
  induction items with
  | nil => rfl
  | cons value rest ih => rw [rereadItems, ih, List.map_cons]

theorem rereadMembers_eq (members : List (String × Value)) :
    rereadMembers members = members.map fun member => (member.1, member.2.reread) := by
  induction members with
  | nil => rfl
  | cons member rest ih => rw [rereadMembers, ih, List.map_cons]

theorem reread_of_spelled {n m : Number} {t : NumberText} (spelled : t.Spelled n.text.toList)
    (found : t.value? = some m) : n.reread = m := by
  have text : Document.ofText n.text = ⟨.ofNumber t.value?, false⟩ :=
    ofText_of_spelled (.number spelled)
  rw [Number.reread, Value.ofText, text, found]
  rfl

theorem reread_integer {n : Int} (lower : -2 ^ 63 ≤ n) (upper : n < 2 ^ 64) :
    (Number.integer n).reread = .integer n :=
  reread_of_spelled (spelled_wholeText n) (value?_wholeText lower upper)

/-- A number of the format is written as a number that can be read. -/
theorem exists_numberText {n : Number} (fits : n.Fits) :
    ∃ t : NumberText, t.Spelled n.text.toList ∧ t.value? = some n.reread := by
  cases n with
  | integer n =>
      refine ⟨wholeText n, spelled_wholeText n, ?_⟩
      rw [reread_integer fits.1 fits.2, value?_wholeText fits.1 fits.2]
  | float x =>
      have spelled : (scientificText x).Spelled (Number.float x).text.toList :=
        spelled_scientificText x
      obtain ⟨m, found⟩ := Option.isSome_iff_exists.mp (isSome_value?_scientificText fits)
      have same : (Number.float x).reread = m := reread_of_spelled spelled found
      exact ⟨scientificText x, spelled, found.trans (congrArg some same.symm)⟩

theorem fits_reread {n : Number} (fits : n.Fits) : n.reread.Fits :=
  have ⟨_, _, found⟩ := exists_numberText fits
  fits_value? found

theorem found_reread {v : Value} (found : v.Found levels) : v.reread.Found levels := by
  induction found with
  | null => exact .null
  | bool b => exact .bool b
  | number fits => exact .number (fits_reread fits)
  | string s => exact .string s
  | array _ ih =>
      rw [Value.reread, rereadItems_eq]
      exact .array (List.forall_mem_map.mpr ih)
  | object order _ ih =>
      rw [Value.reread, rereadMembers_eq]
      exact .object (List.pairwise_map.mpr order) (List.forall_mem_map.mpr ih)

/-- Values without numbers in double precision are read as they were. -/
theorem reread_eq_self {v : Value} (found : v.Found levels) (exact : v.Exact) : v.reread = v := by
  induction found with
  | null => rfl
  | bool b => rfl
  | number fits =>
      cases exact with
      | integer n => rw [Value.reread, reread_integer fits.1 fits.2]
  | string s => rfl
  | array _ ih =>
      cases exact with
      | array parts =>
          rw [Value.reread, rereadItems_eq]
          exact congrArg Value.array
            ((List.map_congr_left fun item listed => ih item listed (parts item listed)).trans
              (List.map_id _))
  | object _ _ ih =>
      cases exact with
      | object parts =>
          rw [Value.reread, rereadMembers_eq]
          refine congrArg Value.object ((List.map_congr_left fun member listed => ?_).trans
              (List.map_id _))
          rw [ih member listed (parts member listed)]
          rfl

theorem spelled_reread {v : Value} (found : v.Found levels) (depth : Nat) :
    Spelled depth (v.reread.node depth) v.compact.toList := by
  induction found generalizing depth with
  | null => exact .null
  | bool b =>
      cases b with
      | true => exact .true
      | false => exact .false
  | @number _ n fits =>
      obtain ⟨t, spelled, value⟩ := exists_numberText fits
      have node : (Value.number n).reread.node depth = .ofNumber t.value? := by
        rw [Value.reread, node_number (fits_reread fits), value]
        rfl
      rw [node]
      exact .number spelled
  | string s => exact spelled_stringText depth s
  | array _ ih =>
      rw [Value.reread, rereadItems_eq, Value.node, itemNodes_eq, List.map_map]
      exact spelled_compact_array _ fun item listed => ih item listed (depth + 1)
  | object _ _ ih =>
      rw [Value.reread, rereadMembers_eq, Value.node, memberNodes_eq, List.map_map]
      exact spelled_compact_object (fun value => value.reread.node (depth + 1))
        fun member listed => ih member listed (depth + 1)

/-- The compact text of a value that was found, also with a line's end behind it, is read as the
value with its numbers read again. -/
theorem ofText_compact {v : Value} (found : v.Found depthLimit) (isEnded : Bool) :
    Value.ofText (v.compact ++ if isEnded then "\n" else "") = .ok v.reread := by
  have spelled : Spelled 0 (v.reread.node 0)
      (v.compact ++ if isEnded then "\n" else "").toList := by
    have text := spelled_reread found 0
    cases isEnded with
    | true => simpa using text.blankAfter (show isSpace '\n' = true from rfl)
    | false => simpa using text
  rw [Value.ofText, ofText_of_spelled spelled, value_node (found_reread found) (Nat.zero_add _).le]
  rfl

end SyncPods.Json
