import SyncPods.Proofs.RecordEdit

/-!
# One part of what is read

If one field of a record holds something else, the record is read as before but for the part that
the field is read as. `Carries` says so of a place in a node, and of places within each other:
`carries_record`, `carries_list` and `Carries.comp`.
-/

namespace SyncPods.Json

/-! ## Places -/

/-- The place of a field in the node of a record, as what the node is with something at it. -/
inductive FieldPlace (names : List String) (name : String) : (Node → Node) → Prop
  | member (before after : List (Except Fault String × Node)) :
      FieldPlace names name fun node => .object (.closed (before ++ (.ok name, node) :: after))
  | item {before : List Node} (place : names[before.length]? = some name) (after : List Node) :
      FieldPlace names name fun node => .array (.closed (before ++ node :: after))

/-- The place of the item behind some others. -/
inductive ItemPlace (place : Nat) : (Node → Node) → Prop
  | item {before : List Node} (length : before.length = place) (after : List Node) :
      ItemPlace place fun node => .array (.closed (before ++ node :: after))

/-- What changes at a place changes the part that is read there, and nothing else: `lift` does to
the whole what is done to the part. -/
def Carries {α β : Type} (place : Node → Node) (read : Reader α) (part : Reader β)
    (lift : (β → β) → α → α) : Prop :=
  ∀ change node node', (∀ y, part node = .ok y → part node' = .ok (change y)) →
    ∀ x, read (place node) = .ok x → read (place node') = .ok (lift change x)

theorem Carries.comp {α β γ : Type} {outer inner : Node → Node} {read : Reader α}
    {part : Reader β} {detail : Reader γ} {lift : (β → β) → α → α} {lift' : (γ → γ) → β → β}
    (carries : Carries outer read part lift) (carries' : Carries inner part detail lift') :
    Carries (outer ∘ inner) read detail (lift ∘ lift') :=
  fun change node node' changes =>
    carries (lift' change) (inner node) (inner node') (carries' change node node' changes)

/-! ## Shapes -/

section Shape

variable {α β γ : Type} {name other : String} {read : Reader β}

/-- What is found of the fields differs at most in one of them. -/
structure DiffersAt (name : String) (found found' : Found Node Failure) : Prop where
  others : ∀ other, other ≠ name → found'.node? other = found.node? other
  missing : found'.missing = found.missing
  gap : found'.gap? = found.gap?

/-- A shape that builds the same whatever a field holds. -/
def Heedless (name : String) (shape : Shape Node Failure α) : Prop :=
  ∀ found found', DiffersAt name found found' → shape.build found' = shape.build found

/-- All that a shape builds has a property. -/
def Yields (shape : Shape Node Failure α) (property : α → Prop) : Prop :=
  ∀ found x, shape.build found = .ok x → property x

/-- A field gives its part to what a shape builds. -/
def Fills (name : String) (read : Reader β) (shape : Shape Node Failure α)
    (lift : (β → β) → α → α) : Prop :=
  ∀ change found found' node node', DiffersAt name found found' → found.node? name = some node →
    found'.node? name = some node' → (∀ y, read node = .ok y → read node' = .ok (change y)) →
      ∀ x, shape.build found = .ok x → shape.build found' = .ok (lift change x)

theorem heedless_required (different : other ≠ name) (read : Reader β) :
    Heedless name (Shape.required other read) := by
  intro found found' differs
  rw [Shape.build_required, Shape.build_required, differs.others other different, differs.missing]

theorem heedless_withDefault (different : other ≠ name) (read : Reader β) (default : β) :
    Heedless name (Shape.withDefault other read default) := by
  intro found found' differs
  rw [Shape.build_withDefault, Shape.build_withDefault, differs.others other different]

theorem heedless_optional (different : other ≠ name) (read : Reader (Option β)) :
    Heedless name (Shape.optional other read) := by
  intro found found' differs
  rw [Shape.build_optional, Shape.build_optional, differs.others other different, differs.gap]

theorem Heedless.map {shape : Shape Node Failure α} (heedless : Heedless name shape)
    (f : α → γ) : Heedless name (f <$> shape) := by
  intro found found' differs
  rw [Shape.build_map, Shape.build_map, heedless found found' differs]

theorem Heedless.seq {first : Shape Node Failure (α → γ)} {second : Shape Node Failure α}
    (heedless : Heedless name first) (heedless' : Heedless name second) :
    Heedless name (first <*> second) := by
  intro found found' differs
  rw [Shape.build_seq, Shape.build_seq, heedless found found' differs,
    heedless' found found' differs]

theorem Yields.map {shape : Shape Node Failure α} {f : α → γ} {property : γ → Prop}
    (all : ∀ x, property (f x)) : Yields (f <$> shape) property := by
  intro found y built
  rw [Shape.build_map, bind_eq_ok_iff] at built
  obtain ⟨x, _, same⟩ := built
  obtain rfl := Except.ok.inj same
  exact all x

theorem Yields.seq {first : Shape Node Failure (α → γ)} {second : Shape Node Failure α}
    {property : γ → Prop} (yields : Yields first fun f => ∀ x, property (f x)) :
    Yields (first <*> second) property := by
  intro found y built
  rw [Shape.build_seq, bind_eq_ok_iff] at built
  obtain ⟨f, given, built⟩ := built
  obtain ⟨x, _, same⟩ := bind_eq_ok_iff.mp built
  obtain rfl := Except.ok.inj same
  exact yields found f given x

/-- A field's part goes where the constructor puts it. -/
theorem fills_field {first : Shape Node Failure (β → α)} {lift : (β → β) → α → α}
    {absent : Found Node Failure → Except Failure β} (heedless : Heedless name first)
    (yields : Yields first fun f => ∀ y change, lift change (f y) = f (change y)) :
    Fills name read (first <*> Shape.field name read absent) lift := by
  intro change found found' node node' differs here here' changes x built
  rw [Shape.build_seq, bind_eq_ok_iff] at built ⊢
  obtain ⟨f, given, built⟩ := built
  obtain ⟨y, reads, same⟩ := bind_eq_ok_iff.mp built
  obtain rfl := Except.ok.inj same
  rw [Shape.build_field, here, Option.elim_some] at reads
  refine ⟨f, (heedless found found' differs).trans given, ?_⟩
  rw [Shape.build_field, here', Option.elim_some, changes y reads, ok_bind,
    yields found f given y change]

theorem fills_required {first : Shape Node Failure (β → α)} {lift : (β → β) → α → α}
    (heedless : Heedless name first)
    (yields : Yields first fun f => ∀ y change, lift change (f y) = f (change y)) :
    Fills name read (first <*> Shape.required name read) lift :=
  fills_field heedless yields

theorem fills_withDefault (default : β) {first : Shape Node Failure (β → α)}
    {lift : (β → β) → α → α} (heedless : Heedless name first)
    (yields : Yields first fun f => ∀ y change, lift change (f y) = f (change y)) :
    Fills name read (first <*> Shape.withDefault name read default) lift :=
  fills_field heedless yields

theorem Fills.seq {first : Shape Node Failure (γ → α)} {second : Shape Node Failure γ}
    {lift : (β → β) → α → α}
    (fills : Fills name read first fun change f z => lift change (f z))
    (heedless : Heedless name second) : Fills name read (first <*> second) lift := by
  intro change found found' node node' differs here here' changes x built
  rw [Shape.build_seq, bind_eq_ok_iff] at built ⊢
  obtain ⟨f, given, built⟩ := built
  obtain ⟨z, givenSecond, same⟩ := bind_eq_ok_iff.mp built
  obtain rfl := Except.ok.inj same
  refine ⟨_, fills change found found' node node' differs here here' changes f given, ?_⟩
  rw [heedless found found' differs, givenSecond, ok_bind]

end Shape

/-! ## Records and lists -/

section Places

variable {α β : Type} {type name : String} {read : Reader β} {shape : Shape Node Failure α}
  {lift : (β → β) → α → α} {place : Node → Node}

theorem inOrder_replaced {names : List String} {before after : List (Except Fault String × Node)}
    {node node' : Node} (isField : name ∈ names)
    (inOrder : InOrder names (before ++ (.ok name, node) :: after)) :
    InOrder names (before ++ (.ok name, node') :: after) := by
  have toFront := inOrder_of_perm List.perm_middle inOrder
  obtain ⟨⟨_, ⟨⟩, apart, _⟩, others⟩ := inOrder_cons_iff.mp toFront
  have replaced : InOrder names ((.ok name, node') :: (before ++ after)) :=
    inOrder_cons_iff.mpr ⟨⟨name, rfl, apart, fun noField => absurd isField noField⟩, others⟩
  exact inOrder_of_perm List.perm_middle.symm replaced

theorem find?_replaced {other : String} {before after : List (Except Fault String × Node)}
    {node node' : Node} (different : other ≠ name) :
    (Members.closed (before ++ (.ok name, node') :: after)).find? other =
      (Members.closed (before ++ (.ok name, node) :: after)).find? other := by
  induction before with
  | nil =>
      rw [List.nil_append, List.nil_append, find?_cons, find?_cons, if_neg different.symm,
        if_neg different.symm]
  | cons m before ih =>
      simp only [Members.closed] at ih
      simp only [Members.closed, List.cons_append, List.foldr_cons, Members.find?, ih]

/-- A field of a record, wherever it stands, gives its part of the record. -/
theorem carries_record [shape.Lawful] (fills : Fills name read shape lift)
    (isField : name ∈ shape.names) (distinct : shape.names.Nodup)
    (isPlace : FieldPlace shape.names name place) :
    Carries place (Node.record type shape) read lift := by
  intro change node node' changes x reads
  cases isPlace with
  | member before after =>
      obtain ⟨inOrder, built⟩ := record_closed_eq_ok_iff.mp reads
      have inOrder' : InOrder shape.names (before ++ (.ok name, node') :: after) :=
        inOrder_replaced isField inOrder
      refine record_closed_eq_ok_iff.mpr ⟨inOrder', ?_⟩
      have differs : DiffersAt name (foundAmong (before ++ (.ok name, node) :: after))
          (foundAmong (before ++ (.ok name, node') :: after)) :=
        ⟨fun other different => find?_replaced different, rfl, rfl⟩
      have here := (find?_closed_eq_some_iff inOrder isField).mpr List.mem_append_cons_self
      have here' := (find?_closed_eq_some_iff inOrder' isField).mpr List.mem_append_cons_self
      exact fills change _ _ node node' differs here here' changes x built
  | @item before atPlace after =>
      obtain ⟨built, short⟩ := record_array_eq_ok_iff.mp reads
      have sameLength : (before ++ node' :: after).length = (before ++ node :: after).length := by
        simp
      refine record_array_eq_ok_iff.mpr ⟨?_, sameLength ▸ short⟩
      have own : shape.names.idxOf name = before.length := by
        obtain ⟨bound, rfl⟩ := List.getElem?_eq_some_iff.mp atPlace
        exact distinct.idxOf_getElem before.length bound
      have here (value : Node) :
          (foundAlong type shape.names (before ++ value :: after)).node? name = some value := by
        rw [foundAlong_node?, own, List.getElem?_append_right (Nat.le_refl _), Nat.sub_self,
          List.getElem?_cons_zero]
      have differs : DiffersAt name (foundAlong type shape.names (before ++ node :: after))
          (foundAlong type shape.names (before ++ node' :: after)) := by
        refine ⟨fun other different => ?_, rfl, rfl⟩
        have elsewhere : shape.names.idxOf other ≠ before.length := fun same =>
          different ((List.idxOf_inj isField).mp (own.trans same.symm)).symm
        rw [foundAlong_node?, foundAlong_node?]
        exact getElem?_replaced elsewhere
      exact fills change _ _ node node' differs (here node) (here node') changes x built

theorem readAll_modified {part : Reader α} {change : α → α} {node node' : Node}
    {before after : List Node} {xs : List α}
    (changes : ∀ x, part node = .ok x → part node' = .ok (change x))
    (reads : (Items.closed (before ++ node :: after)).readAll part = .ok xs) :
    (Items.closed (before ++ node' :: after)).readAll part =
      .ok (xs.modify before.length change) := by
  induction before generalizing xs with
  | nil =>
      rw [List.nil_append, readAll_cons, bind_eq_ok_iff] at reads
      obtain ⟨x, given, others⟩ := reads
      obtain ⟨rest, givenRest, same⟩ := bind_eq_ok_iff.mp others
      obtain rfl := Except.ok.inj same
      rw [List.nil_append, readAll_cons, changes x given, ok_bind, givenRest]
      rfl
  | cons first before ih =>
      rw [List.cons_append, readAll_cons, bind_eq_ok_iff] at reads
      obtain ⟨x, given, others⟩ := reads
      obtain ⟨rest, givenRest, same⟩ := bind_eq_ok_iff.mp others
      obtain rfl := Except.ok.inj same
      rw [List.cons_append, readAll_cons, given, ok_bind, ih givenRest]
      rfl

theorem carries_list {part : Reader α} {i : Nat} (isPlace : ItemPlace i place) :
    Carries place (Node.list part) part fun change xs => xs.modify i change := by
  intro change node node' changes xs reads
  cases isPlace with
  | item length after =>
      subst length
      exact readAll_modified changes reads

end Places

end SyncPods.Json
