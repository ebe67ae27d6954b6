import Mathlib.Data.List.Nodup
import SyncPods.Proofs.RecordReading

/-!
# Edits that a reader of records does not notice

The members of a record's object may be reordered, members under other names put among them, and a
field left out that holds its default. Such edits may be made within the fields' values, too. What
was read before is read after: `preserves_record`.
-/

namespace SyncPods.Json

/-! ## Edits -/

/-- What can be edited about a field of a record. -/
structure FieldForm where
  name : String
  /-- Whether the field may be left out where it holds the node. -/
  Omissible : Node → Prop
  /-- The edits within what the field holds. -/
  Edit : Node → Node → Prop

namespace FieldForm

/-- A field that has to be there. -/
def required (name : String) (Edit : Node → Node → Prop := fun _ _ => False) : FieldForm where
  name
  Omissible _ := False
  Edit

/-- A field that may be left out where its value is the default. -/
def defaulted {α : Type} (name : String) (read : Reader α) (default : α)
    (Edit : Node → Node → Prop := fun _ _ => False) : FieldForm where
  name
  Omissible node := read node = .ok default
  Edit

end FieldForm

/-- One edit of a record in the form of an object, or within a record in either form. A member that
is put in has a name, so it can be read, and holds any value. -/
inductive RecordEdit (forms : List FieldForm) : Node → Node → Prop
  | reorder {members members' : List (Except Fault String × Node)}
      (perm : members.Perm members') :
      RecordEdit forms (.object (.closed members)) (.object (.closed members'))
  | insert (before : List (Except Fault String × Node)) {after : List (Except Fault String × Node)}
      {name : String} {node : Node} (unknown : name ∉ forms.map FieldForm.name) :
      RecordEdit forms (.object (.closed (before ++ after)))
        (.object (.closed (before ++ (.ok name, node) :: after)))
  | leaveOut (before : List (Except Fault String × Node)) (form : FieldForm)
      {after : List (Except Fault String × Node)} {node : Node}
      (isField : form ∈ forms) (omissible : form.Omissible node) :
      RecordEdit forms (.object (.closed (before ++ (.ok form.name, node) :: after)))
        (.object (.closed (before ++ after)))
  | inside (before : List (Except Fault String × Node)) (form : FieldForm)
      {after : List (Except Fault String × Node)} {node node' : Node}
      (isField : form ∈ forms) (edit : form.Edit node node') :
      RecordEdit forms (.object (.closed (before ++ (.ok form.name, node) :: after)))
        (.object (.closed (before ++ (.ok form.name, node') :: after)))
  | atPlace (before : List Node) (form : FieldForm) {after : List Node} {node node' : Node}
      (isField : forms[before.length]? = some form) (edit : form.Edit node node') :
      RecordEdit forms (.array (.closed (before ++ node :: after)))
        (.array (.closed (before ++ node' :: after)))

/-- An edit of one item of a list. -/
inductive ListEdit (Edit : Node → Node → Prop) : Node → Node → Prop
  | item {before after : List Node} {node node' : Node} (edit : Edit node node') :
      ListEdit Edit (.array (.closed (before ++ node :: after)))
        (.array (.closed (before ++ node' :: after)))

/-! ## Nodes without faults of form -/

theorem skip_items_iff {nodes : List Node} :
    (Node.array (.closed nodes)).skip = none ↔ ∀ node ∈ nodes, node.skip = none := by
  induction nodes with
  | nil => exact ⟨fun _ => nofun, fun _ => rfl⟩
  | cons node rest ih =>
      have step : (Node.array (.closed (node :: rest))).skip =
          node.skip.or (Node.array (.closed rest)).skip := rfl
      rw [step, Option.or_eq_none_iff, ih, List.forall_mem_cons]

theorem skip_members_iff {members : List (Except Fault String × Node)} :
    (Node.object (.closed members)).skip = none ↔ ∀ m ∈ members, m.2.skip = none := by
  induction members with
  | nil => exact ⟨fun _ => nofun, fun _ => rfl⟩
  | cons m rest ih =>
      have step : (Node.object (.closed (m :: rest))).skip =
          m.2.skip.or (Node.object (.closed rest)).skip := rfl
      rw [step, Option.or_eq_none_iff, ih, List.forall_mem_cons]

/-! ## Shapes under edits -/

/-- Edits leave what is read as it is, in nodes that can be passed over. -/
def Preserves {α : Type} (Edit : Node → Node → Prop) (read : Reader α) : Prop :=
  ∀ node node', Edit node node' → node'.skip = none → ∀ x, read node = .ok x → read node' = .ok x

/-- What is not edited is read as it is. -/
theorem unedited {α : Type} (read : Reader α) : Preserves (fun _ _ => False) read := nofun

/-- How what is found of a field may change in an edit of the record. -/
inductive FieldStep (form : FieldForm) (found found' : Found Node Failure) : Prop
  | kept (node : found'.node? form.name = found.node? form.name)
      (gap : found'.gap? form.name = found.gap? form.name)
  | edited {node node' : Node} (before : found.node? form.name = some node)
      (after : found'.node? form.name = some node') (edit : form.Edit node node')
      (whole : node'.skip = none)
  | omitted {node : Node} (before : found.node? form.name = some node)
      (omissible : form.Omissible node) (after : found'.node? form.name = none)
      (gap : found'.gap? form.name = none)

/-- The forms are those of a shape's fields, and the shape builds the same record after any edits of
the fields. -/
structure Follows {α : Type} (forms : List FieldForm) (shape : Shape Node Failure α) : Prop where
  names : shape.names = forms.map FieldForm.name
  builds : ∀ found found', (∀ form ∈ forms, FieldStep form found found') →
    ∀ x, shape.build found = .ok x → shape.build found' = .ok x

namespace Follows

variable {α β : Type} {forms forms' : List FieldForm} {Edit : Node → Node → Prop}

theorem map {shape : Shape Node Failure α} (follows : Follows forms shape) (f : α → β) :
    Follows forms (f <$> shape) where
  names := follows.names
  builds := by
    intro found found' steps y built
    rw [Shape.build_map, bind_eq_ok_iff] at built ⊢
    obtain ⟨x, given, same⟩ := built
    exact ⟨x, follows.builds found found' steps x given, same⟩

theorem seq {first : Shape Node Failure (α → β)} {second : Shape Node Failure α}
    (followsFirst : Follows forms first) (followsSecond : Follows forms' second) :
    Follows (forms ++ forms') (first <*> second) where
  names := by
    have parts : (first <*> second).names = first.names ++ second.names := List.map_append
    rw [parts, followsFirst.names, followsSecond.names, List.map_append]
  builds := by
    intro found found' steps y built
    obtain ⟨firstSteps, secondSteps⟩ := List.forall_mem_append.mp steps
    rw [Shape.build_seq, bind_eq_ok_iff] at built ⊢
    obtain ⟨f, givenFirst, built⟩ := built
    obtain ⟨x, givenSecond, same⟩ := bind_eq_ok_iff.mp built
    have sameFirst := followsFirst.builds found found' firstSteps f givenFirst
    have sameSecond := followsSecond.builds found found' secondSteps x givenSecond
    exact ⟨f, sameFirst, bind_eq_ok_iff.mpr ⟨x, sameSecond, same⟩⟩

theorem required (name : String) {read : Reader α} (edits : Preserves Edit read) :
    Follows [.required name Edit] (Shape.required name read) where
  names := rfl
  builds := by
    intro found found' steps x built
    rw [Shape.build_required] at built ⊢
    cases lookup : found.node? name with
    | none =>
        rw [lookup] at built
        cases built
    | some node =>
        rw [lookup] at built
        cases List.forall_mem_singleton.mp steps with
        | kept same _ =>
            rw [show found'.node? name = some node from same.trans lookup]
            exact built
        | edited before after edit whole =>
            obtain rfl := Option.some.inj (lookup.symm.trans before)
            rw [show found'.node? name = some _ from after]
            exact edits _ _ edit whole x built
        | omitted _ omissible _ _ => exact omissible.elim

/-- A field that is left out where it holds what an absent field is built as. -/
theorem field (name : String) {read : Reader α} (default : α)
    {absent : Found Node Failure → Except Failure α} (edits : Preserves Edit read)
    (gap : ∀ found, found.gap? name = none → absent found = .ok default)
    (same : ∀ found found', found'.gap? name = found.gap? name → absent found' = absent found) :
    Follows [.defaulted name read default Edit] (Shape.field name read absent) where
  names := rfl
  builds := by
    intro found found' steps x built
    rw [Shape.build_field] at built ⊢
    cases List.forall_mem_singleton.mp steps with
    | kept sameNode sameGap =>
        rw [show found'.node? name = found.node? name from sameNode, same found found' sameGap]
        exact built
    | edited before after edit whole =>
        rw [show found.node? name = some _ from before] at built
        rw [show found'.node? name = some _ from after]
        exact edits _ _ edit whole x built
    | omitted before omissible after noGap =>
        rw [show found.node? name = some _ from before] at built
        rw [show found'.node? name = none from after]
        have isDefault : x = default := Except.ok.inj (built.symm.trans omissible)
        rw [isDefault]
        exact gap found' noGap

theorem withDefault (name : String) {read : Reader α} (default : α)
    (edits : Preserves Edit read) :
    Follows [.defaulted name read default Edit] (Shape.withDefault name read default) :=
  field name default edits (fun _ _ => rfl) (fun _ _ _ => rfl)

theorem optional (name : String) {read : Reader (Option α)} (edits : Preserves Edit read) :
    Follows [.defaulted name read none Edit] (Shape.optional name read) := by
  refine field name none edits (fun found noGap => ?_) (fun found found' sameGap => ?_)
  · rw [noGap]
  · rw [sameGap]

end Follows

/-! ## Objects under edits -/

theorem inOrder_of_perm {names : List String} {members members' : List (Except Fault String × Node)}
    (perm : members.Perm members') (inOrder : InOrder names members) : InOrder names members' where
  named m member := inOrder.named m (perm.mem_iff.mpr member)
  distinct := by
    refine inOrder.distinct.perm perm fun {m m'} apart name isField named named' => ?_
    exact apart name isField named' named
  skipped m member := inOrder.skipped m (perm.mem_iff.mpr member)

section Object

variable {α : Type} {type : String} {shape : Shape Node Failure α} [shape.Lawful]
  {forms : List FieldForm} {members members' : List (Except Fault String × Node)} {x : α}

theorem record_of_steps (follows : Follows forms shape)
    (reads : Node.record type shape (.object (.closed members)) = .ok x)
    (inOrder : InOrder shape.names members')
    (steps : ∀ form ∈ forms, FieldStep form (foundAmong members) (foundAmong members')) :
    Node.record type shape (.object (.closed members')) = .ok x := by
  obtain ⟨_, built⟩ := record_closed_eq_ok_iff.mp reads
  exact record_closed_eq_ok_iff.mpr ⟨inOrder, follows.builds _ _ steps x built⟩

variable (follows : Follows forms shape)

include follows

omit [shape.Lawful] in
theorem Follows.name_mem {form : FieldForm} (isField : form ∈ forms) : form.name ∈ shape.names :=
  follows.names ▸ List.mem_map_of_mem isField

theorem record_of_perm (perm : members.Perm members')
    (reads : Node.record type shape (.object (.closed members)) = .ok x) :
    Node.record type shape (.object (.closed members')) = .ok x := by
  obtain ⟨inOrder, _⟩ := record_closed_eq_ok_iff.mp reads
  have inOrder' : InOrder shape.names members' := inOrder_of_perm perm inOrder
  refine record_of_steps follows reads inOrder' fun form isField => .kept ?_ rfl
  have known : form.name ∈ shape.names := follows.name_mem isField
  refine Option.ext fun node => ?_
  show (Members.closed members').find? form.name = some node ↔
    (Members.closed members).find? form.name = some node
  rw [find?_closed_eq_some_iff inOrder' known, find?_closed_eq_some_iff inOrder known,
    perm.mem_iff]

theorem record_cons_unknown {name : String} {node : Node}
    (unknown : name ∉ forms.map FieldForm.name) (whole : node.skip = none)
    (reads : Node.record type shape (.object (.closed members)) = .ok x) :
    Node.record type shape (.object (.closed ((.ok name, node) :: members))) = .ok x := by
  obtain ⟨inOrder, _⟩ := record_closed_eq_ok_iff.mp reads
  have noField : name ∉ shape.names := follows.names ▸ unknown
  have inOrder' : InOrder shape.names ((.ok name, node) :: members) :=
    inOrder_cons_iff.mpr ⟨⟨name, rfl, fun isField => absurd isField noField, fun _ => whole⟩,
      inOrder⟩
  refine record_of_steps follows reads inOrder' fun form isField => .kept ?_ rfl
  have different : name ≠ form.name := fun same => unknown (same ▸ List.mem_map_of_mem isField)
  show (Members.closed ((.ok name, node) :: members)).find? form.name =
    (Members.closed members).find? form.name
  rw [find?_cons, if_neg different, Option.or_none]

variable (distinct : (forms.map FieldForm.name).Nodup) {form : FieldForm} {node node' : Node}
  (isField : form ∈ forms)

include distinct isField

omit [shape.Lawful] follows in
theorem find?_cons_other {other : FieldForm} (isOther : other ∈ forms) (different : other ≠ form) :
    (Members.closed ((.ok form.name, node) :: members)).find? other.name =
      (Members.closed members).find? other.name := by
  have otherName : form.name ≠ other.name := fun same =>
    different (List.inj_on_of_nodup_map distinct isOther isField same.symm)
  rw [find?_cons, if_neg otherName, Option.or_none]

theorem record_of_cons_omissible (omissible : form.Omissible node)
    (reads : Node.record type shape (.object (.closed ((.ok form.name, node) :: members))) =
      .ok x) :
    Node.record type shape (.object (.closed members)) = .ok x := by
  obtain ⟨inOrder, _⟩ := record_closed_eq_ok_iff.mp reads
  obtain ⟨⟨_, ⟨⟩, apart, _⟩, others⟩ := inOrder_cons_iff.mp inOrder
  have known : form.name ∈ shape.names := follows.name_mem isField
  have fresh : ∀ m ∈ members, m.1 ≠ .ok form.name := apart known
  refine record_of_steps follows reads others fun other isOther => ?_
  by_cases same : other = form
  · subst same
    exact .omitted (find?_cons_self fresh node) omissible (find?_eq_none fresh) rfl
  · exact .kept (find?_cons_other distinct isField isOther same).symm rfl

theorem record_cons_edited (edit : form.Edit node node') (whole : node'.skip = none)
    (reads : Node.record type shape (.object (.closed ((.ok form.name, node) :: members))) =
      .ok x) :
    Node.record type shape (.object (.closed ((.ok form.name, node') :: members))) = .ok x := by
  obtain ⟨inOrder, _⟩ := record_closed_eq_ok_iff.mp reads
  obtain ⟨⟨_, ⟨⟩, apart, _⟩, others⟩ := inOrder_cons_iff.mp inOrder
  have known : form.name ∈ shape.names := follows.name_mem isField
  have fresh : ∀ m ∈ members, m.1 ≠ .ok form.name := apart known
  have inOrder' : InOrder shape.names ((.ok form.name, node') :: members) :=
    inOrder_cons_iff.mpr ⟨⟨form.name, rfl, apart, fun noField => absurd known noField⟩, others⟩
  refine record_of_steps follows reads inOrder' fun other isOther => ?_
  by_cases same : other = form
  · subst same
    exact .edited (find?_cons_self fresh node) (find?_cons_self fresh node') edit whole
  · refine .kept ?_ rfl
    exact (find?_cons_other distinct isField isOther same).trans
      (find?_cons_other distinct isField isOther same).symm

end Object

/-! ## Arrays under edits -/

section Array

variable {nodes before after : List Node} {node node' : Node} {place : Nat}

theorem at?_closed (nodes : List Node) (place : Nat) :
    (Items.closed nodes).at? place = nodes[place]? := by
  induction nodes generalizing place with
  | nil => rfl
  | cons node rest ih =>
      cases place with
      | zero => rfl
      | succ place => exact ih place

theorem ending_closed (nodes : List Node) : (Items.closed nodes).ending = .closed := by
  induction nodes with
  | nil => rfl
  | cons node rest ih => exact ih

theorem surplus?_closed_eq_none_iff {count : Nat} :
    (Items.closed nodes).surplus? count = none ↔ nodes.length ≤ count := by
  rw [Items.surplus?, ending_closed, at?_closed, ← List.getElem?_eq_none_iff]
  cases nodes[count]? with
  | none => simp
  | some node =>
      simp only [reduceCtorEq, iff_false]
      split <;> simp_all

theorem getElem?_replaced (elsewhere : place ≠ before.length) :
    (before ++ node :: after)[place]? = (before ++ node' :: after)[place]? := by
  rw [List.getElem?_append, List.getElem?_append]
  split
  · rfl
  · next notBefore =>
    obtain ⟨later, behind⟩ : ∃ later, place - before.length = later + 1 :=
      Nat.exists_eq_succ_of_ne_zero (by omega)
    rw [behind, List.getElem?_cons_succ, List.getElem?_cons_succ]

variable {α : Type} {type : String} {shape : Shape Node Failure α} {forms : List FieldForm}
  {form : FieldForm} {x : α}

/-- The fields that a record's array gives. -/
def foundAlong (type : String) (names : List String) (nodes : List Node) : Found Node Failure :=
  Found.byPlace .mismatch type names (Items.closed nodes).at?

theorem foundAlong_node? (type : String) (names : List String) (nodes : List Node)
    (name : String) : (foundAlong type names nodes).node? name = nodes[names.idxOf name]? :=
  at?_closed nodes (names.idxOf name)

theorem record_array_eq_ok_iff :
    Node.record type shape (.array (.closed nodes)) = .ok x ↔
      shape.build (foundAlong type shape.names nodes) = .ok x ∧
        nodes.length ≤ shape.fields.length := by
  rw [Node.record, bind_eq_ok_iff, ← surplus?_closed_eq_none_iff]
  cases (Items.closed nodes).surplus? shape.fields.length <;> simp [foundAlong, pure, Except.pure]

theorem idxOf_name (distinct : (forms.map FieldForm.name).Nodup)
    (isField : forms[place]? = some form) :
    (forms.map FieldForm.name).idxOf form.name = place := by
  obtain ⟨bound, rfl⟩ := List.getElem?_eq_some_iff.mp isField
  have atPlace := distinct.idxOf_getElem place (by simpa using bound)
  rwa [List.getElem_map] at atPlace

theorem record_array_edited (follows : Follows forms shape)
    (distinct : (forms.map FieldForm.name).Nodup) (isField : forms[before.length]? = some form)
    (edit : form.Edit node node') (whole : node'.skip = none)
    (reads : Node.record type shape (.array (.closed (before ++ node :: after))) = .ok x) :
    Node.record type shape (.array (.closed (before ++ node' :: after))) = .ok x := by
  obtain ⟨built, short⟩ := record_array_eq_ok_iff.mp reads
  have sameLength : (before ++ node' :: after).length = (before ++ node :: after).length := by
    simp
  refine record_array_eq_ok_iff.mpr ⟨follows.builds _ _ (fun other isOther => ?_) x built,
    sameLength ▸ short⟩
  have known : form ∈ forms := List.mem_of_getElem? isField
  have place : (forms.map FieldForm.name).idxOf form.name = before.length :=
    idxOf_name distinct isField
  by_cases same : other = form
  · subst same
    have here (value : Node) :
        (foundAlong type shape.names (before ++ value :: after)).node? other.name =
          some value := by
      rw [foundAlong_node?, follows.names, place, List.getElem?_append_right (Nat.le_refl _),
        Nat.sub_self, List.getElem?_cons_zero]
    exact .edited (here node) (here node') edit whole
  · have elsewhere : (forms.map FieldForm.name).idxOf other.name ≠ before.length := by
      intro here
      have sameName : other.name = form.name :=
        (List.idxOf_inj (List.mem_map_of_mem isOther)).mp (here.trans place.symm)
      exact same (List.inj_on_of_nodup_map distinct isOther known sameName)
    refine .kept ?_ rfl
    rw [foundAlong_node?, foundAlong_node?, follows.names]
    exact getElem?_replaced elsewhere

end Array

/-! ## Records and lists -/

section Preserves

variable {α : Type} {Edit : Node → Node → Prop} {read : Reader α} {forms : List FieldForm}

/-- Edits of a record whose fields the forms describe leave it as it was read. -/
theorem preserves_record {type : String} {shape : Shape Node Failure α} [shape.Lawful]
    (distinct : (forms.map FieldForm.name).Nodup) (follows : Follows forms shape) :
    Preserves (RecordEdit forms) (Node.record type shape) := by
  intro node node' edit whole x reads
  -- As order does not matter, a member is edited at the front and then put back in its place.
  cases edit with
  | reorder perm => exact record_of_perm follows perm reads
  | insert _ unknown =>
      have inserted := skip_members_iff.mp whole _ List.mem_append_cons_self
      have first := record_cons_unknown follows unknown inserted reads
      exact record_of_perm follows List.perm_middle.symm first
  | leaveOut _ _ isField omissible =>
      have first := record_of_perm follows List.perm_middle reads
      exact record_of_cons_omissible follows distinct isField omissible first
  | inside _ _ isField edit =>
      have edited := skip_members_iff.mp whole _ List.mem_append_cons_self
      have first := record_of_perm follows List.perm_middle reads
      have inPlace := record_cons_edited follows distinct isField edit edited first
      exact record_of_perm follows List.perm_middle.symm inPlace
  | atPlace _ _ isField edit =>
      have edited := skip_items_iff.mp whole _ List.mem_append_cons_self
      exact record_array_edited follows distinct isField edit edited reads

/-- A record may be null, but no null is edited. -/
theorem preserves_orNull (edits : Preserves (RecordEdit forms) read) :
    Preserves (RecordEdit forms) (Node.orNull read) := by
  intro node node' edit whole x reads
  have notNull (value : Node) (given : value ≠ .null) :
      Node.orNull read value = (read value).map some := by
    cases value <;> first | rfl | exact absurd rfl given
  have before : node ≠ .null := by cases edit <;> nofun
  have after : node' ≠ .null := by cases edit <;> nofun
  rw [notNull node before, map_eq_ok_iff] at reads
  rw [notNull node' after, map_eq_ok_iff]
  obtain ⟨y, given, same⟩ := reads
  exact ⟨y, edits node node' edit whole y given, same⟩

theorem readAll_replaced {before after : List Node} {node node' : Node} {xs : List α}
    (same : ∀ x, read node = .ok x → read node' = .ok x)
    (reads : (Items.closed (before ++ node :: after)).readAll read = .ok xs) :
    (Items.closed (before ++ node' :: after)).readAll read = .ok xs := by
  induction before generalizing xs with
  | nil =>
      rw [List.nil_append, readAll_cons, bind_eq_ok_iff] at reads ⊢
      obtain ⟨x, given, others⟩ := reads
      exact ⟨x, same x given, others⟩
  | cons first before ih =>
      rw [List.cons_append, readAll_cons, bind_eq_ok_iff] at reads ⊢
      obtain ⟨x, given, others⟩ := reads
      obtain ⟨rest, givenRest, whole⟩ := bind_eq_ok_iff.mp others
      exact ⟨x, given, bind_eq_ok_iff.mpr ⟨rest, ih givenRest, whole⟩⟩

theorem preserves_list (edits : Preserves Edit read) :
    Preserves (ListEdit Edit) (Node.list read) := by
  intro node node' edit whole xs reads
  cases edit with
  | item edit =>
      have edited := skip_items_iff.mp whole _ List.mem_append_cons_self
      exact readAll_replaced (edits _ _ edit edited) reads

end Preserves

end SyncPods.Json
