import SyncPods.Json.Record
import SyncPods.Proofs.CompactText

/-!
# What a record needs to be read

A record is read from an object just when its members are in order and the record can be built from
those that are found by name: `record_closed_eq_ok_iff`. The order of the members plays no part in
either. So a record that was written is read from its members as `read_record` says.
-/

namespace SyncPods

/-! ## Steps that may fail -/

section Except

variable {ε α β : Type}

@[simp]
theorem ok_bind (x : α) (next : α → Except ε β) : (Except.ok x >>= next) = next x := rfl

theorem bind_eq_ok_iff {first : Except ε α} {next : α → Except ε β} {y : β} :
    (first >>= next) = .ok y ↔ ∃ x, first = .ok x ∧ next x = .ok y := by
  cases first with
  | error e =>
      constructor
      · nofun
      · rintro ⟨x, given, _⟩
        cases given
  | ok x => simp

theorem map_eq_ok_iff {first : Except ε α} {f : α → β} {y : β} :
    first.map f = .ok y ↔ ∃ x, first = .ok x ∧ f x = y := by
  cases first <;> simp [Except.map]

end Except

/-! ## Shapes -/

namespace Shape

variable {N E α β : Type}

@[simp]
theorem build_map (f : α → β) (shape : Shape N E α) (found : Found N E) :
    (f <$> shape).build found = shape.build found >>= fun x => .ok (f x) := by
  show (shape.build found).map f = _
  cases shape.build found <;> rfl

@[simp]
theorem build_seq (first : Shape N E (α → β)) (second : Shape N E α) (found : Found N E) :
    (first <*> second).build found =
      first.build found >>= fun f => second.build found >>= fun x => .ok (f x) := rfl

theorem build_field (name : String) (read : N → Except E α) (absent : Found N E → Except E α)
    (found : Found N E) :
    (field name read absent).build found = (found.node? name).elim (absent found) read := by
  simp only [field]
  split
  · next node given => rw [given, Option.elim_some]
  · next lacking => rw [lacking, Option.elim_none]

@[simp]
theorem build_required (name : String) (read : N → Except E α) (found : Found N E) :
    (required name read).build found =
      (found.node? name).elim (.error (found.missing name)) read :=
  build_field name read _ found

@[simp]
theorem build_withDefault (name : String) (read : N → Except E α) (default : α)
    (found : Found N E) :
    (withDefault name read default).build found = (found.node? name).elim (.ok default) read :=
  build_field name read _ found

@[simp]
theorem build_optional (name : String) (read : N → Except E (Option α)) (found : Found N E) :
    (optional name read).build found =
      (found.node? name).elim ((found.gap? name).elim (.ok none) .error) read := by
  rw [optional, build_field]
  cases found.gap? name <;> rfl

/-- Building a record takes a look at every field that is found. -/
class Lawful (shape : Shape N E α) : Prop where
  reads {found : Found N E} {x : α} (built : shape.build found = .ok x) :
    ∀ entry ∈ shape.fields, ∀ node, found.node? entry.1 = some node → entry.2 node = .ok ()

instance (f : α → β) (shape : Shape N E α) [shape.Lawful] : (f <$> shape).Lawful where
  reads := by
    intro found y built
    rw [build_map, bind_eq_ok_iff] at built
    obtain ⟨x, given, _⟩ := built
    exact (inferInstance : shape.Lawful).reads given

instance (first : Shape N E (α → β)) (second : Shape N E α) [first.Lawful] [second.Lawful] :
    (first <*> second).Lawful where
  reads := by
    intro found y built entry member node lookup
    rw [build_seq, bind_eq_ok_iff] at built
    obtain ⟨f, givenFirst, built⟩ := built
    obtain ⟨x, givenSecond, _⟩ := bind_eq_ok_iff.mp built
    rcases List.mem_append.mp member with inFirst | inSecond
    · exact Lawful.reads givenFirst entry inFirst node lookup
    · exact Lawful.reads givenSecond entry inSecond node lookup

instance (name : String) (read : N → Except E α) (absent : Found N E → Except E α) :
    (field name read absent).Lawful where
  reads := by
    intro found x built entry member node lookup
    obtain rfl := List.mem_singleton.mp member
    rw [build_field, lookup] at built
    show (read node).map (fun _ => ()) = .ok ()
    rw [show read node = .ok x from built]
    rfl

instance (name : String) (read : N → Except E α) : (required name read).Lawful :=
  inferInstanceAs (field name read _).Lawful

instance (name : String) (read : N → Except E α) (default : α) :
    (withDefault name read default).Lawful :=
  inferInstanceAs (field name read _).Lawful

instance (name : String) (read : N → Except E (Option α)) : (optional name read).Lawful :=
  inferInstanceAs (field name read _).Lawful

end Shape

/-! ## Items and members -/

theorem mem_of_valueOf?_eq_some {α : Type} {name : String} {value : α}
    {entries : List (String × α)} (found : valueOf? name entries = some value) :
    (name, value) ∈ entries := by
  induction entries with
  | nil => cases found
  | cons entry rest ih =>
      rw [valueOf?_cons] at found
      split at found
      · next same =>
        obtain rfl := Option.some.inj found
        rw [same]
        exact List.mem_cons_self
      · exact List.mem_cons_of_mem entry (ih found)

theorem valueOf?_eq_none_iff {α : Type} {name : String} {entries : List (String × α)} :
    valueOf? name entries = none ↔ name ∉ entries.map (·.1) := by
  induction entries with
  | nil => simp
  | cons entry rest ih =>
      rw [valueOf?_cons, List.map_cons, List.mem_cons]
      by_cases same : name = entry.1
      · simp [same]
      · simp [same, ih]

namespace Json

theorem readAll_cons {α : Type} (read : Reader α) (node : Node) (rest : List Node) :
    (Items.closed (node :: rest)).readAll read =
      read node >>= fun x => (Items.closed rest).readAll read >>= fun xs => .ok (x :: xs) := rfl

/-- The members of a record's object are in order, whatever the values of the fields: all names can
be read, no field comes twice, and what is no field can be passed over. -/
structure InOrder (fields : List String) (members : List (Except Fault String × Node)) : Prop where
  named : ∀ m ∈ members, ∃ name, m.1 = .ok name
  distinct : members.Pairwise fun m m' => ∀ name ∈ fields, m.1 = .ok name → m'.1 ≠ .ok name
  skipped : ∀ m ∈ members, ∀ name, m.1 = .ok name → name ∉ fields → m.2.skip = none

variable {names : List String} {fields : FieldReaders} {name : String} {node : Node}
  {m : Except Fault String × Node} {members : List (Except Fault String × Node)}

theorem inOrder_cons_iff :
    InOrder names (m :: members) ↔
      (∃ name, m.1 = .ok name ∧ (name ∈ names → ∀ m' ∈ members, m'.1 ≠ .ok name) ∧
        (name ∉ names → m.2.skip = none)) ∧ InOrder names members := by
  constructor
  · intro inOrder
    have ⟨⟨name, named⟩, othersNamed⟩ := List.forall_mem_cons.mp inOrder.named
    have ⟨apart, othersApart⟩ := List.pairwise_cons.mp inOrder.distinct
    have ⟨skipped, othersSkipped⟩ := List.forall_mem_cons.mp inOrder.skipped
    exact ⟨⟨name, named, fun isField m' member => apart m' member name isField named,
      skipped name named⟩, othersNamed, othersApart, othersSkipped⟩
  · rintro ⟨⟨name, named, apart, skipped⟩, others⟩
    refine ⟨List.forall_mem_cons.mpr ⟨⟨name, named⟩, others.named⟩,
      List.pairwise_cons.mpr ⟨?_, others.distinct⟩,
      List.forall_mem_cons.mpr ⟨?_, others.skipped⟩⟩
    · intro m' member name' isField same
      obtain rfl := Except.ok.inj (named.symm.trans same)
      exact apart isField m' member
    · intro name' same
      obtain rfl := Except.ok.inj (named.symm.trans same)
      exact skipped

theorem find?_cons (own : String) (node : Node) (members : List (Except Fault String × Node))
    (name : String) :
    (Members.closed ((.ok own, node) :: members)).find? name =
      ((Members.closed members).find? name).or (if own = name then some node else none) := by
  simp only [Members.closed, List.foldr_cons, Members.find?, Except.toOption, Option.some.injEq]
  split
  · next later found => rw [found, Option.some_or]
  · next absent => rw [absent, Option.none_or]

theorem find?_eq_none (fresh : ∀ m ∈ members, m.1 ≠ .ok name) :
    (Members.closed members).find? name = none := by
  induction members with
  | nil => rfl
  | cons m members ih =>
      obtain ⟨different, others⟩ := List.forall_mem_cons.mp fresh
      obtain ⟨label, node⟩ := m
      have unnamed : label.toOption ≠ some name := by
        cases label with
        | error fault => nofun
        | ok own => exact fun same => different (congrArg _ (Option.some.inj same))
      have rest := ih others
      simp only [Members.closed] at rest
      simp only [Members.closed, List.foldr_cons, Members.find?, rest, if_neg unnamed]

theorem find?_cons_self (fresh : ∀ m ∈ members, m.1 ≠ .ok name) (node : Node) :
    (Members.closed ((.ok name, node) :: members)).find? name = some node := by
  rw [find?_cons, find?_eq_none fresh, if_pos rfl, Option.none_or]

/-- A field that comes once is found where it stands. -/
theorem find?_closed_eq_some_iff (inOrder : InOrder names members) (isField : name ∈ names) :
    (Members.closed members).find? name = some node ↔ (.ok name, node) ∈ members := by
  induction members generalizing node with
  | nil => simp [Members.closed, Members.find?]
  | cons m members ih =>
      obtain ⟨⟨own, named, apart, -⟩, others⟩ := inOrder_cons_iff.mp inOrder
      obtain ⟨_, value⟩ := m
      obtain rfl := named
      rw [find?_cons, List.mem_cons, ← ih others]
      by_cases same : own = name
      · subst same
        have absent : (Members.closed members).find? own = none := find?_eq_none (apart isField)
        simp [absent, eq_comm]
      · simp [same, Ne.symm same]

section Check

variable {seen : List String} {own : String} {read : Reader Unit}

theorem check_cons_field_iff (known : valueOf? own fields = some read) :
    (Members.closed ((.ok own, node) :: members)).check fields seen = .ok () ↔
      own ∉ seen ∧ read node = .ok () ∧
        (Members.closed members).check fields (own :: seen) = .ok () := by
  simp only [Members.closed, List.foldr_cons, Members.check, known]
  by_cases before : own ∈ seen
  · simp [before]
  · rw [if_neg before, bind_eq_ok_iff]
    constructor
    · rintro ⟨⟨⟩, reads, rest⟩
      exact ⟨before, reads, rest⟩
    · rintro ⟨_, reads, rest⟩
      exact ⟨(), reads, rest⟩

theorem check_cons_other_iff (unknown : valueOf? own fields = none) :
    (Members.closed ((.ok own, node) :: members)).check fields seen = .ok () ↔
      node.skip = none ∧ (Members.closed members).check fields seen = .ok () := by
  simp only [Members.closed, List.foldr_cons, Members.check, unknown]
  cases node.skip <;> simp

/-- What is asked of a member: a field that was not there before has a value of its type. -/
def Admitted (fields : FieldReaders) (seen : List String) (m : Except Fault String × Node) :
    Prop :=
  ∀ name, m.1 = .ok name → ∀ read, valueOf? name fields = some read →
    name ∉ seen ∧ read m.2 = .ok ()

theorem admitted_cons_iff :
    Admitted fields (own :: seen) m ↔
      Admitted fields seen m ∧ ∀ read, valueOf? own fields = some read → m.1 ≠ .ok own := by
  constructor
  · intro admitted
    constructor
    · intro name named read known
      obtain ⟨unseen, reads⟩ := admitted name named read known
      exact ⟨fun before => unseen (List.mem_cons_of_mem own before), reads⟩
    · intro read known named
      exact (admitted own named read known).1 List.mem_cons_self
  · rintro ⟨admitted, apart⟩ name named read known
    obtain ⟨unseen, reads⟩ := admitted name named read known
    refine ⟨fun before => ?_, reads⟩
    rcases List.mem_cons.mp before with rfl | before
    · exact apart read known named
    · exact unseen before

/-- What passes the check of a record: members in order that are all admitted. -/
theorem check_closed_eq_ok_iff :
    (Members.closed members).check fields seen = .ok () ↔
      InOrder (fields.map (·.1)) members ∧ ∀ m ∈ members, Admitted fields seen m := by
  induction members generalizing seen with
  | nil => exact ⟨fun _ => ⟨⟨nofun, .nil, nofun⟩, nofun⟩, fun _ => rfl⟩
  | cons m members ih =>
      obtain ⟨label, node⟩ := m
      rw [inOrder_cons_iff, List.forall_mem_cons]
      cases label with
      | error fault =>
          constructor
          · nofun
          · rintro ⟨⟨⟨name, named, _⟩, _⟩, _⟩
            cases named
      | ok own =>
          -- A field bars its name from the rest of the members; any other name bars nothing.
          cases known : valueOf? own fields with
          | some read =>
              have isField : own ∈ fields.map (·.1) :=
                List.mem_map_of_mem (mem_of_valueOf?_eq_some known)
              rw [check_cons_field_iff known, ih]
              constructor
              · rintro ⟨unseen, reads, others, admitted⟩
                have apart : ∀ m' ∈ members, m'.1 ≠ .ok own := fun m' member =>
                  (admitted_cons_iff.mp (admitted m' member)).2 read known
                refine ⟨⟨⟨own, rfl, fun _ => apart, absurd isField⟩, others⟩, ?_, ?_⟩
                · rintro _ ⟨⟩ read' known'
                  obtain rfl := Option.some.inj (known.symm.trans known')
                  exact ⟨unseen, reads⟩
                · exact fun m' member => (admitted_cons_iff.mp (admitted m' member)).1
              · rintro ⟨⟨⟨_, ⟨⟩, apart, _⟩, others⟩, first, admitted⟩
                obtain ⟨unseen, reads⟩ := first own rfl read known
                refine ⟨unseen, reads, others, fun m' member => ?_⟩
                exact admitted_cons_iff.mpr
                  ⟨admitted m' member, fun _ _ => apart isField m' member⟩
          | none =>
              have noField : own ∉ fields.map (·.1) := valueOf?_eq_none_iff.mp known
              rw [check_cons_other_iff known, ih]
              constructor
              · rintro ⟨skipped, others, admitted⟩
                refine ⟨⟨⟨own, rfl, fun isField => absurd isField noField, fun _ => skipped⟩,
                  others⟩, ?_, admitted⟩
                rintro _ ⟨⟩ read known'
                cases known.symm.trans known'
              · rintro ⟨⟨⟨_, ⟨⟩, _, skipped⟩, others⟩, _, admitted⟩
                exact ⟨skipped noField, others, admitted⟩

end Check

/-- A resource is less strict, as its fields may come again. -/
theorem checkResource_of_inOrder (inOrder : InOrder (fields.map (·.1)) members)
    (reads : ∀ m ∈ members, ∀ name, m.1 = .ok name → ∀ read, valueOf? name fields = some read →
      read m.2 = .ok ()) :
    (Members.closed members).checkResource fields = .ok () := by
  induction members with
  | nil => rfl
  | cons m members ih =>
      obtain ⟨⟨own, named, apart, skipped⟩, others⟩ := inOrder_cons_iff.mp inOrder
      obtain ⟨first, othersRead⟩ := List.forall_mem_cons.mp reads
      obtain ⟨_, node⟩ := m
      obtain rfl := named
      have rest := ih others othersRead
      simp only [Members.closed, List.foldr_cons, Members.checkResource]
      cases known : valueOf? own fields with
      | some read =>
          have readsFirst : read node = .ok () := first own rfl read known
          simp only [readsFirst, ok_bind]
          exact rest
      | none =>
          have passedOver : node.skip = none := skipped (valueOf?_eq_none_iff.mp known)
          simp only [passedOver]
          exact rest

variable {α : Type} {type : String} {shape : Shape Node Failure α} {x : α}

/-- The fields that a record's object gives. -/
def foundAmong (members : List (Except Fault String × Node)) : Found Node Failure :=
  Found.byName .mismatch fun name => (Members.closed members).find? name

/-- Each field that is built from is read along the way. -/
theorem reads_of_build [shape.Lawful] (inOrder : InOrder shape.names members)
    (built : shape.build (foundAmong members) = .ok x) {read : Reader Unit}
    (member : m ∈ members) (named : m.1 = .ok name)
    (known : valueOf? name shape.fields = some read) : read m.2 = .ok () := by
  have entry := mem_of_valueOf?_eq_some known
  have isField : name ∈ shape.names := List.mem_map_of_mem entry
  have found : (Members.closed members).find? name = some m.2 :=
    (find?_closed_eq_some_iff inOrder isField).mpr (by rwa [← named])
  exact Shape.Lawful.reads built (name, read) entry m.2 found

/-- A record is read from an object whose members are in order, and is what its shape builds from
the fields among them. -/
theorem record_closed_eq_ok_iff [shape.Lawful] :
    Node.record type shape (.object (.closed members)) = .ok x ↔
      InOrder shape.names members ∧ shape.build (foundAmong members) = .ok x := by
  have parts : Node.record type shape (.object (.closed members)) =
      (Members.closed members).check shape.fields [] >>= fun _ =>
        shape.build (foundAmong members) := rfl
  rw [parts, bind_eq_ok_iff]
  constructor
  · rintro ⟨⟨⟩, passed, built⟩
    exact ⟨(check_closed_eq_ok_iff.mp passed).1, built⟩
  · rintro ⟨inOrder, built⟩
    refine ⟨(), check_closed_eq_ok_iff.mpr ⟨inOrder, ?_⟩, built⟩
    intro m member name named read known
    exact ⟨List.not_mem_nil, reads_of_build inOrder built member named known⟩

theorem resource_closed_eq_ok [shape.Lawful] (inOrder : InOrder shape.names members)
    (built : shape.build (foundAmong members) = .ok x) :
    Node.resource type shape (.object (.closed members)) = .ok x := by
  have parts : Node.resource type shape (.object (.closed members)) =
      (Members.closed members).checkResource shape.fields >>= fun _ =>
        shape.build (foundAmong members) := rfl
  have passed : (Members.closed members).checkResource shape.fields = .ok () :=
    checkResource_of_inOrder inOrder fun m member name named read known =>
      reads_of_build inOrder built member named known
  rw [parts, passed, ok_bind, built]

end Json

end SyncPods
