import SyncPods.Proofs.RecordReading
import SyncPods.Proofs.UuidText
import SyncPods.Settings.Flags

/-!
# What is written is read back

A part of a value that was written is read back from its node where the reader of the part gives
back what its writer was given: options, lists, dictionaries and records in turn.
-/

namespace SyncPods

/-! ## Entries -/

/-- An entry whose name is behind all others goes to the end. -/
theorem insertEntry_of_greatest {α : Type} {name : String} {value : α}
    {entries : List (String × α)} (greatest : ∀ entry ∈ entries, entry.1 < name) :
    insertEntry name value entries = entries ++ [(name, value)] := by
  induction entries with
  | nil => rfl
  | cons first rest ih =>
      obtain ⟨less, others⟩ := List.forall_mem_cons.mp greatest
      have notBefore : ¬ name < first.1 := String.lt_asymm less
      have different : name ≠ first.1 := (String.ne_of_lt less).symm
      rw [insertEntry, if_neg notBefore, if_neg different, ih others, List.cons_append]

namespace Json

variable {α : Type} {read : Reader α} {depth : Nat}

theorem within_of_shallow (shallow : depth < depthLimit) (node : Node) :
    node.within (depth + 1) = node := if_pos shallow

/-! ## Simple values and options -/

@[simp]
theorem text_string (s : String) (depth : Nat) :
    Node.text ((Value.string s).node depth) = .ok s := rfl

@[simp]
theorem flag_bool (b : Bool) (depth : Nat) : Node.flag ((Value.bool b).node depth) = .ok b := rfl

theorem orNull_eq_ok {node : Node} {x : α} (refuses : ∀ y, read .null ≠ .ok y)
    (reads : read node = .ok x) : Node.orNull read node = .ok (some x) := by
  cases node with
  | null => exact absurd reads (refuses x)
  | _ => simp only [Node.orNull, reads, Except.map]

@[simp]
theorem orNull_string (s : String) (depth : Nat) :
    Node.orNull Node.text ((Value.string s).node depth) = .ok (some s) := rfl

@[simp]
theorem orNull_ofOption (s : Option String) (depth : Nat) :
    Node.orNull Node.text ((Value.ofOption s).node depth) = .ok s := by
  cases s with
  | none => rfl
  | some s => rfl

@[simp]
theorem exact_ofOption (s : Option String) : (Value.ofOption s).Exact := by
  cases s with
  | none => exact .null
  | some s => exact .string s

/-- An optional member is read back whether it was written or left out. -/
theorem elim_orNull_node {json : α → Value} (refuses : ∀ y, read .null ≠ .ok y)
    (reads : ∀ x, read ((json x).node depth) = .ok x) (o : Option α) :
    o.elim (.ok none) (Node.orNull read ∘ Value.node depth ∘ json) = .ok o := by
  cases o with
  | none => rfl
  | some x => exact orNull_eq_ok refuses (reads x)

@[simp]
theorem elim_orNull_string (s : Option String) (depth : Nat) :
    s.elim (.ok none) (Node.orNull Node.text ∘ Value.node depth ∘ Value.string) = .ok s :=
  elim_orNull_node nofun (fun s => text_string s depth) s

@[simp]
theorem elim_orNull_bool (b : Option Bool) (depth : Nat) :
    b.elim (.ok none) (Node.orNull Node.flag ∘ Value.node depth ∘ Value.bool) = .ok b :=
  elim_orNull_node nofun (fun b => flag_bool b depth) b

theorem uuid_text (id : Uuid) (depth : Nat) :
    Uuid.read ((Value.string id.text).node depth) = .ok id := by
  have spelling : (Source.text "a formatted UUID string" ((Value.string id.text).node depth) :
      Except Failure String) = .ok id.text := rfl
  rw [Uuid.read, spelling, ok_bind, Uuid.parse_text]
  rfl

/-! ## Lists -/

theorem readAll_items (json : α → Value) (xs : List α)
    (reads : ∀ x ∈ xs, read ((json x).node depth) = .ok x) :
    (Items.closed (itemNodes depth (xs.map json))).readAll read = .ok xs := by
  induction xs with
  | nil => rfl
  | cons x xs ih =>
      obtain ⟨first, others⟩ := List.forall_mem_cons.mp reads
      rw [List.map_cons, itemNodes, readAll_cons, first, ok_bind, ih others, ok_bind]

theorem list_written (shallow : depth < depthLimit) {json : α → Value} {xs : List α}
    (reads : ∀ x ∈ xs, read ((json x).node (depth + 1)) = .ok x) :
    Node.list read ((Value.array (xs.map json)).node depth) = .ok xs := by
  rw [Value.node, within_of_shallow shallow]
  exact readAll_items json xs reads

/-! ## Dictionaries -/

theorem readAll_members (json : α → Value) (reads : ∀ x, read ((json x).node depth) = .ok x)
    (entries : List (String × α)) (sofar : Dict α)
    (behind : ∀ entry ∈ entries, ∀ before ∈ sofar.entries, before.1 < entry.1)
    (order : Ascending entries) :
    ∃ d, (Members.closed (memberNodes depth (entries.map fun e => (e.1, json e.2)))).readAll read
        sofar = .ok d ∧ d.entries = sofar.entries ++ entries := by
  induction entries generalizing sofar with
  | nil => exact ⟨sofar, rfl, (List.append_nil _).symm⟩
  | cons entry rest ih =>
      -- The names ascend, so each entry goes behind all that were read before.
      obtain ⟨first, others⟩ := List.forall_mem_cons.mp behind
      obtain ⟨head, tail⟩ := List.pairwise_cons.mp order
      have inserted : (sofar.insert entry.1 entry.2).entries = sofar.entries ++ [entry] :=
        insertEntry_of_greatest first
      have stillBehind : ∀ later ∈ rest, ∀ before ∈ (sofar.insert entry.1 entry.2).entries,
          before.1 < later.1 := by
        intro later member before earlier
        rw [inserted, List.mem_append, List.mem_singleton] at earlier
        rcases earlier with earlier | rfl
        · exact others later member before earlier
        · exact head later member
      obtain ⟨d, whole, gathered⟩ := ih (sofar.insert entry.1 entry.2) stillBehind tail
      refine ⟨d, ?_, by rw [gathered, inserted, List.append_assoc, List.singleton_append]⟩
      simp only [List.map_cons, memberNodes, Members.closed, List.foldr_cons, Members.readAll]
      simp only [Members.closed] at whole
      rw [reads entry.2, ok_bind, whole]

theorem dict_written (shallow : depth < depthLimit) {json : α → Value}
    (reads : ∀ x, read ((json x).node (depth + 1)) = .ok x) (d : Dict α) :
    Node.dict read ((Value.object (d.entries.map fun e => (e.1, json e.2))).node depth) =
      .ok d := by
  rw [Value.node, within_of_shallow shallow]
  have behind : ∀ entry ∈ d.entries, ∀ before ∈ (∅ : Dict α).entries, before.1 < entry.1 :=
    fun _ _ _ earlier => absurd earlier List.not_mem_nil
  obtain ⟨d', whole, gathered⟩ := readAll_members json reads d.entries ∅ behind d.ascending
  have same : d' = d := Dict.ext gathered
  exact whole.trans (congrArg Except.ok same)

theorem dict_ofDict (shallow : depth < depthLimit) (d : Dict String) :
    Node.dict Node.text ((Value.ofDict d).node depth) = .ok d :=
  dict_written shallow (fun _ => rfl) d

/-! ## Records -/

/-- What a record that was written gives for a field. -/
def writtenNode? (depth : Nat) (members : List (String × Option Value)) (name : String) :
    Option Node :=
  (valueOf? name members).join.map (Value.node depth)

@[simp]
theorem writtenNode?_cons (depth : Nat) (member : String × Option Value)
    (members : List (String × Option Value)) (name : String) :
    writtenNode? depth (member :: members) name =
      if name = member.1 then member.2.map (Value.node depth)
      else writtenNode? depth members name := by
  rw [writtenNode?, valueOf?_cons]
  split <;> rfl

theorem writtenNode?_eq_none_of_fresh {name : String} {members : List (String × Option Value)}
    (fresh : name ∉ members.map (·.1)) : writtenNode? depth members name = none := by
  rw [writtenNode?, valueOf?_eq_none_iff.mpr fresh]
  rfl

/-- The members of a record that was written. -/
def writtenMembers (depth : Nat) (members : List (String × Option Value)) :
    List (Except Fault String × Node) :=
  memberNodes depth (members.filterMap fun (name, value) => value.map (name, ·))

theorem writtenMembers_cons (depth : Nat) (name : String) (value : Option Value)
    (members : List (String × Option Value)) :
    writtenMembers depth ((name, value) :: members) =
      (value.map fun v => (.ok name, v.node depth)).toList ++ writtenMembers depth members := by
  cases value <;> rfl

theorem find?_writtenMembers {members : List (String × Option Value)}
    (distinct : (members.map (·.1)).Nodup) (name : String) :
    (Members.closed (writtenMembers depth members)).find? name =
      writtenNode? depth members name := by
  induction members with
  | nil => rfl
  | cons member rest ih =>
      obtain ⟨own, value⟩ := member
      obtain ⟨fresh, others⟩ := List.nodup_cons.mp distinct
      rw [writtenMembers_cons, writtenNode?_cons]
      by_cases same : name = own
      · subst same
        have absent : writtenNode? depth rest name = none := writtenNode?_eq_none_of_fresh fresh
        cases value <;> simp [find?_cons, ih others, absent]
      · have different : own ≠ name := Ne.symm same
        cases value <;> simp [find?_cons, ih others, same, different]

theorem name_mem_of_mem_writtenMembers {members : List (String × Option Value)}
    {m : Except Fault String × Node} (member : m ∈ writtenMembers depth members) :
    ∃ name ∈ members.map (·.1), m.1 = .ok name := by
  induction members with
  | nil => cases member
  | cons first rest ih =>
      obtain ⟨own, value⟩ := first
      rw [writtenMembers_cons, List.mem_append] at member
      rcases member with member | member
      · cases value with
        | none => cases member
        | some v =>
            obtain rfl := List.mem_singleton.mp member
            exact ⟨own, List.mem_cons_self, rfl⟩
      · obtain ⟨name, listed, named⟩ := ih member
        exact ⟨name, List.mem_cons_of_mem own listed, named⟩

theorem pairwise_writtenMembers {members : List (String × Option Value)}
    (distinct : (members.map (·.1)).Nodup) :
    (writtenMembers depth members).Pairwise fun m m' =>
      ∀ name, m.1 = .ok name → m'.1 ≠ .ok name := by
  induction members with
  | nil => exact .nil
  | cons member rest ih =>
      obtain ⟨own, value⟩ := member
      obtain ⟨fresh, others⟩ := List.nodup_cons.mp distinct
      rw [writtenMembers_cons]
      cases value with
      | none => exact ih others
      | some v =>
          refine List.pairwise_cons.mpr ⟨?_, ih others⟩
          rintro m later _ ⟨⟩ named
          obtain ⟨name, listed, named'⟩ := name_mem_of_mem_writtenMembers later
          obtain rfl := Except.ok.inj (named'.symm.trans named)
          exact fresh listed

theorem inOrder_writtenMembers {members : List (String × Option Value)}
    (distinct : (members.map (·.1)).Nodup) :
    InOrder (members.map (·.1)) (writtenMembers depth members) where
  named m member := by
    obtain ⟨name, _, named⟩ := name_mem_of_mem_writtenMembers member
    exact ⟨name, named⟩
  distinct := (pairwise_writtenMembers distinct).imp fun apart name _ => apart name
  skipped m member name named noField := by
    obtain ⟨name', listed, named'⟩ := name_mem_of_mem_writtenMembers member
    obtain rfl := Except.ok.inj (named'.symm.trans named)
    exact absurd listed noField

section Record

variable {type : String} {shape : Shape Node Failure α} {x : α}
  {members : List (String × Option Value)}

/-- What a record that was written gives to the shape that reads it. -/
def written (depth : Nat) (members : List (String × Option Value)) : Found Node Failure :=
  Found.byName .mismatch (writtenNode? (depth + 1) members)

@[simp]
theorem written_node? (depth : Nat) (members : List (String × Option Value)) :
    (written depth members).node? = writtenNode? (depth + 1) members := rfl

@[simp]
theorem written_gap? (depth : Nat) (members : List (String × Option Value)) (name : String) :
    (written depth members).gap? name = none := rfl

theorem foundAmong_writtenMembers (distinct : (members.map (·.1)).Nodup) :
    foundAmong (writtenMembers (depth + 1) members) = written depth members := by
  rw [foundAmong, written]
  congr 1
  funext name
  exact find?_writtenMembers distinct name

theorem node_object (shallow : depth < depthLimit) (members : List (String × Value)) :
    (Value.object members).node depth =
      .object (.closed (members.map fun m => (.ok m.1, m.2.node (depth + 1)))) := by
  rw [Value.node, memberNodes_eq, within_of_shallow shallow]

theorem node_record (shallow : depth < depthLimit) (members : List (String × Option Value)) :
    (Value.record members).node depth =
      .object (.closed (writtenMembers (depth + 1) members)) := by
  rw [Value.record, Value.node, within_of_shallow shallow, writtenMembers]

/-- A record that is written with its fields' names is read if its shape builds it from what was
written. -/
theorem record_written [shape.Lawful] (shallow : depth < depthLimit)
    (names : members.map (·.1) = shape.names) (distinct : (members.map (·.1)).Nodup)
    (built : shape.build (written depth members) = .ok x) :
    Node.record type shape ((Value.record members).node depth) = .ok x := by
  rw [node_record shallow, record_closed_eq_ok_iff, ← names, foundAmong_writtenMembers distinct]
  exact ⟨inOrder_writtenMembers distinct, built⟩

theorem object_eq_record (members : List (String × Value)) :
    Value.object members = .record (members.map fun member => (member.1, some member.2)) := by
  rw [Value.record, List.filterMap_map]
  simp

/-- The same for a record all of whose members are there. -/
theorem object_written [shape.Lawful] {members : List (String × Value)}
    (shallow : depth < depthLimit) (names : members.map (·.1) = shape.names)
    (distinct : (members.map (·.1)).Nodup)
    (built : shape.build (written depth (members.map fun m => (m.1, some m.2))) = .ok x) :
    Node.record type shape ((Value.object members).node depth) = .ok x := by
  have sameNames : (members.map fun m => (m.1, some m.2)).map (·.1) = members.map (·.1) := by
    rw [List.map_map]
    rfl
  rw [object_eq_record]
  refine record_written shallow ?_ ?_ built
  · rw [sameNames, names]
  · rw [sameNames]
    exact distinct

theorem resource_written [shape.Lawful] (shallow : depth < depthLimit)
    (names : members.map (·.1) = shape.names) (distinct : (members.map (·.1)).Nodup)
    (built : shape.build (written depth members) = .ok x) :
    Node.resource type shape ((Value.record members).node depth) = .ok x := by
  rw [node_record shallow]
  apply resource_closed_eq_ok
  · rw [← names]
    exact inOrder_writtenMembers distinct
  · rw [foundAmong_writtenMembers distinct]
    exact built

end Record

end Json

end SyncPods
