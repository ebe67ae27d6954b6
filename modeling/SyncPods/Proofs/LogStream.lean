import Mathlib.Data.List.Sort
import SyncPods.Log.Labels
import SyncPods.Proofs.FoundValues

/-!
# The stream of log lines

A process learns its labels at some time, in any order, and writes lines all the while. A line gets
the labels that are known when it is written, and no label ever changes. So the stream falls into
one chunk for each write, `Chunk.Fits` says which, and what one line was given all later ones are.
-/

namespace SyncPods

/-! ## Objects -/

section Ascending

variable {α : Type} {entries entries' : List (String × α)}

theorem mem_iff_of_ascending {name : String} {value : α} (order : Ascending entries) :
    (name, value) ∈ entries ↔ valueOf? name entries = some value := by
  refine ⟨fun listed => ?_, mem_of_valueOf?_eq_some⟩
  induction entries with
  | nil => cases listed
  | cons first rest ih =>
      obtain ⟨head, tail⟩ := List.pairwise_cons.mp order
      rw [valueOf?_cons]
      rcases List.mem_cons.mp listed with rfl | later
      · exact if_pos rfl
      · rw [if_neg (Std.ne_of_lt (head _ later)).symm]
        exact ih tail later

/-- Entries in the order of their names are known by their values. -/
theorem eq_of_ascending (order : Ascending entries) (order' : Ascending entries')
    (same : ∀ name, valueOf? name entries = valueOf? name entries') : entries = entries' := by
  have irrefl : Std.Irrefl fun a b : String × α => a.1 < b.1 := ⟨fun a => String.lt_irrefl a.1⟩
  have antisymm : Std.Antisymm fun a b : String × α => a.1 < b.1 :=
    ⟨fun a b less more => absurd more (String.lt_asymm less)⟩
  refine order.eq_of_mem_iff order' fun entry => ?_
  rw [mem_iff_of_ascending order, mem_iff_of_ascending order', same]

end Ascending

namespace Json

/-- The members of an object that a text is read as are in the order of their names. -/
theorem ascending_of_ofText {text : String} {members : List (String × Value)}
    (isObject : Value.ofText text = .ok (.object members)) : Ascending members := by
  cases found_of_ofText isObject with
  | object order _ => exact order

end Json

namespace Log

open Json

/-! ## Fields that a line lacks -/

/-- Members of an object with a field, if it has a value and there is none of its name. -/
def withField (members : List (String × Value)) (field : String × Option String) :
    List (String × Value) :=
  match field.2, valueOf? field.1 members with
  | some text, none => insertEntry field.1 (.string text) members
  | _, _ => members

/-- The first value that some fields have for a name. -/
def offered? (fields : List (String × Option String)) (name : String) : Option String :=
  fields.findSome? fun field => if field.1 = name then field.2 else none

section Fields

variable {name : String} {members : List (String × Value)} (field : String × Option String)
  (fields : List (String × Option String))

theorem addMissing_cons :
    addMissing (field :: fields) members = addMissing fields (withField members field) :=
  rfl

theorem offered?_cons :
    offered? (field :: fields) name =
      (if field.1 = name then field.2 else none).or (offered? fields name) := by
  rw [offered?, List.findSome?_cons, offered?]
  cases if field.1 = name then field.2 else none <;> rfl

theorem offered?_ne_none_iff :
    offered? fields name ≠ none ↔ ∃ field ∈ fields, field.1 = name ∧ field.2 ≠ none := by
  simp [offered?, List.findSome?_eq_none_iff]

theorem valueOf?_withField :
    valueOf? name (withField members field) =
      (valueOf? name members).or ((if field.1 = name then field.2 else none).map .string) := by
  obtain ⟨own, value⟩ := field
  rw [withField]
  split
  · next text given lacking =>
    obtain rfl : value = some text := given
    rw [valueOf?_insertEntry]
    by_cases same : name = own
    · subst same
      simp [lacking]
    · simp [same, Ne.symm same]
  · next complete =>
    by_cases same : own = name
    · subst same
      cases value with
      | none => simp
      | some text =>
          cases present : valueOf? own members with
          | none => exact absurd present (complete text rfl)
          | some kept => rfl
    · simp [same]

/-- Members that are there stay, and a name that is not gets what is offered for it. -/
theorem valueOf?_addMissing (members : List (String × Value)) :
    valueOf? name (addMissing fields members) =
      (valueOf? name members).or ((offered? fields name).map .string) := by
  -- The later fields look for their names among the members with the earlier ones.
  induction fields generalizing members with
  | nil => exact Option.or_none.symm
  | cons field fields ih =>
      rw [addMissing_cons, ih, valueOf?_withField, offered?_cons, Option.or_assoc, Option.map_or]

theorem ascending_withField (order : Ascending members) : Ascending (withField members field) := by
  rw [withField]
  split
  · exact ascending_insertEntry _ _ order
  · exact order

theorem ascending_addMissing (order : Ascending members) :
    Ascending (addMissing fields members) := by
  induction fields generalizing members with
  | nil => exact order
  | cons field fields ih => exact ih (ascending_withField field order)

theorem lacksSome_iff :
    lacksSome fields members = true ↔
      ∃ name, valueOf? name members = none ∧ offered? fields name ≠ none := by
  simp only [lacksSome, List.any_eq_true, Bool.and_eq_true, Option.isSome_iff_ne_none,
    Option.isNone_iff_eq_none, offered?_ne_none_iff]
  constructor
  · rintro ⟨field, listed, given, lacking⟩
    exact ⟨field.1, lacking, field, listed, rfl, given⟩
  · rintro ⟨name, lacking, field, listed, rfl, given⟩
    exact ⟨field, listed, given, lacking⟩

/-- What holds of all strings and of the members of an object holds of its members with a field. -/
theorem forall_mem_withField {P : Value → Prop} (strings : ∀ s, P (.string s))
    (all : ∀ member ∈ members, P member.2) : ∀ member ∈ withField members field, P member.2 := by
  intro member listed
  rw [withField] at listed
  split at listed
  · rcases mem_insertEntry listed with rfl | listed
    · exact strings _
    · exact all member listed
  · exact all member listed

theorem forall_mem_addMissing {P : Value → Prop} (strings : ∀ s, P (.string s))
    (all : ∀ member ∈ members, P member.2) :
    ∀ member ∈ addMissing fields members, P member.2 := by
  induction fields generalizing members with
  | nil => exact all
  | cons field fields ih => exact ih (forall_mem_withField field strings all)

end Fields

/-! ## Labels -/

namespace Labels

variable {name value : String} {labels : Labels}

/-- The label that goes by a name in a line. -/
def value? (labels : Labels) (name : String) : Option String :=
  if name = "data_plane" then labels.dataPlane
  else if name = "workspace_id" then labels.workspace
  else none

theorem offered?_fields : offered? labels.fields name = labels.value? name := by
  rw [fields, offered?_cons, offered?_cons, value?, eq_comm]
  by_cases isDataPlane : name = "data_plane"
  · subst isDataPlane
    simp [offered?]
  · by_cases isWorkspace : name = "workspace_id"
    · subst isWorkspace
      simp [offered?]
    · simp [offered?, isDataPlane, isWorkspace, eq_comm]

theorem lacksSome_fields_iff {members : List (String × Value)} :
    lacksSome labels.fields members = true ↔
      ∃ name, valueOf? name members = none ∧ labels.value? name ≠ none := by
  simp only [lacksSome_iff, offered?_fields]

theorem valueOf?_addMissing_fields (members : List (String × Value)) :
    valueOf? name (addMissing labels.fields members) =
      (valueOf? name members).or ((labels.value? name).map .string) := by
  rw [valueOf?_addMissing, offered?_fields]

/-- A label that is known stays. -/
theorem value?_offer (dataPlane workspace : Option String)
    (known : labels.value? name = some value) :
    (labels.offer dataPlane workspace).value? name = some value := by
  unfold value? offer at *
  split
  · next isDataPlane =>
    rw [if_pos isDataPlane] at known
    rw [known, Option.some_or]
  · next notDataPlane =>
    rw [if_neg notDataPlane] at known
    split
    · next isWorkspace =>
      rw [if_pos isWorkspace] at known
      rw [known, Option.some_or]
    · next other =>
      rw [if_neg other] at known
      cases known

end Labels

/-! ## What happens to a log -/

/-- A label is offered, or a buffer is written to a sink that takes all of it. -/
inductive Op where
  | dataPlane (name : String)
  | workspace (id : String)
  | write (buffer : ByteArray)

def Op.dataPlane? : Op → Option String
  | dataPlane name => some name
  | _ => none

def Op.workspace? : Op → Option String
  | workspace id => some id
  | _ => none

/-- What a process has put out: its labels, the bytes that its sink has got, and how many bytes each
write said were written. -/
structure Output where
  labels : Labels
  stream : ByteArray
  counts : List Nat

namespace Output

def start : Output := ⟨.empty, .empty, []⟩

def step (output : Output) : Op → Output
  | .dataPlane name => { output with labels := output.labels.offerDataPlane name }
  | .workspace id => { output with labels := output.labels.offerWorkspace id }
  | .write buffer =>
    let written := output.labels.write none buffer
    { output with
      stream := output.stream ++ written.bytes
      counts := output.counts ++ [written.count] }

def run (output : Output) (ops : List Op) : Output := ops.foldl step output

end Output

/-! ## What a log should be -/

/-- The labels that were offered first. -/
def firstOffers (ops : List Op) : Labels :=
  ⟨ops.findSome? Op.dataPlane?, ops.findSome? Op.workspace?⟩

/-- The buffers that are written, each with what happened before. -/
def writesAfter (past : List Op) : List Op → List (List Op × ByteArray)
  | [] => []
  | .write buffer :: ops => (past, buffer) :: writesAfter (past ++ [.write buffer]) ops
  | op :: ops => writesAfter (past ++ [op]) ops

/-- The text of an object with some members, with a line's end if a line has one. -/
def objectLine (line : String) (members : List (String × Value)) : String :=
  if line.endsWith "\n" then (Value.object members).compact ++ "\n"
  else (Value.object members).compact

theorem inject_of_object {line : String} {members : List (String × Value)}
    (isObject : Value.ofText line = .ok (.object members))
    (fields : List (String × Option String)) :
    inject line fields =
      if lacksSome fields members then some (objectLine line (addMissing fields members))
      else none := by
  simp only [inject, isObject, objectLine]

theorem inject_of_noObject {line : String}
    (noObject : ∀ members, Value.ofText line ≠ .ok (.object members))
    (fields : List (String × Option String)) : inject line fields = none := by
  rw [inject]
  split
  · next members isObject => exact absurd isObject (noObject members)
  · rfl

/-- A buffer is the text of an object with some members. -/
def Holds (buffer : ByteArray) (members : List (String × Value)) : Prop :=
  ∃ line, String.fromUTF8? buffer = some line ∧ Value.ofText line = .ok (.object members)

/-- What one write adds to the stream: what happened before it, its buffer, the bytes that the sink
gets, and the labels among them that are not from the buffer. -/
structure Chunk where
  past : List Op
  buffer : ByteArray
  bytes : ByteArray
  added : String → Option String

namespace Chunk

/-- A buffer goes as it is unless it is the text of an object that lacks a label offered before. An
object that does goes with the labels that it lacks, in the order of the names, and ends its line if
the buffer did. -/
inductive Fits : Chunk → Prop
  | notText {past : List Op} {buffer : ByteArray} (notText : String.fromUTF8? buffer = none) :
      Fits ⟨past, buffer, buffer, fun _ => none⟩
  | noObject {past : List Op} {buffer : ByteArray} {line : String}
      (isText : String.fromUTF8? buffer = some line)
      (noObject : ∀ members, Value.ofText line ≠ .ok (.object members)) :
      Fits ⟨past, buffer, buffer, fun _ => none⟩
  | complete {past : List Op} {buffer : ByteArray} {members : List (String × Value)}
      (holds : Holds buffer members)
      (complete : ∀ name, (firstOffers past).value? name ≠ none → valueOf? name members ≠ none) :
      Fits ⟨past, buffer, buffer, fun _ => none⟩
  | labelled {past : List Op} {buffer : ByteArray} {line : String}
      {members together : List (String × Value)} {added : String → Option String}
      (isText : String.fromUTF8? buffer = some line)
      (isObject : Value.ofText line = .ok (.object members))
      (lacking : ∀ name value, added name = some value ↔
        valueOf? name members = none ∧ (firstOffers past).value? name = some value)
      (adds : ∃ name, added name ≠ none) (order : Ascending together)
      (both : ∀ name, valueOf? name together =
        (valueOf? name members).or ((added name).map .string)) :
      Fits ⟨past, buffer, (objectLine line together).toUTF8, added⟩

/-- What one chunk is given, a later one is given too, unless its buffer has it or is no object. -/
def Follows (earlier later : Chunk) : Prop :=
  ∀ name value members, earlier.added name = some value → Holds later.buffer members →
    valueOf? name members = none → later.added name = some value

end Chunk

/-- What a process has put out after some operations, and the chunks that the stream falls into. -/
structure Records (ops : List Op) (output : Output) (chunks : List Chunk) : Prop where
  labels : output.labels = firstOffers ops
  counts : output.counts = chunks.map (·.buffer.size)
  stream : output.stream = (chunks.map (·.bytes)).foldl (· ++ ·) .empty
  writes : chunks.map (fun chunk => (chunk.past, chunk.buffer)) = writesAfter [] ops
  fits : ∀ chunk ∈ chunks, chunk.Fits
  known : ∀ chunk ∈ chunks, ∀ name value, chunk.added name = some value →
    (firstOffers ops).value? name = some value
  follows : chunks.Pairwise Chunk.Follows

/-! ## One write -/

section Write

variable {past : List Op} {buffer : ByteArray} {line text : String}

theorem Labels.labelled?_of_notText {labels : Labels} (notText : String.fromUTF8? buffer = none) :
    labels.labelled? buffer = none := by
  rw [Labels.labelled?, notText, Option.bind_none]

theorem Labels.labelled?_of_text {labels : Labels} (isText : String.fromUTF8? buffer = some line) :
    labels.labelled? buffer = inject line labels.fields := by
  rw [Labels.labelled?, isText, Option.bind_some]

theorem Labels.write_of_none {labels : Labels} (unlabelled : labels.labelled? buffer = none) :
    labels.write none buffer = ⟨buffer, buffer.size⟩ := by
  rw [Labels.write, unlabelled]
  simp

theorem Labels.write_of_some {labels : Labels} (labelled : labels.labelled? buffer = some text) :
    labels.write none buffer = ⟨text.toUTF8, buffer.size⟩ := by
  rw [Labels.write, labelled]

theorem Labels.count_write (labels : Labels) (buffer : ByteArray) :
    (labels.write none buffer).count = buffer.size := by
  cases labelled : labels.labelled? buffer with
  | none => rw [write_of_none labelled]
  | some text => rw [write_of_some labelled]

theorem Labels.labelled?_of_noObject {labels : Labels}
    (isText : String.fromUTF8? buffer = some line)
    (noObject : ∀ members, Value.ofText line ≠ .ok (.object members)) :
    labels.labelled? buffer = none := by
  rw [labelled?_of_text isText, inject_of_noObject noObject]

theorem Labels.labelled?_of_object {labels : Labels} {members : List (String × Value)}
    (isText : String.fromUTF8? buffer = some line)
    (isObject : Value.ofText line = .ok (.object members)) :
    labels.labelled? buffer =
      if lacksSome labels.fields members then
        some (objectLine line (addMissing labels.fields members))
      else none := by
  rw [labelled?_of_text isText, inject_of_object isObject]

/-- The text of an object is handed on with the labels that it lacks. -/
theorem fits_write_object {members : List (String × Value)} (past : List Op)
    (isText : String.fromUTF8? buffer = some line)
    (isObject : Value.ofText line = .ok (.object members)) :
    ∃ added, Chunk.Fits ⟨past, buffer, ((firstOffers past).write none buffer).bytes, added⟩ := by
  have labelled := (firstOffers past).labelled?_of_object isText isObject
  by_cases lacks : lacksSome (firstOffers past).fields members = true
  · rw [if_pos lacks] at labelled
    obtain ⟨name, without, known⟩ := Labels.lacksSome_fields_iff.mp lacks
    refine ⟨fun name =>
      if (valueOf? name members).isNone then (firstOffers past).value? name else none, ?_⟩
    rw [Labels.write_of_some labelled]
    refine .labelled isText isObject ?lacking ⟨name, by simpa [without] using known⟩
      (ascending_addMissing _ (ascending_of_ofText isObject)) ?both
    case lacking => simp
    case both =>
      intro name
      rw [Labels.valueOf?_addMissing_fields]
      cases valueOf? name members <;> simp
  · rw [if_neg lacks] at labelled
    rw [Labels.write_of_none labelled]
    refine ⟨_, .complete ⟨line, isText, isObject⟩ fun name known without => ?_⟩
    exact lacks (Labels.lacksSome_fields_iff.mpr ⟨name, without, known⟩)

/-- What a write hands on is a chunk as it should be. -/
theorem fits_write (past : List Op) (buffer : ByteArray) :
    ∃ added, Chunk.Fits ⟨past, buffer, ((firstOffers past).write none buffer).bytes, added⟩ := by
  cases isText : String.fromUTF8? buffer with
  | none =>
      rw [Labels.write_of_none (Labels.labelled?_of_notText isText)]
      exact ⟨_, .notText isText⟩
  | some line =>
      by_cases isObject : ∃ members, Value.ofText line = .ok (.object members)
      · obtain ⟨members, isObject⟩ := isObject
        exact fits_write_object past isText isObject
      · have noObject := not_exists.mp isObject
        rw [Labels.write_of_none (Labels.labelled?_of_noObject isText noObject)]
        exact ⟨_, .noObject isText noObject⟩

/-- There is no other chunk for a write than what is handed on. -/
theorem Chunk.Fits.bytes_eq {chunk : Chunk} (fits : chunk.Fits) :
    chunk.bytes = ((firstOffers chunk.past).write none chunk.buffer).bytes := by
  cases fits with
  | notText notText => rw [Labels.write_of_none (Labels.labelled?_of_notText notText)]
  | noObject isText noObject =>
      rw [Labels.write_of_none (Labels.labelled?_of_noObject isText noObject)]
  | @complete past buffer members holds complete =>
      obtain ⟨line, isText, isObject⟩ := holds
      have lacksNone : ¬ lacksSome (firstOffers past).fields members = true := by
        intro lacks
        obtain ⟨name, without, known⟩ := Labels.lacksSome_fields_iff.mp lacks
        exact complete name known without
      have labelled := (firstOffers past).labelled?_of_object isText isObject
      rw [if_neg lacksNone] at labelled
      rw [Labels.write_of_none labelled]
  | @labelled past buffer line members together added isText isObject lacking adds order both =>
      have same : together = addMissing (firstOffers past).fields members := by
        refine eq_of_ascending order
          (ascending_addMissing _ (ascending_of_ofText isObject)) fun name => ?_
        rw [both, Labels.valueOf?_addMissing_fields]
        cases without : valueOf? name members with
        | some value => rfl
        | none =>
            have own : added name = (firstOffers past).value? name :=
              Option.ext fun value => by simpa [without] using lacking name value
            rw [own]
      have lacks : lacksSome (firstOffers past).fields members = true := by
        obtain ⟨name, given⟩ := adds
        obtain ⟨value, isAdded⟩ := Option.ne_none_iff_exists'.mp given
        obtain ⟨without, known⟩ := (lacking name value).mp isAdded
        exact Labels.lacksSome_fields_iff.mpr ⟨name, without, by simp [known]⟩
      have labelled := (firstOffers past).labelled?_of_object isText isObject
      rw [if_pos lacks] at labelled
      rw [Labels.write_of_some labelled, same]

end Write

namespace Chunk

variable {chunk : Chunk} {name value : String} {members : List (String × Value)}

theorem Fits.known (fits : chunk.Fits) (added : chunk.added name = some value) :
    (firstOffers chunk.past).value? name = some value := by
  cases fits with
  | notText notText => cases added
  | noObject isText noObject => cases added
  | complete holds complete => cases added
  | labelled isText isObject lacking adds order both => exact ((lacking name value).mp added).2

/-- An object without a label that is known gets it. -/
theorem Fits.added_of_lacking (fits : chunk.Fits) (holds : Holds chunk.buffer members)
    (without : valueOf? name members = none)
    (known : (firstOffers chunk.past).value? name = some value) :
    chunk.added name = some value := by
  obtain ⟨line, isText, isObject⟩ := holds
  cases fits with
  | notText notText => cases notText.symm.trans isText
  | noObject isText' noObject =>
      obtain rfl := Option.some.inj (isText'.symm.trans isText)
      exact absurd isObject (noObject members)
  | complete holds complete =>
      obtain ⟨line', isText', isObject'⟩ := holds
      obtain rfl := Option.some.inj (isText'.symm.trans isText)
      obtain rfl := Value.object.inj (Except.ok.inj (isObject'.symm.trans isObject))
      exact absurd without (complete name (by simp [known]))
  | labelled isText' isObject' lacking adds order both =>
      obtain rfl := Option.some.inj (isText'.symm.trans isText)
      obtain rfl := Value.object.inj (Except.ok.inj (isObject'.symm.trans isObject))
      exact (lacking name value).mpr ⟨without, known⟩

end Chunk

/-! ## All writes -/

section Run

variable {output : Output} {chunks : List Chunk}

theorem writesAfter_append (past ops ops' : List Op) :
    writesAfter past (ops ++ ops') = writesAfter past ops ++ writesAfter (past ++ ops) ops' := by
  induction ops generalizing past with
  | nil => rw [List.nil_append, writesAfter, List.nil_append, List.append_nil]
  | cons op ops ih => cases op <;> simp [writesAfter, ih]

theorem labels_step (op : Op) :
    (output.step op).labels = output.labels.offer op.dataPlane? op.workspace? := by
  cases op <;> simp [Output.step, Labels.offer, Labels.offerDataPlane, Labels.offerWorkspace,
    Op.dataPlane?, Op.workspace?]

theorem firstOffers_append (ops : List Op) (op : Op) :
    firstOffers (ops ++ [op]) = (firstOffers ops).offer op.dataPlane? op.workspace? := by
  simp [firstOffers, Labels.offer, List.findSome?_append]

/-- A label that is known stays, whatever happens. -/
theorem value?_run {name value : String} (later : List Op)
    (known : output.labels.value? name = some value) :
    (output.run later).labels.value? name = some value := by
  induction later generalizing output with
  | nil => exact known
  | cons op later ih =>
      refine ih ?_
      rw [labels_step]
      exact Labels.value?_offer _ _ known

theorem Records.offer {ops : List Op} {op : Op} (records : Records ops output chunks)
    (stream : (output.step op).stream = output.stream)
    (counts : (output.step op).counts = output.counts)
    (unwritten : ∀ past, writesAfter past [op] = []) :
    Records (ops ++ [op]) (output.step op) chunks where
  labels := by rw [labels_step, records.labels, firstOffers_append]
  counts := counts.trans records.counts
  stream := stream.trans records.stream
  writes := by rw [writesAfter_append, unwritten, List.append_nil, records.writes]
  fits := records.fits
  known := by
    intro chunk listed name value added
    rw [firstOffers_append]
    exact Labels.value?_offer _ _ (records.known chunk listed name value added)
  follows := records.follows

theorem Records.write {ops : List Op} (records : Records ops output chunks)
    (buffer : ByteArray) : ∃ chunk,
      Records (ops ++ [.write buffer]) (output.step (.write buffer)) (chunks ++ [chunk]) := by
  obtain ⟨added, fits⟩ := fits_write ops buffer
  rw [← records.labels] at fits
  have offers : firstOffers (ops ++ [.write buffer]) = firstOffers ops := by
    simp [firstOffers, List.findSome?_append, Op.dataPlane?, Op.workspace?]
  refine ⟨⟨ops, buffer, (output.labels.write none buffer).bytes, added⟩, ?_⟩
  constructor
  case labels => exact records.labels.trans offers.symm
  case counts =>
    rw [Output.step, List.map_append, ← records.counts, Labels.count_write]
    rfl
  case stream =>
    rw [Output.step, List.map_append, List.foldl_append, ← records.stream]
    rfl
  case writes =>
    rw [writesAfter_append, List.map_append, records.writes]
    rfl
  case fits =>
    intro chunk listed
    rcases List.mem_append.mp listed with earlier | last
    · exact records.fits chunk earlier
    · exact List.mem_singleton.mp last ▸ fits
  case known =>
    intro chunk listed name value added
    rw [offers]
    rcases List.mem_append.mp listed with earlier | last
    · exact records.known chunk earlier name value added
    · obtain rfl := List.mem_singleton.mp last
      exact fits.known added
  case follows =>
    -- What an earlier chunk was given is known by now, so the new one is given it too.
    refine List.pairwise_append.mpr ⟨records.follows, List.pairwise_singleton _ _, ?_⟩
    intro earlier listed later last name value members added holds without
    obtain rfl := List.mem_singleton.mp last
    exact fits.added_of_lacking holds without (records.known earlier listed name value added)

theorem Records.step {ops : List Op} (records : Records ops output chunks) (op : Op) :
    ∃ chunks', Records (ops ++ [op]) (output.step op) chunks' := by
  cases op with
  | dataPlane name => exact ⟨chunks, records.offer rfl rfl fun _ => rfl⟩
  | workspace id => exact ⟨chunks, records.offer rfl rfl fun _ => rfl⟩
  | write buffer =>
      obtain ⟨chunk, records⟩ := records.write buffer
      exact ⟨_, records⟩

theorem Records.run {past : List Op} (records : Records past output chunks) (ops : List Op) :
    ∃ chunks', Records (past ++ ops) (output.run ops) chunks' := by
  induction ops generalizing past output chunks with
  | nil => exact ⟨chunks, (List.append_nil past).symm ▸ records⟩
  | cons op ops ih =>
      obtain ⟨chunks', records⟩ := records.step op
      rw [List.append_cons]
      exact ih records

theorem records_start : Records [] .start [] where
  labels := rfl
  counts := rfl
  stream := rfl
  writes := rfl
  fits := nofun
  known := nofun
  follows := List.Pairwise.nil

/-- However labels are offered and lines written, each label is the first one that was offered and
stays, and the stream is what the chunks of the writes make up, each labelled as is due. -/
theorem stream_of_run (ops : List Op) :
    (∃ chunks, Records ops (Output.start.run ops) chunks) ∧
      ∀ later name value, (Output.start.run ops).labels.value? name = some value →
        (Output.start.run (ops ++ later)).labels.value? name = some value := by
  refine ⟨records_start.run ops, fun later name value known => ?_⟩
  rw [Output.run, List.foldl_append]
  exact value?_run later known

example : (Output.start.run [.write (String.toUTF8 "\x7b\x7d\n"), .dataPlane "eu",
    .write (String.toUTF8 "\x7b\"a\":1\x7d\n"), .dataPlane "us"]).stream =
      String.toUTF8 "\x7b\x7d\n\x7b\"a\":1,\"data_plane\":\"eu\"\x7d\n" := by
  decide +kernel

end Run

end Log

end SyncPods
