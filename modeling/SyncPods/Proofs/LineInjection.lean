import SyncPods.Json.Record
import SyncPods.Proofs.LogStream
import SyncPods.Proofs.TextParts

/-!
# Fields injected into a line

A line that is an object gets the fields that it lacks, as one line of text that is read as the
object with these fields. Its own members are read as what their texts say: whole numbers, strings
and all that holds no number in double precision come back as they were, and a number in double
precision comes back as the number that its shortest text is read as.
-/

namespace SyncPods

namespace Json

/-! ## Texts on one line -/

theorem newline_notMem_of_areDigits {cs : List Char} (digits : AreDigits cs) : '\n' ∉ cs :=
  fun listed => absurd (digits.2 _ listed) (by decide)

theorem newline_notMem_of_fractionSpelled {fraction cs : List Char}
    (spelled : FractionSpelled fraction cs) : '\n' ∉ cs := by
  cases spelled with
  | absent => exact List.not_mem_nil
  | present digits => simp [newline_notMem_of_areDigits digits]

theorem newline_notMem_of_exponentSpelled {exponent : Option (Bool × List Char)} {cs : List Char}
    (spelled : ExponentSpelled exponent cs) : '\n' ∉ cs := by
  cases spelled with
  | absent => exact List.not_mem_nil
  | unsigned isMark digits =>
      rcases isMark with rfl | rfl <;> simp [newline_notMem_of_areDigits digits]
  | positive isMark digits =>
      rcases isMark with rfl | rfl <;> simp [newline_notMem_of_areDigits digits]
  | negative isMark digits =>
      rcases isMark with rfl | rfl <;> simp [newline_notMem_of_areDigits digits]

theorem newline_notMem_of_numberSpelled {t : NumberText} {cs : List Char}
    (spelled : t.Spelled cs) : '\n' ∉ cs := by
  cases spelled with
  | positive whole fraction exponent =>
      simp [newline_notMem_of_areDigits whole.1, newline_notMem_of_fractionSpelled fraction,
        newline_notMem_of_exponentSpelled exponent]
  | negative whole fraction exponent =>
      simp [newline_notMem_of_areDigits whole.1, newline_notMem_of_fractionSpelled fraction,
        newline_notMem_of_exponentSpelled exponent]

theorem newline_notMem_stringChar (c : Char) : '\n' ∉ stringChar c := by
  have digits : ∀ n < 16, hexDigit n ≠ '\n' := by decide
  unfold stringChar
  split
  all_goals try decide
  next notNewline _ _ =>
  split
  · next control =>
    have high := digits (c.toNat / 16) (by omega)
    have low := digits (c.toNat % 16) (by omega)
    simp [high.symm, low.symm]
  · simpa using Ne.symm notNewline

theorem newline_notMem_stringText (s : String) : '\n' ∉ (stringText s).toList := by
  simp [toList_stringText, newline_notMem_stringChar]

/-- Parts of one line each are one line with commas between them. -/
theorem newline_notMem_commas {parts : List (List Char)}
    (none : ∀ part ∈ parts, '\n' ∉ part) : '\n' ∉ [','].intercalate parts := by
  have marks : ∀ c ∈ [','], c ≠ '\n' := by simp
  have inner : ∀ part ∈ parts, ∀ c ∈ part, c ≠ '\n' :=
    fun part member c own same => none part member (same ▸ own)
  exact fun listed => forall_mem_intercalate marks inner '\n' listed rfl

/-- A compact text is one line. -/
theorem newline_notMem_compact {v : Value} {levels : Nat} (found : v.Found levels) :
    '\n' ∉ v.compact.toList := by
  induction found with
  | null => decide
  | bool b => cases b <;> decide
  | number fits =>
      obtain ⟨t, spelled, _⟩ := exists_numberText fits
      exact newline_notMem_of_numberSpelled spelled
  | string s => exact newline_notMem_stringText s
  | @array _ items _ ih =>
      have inner : '\n' ∉ [','].intercalate (items.map fun item => item.compact.toList) :=
        newline_notMem_commas (List.forall_mem_map.mpr ih)
      simpa [Value.compact, compactItems_eq, String.toList_intercalate, Function.comp_def]
        using inner
  | @object _ members _ _ ih =>
      have parts : ∀ member ∈ members,
          '\n' ∉ (stringText member.1 ++ ":" ++ member.2.compact).toList := by
        intro member listed
        simp [newline_notMem_stringText, ih member listed]
      have inner := newline_notMem_commas (List.forall_mem_map.mpr parts)
      simpa [Value.compact, compactMembers_eq, String.toList_intercalate, Function.comp_def]
        using inner

/-! ## Members by name -/

/-- Of repeated members the last is found. -/
theorem valueOf?_values (nodes : Members) {sofar members : List (String × Value)}
    (found : nodes.values sofar = .ok members) (name : String) :
    valueOf? name members =
      match nodes.find? name with
      | some node => node.value.toOption
      | none => valueOf? name sofar := by
  match nodes with
  | .stop (.cut read skipped) => cases found
  | .stop .closed => exact Except.ok.inj found ▸ rfl
  | .stop .counted => exact Except.ok.inj found ▸ rfl
  | .member (.error fault) node rest => cases found
  | .member (.ok other) node rest =>
      obtain ⟨value, read, later⟩ := bind_eq_ok_iff.mp found
      rw [valueOf?_values rest later name, Members.find?]
      cases rest.find? name with
      | some last => rfl
      | none =>
          simp only [valueOf?_insertEntry, Except.toOption]
          by_cases same : name = other
          · subst same
            simp [read]
          · simp [same, Ne.symm same]

theorem valueOf?_rereadMembers (members : List (String × Value)) (name : String) :
    valueOf? name (rereadMembers members) = (valueOf? name members).map Value.reread := by
  induction members with
  | nil => rfl
  | cons member rest ih =>
      rw [rereadMembers, valueOf?_cons, ih, valueOf?_cons]
      split <;> rfl

end Json

namespace Log

open Json

/-! ## Objects on a line -/

/-- The members of the object that a line is. -/
def members? (line : String) : Option (List (String × Value)) :=
  match Value.ofText line with
  | .ok (.object members) => some members
  | _ => none

/-- The member of a name in the object that a line is. -/
def member? (line name : String) : Option Value := (members? line).bind (valueOf? name)

/-- The line with the fields that it lacks, or as it was if it lacks none or is no object. -/
def injected (line : String) (fields : List (String × Option String)) : String :=
  (inject line fields).getD line

section

variable {line text name : String} {members : List (String × Value)}
  {fields : List (String × Option String)}

theorem members?_eq_some_iff :
    members? line = some members ↔ Value.ofText line = .ok (.object members) := by
  rw [members?]
  split
  · next found => simp [found]
  · next noObject =>
    simp only [reduceCtorEq, false_iff]
    exact noObject members

theorem ofText_of_members? (isObject : members? line = some members) :
    Value.ofText line = .ok (.object members) := by
  rw [← members?_eq_some_iff, isObject]

/-- The object that a line is has the last member of each name. -/
theorem exists_nodes_of_members? (isObject : members? line = some members) :
    ∃ nodes, (Document.ofText line).root = .object nodes ∧
      ∀ name, valueOf? name members = (nodes.find? name).bind (·.value.toOption) := by
  obtain ⟨value, read, ends⟩ := bind_eq_ok_iff.mp (ofText_of_members? isObject)
  split at ends
  · cases ends
  · obtain rfl := Except.ok.inj ends
    generalize (Document.ofText line).root = root at read
    cases root with
    | object nodes =>
        obtain ⟨found, values, same⟩ := bind_eq_ok_iff.mp read
        obtain rfl : found = members := by simpa using Except.ok.inj same
        refine ⟨nodes, rfl, fun name => ?_⟩
        rw [valueOf?_values nodes values name]
        cases nodes.find? name <;> rfl
    | array items =>
        obtain ⟨values, _, same⟩ := bind_eq_ok_iff.mp read
        cases same
    | _ => cases read

/-! ## The text of a line with its fields -/

theorem objectLine_eq (line : String) (members : List (String × Value)) :
    objectLine line members =
      (Value.object members).compact ++ if line.endsWith "\n" then "\n" else "" := by
  rw [objectLine]
  split <;> simp

theorem found_addMissing (isObject : members? line = some members) :
    (Value.object (addMissing fields members)).Found depthLimit := by
  cases found_of_ofText (ofText_of_members? isObject) with
  | object order parts =>
      exact .object (ascending_addMissing fields order) (forall_mem_addMissing fields .string parts)

/-- A line with the fields that it lacks is an object: the line's with these fields, read again. -/
theorem members?_objectLine (isObject : members? line = some members) :
    members? (objectLine line (addMissing fields members)) =
      some (rereadMembers (addMissing fields members)) := by
  rw [members?_eq_some_iff, objectLine_eq, ofText_compact (found_addMissing isObject),
    Value.reread]

theorem inject_eq_some_iff :
    inject line fields = some text ↔
      ∃ members, members? line = some members ∧ lacksSome fields members = true ∧
        objectLine line (addMissing fields members) = text := by
  cases isObject : members? line with
  | none =>
      have noObject : ∀ members, Value.ofText line ≠ .ok (.object members) := fun members found =>
        Option.some_ne_none members ((members?_eq_some_iff.mpr found).symm.trans isObject)
      simp [inject_of_noObject noObject]
  | some members => simp [inject_of_object (ofText_of_members? isObject)]

theorem isSome_inject_iff :
    (inject line fields).isSome ↔
      ∃ members, members? line = some members ∧
        ∃ field ∈ fields, field.2 ≠ none ∧ valueOf? field.1 members = none := by
  simp only [Option.isSome_iff_exists, inject_eq_some_iff, lacksSome, List.any_eq_true,
    Bool.and_eq_true, Option.isNone_iff_eq_none, Option.ne_none_iff_exists']
  constructor
  · rintro ⟨text, members, isObject, lacking, _⟩
    exact ⟨members, isObject, lacking⟩
  · rintro ⟨members, isObject, lacking⟩
    exact ⟨_, members, isObject, lacking, rfl⟩

/-- Where nothing is added, nothing is offered for a name that is missing. -/
theorem offered?_eq_none_of_inject (nothing : inject line fields = none)
    (isObject : members? line = some members) (missing : valueOf? name members = none) :
    offered? fields name = none := by
  by_contra given
  have lacks : lacksSome fields members = true := (lacksSome_iff fields).mpr ⟨name, missing, given⟩
  have added := inject_eq_some_iff.mpr ⟨members, isObject, lacks, rfl⟩
  exact Option.some_ne_none _ (added.symm.trans nothing)

theorem member?_of_inject (added : inject line fields = some text) (name : String) :
    member? text name =
      ((member? line name).map Value.reread).or ((offered? fields name).map .string) := by
  obtain ⟨members, isObject, _, rfl⟩ := inject_eq_some_iff.mp added
  simp only [member?, members?_objectLine isObject, isObject, Option.bind_some,
    valueOf?_rereadMembers, valueOf?_addMissing, Option.map_or]
  cases offered? fields name <;> rfl

theorem isSome_members?_of_inject (added : inject line fields = some text) :
    (members? text).isSome := by
  obtain ⟨members, isObject, _, rfl⟩ := inject_eq_some_iff.mp added
  rw [members?_objectLine isObject, Option.isSome_some]

/-- A text lacks none of the fields that a line was given to get it. -/
theorem inject_eq_none_of_inject (added : inject line fields = some text) :
    inject text fields = none := by
  rw [← Option.not_isSome_iff_eq_none, isSome_inject_iff]
  rintro ⟨members, isObject, field, listed, given, missing⟩
  have offered : offered? fields field.1 ≠ none :=
    (offered?_ne_none_iff fields).mpr ⟨field, listed, rfl, given⟩
  have found := member?_of_inject added field.1
  rw [member?, isObject, Option.bind_some, missing, eq_comm, Option.or_eq_none_iff,
    Option.map_eq_none_iff, Option.map_eq_none_iff] at found
  exact offered found.2

/-- A text is a line with the fields that it lacks. It is one line and ends as that line does. It is
an object that holds the line's members, their numbers as their texts are read, and of each missing
name the first value among the fields. The fields add nothing to it any more. -/
structure Completes (line : String) (fields : List (String × Option String)) (text : String) :
    Prop where
  oneLine : ∃ body, '\n' ∉ body.toList ∧
    text = body ++ if line.endsWith "\n" then "\n" else ""
  isObject : (members? text).isSome
  members : ∀ name, member? text name =
    ((member? line name).map Value.reread).or ((offered? fields name).map .string)
  complete : inject text fields = none

theorem completes_of_inject (added : inject line fields = some text) :
    Completes line fields text where
  oneLine := by
    obtain ⟨members, isObject, _, rfl⟩ := inject_eq_some_iff.mp added
    exact ⟨_, newline_notMem_compact (found_addMissing isObject), objectLine_eq line _⟩
  isObject := isSome_members?_of_inject added
  members := member?_of_inject added
  complete := inject_eq_none_of_inject added

/-! ## One list of fields behind another -/

theorem offered?_append (fields later : List (String × Option String)) (name : String) :
    offered? (fields ++ later) name = (offered? fields name).or (offered? later name) := by
  rw [offered?, List.findSome?_append, offered?, offered?]

theorem injected_of_noObject (noObject : members? line = none)
    (fields : List (String × Option String)) : injected line fields = line := by
  have nothing : inject line fields = none := by
    rw [← Option.not_isSome_iff_eq_none, isSome_inject_iff]
    rintro ⟨members, isObject, _⟩
    exact Option.some_ne_none members (isObject.symm.trans noObject)
  rw [injected, nothing, Option.getD_none]

theorem isSome_members?_injected (isObject : (members? line).isSome)
    (fields : List (String × Option String)) : (members? (injected line fields)).isSome := by
  rw [injected]
  cases added : inject line fields with
  | none => exact isObject
  | some text => exact isSome_members?_of_inject added

/-- A member that is read again as itself stays, and a missing one is what is offered for it. -/
theorem member?_injected (isObject : (members? line).isSome)
    (fields : List (String × Option String))
    (stays : ∀ value, member? line name = some value → value.reread = value) :
    member? (injected line fields) name =
      (member? line name).or ((offered? fields name).map .string) := by
  rw [injected]
  cases added : inject line fields with
  | none =>
      obtain ⟨members, isObject⟩ := Option.isSome_iff_exists.mp isObject
      rw [Option.getD_none]
      cases missing : member? line name with
      | some value => rfl
      | none =>
          rw [member?, isObject, Option.bind_some] at missing
          rw [offered?_eq_none_of_inject added isObject missing]
          rfl
  | some text =>
      have kept : (member? line name).map Value.reread = member? line name := by
        cases found : member? line name with
        | none => rfl
        | some value => exact congrArg some (stays value found)
      rw [Option.getD_some, member?_of_inject added, kept]

theorem reread_member?_injected (isObject : (members? line).isSome)
    (fields : List (String × Option String))
    (stays : ∀ value, member? line name = some value → value.reread = value) :
    ∀ value, member? (injected line fields) name = some value → value.reread = value := by
  intro value found
  rw [member?_injected isObject fields stays, Option.or_eq_some_iff] at found
  rcases found with own | ⟨_, added⟩
  · exact stays value own
  · obtain ⟨text, _, rfl⟩ := Option.map_eq_some_iff.mp added
    rfl

theorem member?_injected_append (fields later : List (String × Option String))
    (stays : ∀ value, member? line name = some value → value.reread = value) :
    member? (injected line (fields ++ later)) name =
      member? (injected (injected line fields) later) name := by
  cases object : members? line with
  | none => simp only [injected_of_noObject object]
  | some members =>
      have isObject : (members? line).isSome := by rw [object, Option.isSome_some]
      calc member? (injected line (fields ++ later)) name
          = (member? line name).or ((offered? (fields ++ later) name).map .string) :=
            member?_injected isObject (fields ++ later) stays
        _ = ((member? line name).or ((offered? fields name).map .string)).or
              ((offered? later name).map .string) := by
            rw [offered?_append, Option.map_or, Option.or_assoc]
        _ = (member? (injected line fields) name).or ((offered? later name).map .string) := by
            rw [member?_injected isObject fields stays]
        _ = member? (injected (injected line fields) later) name :=
            (member?_injected (isSome_members?_injected isObject fields) later
              (reread_member?_injected isObject fields stays)).symm

/-- A member of a line that holds no number in double precision is read again as itself. -/
theorem reread_member? {value : Value} (isMember : member? line name = some value)
    (exact : value.Exact) : value.reread = value := by
  obtain ⟨members, isObject, found⟩ := Option.bind_eq_some_iff.mp isMember
  cases found_of_ofText (ofText_of_members? isObject) with
  | object order parts => exact reread_eq_self (parts _ (mem_of_valueOf?_eq_some found)) exact

end

/-! ## Injecting fields -/

/-- A line gets fields if it is an object and one with a value has a name that it lacks. It is then
one line still, an object of the line's members, each the last of its name, and of the first values
for the names that were missing, and the same fields add nothing more to it. Members that hold no
number in double precision are as they were. Two lists of fields one behind the other add what the
first and then the second add. -/
theorem inject_adds_missing (line : String) (fields : List (String × Option String)) :
    ((inject line fields).isSome ↔ ∃ members, members? line = some members ∧
      ∃ field ∈ fields, field.2 ≠ none ∧ valueOf? field.1 members = none) ∧
    (∀ text, inject line fields = some text → Completes line fields text) ∧
    (∀ members, members? line = some members →
      ∃ nodes, (Document.ofText line).root = .object nodes ∧
        ∀ name, valueOf? name members = (nodes.find? name).bind (·.value.toOption)) ∧
    (∀ name value, member? line name = some value → value.Exact → value.reread = value) ∧
    ∀ later name, (∀ value, member? line name = some value → value.reread = value) →
      member? (injected line (fields ++ later)) name =
        member? (injected (injected line fields) later) name :=
  ⟨isSome_inject_iff, fun _ => completes_of_inject, fun _ => exists_nodes_of_members?,
    fun _ _ => reread_member?, fun later _ => member?_injected_append fields later⟩

/-- A double need not be read as it was written: of the member `x` another number comes back. -/
theorem inject_alters_double :
    inject "\x7b\"x\":1.3e-30\x7d" [("k", some "v")] =
        some "\x7b\"k\":\"v\",\"x\":1.3000000000000001e-30\x7d" ∧
      (member? "\x7b\"x\":1.3e-30\x7d" "x").map Value.compact =
        some "1.3000000000000001e-30" ∧
      (member? "\x7b\"k\":\"v\",\"x\":1.3000000000000001e-30\x7d" "x").map Value.compact =
        some "1.3e-30" ∧
      member? "\x7b\"k\":\"v\",\"x\":1.3000000000000001e-30\x7d" "x" ≠
        member? "\x7b\"x\":1.3e-30\x7d" "x" := by
  have line : (member? "\x7b\"x\":1.3e-30\x7d" "x").map Value.compact =
      some "1.3000000000000001e-30" := by decide +kernel
  have text : (member? "\x7b\"k\":\"v\",\"x\":1.3000000000000001e-30\x7d" "x").map
      Value.compact = some "1.3e-30" := by decide +kernel
  refine ⟨by decide +kernel, line, text, fun same => ?_⟩
  rw [same, line] at text
  exact absurd text (by decide)

end Log

end SyncPods
