import Runbook.Profile
import Mathlib.Logic.Basic

/-! # What documents describe

A mapping with a name and an executable describes a profile, if its arguments can be gone through
and its variables are a mapping again. An empty value, and a mapping without a name or without an
executable, are incomplete. All other values have the wrong shape for a profile, each in a way that
ends in a fault of its own.
-/

namespace Runbook.Profile

/-- The arguments that a value lists. -/
inductive Lists : Document.Value → List String → Prop
  | nothing {value : Document.Value} (empty : value.isTrue = false) : Lists value []
  | words (text : String) : Lists (.text text) ((Text.words text.toList).map String.ofList)
  | elements (elements : Document.Values) :
      Lists (.sequence elements) (elements.toList.map Document.Value.write)
  | members (elements : Document.Values) :
      Lists (.set elements) (elements.toList.map Document.Value.write)
  | both (first second : Document.Value) :
      Lists (.pair first second) [first.write, second.write]
  | keys (fields : Document.Fields) :
      Lists (.mapping fields) (fields.toList.map fun field => field.1.write)
  | bytes (bytes : List UInt8) :
      Lists (.bytes bytes) (bytes.map fun byte => toString byte.toNat)

/-- The variables that a value binds. -/
inductive Binds : Document.Value → List (String × String) → Prop
  | nothing {value : Document.Value} (empty : value.isTrue = false) : Binds value []
  | fields (fields : Document.Fields) :
      Binds (.mapping fields)
        (Association.ofList (fields.toList.map fun (key, value) => (key.write, value.write)))

/-- The fields without which there is no profile. -/
def IsComplete (fields : Document.Fields) : Prop :=
  (fields.field "name").isTrue = true ∧ (fields.field "executable").isTrue = true

/-- The fields of a mapping that describes a profile. -/
structure Describes (fields : Document.Fields) (profile : Profile) : Prop where
  complete : IsComplete fields
  name : profile.name = (fields.field "name").write
  executable : profile.executable = (fields.field "executable").write
  arguments : Lists (fields.field "arguments") profile.arguments
  bindings : Binds (fields.field "variables") profile.bindings
  directory : profile.workingDirectory =
    if (fields.field "workdir").isTrue then some (fields.field "workdir").write else none

/-- A value that is empty, or a mapping in which a field is missing. -/
inductive Incomplete : Document.Value → Prop
  | empty {value : Document.Value} (empty : value.isTrue = false) : Incomplete value
  | fields {fields : Document.Fields} (missing : ¬IsComplete fields) : Incomplete (.mapping fields)

/-- What comes of asking a value for something that values of its kind do not have. -/
def lacks (value : Document.Value) (use : String) : Fault :=
  .attribute s!"'{value.typeName}' object has no attribute '{use}'"

/-- What comes of going through a value that has no elements. -/
def isNoList (value : Document.Value) : Fault :=
  .type s!"'{value.typeName}' object is not iterable"

/-- A value of the wrong shape, and the fault that it ends in. -/
inductive Misfit : Document.Value → Fault → Prop
  | value {value : Document.Value} (filled : value.isTrue = true)
      (shape : ∀ fields, value ≠ .mapping fields) :
      Misfit value (lacks value "get")
  | arguments {fields : Document.Fields} {value : Document.Value} (complete : IsComplete fields)
      (field : fields.field "arguments" = value) (shape : ∀ arguments, ¬Lists value arguments) :
      Misfit (.mapping fields) (isNoList value)
  | bindings {fields : Document.Fields} {value : Document.Value} {arguments : List String}
      (complete : IsComplete fields) (lists : Lists (fields.field "arguments") arguments)
      (field : fields.field "variables" = value) (shape : ∀ bindings, ¬Binds value bindings) :
      Misfit (.mapping fields) (lacks value "items")

/-- The fault of a document in which a field is missing. -/
def incompleteness : Fault := .value "Environment requires 'name' and 'executable'"

section Parts

variable {value : Document.Value}

theorem argumentsOf_of_lists {arguments : List String} (lists : Lists value arguments) :
    argumentsOf value = .ok arguments := by
  cases lists with
  | nothing empty => simp [argumentsOf, empty]
  | words text =>
      by_cases empty : text = ""
      · subst empty
        rfl
      · simp [argumentsOf, Document.Value.isTrue, empty]
  | elements elements | members elements => cases elements <;> rfl
  | both first second => rfl
  | keys fields => cases fields <;> rfl
  | bytes bytes => cases bytes <;> rfl

theorem lists_or_fails (value : Document.Value) :
    (∃ arguments, Lists value arguments) ∨
      argumentsOf value = .error (isNoList value) := by
  by_cases filled : value.isTrue = true
  · cases value with
    | text text => exact .inl ⟨_, .words text⟩
    | sequence elements => exact .inl ⟨_, .elements elements⟩
    | set elements => exact .inl ⟨_, .members elements⟩
    | pair first second => exact .inl ⟨_, .both first second⟩
    | mapping fields => exact .inl ⟨_, .keys fields⟩
    | bytes bytes => exact .inl ⟨_, .bytes bytes⟩
    | null | boolean | integer | decimal | moment | cycle => simp [argumentsOf, filled, isNoList]
  · exact .inl ⟨[], .nothing (Bool.not_eq_true _ ▸ filled)⟩

theorem fieldsOf_of_shape (use : String) (shape : ∀ fields, value ≠ .mapping fields) :
    fieldsOf use value = .error (lacks value use) := by
  cases value with
  | mapping fields => exact absurd rfl (shape fields)
  | _ => rfl

theorem variablesOf_of_binds {bindings : List (String × String)} (binds : Binds value bindings) :
    variablesOf value = .ok bindings := by
  cases binds with
  | nothing empty => simp [variablesOf, empty]
  | fields fields => cases fields <;> rfl

theorem binds_or_fails (value : Document.Value) :
    (∃ bindings, Binds value bindings) ∨ variablesOf value = .error (lacks value "items") := by
  by_cases filled : value.isTrue = true
  · by_cases mapping : ∃ fields, value = .mapping fields
    · rcases mapping with ⟨fields, rfl⟩
      exact .inl ⟨_, .fields fields⟩
    · refine .inr ?_
      rw [variablesOf, filled, fieldsOf_of_shape "items" (not_exists.mp mapping)]
      rfl
  · exact .inl ⟨[], .nothing (Bool.not_eq_true _ ▸ filled)⟩

end Parts

section Whole

variable {value : Document.Value} {fields : Document.Fields} {profile : Profile} {fault : Fault}

theorem ofValue_of_complete (complete : IsComplete fields) :
    ofValue (.mapping fields) = (do
      let arguments ← argumentsOf (fields.field "arguments")
      let bindings ← variablesOf (fields.field "variables")
      return {
        name := (fields.field "name").write
        executable := (fields.field "executable").write
        arguments := arguments
        bindings := bindings
        workingDirectory :=
          if (fields.field "workdir").isTrue then some (fields.field "workdir").write
          else none }) := by
  have incomplete :
      ¬(!(fields.field "name").isTrue || !(fields.field "executable").isTrue) = true := by
    rw [complete.1, complete.2]
    decide
  exact if_neg incomplete

theorem ofValue_of_describes (describes : Describes fields profile) :
    ofValue (.mapping fields) = .ok profile := by
  rcases describes with ⟨complete, name, executable, arguments, bindings, directory⟩
  rw [ofValue_of_complete complete, argumentsOf_of_lists arguments, variablesOf_of_binds bindings,
    ← name, ← executable, ← directory]
  rfl

theorem ofValue_of_incomplete (missing : ¬IsComplete fields) :
    ofValue (.mapping fields) = .error incompleteness := by
  have incomplete :
      (!(fields.field "name").isTrue || !(fields.field "executable").isTrue) = true := by
    rw [Bool.or_eq_true, Bool.not_eq_true', Bool.not_eq_true', ← Bool.not_eq_true,
      ← Bool.not_eq_true, ← not_and_or]
    exact missing
  exact if_pos incomplete

theorem ofValue_of_misfit (misfit : Misfit value fault) : ofValue value = .error fault := by
  cases misfit with
  | value filled shape =>
      rw [ofValue, fieldsOf_of_shape "get" shape]
      rfl
  | @arguments fields value complete field shape =>
      have fails := (lists_or_fails value).resolve_left (not_exists.mpr shape)
      rw [ofValue_of_complete complete, field, fails]
      rfl
  | @bindings fields value arguments complete lists field shape =>
      have fails := (binds_or_fails value).resolve_left (not_exists.mpr shape)
      rw [ofValue_of_complete complete, argumentsOf_of_lists lists, field, fails]
      rfl

/-- A value describes a profile, or it lacks a field of one, or it has the wrong shape. -/
theorem ofValue_cases (filled : value.isTrue = true) :
    (∃ fields profile, value = .mapping fields ∧ Describes fields profile) ∨
      Incomplete value ∨ ∃ fault, Misfit value fault := by
  by_cases mapping : ∃ fields, value = .mapping fields
  · rcases mapping with ⟨fields, rfl⟩
    by_cases complete : IsComplete fields
    · by_cases listing : ∃ arguments, Lists (fields.field "arguments") arguments
      · rcases listing with ⟨arguments, lists⟩
        by_cases binding : ∃ bindings, Binds (fields.field "variables") bindings
        · rcases binding with ⟨bindings, binds⟩
          exact .inl ⟨fields, ⟨_, _, arguments, bindings, _⟩, rfl, complete, rfl, rfl, lists, binds,
            rfl⟩
        · exact .inr (.inr ⟨_, .bindings complete lists rfl (not_exists.mp binding)⟩)
      · exact .inr (.inr ⟨_, .arguments complete rfl (not_exists.mp listing)⟩)
    · exact .inr (.inl (.fields complete))
  · exact .inr (.inr ⟨_, .value filled (not_exists.mp mapping)⟩)

end Whole

end Runbook.Profile
