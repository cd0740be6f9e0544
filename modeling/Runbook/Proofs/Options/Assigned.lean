import Runbook.Options.Reading
import Runbook.Proofs.Text.Marks

/-! # Arguments that assign a text

An argument that consists of a flag, an equals sign and a text gives this text to the
parameter of the flag. Nothing in the text is looked at, not even further equals signs,
blanks or dashes, as long as no flag of the grammar has an equals sign itself.
-/

namespace Runbook.Options

/-- An argument that gives a text to a flag. -/
def assigning (flag text : String) : String := flag ++ "=" ++ text

theorem toList_assigning (flag text : String) :
    (assigning flag text).toList = flag.toList ++ '=' :: text.toList := by
  simp [assigning]

theorem assigning_ne {flag other : String} (text : String) (unmarked : '=' ∉ other.toList) :
    assigning flag text ≠ other := by
  rintro rfl
  simp [toList_assigning] at unmarked

theorem splitAssignment_assigning {flag : String} (text : String) (unmarked : '=' ∉ flag.toList) :
    splitAssignment (assigning flag text).toList = (flag.toList, some text.toList) := by
  rw [splitAssignment, toList_assigning, Text.splitAtFirst_append_cons unmarked]

section Reading

variable {grammar : Grammar} {flag : String} {parameter : Parameter}
  (known : grammar.find? flag = some parameter)
  (unmarked : ∀ entry ∈ grammar.flags, '=' ∉ entry.1.toList)
  (dashed : flag.toList.head? = some '-')
include known unmarked

omit unmarked in
theorem mem_flags_of_find? : (flag, parameter) ∈ grammar.flags := by
  rcases List.lookup_eq_some_iff.mp known with ⟨before, after, entries, -⟩
  exact entries ▸ List.mem_append_cons_self

theorem unmarked_of_find? : '=' ∉ flag.toList :=
  unmarked _ (mem_flags_of_find? known)

omit known in
theorem find?_assigning (text : String) : grammar.find? (assigning flag text) = none := by
  apply List.lookup_eq_none_iff.mpr
  intro entry member
  simpa using assigning_ne text (unmarked entry member)

include dashed

theorem roleOf_assigning (text : String) :
    roleOf grammar (assigning flag text) =
      .ok (.flag ⟨flag, parameter, some text.toList, true⟩) := by
  have starts : (assigning flag text).toList.head? = some '-' := by
    simp [toList_assigning, dashed]
  have long : (assigning flag text).toList.length ≠ 1 := by
    have nonempty : flag.toList ≠ [] := by
      intro empty
      rw [empty] at dashed
      contradiction
    have positive := List.length_pos_of_ne_nil nonempty
    rw [toList_assigning, List.length_append, List.length_cons]
    omega
  rw [roleOf]
  simp [starts, long, find?_assigning unmarked,
    splitAssignment_assigning text (unmarked_of_find? known unmarked), known]

theorem classify_assigning (text : String) :
    classify grammar [assigning flag text] =
      .ok [⟨assigning flag text, .flag ⟨flag, parameter, some text.toList, true⟩⟩] := by
  have notSeparator : assigning flag text ≠ "--" := assigning_ne text (by decide)
  rw [classify, if_neg (by simpa using notSeparator), roleOf_assigning known unmarked dashed text]
  rfl

omit known unmarked dashed in
theorem takeFlag_assigning (takesText : parameter.kind = .text) (progress : Progress)
    (text : String) (rest : List Argument) :
    takeFlag grammar progress ⟨flag, parameter, some text.toList, true⟩ rest =
      .ok (progress.set parameter (.text text), rest) := by
  have takes : parameter.takesValue = true := by rw [Parameter.takesValue, takesText]; rfl
  have clustered : cluster grammar (text.toList.length + 1) flag parameter text.toList true =
      .ok ([], .value parameter text) := by
    simp [cluster, takes]
  have assigned : assign progress parameter text = .ok (progress.set parameter (.text text)) := by
    rw [assign, takesText]
  rw [takeFlag]
  dsimp only
  rw [clustered]
  change (do return (← assign progress parameter text, rest) : Except Stop _) = _
  rw [assigned]
  rfl

/-- Reading one argument that gives a text to a parameter sets this parameter, and all
others are as if nothing was given. -/
theorem read_assigning (takesText : parameter.kind = .text)
    (sufficient : ∀ other ∈ grammar.parameters, other.required = true → other = parameter)
    (text : String) :
    read grammar [assigning flag text] =
      .ok ((Progress.empty.set parameter (.text text)).result grammar) := by
  have consumed : consume grammar 1 .empty
      [⟨assigning flag text, .flag ⟨flag, parameter, some text.toList, true⟩⟩] =
        .ok (Progress.empty.set parameter (.text text)) := by
    rw [consume]
    dsimp only
    rw [takeFlag_assigning takesText]
    rfl
  have present : grammar.parameters.filter (fun other =>
      other.required && !(Progress.empty.set parameter (.text text)).seen.contains other) = [] := by
    simpa [Progress.set, Progress.empty] using sufficient
  rw [read, classify_assigning known unmarked dashed]
  simp only [bind, Except.bind, List.length_singleton, consumed, present]
  rfl

end Reading

end Runbook.Options
