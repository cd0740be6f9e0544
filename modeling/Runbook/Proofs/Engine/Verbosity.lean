import Runbook.Proofs.Engine.Lockstep
import Runbook.Proofs.Engine.Reporting

/-! # What verbosity changes

Showing the lines of a script adds remarks to the output of a run and changes nothing
else: not how the run ends, nor what it prints as results, nor its errors, variables and
files. This holds at every depth, since loops and scripts pass verbosity on.
-/

namespace Runbook

open Script (Instruction)

/-- Whether a text shows a line of a script, as it is written or as it is expanded. -/
def isAnnouncement (text : String) : Bool :=
  "[RAW] ".toList.isPrefixOf text.toList || "[EXP] ".toList.isPrefixOf text.toList

/-- Whether an output is a remark that shows a line. -/
def announces (output : Bool × String) : Bool := !output.1 && isAnnouncement output.2

theorem isAnnouncement_raw (line : String) : isAnnouncement s!"[RAW] {line}" = true := by
  have starts : (s!"[RAW] {line}").toList = "[RAW] ".toList ++ line.toList := String.toList_append ..
  simp [isAnnouncement, starts]

theorem isAnnouncement_expanded (line : String) : isAnnouncement s!"[EXP] {line}" = true := by
  have starts : (s!"[EXP] {line}").toList = "[EXP] ".toList ++ line.toList := String.toList_append ..
  simp [isAnnouncement, starts]

theorem lowers_announces : Lowers announces true false :=
  .lower isAnnouncement_raw isAnnouncement_expanded

/-- The lines on one of the streams. -/
def View.lines (stdout : Bool) (view : View) : List String :=
  view.printed.filterMap fun output => if output.1 = stdout then some output.2 else none

/-- What can be seen of a quiet run, next to what can be seen of a loud one: the same,
but for remarks of the loud run that show lines. -/
structure Quiets (loud quiet : View) : Prop where
  errors : quiet.errors = loud.errors
  bindings : quiet.bindings = loud.bindings
  files : quiet.files = loud.files
  results : quiet.lines true = loud.lines true
  remarks : Thins isAnnouncement (loud.lines false) (quiet.lines false)

theorem Hushed.quiets {loud quiet : State} (hushed : Hushed announces loud quiet) :
    Quiets loud.view quiet.view where
  errors := hushed.errors.symm
  bindings := hushed.bindings.symm
  files := hushed.files.symm
  results := by
    have thins : Thins (fun _ => false) (loud.view.lines true) (quiet.view.lines true) := by
      refine hushed.printed.filterMap ?_
      rintro ⟨_ | _, text⟩ value ⟨⟩
      rfl
    exact thins.eq_of_unspared fun _ => rfl
  remarks := by
    refine hushed.printed.filterMap ?_
    rintro ⟨_ | _, text⟩ value ⟨⟩
    rfl

namespace Engine

/-- A run that shows its lines and one that does not, from the same state, both come to an
end or neither does. They end in the same way, with the same results, errors, variables
and files, and the remarks of the quiet run are those of the loud one without some that
show lines. -/
theorem verbosity_only_announces {surroundings : Surroundings}
    (unwatched : surroundings.Unwatched) (fuel : Nat) (instructions : List Instruction)
    (state : State) :
    Option.Rel (fun loud quiet => loud.1 = quiet.1 ∧ Quiets loud.2.view quiet.2.view)
      ((runBlock fuel (surroundings.speaking true) true instructions).run state)
      ((runBlock fuel (surroundings.speaking false) false instructions).run state) := by
  have inStep := inStep_runBlock fuel (unwatched.heedless announces) lowers_announces
    lowers_announces instructions
  exact inStep.run (.refl announces state) fun _ _ hushed => hushed.quiets

/-- A line that succeeds, and a script in a file that fails inside a loop. -/
def nestedScript : List Instruction := [.line "echo --message start", .line "script --file inner"]

theorem verbosity_only_announces_nested :
    ∃ loud quiet,
      (runBlock 6 (bareSurroundings.speaking true) true nestedScript).run nestedState =
          some (.ok false, loud) ∧
        (runBlock 6 (bareSurroundings.speaking false) false nestedScript).run
            nestedState = some (.ok false, quiet) ∧
          Quiets loud.view quiet.view := by
  have unwatched : bareSurroundings.Unwatched := fun _ => rfl
  have compared := verbosity_only_announces unwatched 6 nestedScript nestedState
  have failed : ((runBlock 6 (bareSurroundings.speaking true) true nestedScript).run
      nestedState).map (fun ended => ended.1.toOption) = some (some false) := by
    decide +kernel
  rcases Run.exists_run_eq_ok failed with ⟨loud, ran⟩
  rw [ran] at compared ⊢
  generalize (runBlock 6 (bareSurroundings.speaking false) false nestedScript).run
    nestedState = reached at compared ⊢
  cases compared with
  | @some _ ended compared =>
      rcases ended with ⟨result, quiet⟩
      rcases compared with ⟨same, quiets⟩
      dsimp only at same
      subst same
      exact ⟨loud, quiet, rfl, rfl, quiets⟩

end Engine

end Runbook
