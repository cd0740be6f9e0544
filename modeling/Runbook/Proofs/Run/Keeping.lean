import Runbook.Proofs.Run.Outcome
import Runbook.Perform

/-! # Parts that keep the variables

Most of what a command does leaves the variables alone. A command that stores a result
does so in its last step, so that it has not touched the variables if it fails before, and
has changed one of them at most if it succeeds.
-/

namespace Runbook

variable {α β : Type}

/-! ## Changes of one variable -/

namespace Variables

theorem get?_set_of_ne {name other : String} (different : name ≠ other) (bindings : Variables)
    (value : Value) : (bindings.set name value).get? other = bindings.get? other := by
  rw [get?_set, if_neg different.symm]

theorem get?_remove_of_ne {name other : String} (different : name ≠ other)
    (bindings : Variables) : (bindings.remove name).get? other = bindings.get? other := by
  change (bindings.entries.filter fun entry => entry.1 != name).lookup other =
    bindings.entries.lookup other
  induction bindings.entries with
  | nil => rfl
  | cons entry rest induction =>
      rcases entry with ⟨first, value⟩
      by_cases same : first = name
      · subst same
        rw [Association.lookup_cons_of_ne different.symm, ← induction,
          List.filter_cons_of_neg (by simp)]
      · rw [List.filter_cons_of_pos (by simpa using same), List.lookup_cons, List.lookup_cons,
          induction]

end Variables

/-! ## Keeping all variables -/

/-- A part comes to an end, in whatever way, and leaves the variables as they are. -/
def Keeps (part : Run α) : Prop :=
  ∀ state, ∃ result final, part.run state = some (result, final) ∧ final.bindings = state.bindings

namespace Keeps

variable {part : Run α} {next : α → Run β}

theorem pure (value : α) : Keeps (Pure.pure value) := fun state => ⟨_, state, rfl, rfl⟩

theorem throw (fault : Fault) : Keeps (MonadExcept.throw fault : Run α) :=
  fun state => ⟨_, state, rfl, rfl⟩

theorem bind (first : Keeps part) (rest : ∀ value, Keeps (next value)) : Keeps (part >>= next) := by
  intro state
  rcases first state with ⟨fault | value, middle, ran, kept⟩
  · exact ⟨.error fault, middle, by rw [Run.run_bind, ran]; rfl, kept⟩
  · rcases rest value middle with ⟨result, final, further, still⟩
    exact ⟨result, final, by rw [Run.run_bind, ran]; exact further, still.trans kept⟩

theorem get {next : State → Run β} (rest : ∀ state, Keeps (next state)) :
    Keeps (MonadState.get >>= next) :=
  fun state => rest state state

theorem ofModify {change : State → State}
    (kept : ∀ state, (change state).bindings = state.bindings) :
    Keeps (modify change : Run Unit) :=
  fun state => ⟨_, change state, rfl, kept state⟩

theorem ofExcept (result : Except Fault α) : Keeps (Run.ofExcept result) := by
  cases result with
  | error fault => exact throw fault
  | ok value => exact pure value

theorem record (level : Log.Level) (message : String) : Keeps (Run.record level message) :=
  ofModify fun _ => rfl

theorem setFiles (files : Files.FileSystem) : Keeps (Run.setFiles files) :=
  ofModify fun _ => rfl

theorem print (surroundings : Surroundings) (stdout : Bool) (text : String) :
    Keeps (surroundings.print stdout text) := by
  refine ofModify fun state => ?_
  dsimp only
  split
  · rfl
  · rfl

theorem sayAll (surroundings : Surroundings) (texts : List String) :
    Keeps (surroundings.sayAll texts) := by
  induction texts with
  | nil => exact pure ()
  | cons text rest induction => exact (print surroundings true text).bind fun _ => induction

end Keeps

/-! ## Storing a result -/

/-- A command comes to an end. Unless it succeeds, it leaves the variables as they are. If
it succeeds, every variable but its destination is as it was. -/
def Stores (destination? : Option String) (part : Run Ending) : Prop :=
  ∀ state, ∃ result final, part.run state = some (result, final) ∧
    (result ≠ .ok .done → final.bindings = state.bindings) ∧
      ∀ other, destination? ≠ some other → final.bindings.get? other = state.bindings.get? other

namespace Stores

variable {destination? : Option String} {part : Run α} {next : α → Run Ending}

theorem ofKeeps {part : Run Ending} (keeps : Keeps part) : Stores destination? part := by
  intro state
  rcases keeps state with ⟨result, final, ran, kept⟩
  exact ⟨result, final, ran, fun _ => kept, fun other _ => by rw [kept]⟩

theorem pure (ending : Ending) : Stores destination? (Pure.pure ending) := ofKeeps (.pure ending)

/-- What comes second has to store its result as it should only for what the first part
returns. -/
theorem after_of_returns {mid : α → Prop} (first : Keeps part) (returns : Returns mid part)
    (rest : ∀ value, mid value → Stores destination? (next value)) :
    Stores destination? (part >>= next) := by
  intro state
  rcases first state with ⟨fault | value, middle, ran, kept⟩
  · refine ⟨.error fault, middle, by rw [Run.run_bind, ran]; rfl, fun _ => kept, ?_⟩
    exact fun other _ => by rw [kept]
  · have returned := returns (Run.run_eq_some_iff.mp ran)
    rcases rest value returned middle with ⟨result, final, further, untouched, others⟩
    rw [kept] at untouched others
    exact ⟨result, final, by rw [Run.run_bind, ran]; exact further, untouched, others⟩

theorem after (first : Keeps part) (rest : ∀ value, Stores destination? (next value)) :
    Stores destination? (part >>= next) :=
  after_of_returns first .anything fun value _ => rest value

theorem get {next : State → Run Ending} (rest : ∀ state, Stores destination? (next state)) :
    Stores destination? (MonadState.get >>= next) :=
  fun state => rest state state

/-- What changes the variables comes last. -/
theorem lastly {change : Variables → Variables}
    (others : ∀ bindings other, destination? ≠ some other →
      (change bindings).get? other = bindings.get? other) :
    Stores destination? (do
      modify fun state => { state with bindings := change state.bindings }
      return .done) :=
  fun _ => ⟨.ok .done, _, rfl, fun failed => absurd rfl failed, others _⟩

theorem setVariable (name : String) (value : Value) :
    Stores (some name) (do Run.setVariable name value; return .done) :=
  lastly fun bindings _ different =>
    bindings.get?_set_of_ne (fun same => different (congrArg some same)) value

end Stores

end Runbook
