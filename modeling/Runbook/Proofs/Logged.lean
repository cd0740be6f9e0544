import Runbook.Logged

/-! # Computations that log

What computations that log come to. For most of them this does not depend on what has been
logged before, so the result of several in a row is put together from their results.
-/

namespace Runbook.Logged

variable {α β : Type}

/-! ## Values -/

/-- Every value that a computation can have is one of those that `post` holds of. -/
def Gives (post : α → Prop) (computation : Logged α) : Prop :=
  ∀ ⦃records value later⦄, computation.run.run records = (.ok value, later) → post value

namespace Gives

variable {mid : α → Prop} {post : β → Prop} {computation : Logged α} {next : α → Logged β}

theorem anything : Gives (fun _ => True) computation := fun _ _ _ _ => trivial

theorem pure {value : α} (holds : mid value) : Gives mid (Pure.pure value) := by
  rintro records _ later ⟨⟩
  exact holds

theorem throw (fault : Fault) : Gives mid (MonadExcept.throw fault) := by
  rintro records _ later ⟨⟩

theorem bind (first : Gives mid computation) (rest : ∀ value, mid value → Gives post (next value)) :
    Gives post (computation >>= next) := by
  intro records value later ended
  have returned := @first records
  rw [ExceptT.run_bind, StateT.run_bind] at ended
  generalize computation.run.run records = reached at ended returned
  rcases reached with ⟨fault | between, middle⟩
  · cases ended
  · exact rest between (returned rfl) ended

/-- What a computation gives depends on what comes last. -/
theorem after (rest : ∀ value, Gives post (next value)) : Gives post (computation >>= next) :=
  anything.bind fun value _ => rest value

end Gives

/-! ## Results -/

/-- A computation ends in a result, whatever was logged before. -/
def Ends (computation : Logged α) (result : Except Fault α) : Prop :=
  ∀ records, (computation.run.run records).1 = result

namespace Ends

variable {computation : Logged α} {next : α → Logged β} {first : Except Fault α}
  {rest : α → Except Fault β}

theorem outcome (ends : Ends computation first) : computation.outcome.1 = first := ends []

theorem pure (value : α) : Ends (Pure.pure value) (.ok value) := fun _ => rfl

theorem throw (fault : Fault) : Ends (MonadExcept.throw fault : Logged α) (.error fault) :=
  fun _ => rfl

theorem ofExcept (result : Except Fault α) : Ends (Logged.ofExcept result) result := by
  cases result with
  | error fault => exact throw fault
  | ok value => exact pure value

theorem bind (ends : Ends computation first) (further : ∀ value, Ends (next value) (rest value)) :
    Ends (computation >>= next) (first >>= rest) := by
  intro records
  have ended := ends records
  rw [ExceptT.run_bind, StateT.run_bind]
  generalize computation.run.run records = reached at ended
  rcases reached with ⟨fault | value, later⟩
  · cases ended
    rfl
  · cases ended
    exact further value later

/-- What a computation goes on with once it has returned. -/
theorem bind_of_ok {value : α} {result : Except Fault β} (ends : Ends computation (.ok value))
    (further : Ends (next value) result) : Ends (computation >>= next) result := by
  intro records
  have ended := ends records
  rw [ExceptT.run_bind, StateT.run_bind]
  generalize computation.run.run records = reached at ended
  rcases reached with ⟨_, later⟩
  cases ended
  exact further later

/-- A computation that has failed goes on with nothing. -/
theorem bind_error {fault : Fault} (ends : Ends computation (.error fault)) :
    Ends (computation >>= next) (.error fault) := by
  intro records
  have ended := ends records
  rw [ExceptT.run_bind, StateT.run_bind]
  generalize computation.run.run records = reached at ended
  rcases reached with ⟨_, later⟩
  cases ended
  rfl

theorem record (level : Log.Level) (message : String) {last : Logged β} {result : Except Fault β}
    (ends : Ends last result) :
    Ends (do Logged.record level message; last) result :=
  fun _ => ends _

end Ends

/-! ## Records -/

/-- A computation ends in a result, and adds records to whatever was logged before. -/
def EndsWith (computation : Logged α) (result : Except Fault α) (logged : List Log.Record) : Prop :=
  ∀ records, computation.run.run records = (result, logged.reverse ++ records)

namespace EndsWith

variable {computation : Logged α} {next : α → Logged β} {logged more : List Log.Record}

theorem outcome {result : Except Fault α} (ends : EndsWith computation result logged) :
    computation.outcome = (result, logged) := by
  rw [Logged.outcome, ends [], List.append_nil]
  simp only [List.reverse_reverse]

theorem pure (value : α) : EndsWith (Pure.pure value) (.ok value) [] := fun _ => rfl

theorem throw (fault : Fault) : EndsWith (MonadExcept.throw fault : Logged α) (.error fault) [] :=
  fun _ => rfl

theorem record (level : Log.Level) (message : String) :
    EndsWith (Logged.record level message) (.ok ()) [⟨level, message⟩] := fun _ => rfl

theorem ofExcept (result : Except Fault α) : EndsWith (Logged.ofExcept result) result [] := by
  cases result with
  | error fault => exact throw fault
  | ok value => exact pure value

theorem bind {value : α} {result : Except Fault β} (ends : EndsWith computation (.ok value) logged)
    (further : EndsWith (next value) result more) :
    EndsWith (computation >>= next) result (logged ++ more) := by
  intro records
  have goesOn : (computation >>= next).run.run records =
      (next value).run.run (logged.reverse ++ records) := by
    rw [ExceptT.run_bind, StateT.run_bind, ends records]
    rfl
  rw [goesOn, further, List.reverse_append, List.append_assoc]

theorem bind_error {fault : Fault} (ends : EndsWith computation (.error fault) logged) :
    EndsWith (computation >>= next) (.error fault) logged := by
  intro records
  rw [ExceptT.run_bind, StateT.run_bind, ends records]
  rfl

theorem ofExcept_bind {value : α} {result : Except Fault β}
    (further : EndsWith (next value) result more) :
    EndsWith (Logged.ofExcept (.ok value) >>= next) result more :=
  (ofExcept _).bind further

end EndsWith

/-- What a computation comes to is the same whatever was logged before. -/
def Steady (computation : Logged α) : Prop := Ends computation computation.outcome.1

section Steady

variable {computation : Logged α} {next : α → Logged β}

theorem Ends.steady {result : Except Fault α} (ends : Ends computation result) :
    Steady computation := by
  rw [Steady, ends.outcome]
  exact ends

namespace Steady

theorem pure (value : α) : Steady (Pure.pure value) := (Ends.pure value).steady

theorem throw (fault : Fault) : Steady (MonadExcept.throw fault : Logged α) :=
  (Ends.throw fault).steady

theorem ofExcept (result : Except Fault α) : Steady (Logged.ofExcept result) :=
  (Ends.ofExcept result).steady

theorem bind (first : Steady computation) (rest : ∀ value, Steady (next value)) :
    Steady (computation >>= next) :=
  (Ends.bind first rest).steady

theorem record (level : Log.Level) (message : String) {last : Logged β} (steady : Steady last) :
    Steady (do Logged.record level message; last) :=
  (Ends.record level message steady).steady

end Steady

end Steady

end Runbook.Logged
