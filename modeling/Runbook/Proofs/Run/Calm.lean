import Runbook.Proofs.Run.Trace

/-! # Calm parts of runs

A part of a run is calm if no line begins and no command starts in it, and if it
records no error. What it leaves behind are outputs and records of the log.
-/

namespace Runbook

/-- Whether an event tells that a line begins or that a command starts. -/
def Event.isMark : Event → Bool
  | .began _ | .started _ => true
  | .printed _ _ | .logged _ => false

/-- The lines that begin and the commands that start among some events. -/
def marks (events : List Event) : List Event := events.filter Event.isMark

@[simp] theorem marks_append (first second : List Event) :
    marks (first ++ second) = marks first ++ marks second :=
  List.filter_append ..

def Rule.calm : Rule := fun state events final =>
  marks events = [] ∧ final.errors = state.errors

variable {α β : Type} {stopsAt : Sighting → Bool}

abbrev Calm (stopsAt : Sighting → Bool) (post : α → Prop) (part : Run α) : Prop :=
  Obeys stopsAt .calm post part

theorem joins_calm : Joins stopsAt .calm .calm .calm := by
  intro state middle final before after _ _ ⟨firstCalm, firstErrors⟩ ⟨secondCalm, secondErrors⟩
  exact ⟨by rw [marks_append, firstCalm, secondCalm]; rfl, secondErrors.trans firstErrors⟩

theorem still_calm (state : State) : Rule.calm state [] state := ⟨rfl, rfl⟩

/-! ## Noting records -/

theorem foldl_note (records : List Log.Record) (state : State) :
    records.foldl (fun state record => state.note (.logged record)) state =
      { state with journal := (records.map Event.logged).reverse ++ state.journal } := by
  induction records generalizing state with
  | nil => rfl
  | cons record rest induction =>
      rw [List.foldl_cons, induction]
      simp [State.note]

theorem requested_records (stopsAt : Sighting → Bool) (earlier : List Event)
    (records : List Log.Record) : requested stopsAt earlier (records.map Event.logged) = false := by
  induction records generalizing earlier with
  | nil => rfl
  | cons record rest induction => simp [requested, Event.asksStop, induction]

theorem marks_records (records : List Log.Record) : marks (records.map Event.logged) = [] := by
  rw [marks, List.filter_eq_nil_iff]
  simp [Event.isMark]

namespace Calm

theorem bind {mid : α → Prop} {post : β → Prop} {part : Run α} {next : α → Run β}
    (calm : Calm stopsAt mid part) (rest : ∀ value, mid value → Calm stopsAt post (next value)) :
    Calm stopsAt post (part >>= next) :=
  Obeys.bind joins_calm (fun _ _ _ obeyed => obeyed) calm rest

theorem pure {post : α → Prop} {value : α} (holds : post value) :
    Calm stopsAt post (Pure.pure value) :=
  Obeys.pure still_calm holds

theorem throw {post : α → Prop} (fault : Fault) :
    Calm stopsAt post (MonadExcept.throw fault) :=
  Obeys.throw still_calm fault

theorem get : Calm stopsAt (fun _ => True) (MonadState.get : Run State) := Obeys.get still_calm

theorem ofExcept (result : Except Fault α) :
    Calm stopsAt (fun _ => True) (Run.ofExcept result) :=
  Obeys.ofExcept still_calm result

theorem isStopped : Calm stopsAt (fun _ => True) Run.isStopped := Obeys.isStopped still_calm

theorem attempt {post : α → Prop} {part : Run α} (calm : Calm stopsAt post part) :
    Calm stopsAt (fun result => ∀ value, result = .ok value → post value) (Run.attempt part) :=
  Obeys.attempt calm

theorem record (level : Log.Level) (message : String) :
    Calm stopsAt (fun _ => True) (Run.record level message) :=
  fun _ => ⟨[.logged ⟨level, message⟩], rfl, fun _ => rfl, ⟨rfl, rfl⟩, fun _ _ => trivial⟩

theorem noteRecords (records : List Log.Record) :
    Calm stopsAt (fun _ => True) (modify fun state =>
      records.foldl (fun state record => state.note (.logged record)) state : Run Unit) := by
  intro state
  refine ⟨records.map Event.logged, ?_, ?_, ⟨marks_records records, ?_⟩, fun _ _ => trivial⟩
  · rw [Run.outcome_modify, foldl_note]
  · intro _
    rw [Run.outcome_modify, foldl_note, requested_records, raised_false]
  · rw [Run.outcome_modify, foldl_note]

theorem ofLogged (computation : Logged α) :
    Calm stopsAt (fun _ => True) (Run.ofLogged computation) := by
  unfold Run.ofLogged
  exact (noteRecords _).bind fun _ _ => ofExcept _

/-- Change nothing of what can be seen of a run. -/
theorem ofModify {change : State → State}
    (journal : ∀ state, (change state).journal = state.journal)
    (stops : ∀ state, (change state).stops = state.stops)
    (errors : ∀ state, (change state).errors = state.errors) :
    Calm stopsAt (fun _ => True) (modify change : Run Unit) :=
  fun state => ⟨[], journal state, fun _ => stops state,
    ⟨rfl, errors state⟩, fun _ _ => trivial⟩

theorem setVariable (name : String) (value : Value) :
    Calm stopsAt (fun _ => True) (Run.setVariable name value) :=
  ofModify (fun _ => rfl) (fun _ => rfl) fun _ => rfl

theorem setFiles (files : Files.FileSystem) :
    Calm stopsAt (fun _ => True) (Run.setFiles files) :=
  ofModify (fun _ => rfl) (fun _ => rfl) fun _ => rfl

variable (surroundings : Surroundings)

theorem print (stdout : Bool) (text : String) :
    Calm surroundings.stopsAt (fun _ => True) (surroundings.print stdout text) := by
  intro state
  refine ⟨[.printed stdout text], ?_, ?_, ⟨rfl, ?_⟩, fun _ _ => trivial⟩
  all_goals
    rw [Surroundings.print, Run.outcome_modify]
    cases asked : surroundings.stopsAt ⟨stdout, text, state.journal⟩
  all_goals
    simp [State.note, State.requestStop, requested, Event.asksStop, asked, raised]

theorem say (text : String) :
    Calm surroundings.stopsAt (fun _ => True) (surroundings.say text) :=
  print surroundings true text

theorem remark (text : String) :
    Calm surroundings.stopsAt (fun _ => True) (surroundings.remark text) :=
  print surroundings false text

end Calm

end Runbook
