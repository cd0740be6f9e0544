import Runbook.Filter
import Runbook.Proofs.Files.Writing
import Runbook.Proofs.Results

/-! # Passing lines through filters

What a chain of filters makes of a line depends on the line and its stream alone, and not
on the lines that went before: a filter remembers only whether its file has been started,
and writing files does not change which files can be written.
-/

namespace Runbook

open Files (FileSystem)

/-! ## One filter -/

namespace FilterAction

/-- What a filter makes of the lines that it does not drop. -/
def change : FilterAction → String → String
  | .keep _ _, line => line
  | .substitute old new, line =>
      String.ofList (Text.substitute old.toList new.toList line.toList)
  | .rewrite pattern template all, line =>
      match pattern.readTemplate template with
      | .ok parts => String.ofList (pattern.replace parts (if all then none else some 1) line.toList)
      | .error _ => line
  | .copy _ _, line => line

def drops : FilterAction → String → Bool
  | .keep pattern invert, line => pattern.fullMatch line.toList == invert
  | _, _ => false

/-- The filter cannot handle any line: its template is no template, or its file cannot be
written. -/
def Fails (files : FileSystem) : FilterAction → Prop
  | .rewrite pattern template _ => (pattern.readTemplate template).isOk = false
  | .copy path _ => ¬files.Writable path
  | _ => False

instance decidableFails (files : FileSystem) (action : FilterAction) :
    Decidable (action.Fails files) :=
  match action with
  | .keep _ _ | .substitute _ _ => isFalse id
  | .rewrite pattern template _ =>
      inferInstanceAs (Decidable ((pattern.readTemplate template).isOk = false))
  | .copy path _ => inferInstanceAs (Decidable ¬files.Writable path)

/-- What a filter does once it has seen a line. -/
def begun : FilterAction → FilterAction
  | .copy path _ => .copy path true
  | other => other

/-- The filter writes to the file at a place. -/
def CopiesTo (files : FileSystem) (place : List String) : FilterAction → Prop
  | .copy path _ => files.place? path = some place
  | _ => False

@[simp] theorem change_begun (action : FilterAction) : action.begun.change = action.change := by
  cases action <;> rfl

@[simp] theorem drops_begun (action : FilterAction) : action.begun.drops = action.drops := by
  cases action <;> rfl

@[simp] theorem fails_begun (files : FileSystem) (action : FilterAction) :
    action.begun.Fails files = action.Fails files := by
  cases action <;> rfl

@[simp] theorem copiesTo_begun (files : FileSystem) (place : List String)
    (action : FilterAction) : action.begun.CopiesTo files place = action.CopiesTo files place := by
  cases action <;> rfl

@[simp] theorem begun_begun (action : FilterAction) : action.begun.begun = action.begun := by
  cases action <;> rfl

variable {files after : FileSystem} {action : FilterAction}

theorem fails_congr (alike : files.Alike after) : action.Fails after ↔ action.Fails files := by
  cases action with
  | copy path append => exact not_congr (alike.writable_iff path)
  | _ => rfl

theorem copiesTo_congr (alike : files.Alike after) {place : List String} :
    action.CopiesTo after place ↔ action.CopiesTo files place := by
  cases action with
  | copy path append => rw [CopiesTo, CopiesTo, alike.place? path]
  | _ => rfl

end FilterAction

namespace Filter

variable {files : FileSystem} {line : String} {action : FilterAction}

theorem act_of_fails (line : String) (fails : action.Fails files) :
    ∃ fault, act files line action = .error fault := by
  cases action with
  | keep | substitute => cases fails
  | rewrite pattern template all =>
      change (pattern.readTemplate template).isOk = false at fails
      rw [act]
      cases read : pattern.readTemplate template with
      | error fault => exact ⟨.pattern fault, rfl⟩
      | ok parts =>
          rw [read] at fails
          cases fails
  | copy path append =>
      rw [act]
      cases written : files.write path (line ++ "\n").toUTF8 append with
      | error fault => exact ⟨.files fault, rfl⟩
      | ok after => exact absurd (FileSystem.writable_of_write written) fails

/-- What comes of a line that a filter has seen. -/
structure Acted (files : FileSystem) (line : String) (action : FilterAction) (step : Step) :
    Prop where
  line_eq : step.line = if action.drops line then none else some (action.change line)
  action_eq : step.action = action.begun
  alike : files.Alike step.files
  elsewhere : ∀ place, ¬action.CopiesTo files place →
    step.files.contentAt? place = files.contentAt? place

theorem act_of_not_fails (line : String) (works : ¬action.Fails files) :
    ∃ step, act files line action = .ok step ∧ Acted files line action step := by
  cases action with
  | keep pattern invert =>
      refine ⟨_, rfl, ?_, rfl, .refl files, fun _ _ => rfl⟩
      change (if (pattern.fullMatch line.toList != invert) = true then some line else none) =
        if (pattern.fullMatch line.toList == invert) = true then none else some line
      by_cases same : pattern.fullMatch line.toList = invert <;> simp [same]
  | substitute old new => exact ⟨_, rfl, rfl, rfl, .refl files, fun _ _ => rfl⟩
  | rewrite pattern template all =>
      change ¬(pattern.readTemplate template).isOk = false at works
      rw [act]
      cases read : pattern.readTemplate template with
      | error fault =>
          rw [read] at works
          exact absurd rfl works
      | ok parts =>
          refine ⟨⟨_, _, files⟩, rfl, ?_, rfl, .refl files, fun _ _ => rfl⟩
          simp [FilterAction.drops, FilterAction.change, read]
  | copy path append =>
      have writable : files.Writable path := not_not.mp works
      rcases FileSystem.exists_write writable (line ++ "\n").toUTF8 append with ⟨after, written⟩
      refine ⟨⟨some line, .copy path true, after⟩, ?_, rfl, rfl,
        FileSystem.alike_of_write written, fun place other => ?_⟩
      · rw [act, written]
        rfl
      · exact FileSystem.contentAt?_write_of_ne written other

/-- A filter that copies puts the line behind what its file holds, or in its place. -/
theorem contentAt?_act {path : String} {append : Bool} {step : Step} {place : List String}
    (acted : act files line (.copy path append) = .ok step)
    (led : files.place? path = some place) : step.files.contentAt? place =
      some (files.contentAfter place append (line ++ "\n").toUTF8) := by
  rcases Results.bind_eq_ok_iff.mp acted with ⟨after, written, acted⟩
  cases acted
  exact FileSystem.contentAt?_write (Results.mapError_eq_ok_iff.mp written) led

/-! ## Chains of filters -/

section Chain

variable {stdout : Bool} {filter : Filter} {filters front rest back : List Filter}

/-- What filters make of a line of a stream that none of them drops. -/
def arriving (stdout : Bool) (filters : List Filter) (line : String) : String :=
  (filters.filter fun filter => filter.sees stdout).foldl
    (fun line filter => filter.action.change line) line

/-- Some filter drops the line as it arrives there. -/
def Drops (stdout : Bool) (filters : List Filter) (line : String) : Prop :=
  ∃ front filter back, filters = front ++ filter :: back ∧ filter.sees stdout = true ∧
    filter.action.drops (arriving stdout front line) = true

/-- Some filter that the line reaches cannot handle it. -/
def Raises (files : FileSystem) (stdout : Bool) (filters : List Filter) (line : String) : Prop :=
  ∃ front filter back, filters = front ++ filter :: back ∧ filter.sees stdout = true ∧
    ¬Drops stdout front line ∧ filter.action.Fails files

theorem exists_split_cons {property : List Filter → Filter → Prop} :
    (∃ front other back, filter :: rest = front ++ other :: back ∧ property front other) ↔
      property [] filter ∨
        ∃ front other back, rest = front ++ other :: back ∧ property (filter :: front) other := by
  constructor
  · rintro ⟨front, other, back, same, holds⟩
    cases front with
    | nil =>
        cases same
        exact .inl holds
    | cons first front =>
        cases same
        exact .inr ⟨front, other, back, rfl, holds⟩
  · rintro (holds | ⟨front, other, back, rfl, holds⟩)
    · exact ⟨[], filter, rest, rfl, holds⟩
    · exact ⟨filter :: front, other, back, rfl, holds⟩

theorem arriving_append (stdout : Bool) (front back : List Filter) (line : String) :
    arriving stdout (front ++ back) line = arriving stdout back (arriving stdout front line) := by
  rw [arriving, List.filter_append, List.foldl_append]
  rfl

theorem arriving_cons (stdout : Bool) (filter : Filter) (rest : List Filter) (line : String) :
    arriving stdout (filter :: rest) line =
      arriving stdout rest (if filter.sees stdout then filter.action.change line else line) := by
  rw [arriving, List.filter_cons]
  split <;> rfl

theorem not_drops_nil : ¬Drops stdout [] line := by
  rintro ⟨front, filter, back, same, -⟩
  cases front <;> cases same

theorem drops_cons : Drops stdout (filter :: rest) line ↔
    filter.sees stdout = true ∧ filter.action.drops line = true ∨
      Drops stdout rest (if filter.sees stdout then filter.action.change line else line) := by
  simp only [Drops, exists_split_cons, arriving_cons]
  rfl

theorem drops_append : Drops stdout (front ++ back) line ↔
    Drops stdout front line ∨ Drops stdout back (arriving stdout front line) := by
  induction front generalizing line with
  | nil => simp [not_drops_nil, arriving]
  | cons filter front induction =>
      rw [List.cons_append, drops_cons, drops_cons, induction, arriving_cons, or_assoc]

instance decidableDrops (stdout : Bool) :
    (filters : List Filter) → (line : String) → Decidable (Drops stdout filters line)
  | [], _ => isFalse not_drops_nil
  | _ :: rest, _ =>
      have := decidableDrops stdout rest
      decidable_of_iff _ drops_cons.symm

/-- What is left of a line behind filters. -/
def survivor? (stdout : Bool) (filters : List Filter) (line : String) : Option String :=
  if Drops stdout filters line then none else some (arriving stdout filters line)

theorem survivor?_append (stdout : Bool) (front back : List Filter) (line : String) :
    survivor? stdout (front ++ back) line =
      (survivor? stdout front line).bind (survivor? stdout back) := by
  unfold survivor?
  by_cases dropped : Drops stdout front line
  · simp [dropped, drops_append]
  · simp [dropped, drops_append, arriving_append]

theorem survivor?_cons (stdout : Bool) (filter : Filter) (rest : List Filter) (line : String) :
    survivor? stdout (filter :: rest) line =
      if filter.sees stdout = true ∧ filter.action.drops line = true then none
      else survivor? stdout rest (if filter.sees stdout then filter.action.change line else line) := by
  unfold survivor?
  by_cases dropped : filter.sees stdout = true ∧ filter.action.drops line = true
  · simp [dropped, drops_cons]
  · simp [dropped, drops_cons, arriving_cons]

theorem not_raises_nil : ¬Raises files stdout [] line := by
  rintro ⟨front, filter, back, same, -⟩
  cases front <;> cases same

theorem raises_cons : Raises files stdout (filter :: rest) line ↔
    filter.sees stdout = true ∧ filter.action.Fails files ∨
      ¬(filter.sees stdout = true ∧ filter.action.drops line = true) ∧
        Raises files stdout rest (if filter.sees stdout then filter.action.change line else line) := by
  simp only [Raises, exists_split_cons, drops_cons, not_or]
  refine or_congr ⟨fun ⟨sees, _, fails⟩ => ⟨sees, fails⟩, fun ⟨sees, fails⟩ =>
    ⟨sees, not_drops_nil, fails⟩⟩ ⟨?_, ?_⟩
  · rintro ⟨front, other, back, rfl, sees, ⟨kept, passes⟩, fails⟩
    exact ⟨kept, front, other, back, rfl, sees, passes, fails⟩
  · rintro ⟨kept, front, other, back, rfl, sees, passes, fails⟩
    exact ⟨front, other, back, rfl, sees, ⟨kept, passes⟩, fails⟩

instance decidableRaises (files : FileSystem) (stdout : Bool) :
    (filters : List Filter) → (line : String) → Decidable (Raises files stdout filters line)
  | [], _ => isFalse not_raises_nil
  | _ :: rest, _ =>
      have := decidableRaises files stdout rest
      decidable_of_iff _ raises_cons.symm

theorem raises_append : Raises files stdout (front ++ back) line ↔
    Raises files stdout front line ∨
      ¬Drops stdout front line ∧ Raises files stdout back (arriving stdout front line) := by
  induction front generalizing line with
  | nil => simp [not_drops_nil, not_raises_nil, arriving]
  | cons filter front induction =>
      rw [List.cons_append, raises_cons, raises_cons, induction, arriving_cons, drops_cons]
      tauto

theorem raises_alike {after : FileSystem} (alike : files.Alike after) :
    Raises after stdout filters line ↔ Raises files stdout filters line := by
  simp only [Raises, FilterAction.fails_congr alike]

/-! ## What a chain does to a line -/

/-- A filter as it is once it has seen a line. -/
def begun (filter : Filter) : Filter := { filter with action := filter.action.begun }

@[simp] theorem sees_begun (filter : Filter) (stdout : Bool) :
    filter.begun.sees stdout = filter.sees stdout := rfl

@[simp] theorem action_begun (filter : Filter) : filter.begun.action = filter.action.begun := rfl

@[simp] theorem begun_begun (filter : Filter) : filter.begun.begun = filter.begun := by
  simp [begun]

theorem arriving_begun (stdout : Bool) (filters : List Filter) (line : String) :
    arriving stdout (filters.map begun) line = arriving stdout filters line := by
  induction filters generalizing line with
  | nil => rfl
  | cons filter rest induction =>
      rw [List.map_cons, arriving_cons, arriving_cons, induction, sees_begun, action_begun,
        FilterAction.change_begun]

theorem drops_begun : Drops stdout (filters.map begun) line ↔ Drops stdout filters line := by
  induction filters generalizing line with
  | nil => rfl
  | cons filter rest induction =>
      rw [List.map_cons, drops_cons, drops_cons, induction, sees_begun, action_begun,
        FilterAction.change_begun, FilterAction.drops_begun]

theorem raises_begun : Raises files stdout (filters.map begun) line ↔
    Raises files stdout filters line := by
  induction filters generalizing line with
  | nil => rfl
  | cons filter rest induction =>
      rw [List.map_cons, raises_cons, raises_cons, induction, sees_begun, action_begun,
        FilterAction.change_begun, FilterAction.drops_begun, FilterAction.fails_begun]

theorem raises_congr {after : FileSystem} {others : List Filter} (alike : files.Alike after)
    (same : others.map begun = filters.map begun) (line : String) :
    Raises after stdout others line ↔ Raises files stdout filters line := by
  rw [raises_alike alike, ← raises_begun, same, raises_begun]

theorem survivor?_congr {others : List Filter} (same : others.map begun = filters.map begun)
    (line : String) : survivor? stdout others line = survivor? stdout filters line := by
  have begunSame (chain : List Filter) :
      survivor? stdout (chain.map begun) line = survivor? stdout chain line := by
    simp only [survivor?, drops_begun, arriving_begun]
  rw [← begunSame others, same, begunSame filters]

/-- The ways of a line through the first filter of a chain: past it, into a failure, or
through it. -/
theorem passAll_cons_cases (files : FileSystem) (line : String) (stdout : Bool) (filter : Filter)
    (rest : List Filter) :
    (filter.sees stdout = false ∧
      passAll files line stdout (filter :: rest) =
        (passAll files line stdout rest).behind filter) ∨
    (filter.sees stdout = true ∧ filter.action.Fails files ∧
      ∃ fault, passAll files line stdout (filter :: rest) = ⟨.error fault, filter :: rest, files⟩) ∨
    (filter.sees stdout = true ∧ ¬filter.action.Fails files ∧
      ∃ step, act files line filter.action = .ok step ∧ Acted files line filter.action step ∧
        passAll files line stdout (filter :: rest) =
          if filter.action.drops line then ⟨.ok none, filter.begun :: rest, step.files⟩
          else (passAll step.files (filter.action.change line) stdout rest).behind filter.begun) := by
  cases sees : filter.sees stdout with
  | false => exact .inl ⟨rfl, by simp [passAll, sees]⟩
  | true =>
      by_cases fails : filter.action.Fails files
      · rcases act_of_fails line fails with ⟨fault, failed⟩
        exact .inr (.inl ⟨rfl, fails, fault, by simp [passAll, sees, failed]⟩)
      · rcases act_of_not_fails line fails with ⟨step, acted, through⟩
        refine .inr (.inr ⟨rfl, fails, step, acted, through, ?_⟩)
        simp only [passAll, sees, acted, ↓reduceIte, through.line_eq, through.action_eq]
        by_cases dropped : filter.action.drops line
        · simp only [dropped, ↓reduceIte]
          rfl
        · simp only [dropped, Bool.false_eq_true, ↓reduceIte]
          rfl

/-- A chain of filters stays as it is, apart from the files that it has started. -/
theorem begun_passAll (files : FileSystem) (line : String) (stdout : Bool)
    (filters : List Filter) :
    (passAll files line stdout filters).filters.map begun = filters.map begun := by
  induction filters generalizing files line with
  | nil => rfl
  | cons filter rest induction =>
      rcases passAll_cons_cases files line stdout filter rest with
        ⟨-, passed⟩ | ⟨-, -, fault, passed⟩ | ⟨-, -, step, -, -, passed⟩
      · rw [passed, Passed.behind, List.map_cons, induction, List.map_cons]
      · rw [passed]
      · rw [passed]
        split
        · rw [List.map_cons, begun_begun, List.map_cons]
        · rw [Passed.behind, List.map_cons, induction, begun_begun, List.map_cons]

/-- No directory and no link changes when a line passes. -/
theorem alike_passAll (files : FileSystem) (line : String) (stdout : Bool)
    (filters : List Filter) : files.Alike (passAll files line stdout filters).files := by
  induction filters generalizing files line with
  | nil => exact .refl files
  | cons filter rest induction =>
      rcases passAll_cons_cases files line stdout filter rest with
        ⟨-, passed⟩ | ⟨-, -, fault, passed⟩ | ⟨-, -, step, -, through, passed⟩
      · rw [passed]
        exact induction files line
      · rw [passed]
        exact .refl files
      · rw [passed]
        split
        · exact through.alike
        · exact through.alike.trans (induction step.files _)

/-- A file changes when a line passes only if some filter copies to it. -/
theorem contentAt?_passAll {place : List String} (stdout : Bool) (line : String)
    (apart : ∀ filter ∈ filters, ¬filter.action.CopiesTo files place) :
    (passAll files line stdout filters).files.contentAt? place = files.contentAt? place := by
  induction filters generalizing files line with
  | nil => rfl
  | cons filter rest induction =>
      rcases List.forall_mem_cons.mp apart with ⟨first, others⟩
      rcases passAll_cons_cases files line stdout filter rest with
        ⟨-, passed⟩ | ⟨-, -, fault, passed⟩ | ⟨-, -, step, -, through, passed⟩
      · rw [passed]
        exact induction line others
      · rw [passed]
      · rw [passed]
        split
        · exact through.elsewhere place first
        · refine (induction _ fun other member => ?_).trans (through.elsewhere place first)
          exact fun copies => others other member
            ((FilterAction.copiesTo_congr through.alike).mp copies)

/-- A line comes out changed, is dropped, or raises a fault. -/
theorem outcome_passAll (files : FileSystem) (line : String) (stdout : Bool)
    (filters : List Filter) :
    (Raises files stdout filters line →
      ∃ fault, (passAll files line stdout filters).outcome = .error fault) ∧
    (¬Raises files stdout filters line →
      (passAll files line stdout filters).outcome = .ok (survivor? stdout filters line)) := by
  induction filters generalizing files line with
  | nil => exact ⟨fun raises => absurd raises not_raises_nil, fun _ => by
      simp [passAll, survivor?, not_drops_nil, arriving]⟩
  | cons filter rest induction =>
      rw [raises_cons, survivor?_cons]
      rcases passAll_cons_cases files line stdout filter rest with
        ⟨blind, passed⟩ | ⟨sees, fails, fault, passed⟩ | ⟨sees, works, step, -, through, passed⟩
      · simpa [passed, blind, Passed.behind] using induction files line
      · simp [passed, sees, fails]
      · rw [passed]
        by_cases dropped : filter.action.drops line
        · simp [sees, works, dropped]
        · have later := induction step.files (filter.action.change line)
          rw [raises_alike through.alike] at later
          simpa [sees, works, dropped, Passed.behind] using later

/-- What comes of a line that has come through some filters and goes on through others. -/
def Passed.onward (stdout : Bool) (back : List Filter) (passed : Passed) : Passed :=
  match passed.outcome with
  | .ok (some line) =>
      let second := passAll passed.files line stdout back
      ⟨second.outcome, passed.filters ++ second.filters, second.files⟩
  | outcome => ⟨outcome, passed.filters ++ back, passed.files⟩

theorem onward_behind (stdout : Bool) (back : List Filter) (filter : Filter) (passed : Passed) :
    (passed.behind filter).onward stdout back = (passed.onward stdout back).behind filter := by
  rcases passed with ⟨fault | (_ | line), filters, files⟩
  · rfl
  · rfl
  · rfl

/-- A chain passes on to the filters behind it what comes out of it. -/
theorem passAll_append (files : FileSystem) (line : String) (stdout : Bool)
    (front back : List Filter) :
    passAll files line stdout (front ++ back) =
      (passAll files line stdout front).onward stdout back := by
  induction front generalizing files line with
  | nil => rfl
  | cons filter front induction =>
      rw [List.cons_append, passAll, passAll]
      split
      · cases act files line filter.action with
        | error fault => rfl
        | ok step =>
            rcases step with ⟨_ | line, action, files⟩
            · rfl
            · simp only [induction, onward_behind]
      · rw [induction, onward_behind]

end Chain

end Filter

end Runbook
