import Runbook.Proofs.Filter.Passing

/-! # Lines sent through a chain of filters

A chain that no line makes raise a fault sends out the lines that none of its filters drops,
and each filter that copies has its file hold the lines that have reached it. Two chains
one behind the other do the same as the chain of all their filters, even if the second one
is only run once the first one is through.
-/

namespace Runbook.Filter

open Files (FileSystem)

/-! ## Copied lines -/

/-- The content of a file that lines are written to. -/
def written (lines : List String) : ByteArray :=
  (String.join (lines.map fun line => line ++ "\n")).toUTF8

/-- What a file holds once lines have been copied to it, given what it held before. It
stays as it is until the first line. -/
def copied (append : Bool) (old : Option ByteArray) (lines : List String) : Option ByteArray :=
  if lines.isEmpty then old
  else some ((if append then old.getD .empty else .empty) ++ written lines)

theorem written_append (first second : List String) :
    written (first ++ second) = written first ++ written second := by
  simp [written, String.toByteArray_append]

/-- Once a file has been started, further lines go behind those that it holds. -/
theorem copied_append (append : Bool) (old : Option ByteArray) (first second : List String) :
    copied append old (first ++ second) =
      copied (append || !first.isEmpty) (copied append old first) second := by
  unfold copied
  cases first with
  | nil => simp
  | cons line rest =>
      cases second with
      | nil => simp
      | cons next further =>
          rw [written_append]
          simp [ByteArray.append_assoc]

section Chain

variable {files : FileSystem} {stdout append : Bool} {path line : String} {place : List String}
  {filter : Filter} {filters front back : List Filter}

/-- The line that reaches a filter behind others and is seen by it, if one does. -/
def reaching (front : List Filter) (filter : Filter) (entry : Bool × String) : Option String :=
  if filter.sees entry.1 then survivor? entry.1 front entry.2 else none

theorem survivor?_eq_some_iff {out : String} : survivor? stdout filters line = some out ↔
    ¬Drops stdout filters line ∧ arriving stdout filters line = out := by
  unfold survivor?
  split
  · simp [*]
  · simp [*]

theorem contentAfter_eq (files : FileSystem) (place : List String) (append : Bool)
    (line : String) : some (files.contentAfter place append (line ++ "\n").toUTF8) =
      copied append (files.contentAt? place) [line] := by
  simp [FileSystem.contentAfter, copied, written]

/-- No filter copies to a place. -/
def Spare (files : FileSystem) (place : List String) (filters : List Filter) : Prop :=
  ∀ filter ∈ filters, ¬filter.action.CopiesTo files place

theorem Spare.congr {after : FileSystem} (spare : Spare files place filters)
    (alike : files.Alike after) : Spare after place filters :=
  fun filter member copies =>
    spare filter member ((FilterAction.copiesTo_congr alike).mp copies)

theorem Spare.of_begun {others : List Filter} (spare : Spare files place filters)
    (same : others.map begun = filters.map begun) : Spare files place others := by
  intro other member copies
  have found : other.begun ∈ filters.map begun := same ▸ List.mem_map_of_mem member
  rcases List.mem_map.mp found with ⟨filter, there, equal⟩
  refine spare filter there ?_
  rw [← FilterAction.copiesTo_begun, ← action_begun, equal, action_begun,
    FilterAction.copiesTo_begun]
  exact copies

theorem spare_append : Spare files place (front ++ back) ↔
    Spare files place front ∧ Spare files place back :=
  List.forall_mem_append

/-- The filter after a line: one that copies has started its file if it has seen the line. -/
def following (filter : Filter) (reached : Option String) : Filter :=
  if reached.isSome then filter.begun else filter

theorem action_following (copies : filter.action = .copy path append)
    (reached : Option String) : (filter.following reached).action =
      .copy path (append || !reached.toList.isEmpty) := by
  cases reached with
  | none => simp [following, copies]
  | some line => simp [following, copies, FilterAction.begun]

theorem reaching_following {front' : List Filter} (same : front'.map begun = front.map begun)
    (filter : Filter) (reached : Option String) :
    reaching front' (filter.following reached) = reaching front filter := by
  funext entry
  rw [reaching, reaching, survivor?_congr same, following]
  split <;> rfl

/-- What a line does to the file of one filter of a chain. -/
theorem passAll_copies (copies : filter.action = .copy path append)
    (led : files.place? path = some place) (before : Spare files place front)
    (behind : Spare files place back)
    (works : ¬Raises files stdout (front ++ filter :: back) line) :
    let passed := passAll files line stdout (front ++ filter :: back)
    let reached := reaching front filter (stdout, line)
    (∃ front' back', passed.filters = front' ++ filter.following reached :: back' ∧
      front'.map begun = front.map begun ∧ back'.map begun = back.map begun) ∧
    passed.files.contentAt? place = copied append (files.contentAt? place) reached.toList := by
  intro passed reached
  rw [raises_append, not_or, not_and, raises_cons] at works
  have outcome := (outcome_passAll files line stdout front).2 works.1
  have alike := alike_passAll files line stdout front
  have kept := contentAt?_passAll stdout line before
  have same := begun_passAll files line stdout front
  simp only [passed, reached, passAll_append, Passed.onward, outcome, reaching]
  generalize passAll files line stdout front = first at alike kept same
  cases survived : survivor? stdout front line with
  | none =>
      refine ⟨⟨first.filters, back, by simp [following], same, rfl⟩, ?_⟩
      simpa [copied] using kept
  | some out =>
      rcases survivor?_eq_some_iff.mp survived with ⟨passes, arrives⟩
      have works := works.2 passes
      rw [not_or, arrives] at works
      rcases passAll_cons_cases first.files out stdout filter back with
        ⟨blind, second⟩ | ⟨sees, fails, -⟩ | ⟨sees, -, step, acted, through, second⟩
      · simp only [second, blind, Bool.false_eq_true, ↓reduceIte, following, Passed.behind]
        refine ⟨⟨first.filters, _, rfl, same, begun_passAll _ _ _ _⟩, ?_⟩
        rw [contentAt?_passAll stdout out (behind.congr alike), kept]
        rfl
      · exact absurd ⟨sees, (FilterAction.fails_congr alike).mp fails⟩ works.1
      · rw [copies] at acted
        have drops : filter.action.drops out = false := by rw [copies]; rfl
        simp only [second, sees, drops, Bool.false_eq_true, ↓reduceIte, following, Passed.behind]
        refine ⟨⟨first.filters, _, rfl, same, begun_passAll _ _ _ _⟩, ?_⟩
        rw [contentAt?_passAll stdout _ (behind.congr (alike.trans through.alike)),
          contentAt?_act acted ((alike.place? path).trans led), contentAfter_eq, kept]
        rfl

/-! ## Many lines -/

/-- What comes of lines that have been sent through a chain: the outcome of each together
with its stream, the filters as they are from now on, and the files. -/
structure Sent where
  outcomes : List (Bool × Except Fault (Option String))
  filters : List Filter
  files : FileSystem

/-- The lines that have come out of a chain. -/
def Sent.lines (sent : Sent) : List (Bool × String) :=
  sent.outcomes.filterMap fun entry =>
    match entry.2 with
    | .ok (some line) => some (entry.1, line)
    | _ => none

/-- No filter has raised a fault. -/
def Sent.IsCalm (sent : Sent) : Prop := ∀ entry ∈ sent.outcomes, ∃ out, entry.2 = .ok out

/-- Send lines of both streams through a chain of filters, one after the other. -/
def sendAll (files : FileSystem) (filters : List Filter) : List (Bool × String) → Sent
  | [] => ⟨[], filters, files⟩
  | (stdout, line) :: rest =>
      let passed := passAll files line stdout filters
      let sent := sendAll passed.files passed.filters rest
      { sent with outcomes := (stdout, passed.outcome) :: sent.outcomes }

variable {lines : List (Bool × String)}

theorem alike_sendAll (files : FileSystem) (filters : List Filter) (lines : List (Bool × String)) :
    files.Alike (sendAll files filters lines).files := by
  induction lines generalizing files filters with
  | nil => exact .refl files
  | cons entry rest induction =>
      exact (alike_passAll files entry.2 entry.1 filters).trans (induction _ _)

theorem isCalm_sendAll_iff : (sendAll files filters lines).IsCalm ↔
    ∀ entry ∈ lines, ¬Raises files entry.1 filters entry.2 := by
  induction lines generalizing files filters with
  | nil => simp [sendAll, Sent.IsCalm]
  | cons entry rest induction =>
      have outcome := outcome_passAll files entry.2 entry.1 filters
      have later := @induction (passAll files entry.2 entry.1 filters).files
        (passAll files entry.2 entry.1 filters).filters
      simp only [raises_congr (alike_passAll files entry.2 entry.1 filters)
        (begun_passAll files entry.2 entry.1 filters)] at later
      rw [List.forall_mem_cons, ← later]
      refine List.forall_mem_cons.trans (and_congr_left fun _ => ?_)
      by_cases raises : Raises files entry.1 filters entry.2
      · rcases outcome.1 raises with ⟨fault, failed⟩
        simp [failed, raises]
      · simp [outcome.2 raises, raises]

/-- Filters whose templates are templates and whose files can be written raise no fault. -/
theorem isCalm_sendAll (works : ∀ filter ∈ filters, ¬filter.action.Fails files)
    (lines : List (Bool × String)) : (sendAll files filters lines).IsCalm := by
  refine isCalm_sendAll_iff.mpr fun entry _ => ?_
  rintro ⟨front, filter, back, rfl, -, -, fails⟩
  exact works filter (by simp) fails

/-- Every line has the outcome that it would have alone. -/
theorem outcomes_sendAll (calm : (sendAll files filters lines).IsCalm) :
    (sendAll files filters lines).outcomes =
      lines.map fun entry => (entry.1, .ok (survivor? entry.1 filters entry.2)) := by
  induction lines generalizing files filters with
  | nil => rfl
  | cons entry rest induction =>
      have first := isCalm_sendAll_iff.mp calm entry (by simp)
      have others := List.forall_mem_cons.mp calm
      rw [List.map_cons, sendAll]
      simp only [(outcome_passAll files entry.2 entry.1 filters).2 first, induction others.2,
        survivor?_congr (begun_passAll files entry.2 entry.1 filters)]

theorem lines_sendAll (calm : (sendAll files filters lines).IsCalm) :
    (sendAll files filters lines).lines =
      lines.filterMap fun entry => (survivor? entry.1 filters entry.2).map fun line =>
        (entry.1, line) := by
  rw [Sent.lines, outcomes_sendAll calm, List.filterMap_map]
  congr 1
  funext entry
  cases survived : survivor? entry.1 filters entry.2 <;> simp [survived]

/-- A file that no filter copies to stays as it is. -/
theorem contentAt?_sendAll (spare : Spare files place filters) (lines : List (Bool × String)) :
    (sendAll files filters lines).files.contentAt? place = files.contentAt? place := by
  induction lines generalizing files filters with
  | nil => rfl
  | cons entry rest induction =>
      have alike := alike_passAll files entry.2 entry.1 filters
      have same := begun_passAll files entry.2 entry.1 filters
      exact (induction ((spare.congr alike).of_begun same)).trans
        (contentAt?_passAll entry.1 entry.2 spare)

/-- The file of a filter that copies holds the lines that have reached the filter. -/
theorem contentAt?_sendAll_copies (copies : filter.action = .copy path append)
    (led : files.place? path = some place) (before : Spare files place front)
    (behind : Spare files place back)
    (calm : (sendAll files (front ++ filter :: back) lines).IsCalm) :
    (sendAll files (front ++ filter :: back) lines).files.contentAt? place =
      copied append (files.contentAt? place) (lines.filterMap (reaching front filter)) := by
  induction lines generalizing files filter front back append with
  | nil => rfl
  | cons entry rest induction =>
      have alike := alike_passAll files entry.2 entry.1 (front ++ filter :: back)
      have first := isCalm_sendAll_iff.mp calm entry (by simp)
      rcases passAll_copies copies led before behind first with
        ⟨⟨front', back', after, sameFront, sameBack⟩, content⟩
      rw [sendAll]
      have later := (List.forall_mem_cons.mp calm).2
      simp only [after] at later ⊢
      rw [induction (action_following copies _) ((alike.place? path).trans led)
        ((before.congr alike).of_begun sameFront) ((behind.congr alike).of_begun sameBack) later,
        content, reaching_following sameFront, ← copied_append, List.filterMap_cons]
      cases reaching front filter entry <;> rfl

/-! ## Chains of filters that copy to different files -/

/-- The filters that copy write to pairwise different files. -/
def Apart (files : FileSystem) (filters : List Filter) : Prop :=
  filters.Pairwise fun first second =>
    ∀ place, first.action.CopiesTo files place → ¬second.action.CopiesTo files place

/-- The file of a filter is copied to by no other filter. -/
theorem Apart.spare (apart : Apart files (front ++ filter :: back))
    (copies : filter.action = .copy path append) (led : files.place? path = some place) :
    Spare files place front ∧ Spare files place back := by
  have here : filter.action.CopiesTo files place := by
    rw [copies]
    exact led
  rcases List.pairwise_append.mp apart with ⟨-, rest, across⟩
  refine ⟨fun other member others => ?_, fun other member => ?_⟩
  · exact across other member filter (by simp) place others here
  · exact (List.pairwise_cons.mp rest).1 other member place here

theorem exists_copies_of_not_spare (used : ¬Spare files place filters) :
    ∃ front filter back path append, filters = front ++ filter :: back ∧
      filter.action = .copy path append ∧ files.place? path = some place := by
  simp only [Spare, not_forall, not_not] at used
  rcases used with ⟨filter, member, copies⟩
  rcases List.append_of_mem member with ⟨front, back, split⟩
  cases action : filter.action with
  | copy path append =>
      rw [action] at copies
      exact ⟨front, filter, back, path, append, split, action, copies⟩
  | keep | substitute | rewrite =>
      rw [action] at copies
      cases copies

/-- No line reaches a filter whose path leads nowhere, since it would raise a fault there. -/
theorem reaching_eq_nil_of_unled (copies : filter.action = .copy path append)
    (unled : files.place? path = none)
    (calm : (sendAll files (front ++ filter :: back) lines).IsCalm) :
    lines.filterMap (reaching front filter) = [] := by
  refine List.filterMap_eq_nil_iff.mpr fun entry member => ?_
  by_contra reached
  rcases Option.ne_none_iff_exists'.mp reached with ⟨line, reached⟩
  unfold reaching at reached
  split at reached
  · rename_i sees
    refine isCalm_sendAll_iff.mp calm entry member
      ⟨front, filter, back, rfl, sees, (survivor?_eq_some_iff.mp reached).1, ?_⟩
    rw [copies]
    rintro ⟨place, found, -⟩
    rw [unled] at found
    cases found
  · cases reached

theorem content?_sendAll_copies (apart : Apart files (front ++ filter :: back))
    (copies : filter.action = .copy path append)
    (calm : (sendAll files (front ++ filter :: back) lines).IsCalm) :
    (sendAll files (front ++ filter :: back) lines).files.content? path =
      copied append (files.content? path) (lines.filterMap (reaching front filter)) := by
  have alike := alike_sendAll files (front ++ filter :: back) lines
  rw [FileSystem.content?_eq, FileSystem.content?_eq, alike.place?]
  cases led : files.place? path with
  | some place =>
      rcases apart.spare copies led with ⟨before, behind⟩
      exact contentAt?_sendAll_copies copies led before behind calm
  | none =>
      rw [reaching_eq_nil_of_unled copies led calm]
      rfl

/-! ## Chains in two parts -/

theorem isCalm_sendAll_append (calm : (sendAll files (front ++ back) lines).IsCalm) :
    (sendAll files front lines).IsCalm ∧
      (sendAll (sendAll files front lines).files back (sendAll files front lines).lines).IsCalm := by
  have works := isCalm_sendAll_iff.mp calm
  simp only [raises_append, not_or, not_and] at works
  have first : (sendAll files front lines).IsCalm :=
    isCalm_sendAll_iff.mpr fun entry member => (works entry member).1
  refine ⟨first, isCalm_sendAll_iff.mpr fun entry member => ?_⟩
  rw [lines_sendAll first] at member
  rcases List.mem_filterMap.mp member with ⟨before, there, sent⟩
  rcases Option.map_eq_some_iff.mp sent with ⟨line, survives, rfl⟩
  rcases survivor?_eq_some_iff.mp survives with ⟨passes, rfl⟩
  rw [raises_alike (alike_sendAll files front lines)]
  exact (works before there).2 passes

theorem lines_sendAll_append (calm : (sendAll files (front ++ back) lines).IsCalm) :
    (sendAll (sendAll files front lines).files back (sendAll files front lines).lines).lines =
      (sendAll files (front ++ back) lines).lines := by
  rcases isCalm_sendAll_append calm with ⟨first, second⟩
  rw [lines_sendAll second, lines_sendAll first, lines_sendAll calm, List.filterMap_filterMap]
  congr 1
  funext entry
  rw [survivor?_append]
  cases survivor? entry.1 front entry.2 <;> rfl

/-- What reaches a filter of the second chain are the lines that have come through both
chains up to it. -/
theorem reaching_append (front before : List Filter) (filter : Filter) (entry : Bool × String) :
    reaching (front ++ before) filter entry =
      ((survivor? entry.1 front entry.2).map fun line => (entry.1, line)).bind
        (reaching before filter) := by
  unfold reaching
  rw [survivor?_append]
  cases survivor? entry.1 front entry.2 with
  | none => simp
  | some line => rfl

section Parts

variable {before behind : List Filter}

/-- A filter of the first chain copies the same lines if it is followed by the second. -/
theorem contentAt?_sendAll_first (copies : filter.action = .copy path append)
    (led : files.place? path = some place)
    (apart : Apart files (before ++ filter :: behind ++ back))
    (calm : (sendAll files (before ++ filter :: behind ++ back) lines).IsCalm) :
    let first := sendAll files (before ++ filter :: behind) lines
    (sendAll first.files back first.lines).files.contentAt? place =
      (sendAll files (before ++ filter :: behind ++ back) lines).files.contentAt? place := by
  intro first
  have alike : files.Alike first.files := alike_sendAll files _ lines
  have firstCalm := (isCalm_sendAll_append calm).1
  rw [List.append_assoc, List.cons_append] at apart calm ⊢
  rcases apart.spare copies led with ⟨spareBefore, spareRest⟩
  rcases spare_append.mp spareRest with ⟨spareBehind, spareBack⟩
  rw [contentAt?_sendAll (spareBack.congr alike),
    contentAt?_sendAll_copies copies led spareBefore spareBehind firstCalm,
    contentAt?_sendAll_copies copies led spareBefore spareRest calm]

/-- A filter of the second chain copies the same lines if it stands behind the first. -/
theorem contentAt?_sendAll_second (copies : filter.action = .copy path append)
    (led : files.place? path = some place)
    (apart : Apart files (front ++ (before ++ filter :: behind)))
    (calm : (sendAll files (front ++ (before ++ filter :: behind)) lines).IsCalm) :
    let first := sendAll files front lines
    (sendAll first.files (before ++ filter :: behind) first.lines).files.contentAt? place =
      (sendAll files (front ++ (before ++ filter :: behind)) lines).files.contentAt? place := by
  intro first
  have alike : files.Alike first.files := alike_sendAll files front lines
  rcases isCalm_sendAll_append calm with ⟨firstCalm, secondCalm⟩
  rw [← List.append_assoc] at apart calm ⊢
  rcases apart.spare copies led with ⟨spareBoth, spareBehind⟩
  rcases spare_append.mp spareBoth with ⟨spareFront, spareBefore⟩
  rw [contentAt?_sendAll_copies copies ((alike.place? path).trans led) (spareBefore.congr alike)
      (spareBehind.congr alike) secondCalm,
    contentAt?_sendAll_copies copies led spareBoth spareBehind calm,
    contentAt?_sendAll spareFront, lines_sendAll firstCalm, List.filterMap_filterMap]
  congr 2
  funext entry
  exact (reaching_append front before filter entry).symm

end Parts

theorem content?_sendAll_append (apart : Apart files (front ++ back))
    (calm : (sendAll files (front ++ back) lines).IsCalm) (path : String) :
    (sendAll (sendAll files front lines).files back
      (sendAll files front lines).lines).files.content? path =
        (sendAll files (front ++ back) lines).files.content? path := by
  have alike := alike_sendAll files front lines
  rw [FileSystem.content?_eq, FileSystem.content?_eq, (alike_sendAll _ back _).place?,
    alike.place?, (alike_sendAll files (front ++ back) lines).place?]
  congr 1
  funext place
  -- The place belongs to a filter of the one part or of the other part or to none.
  by_cases spareFront : Spare files place front
  · by_cases spareBack : Spare files place back
    · rw [contentAt?_sendAll (spareBack.congr alike), contentAt?_sendAll spareFront,
        contentAt?_sendAll (spare_append.mpr ⟨spareFront, spareBack⟩)]
    · rcases exists_copies_of_not_spare spareBack with
        ⟨before, filter, behind, path, append, rfl, copies, led⟩
      exact contentAt?_sendAll_second copies led apart calm
  · rcases exists_copies_of_not_spare spareFront with
      ⟨before, filter, behind, path, append, rfl, copies, led⟩
    exact contentAt?_sendAll_first copies led apart calm

/-- Lines that pass a chain without a fault come out changed by the filters that see them
unless one of these drops them, and the file of each filter that copies holds the lines
that have reached the filter. A chain in two parts does the same. -/
theorem sent_through_chain (apart : Apart files filters)
    (calm : (sendAll files filters lines).IsCalm) :
    let sent := sendAll files filters lines
    sent.outcomes = lines.map (fun entry => (entry.1, .ok (survivor? entry.1 filters entry.2))) ∧
    (∀ front filter back path append, filters = front ++ filter :: back →
      filter.action = .copy path append → sent.files.content? path =
        copied append (files.content? path) (lines.filterMap (reaching front filter))) ∧
    ∀ front back, filters = front ++ back →
      let first := sendAll files front lines
      let second := sendAll first.files back first.lines
      first.IsCalm ∧ second.IsCalm ∧ second.lines = sent.lines ∧
        ∀ path, second.files.content? path = sent.files.content? path := by
  refine ⟨outcomes_sendAll calm, ?_, ?_⟩
  · rintro front filter back path append rfl copies
    exact content?_sendAll_copies apart copies calm
  · rintro front back rfl
    rcases isCalm_sendAll_append calm with ⟨first, second⟩
    exact ⟨first, second, lines_sendAll_append calm, content?_sendAll_append apart calm⟩

end Chain

/-- A chain that copies all lines, drops the line `a`, changes the lines of one stream and
copies those of the other. -/
def sampleChain : List Filter := [
  ⟨.tee, true, true, .copy "all" true⟩,
  ⟨.grep, true, true, .keep ⟨.single ⟨false, [.range 97 97], .exact, false⟩, 0, []⟩ true⟩,
  ⟨.replace, false, true, .substitute "b" "c"⟩,
  ⟨.tee, true, false, .copy "some" false⟩]

def sampleFiles : FileSystem :=
  ⟨.directory (.cons "all" (.file "old\n".toUTF8) (.cons "some" (.file "old\n".toUTF8) .nil)), []⟩

theorem sent_through_chain_sample :
    let sent := sendAll sampleFiles sampleChain [(true, "a"), (false, "b"), (true, "b")]
    sent.outcomes = [(true, .ok none), (false, .ok (some "c")), (true, .ok (some "b"))] ∧
      sent.files.content? "all" = some "old\na\nb\nb\n".toUTF8 ∧
      sent.files.content? "some" = some "b\n".toUTF8 := by
  have whole : sampleFiles.place? "all" = some ["all"] := by decide +kernel
  have part : sampleFiles.place? "some" = some ["some"] := by decide +kernel
  have apart : Apart sampleFiles sampleChain := by
    simp [Apart, sampleChain, FilterAction.CopiesTo, whole, part]
  have works : ∀ filter ∈ sampleChain, ¬filter.action.Fails sampleFiles := by
    simp only [sampleChain, List.forall_mem_cons, FilterAction.Fails, not_not, not_false_eq_true]
    exact ⟨⟨_, whole, rfl⟩, trivial, trivial, ⟨_, part, rfl⟩, by simp⟩
  rcases sent_through_chain apart (isCalm_sendAll works _) with ⟨outcomes, copied, -⟩
  refine ⟨outcomes.trans ?_, ?_, ?_⟩
  · decide +kernel
  · rw [copied [] _ _ "all" true rfl rfl]
    decide +kernel
  · rw [copied (sampleChain.take 3) _ [] "some" false rfl rfl]
    decide +kernel

end Runbook.Filter
