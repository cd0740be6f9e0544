import Runbook.Proofs.Engine.Parts
import Runbook.Proofs.Run.Heeding

/-! # Stop requests

When a watcher asks for a stop, everything in progress is asked, and nothing that has
been asked begins another line. A line, however, starts its command only some time after
it has begun, and a command that is started then has not been asked. If this command
runs lines, the request is lost on it. This is the only way to lose a request.
-/

namespace Runbook

open Script (Instruction)

variable {stopsAt : Sighting → Bool}

/-- Variables and errors of its own make no difference to a part. -/
theorem Heeds.runApart {part : Run Bool} (heeds : Heeds stopsAt part) :
    Heeds stopsAt (Engine.runApart part) := by
  intro state
  rcases heeds (state.showing .empty []) with ⟨events, traced⟩
  rw [Engine.outcome_runApart]
  generalize part.outcome _ = outcome at traced ⊢
  have rule : ∀ final, Rule.heeding stopsAt state events final := fun _ framed =>
    have heeding := traced.rule framed
    ⟨⟨heeding.heeded, heeding.beginsFirst⟩, heeding.quiet⟩
  rcases outcome with ⟨_ | fault | succeeded, final⟩
  · exact ⟨events, traced.journal, fun finished => absurd rfl finished, rule _,
      fun _ _ => trivial⟩
  · exact ⟨events, traced.journal, fun _ => traced.stops (by simp), rule _, fun _ _ => trivial⟩
  · exact ⟨events, traced.journal, fun _ => traced.stops (by simp), rule _, fun _ _ => trivial⟩

theorem Elementary.plain {α : Type} {surroundings : Surroundings} {post : α → Prop}
    {part : Run α} (elementary : Elementary surroundings post part)
    (watched : surroundings.stopsAt = stopsAt) : Plain stopsAt part :=
  watched ▸ elementary.calm.plain

/-! ## Running lines -/

namespace Engine

variable (surroundings : Surroundings)

theorem plain_report (message : String) :
    Plain surroundings.stopsAt (report surroundings message) :=
  (Plain.addError message).bind fun _ => (Calm.remark surroundings message).plain

theorem plain_fail (message : String) : Plain surroundings.stopsAt (fail surroundings message) :=
  (plain_report surroundings message).bind fun _ => .pure

theorem plain_refuse (inScript : Bool) (error : ScriptError) :
    Plain surroundings.stopsAt (refuse surroundings inScript error) := by
  refine (plain_report surroundings error.message).bind fun _ => ?_
  exact ((elementary_showAlternatives inScript error).plain rfl).bind fun _ => .pure

theorem plain_reportFault (command : Command) (line : String) (fault : Fault) :
    Plain surroundings.stopsAt (reportFault surroundings command line fault) := by
  unfold reportFault
  refine (Calm.record _ _).plain.bind fun _ => ?_
  refine (Plain.addError _).bind fun _ => ?_
  exact (Calm.remark surroundings _).plain.bind fun _ => .pure

theorem plain_conclude (command : Command) (line : String) (result : Except Fault Bool) :
    Plain surroundings.stopsAt (conclude surroundings command line result) := by
  cases result with
  | ok succeeded => exact .pure
  | error fault => exact plain_reportFault surroundings command line fault

section Running

variable {stopsAt : Sighting → Bool} {run : Runner}
  (runs : ∀ surroundings : Surroundings, surroundings.stopsAt = stopsAt →
    ∀ verbose instructions, Heeds stopsAt (run surroundings verbose instructions))
  (watched : surroundings.stopsAt = stopsAt)
include runs watched

/-- Once a loop has been asked to stop, it does not run its block again. -/
theorem heeds_loop (command : Command) (settings : Options.Settings)
    (block : List Instruction) (fuel : Nat) (supply : Supply) :
    Heeds stopsAt (loop run surroundings command settings block fuel supply) := by
  subst watched
  induction fuel generalizing supply with
  | zero => exact .outOfFuel
  | succ fuel induction =>
      unfold loop
      split
      · exact Plain.pure.heeds
      · rename_i value rest _
        refine Calm.isStopped.plain.heeds.bind fun stopped => ?_
        split
        · exact (Calm.record _ _).plain.heeds.bind fun _ => Plain.pure.heeds
        · refine (Calm.setVariable _ _).plain.heeds.bind fun _ => ?_
          refine ((elementary_echo _ _).plain rfl).heeds.bind fun _ => ?_
          refine (runs surroundings rfl _ block).inInnerFrame.bind fun succeeded => ?_
          split
          · exact induction rest
          · exact Plain.pure.heeds

theorem heeds_runLoop (fuel : Nat) (command : Command) (settings : Options.Settings)
    (block : Option (List Instruction)) :
    Heeds stopsAt (runLoop run fuel surroundings command settings block) := by
  unfold runLoop
  split
  · exact Plain.pure.heeds
  · refine ((elementary_supplyOf _ _).plain watched).heeds.bind fun result => ?_
    cases result with
    | error ending => exact Plain.pure.heeds
    | ok supply => exact heeds_loop surroundings runs watched command settings _ fuel supply

theorem heeds_runScript (settings : Options.Settings) :
    Heeds stopsAt (runScript run surroundings settings) := by
  unfold runScript
  refine ((elementary_readScript _).plain watched).heeds.bind fun result => ?_
  cases result with
  | error ending => exact Plain.pure.heeds
  | ok outline =>
      refine (Calm.record _ _).plain.heeds.bind fun _ => ?_
      exact (runs _ (by exact watched) _ _).inInnerFrame.runApart

theorem heeds_perform (fuel : Nat) (command : Command) (given : Given)
    (block : Option (List Instruction)) :
    Heeds stopsAt (perform run fuel surroundings command given block) := by
  by_cases plain : command.runsLines = false
  · exact ((elementary_perform plain run fuel given block).plain watched).heeds
  · cases command with
    | script => exact heeds_runScript surroundings runs watched _
    | forRange => exact heeds_runLoop surroundings runs watched fuel _ _ block
    | forEach => exact heeds_runLoop surroundings runs watched fuel _ _ block
    | _ => exact absurd rfl plain

omit runs watched in
theorem plain_reportEnding (command : Command) (ending : Ending) :
    Plain surroundings.stopsAt (reportEnding surroundings command ending) := by
  unfold reportEnding
  rcases ending with _ | _ | ⟨message, rest⟩
  · exact .pure
  · exact (Calm.record _ _).plain.bind fun _ => .pure
  · refine (plain_report surroundings _).bind fun _ => ?_
    exact (Calm.record _ _).plain.bind fun _ => .pure

theorem heeds_runSetup (fuel : Nat) (setup : Setup) (block : Option (List Instruction)) :
    Heeds stopsAt (runSetup run fuel surroundings setup block) := by
  refine Heeds.bind ?_ fun ending => (watched ▸ plain_reportEnding surroundings _ ending).heeds
  unfold execute
  refine ((elementary_readOptions _ _).plain watched).heeds.bind fun result => ?_
  cases result with
  | error messages => exact Plain.pure.heeds
  | ok read => exact heeds_perform surroundings runs watched fuel _ _ block

omit runs in
theorem plain_runSetup (fuel : Nat) {setup : Setup} (plain : setup.command.runsLines = false)
    (block : Option (List Instruction)) :
    Plain stopsAt (runSetup run fuel surroundings setup block) := by
  refine Plain.bind ?_ fun ending => watched ▸ plain_reportEnding surroundings _ ending
  unfold execute
  refine ((elementary_readOptions _ _).plain watched).bind fun result => ?_
  cases result with
  | error messages => exact .pure
  | ok read => exact (elementary_perform plain run fuel _ block).plain watched

/-- A command that is started begins no line, or loses the request before it. -/
theorem contains_dispatch (fuel : Nat) (line : String) (setup : Setup)
    (block : Option (List Instruction)) :
    Contains stopsAt (dispatch run fuel surroundings line setup block) := by
  unfold dispatch
  apply Contains.inFrame
  have concluded : ∀ result, Plain stopsAt (conclude surroundings setup.command line result) :=
    watched ▸ plain_conclude surroundings setup.command line
  apply contains_started
  · exact (heeds_runSetup surroundings runs watched fuel setup block).attempt.bind
      fun result => (concluded result).heeds
  · intro plain
    exact (plain_runSetup surroundings watched fuel plain block).attempt.bind concluded

theorem contains_runExpanded (fuel : Nat) (line : String) (block : Option (List Instruction)) :
    Contains stopsAt (runExpanded run fuel surroundings line block) := by
  unfold runExpanded
  split
  · exact (watched ▸ (plain_fail surroundings _).bind fun _ => Plain.pure).contains
  · refine Calm.get.plain.bindContains fun state => ?_
    refine (Calm.ofLogged _).plain.bindContains fun resolution => ?_
    cases resolution with
    | refused error =>
        exact (watched ▸ (plain_refuse surroundings true error).bind fun _ => Plain.pure).contains
    | help command =>
        exact (watched ▸ (Calm.say surroundings _).plain.bind fun _ => Plain.pure).contains
    | ready setup =>
        exact (contains_dispatch surroundings runs watched fuel line setup _).bindPlain
          fun _ => .pure

theorem orderly_runLine (fuel : Nat) (verbose : Bool) (line : String)
    (block : Option (List Instruction)) :
    Obeys stopsAt (.orderly stopsAt) (fun _ => True)
      (runLine run fuel surroundings verbose line block) := by
  apply Contains.orderly
  refine ((elementary_echo _ _).plain watched).bindContains fun _ => ?_
  refine Calm.get.plain.bindContains fun state => ?_
  split
  · exact (Plain.throw _).contains
  · exact (watched ▸ (plain_fail surroundings _).bind fun _ => Plain.pure).contains
  · refine ((elementary_echo _ _).plain watched).bindContains fun _ => ?_
    exact contains_runExpanded surroundings runs watched fuel _ block

omit runs watched in
/-- Nothing that has been asked to stop goes on to another line. -/
theorem heeds_unlessStopped {part : Run Bool}
    (orderly : Obeys stopsAt (.orderly stopsAt) (fun _ => True) part) :
    Heeds stopsAt (unlessStopped part) := by
  intro state
  have asked : (unlessStopped part).outcome state =
      (if state.isStopped then Run.record .info "Execution stopped" >>= fun _ => return true
        else part).outcome state := rfl
  rw [asked]
  cases stopped : state.isStopped with
  | true =>
      rw [if_pos rfl]
      exact ((Calm.record _ _).plain.bind fun _ => Plain.pure).heeds state
  | false =>
      rw [if_neg Bool.false_ne_true]
      rcases orderly state with ⟨events, traced⟩
      refine ⟨events, traced.journal, traced.stops, fun framed => ?_, traced.post⟩
      exact ⟨traced.rule framed, fun asked => by rw [stopped] at asked; contradiction⟩

theorem heeds_runItems (fuel : Nat) (verbose : Bool) (previous : Option String)
    (instructions : List Instruction) :
    Heeds stopsAt (runItems run fuel surroundings verbose previous instructions) := by
  fun_induction runItems run fuel surroundings verbose previous instructions with
  | case1 => exact Plain.pure.heeds
  | case2 =>
      apply heeds_unlessStopped
      exact (watched ▸ plain_fail surroundings _).heeds.mono
        (fun _ _ _ obeyed => orderly_of_heeding obeyed) fun _ holds => holds
  | case3 previous text rest afterBlock afterLine =>
      apply heeds_unlessStopped
      refine Obeys.bind joins_orderly_heeding (fun _ _ _ obeyed => obeyed)
        (orderly_runLine surroundings runs watched fuel verbose text _) fun result _ => ?_
      rcases result with ⟨_ | _, tookBlock⟩
      · exact Plain.pure.heeds
      · cases tookBlock with
        | false => exact afterLine
        | true =>
            cases rest with
            | nil => exact Plain.pure.heeds
            | cons _ rest => exact afterBlock

end Running

theorem heeds_runBlock (fuel : Nat) (verbose : Bool) (instructions : List Instruction) :
    Heeds surroundings.stopsAt (runBlock fuel surroundings verbose instructions) := by
  have runs : ∀ around : Surroundings, around.stopsAt = surroundings.stopsAt →
      ∀ verbose instructions,
        Heeds surroundings.stopsAt (runBlock fuel around verbose instructions) := by
    induction fuel with
    | zero => exact fun _ _ _ _ => .outOfFuel
    | succ fuel induction =>
        exact fun around same verbose instructions =>
          heeds_runItems around induction same fuel verbose none instructions
  exact runs surroundings rfl verbose instructions

end Engine

/-! ## After a request -/

theorem began_mem_of_losesRequest {after : List Event} (loses : losesRequest after = true) :
    ∃ line, Event.began line ∈ after := by
  rw [losesRequest] at loses
  split at loses
  · rename_i command line rest shape
    have inside : Event.began line ∈ marks after := by rw [shape]; simp
    exact ⟨line, (List.mem_filter.mp inside).1⟩
  · contradiction

/-- Whenever a watcher asks for a stop, at any output of a run and however loops and
scripts are nested, a line begins afterwards if and only if the request is lost. -/
theorem begins_after_request_iff (fuel : Nat) (surroundings : Surroundings)
    (stopped verbose : Bool) (instructions : List Instruction) (state : State)
    {before after : List Event} {output : Event}
    (ran : ((Run.inFrame stopped (Engine.runBlock fuel surroundings verbose
      instructions)).outcome state).2.events = state.events ++ (before ++ output :: after))
    (asked : output.asksStop surroundings.stopsAt (before.reverse ++ state.journal) = true) :
    (∃ line, Event.began line ∈ after) ↔ losesRequest after = true := by
  have heeds := Engine.heeds_runBlock surroundings fuel verbose instructions
  rcases heeds.inFrame stopped state with ⟨events, traced⟩
  have same : before ++ output :: after = events := by
    rw [State.events, traced.journal, List.reverse_append, List.reverse_reverse] at ran
    exact (List.append_cancel_left ran).symm
  have heeded : Heeded surroundings.stopsAt state.journal (before ++ output :: after) :=
    same ▸ traced.rule.heeded
  refine ⟨?_, began_mem_of_losesRequest⟩
  rintro ⟨line, member⟩
  rw [← Bool.not_eq_false]
  intro heard
  exact heeded.quiet asked heard line member

/-- Surroundings in which a watcher asks for a stop when a loop is announced. -/
def impatientSurroundings : Surroundings where
  host := []
  limit := .passes 100
  profiles := .listed []
  characters := fun _ => none
  verbose := false
  killTimeout := .ofNat 5
  environment := []
  launch := fun _ _ => .error (.state "There are no programs.")
  stopsAt := fun output => output == "[RAW] foreach --iterate xs --dest x"

def announcedLoop : List Instruction :=
  [.line "foreach --iterate xs --dest x", .block [.line "set y=${x}"]]

def listedState : State :=
  .initial (Variables.empty.set "xs" (.array ["a", "b"])) ⟨.directory (.ofList []), []⟩

/-- What happens after the loop has been announced. -/
def afterAnnouncement : List Event :=
  ((Run.inFrame false (Engine.runBlock 5 impatientSurroundings true announcedLoop)).outcome
    listedState).2.events.drop 2

theorem begins_after_request_in_announcedLoop :
    (∃ line, Event.began line ∈ afterAnnouncement) ∧ losesRequest afterAnnouncement = true := by
  have ran : ((Run.inFrame false (Engine.runBlock 5 impatientSurroundings true
      announcedLoop)).outcome listedState).2.events = listedState.events ++
        ([.began "foreach --iterate xs --dest x"] ++
          .printed false "[RAW] foreach --iterate xs --dest x" :: afterAnnouncement) := by
    decide +kernel
  have lost : losesRequest afterAnnouncement = true := by decide +kernel
  have begins := begins_after_request_iff 5 impatientSurroundings false true announcedLoop
    listedState ran (by decide +kernel)
  exact ⟨begins.mpr lost, lost⟩

end Runbook
