import Runbook.Proofs.Engine.Endings
import Runbook.Proofs.Engine.Reporting
import Runbook.Proofs.Options.Assigned
import Runbook.Proofs.Resolution.Checks
import Runbook.Proofs.Tokens.Joining
import Runbook.Proofs.Variables.Inserting

/-! # Setting a variable and echoing it

A line that sets a variable to a text is joined from tokens, so that whatever is in the
text comes through quotes, expansion and splitting as it is. When a reference to the
variable stands in double quotes, its value comes back the same way, unless there is
something in it that means something inside double quotes.
-/

namespace Runbook

open Script (Instruction)
open Variables (reference referenceStart hostReferenceStart)

/-- A name that means nothing in an assignment, in a reference or in double quotes. -/
structure IsPlainName (name : String) : Prop where
  nonempty : name ≠ ""
  plain : ∀ c ∈ name.toList, c ∉ ['=', '$', '\x7b', '\x7d', '"', '\\']

/-- A text in which no reference starts. -/
structure Unreferring (text : List Char) : Prop where
  plain : ¬referenceStart <:+: text
  plainHost : ¬hostReferenceStart <:+: text

theorem IsPlainName.not_mem {name : String} (isPlain : IsPlainName name) {c : Char}
    (special : c ∈ ['=', '$', '\x7b', '\x7d', '"', '\\']) : c ∉ name.toList :=
  fun member => isPlain.plain c member special

namespace Unreferring

variable {before after : List Char}

/-- Texts in which no reference starts can be put together around a character that is no
part of the start of a reference. -/
theorem append_cons (first : Unreferring before) (second : Unreferring after) {c : Char}
    (apart : c ∉ ['$', '@', '\x7b']) : Unreferring (before ++ c :: after) := by
  simp only [List.mem_cons, List.not_mem_nil, or_false, not_or] at apart
  constructor
  · rw [referenceStart, Text.pair_append_cons_iff apart.1 apart.2.2]
    exact not_or.mpr ⟨first.plain, second.plain⟩
  · rw [hostReferenceStart, Text.pair_append_cons_iff apart.2.1 apart.2.2]
    exact not_or.mpr ⟨first.plainHost, second.plainHost⟩

theorem of_not_mem {text : List Char} (free : '\x7b' ∉ text) : Unreferring text :=
  ⟨Text.not_pair_of_not_mem free, Text.not_pair_of_not_mem free⟩

theorem join {tokens : List String} (each : ∀ token ∈ tokens, Unreferring token.toList) :
    Unreferring (Tokens.join tokens).toList := by
  have kept {c : Char} (unwritten : Tokens.Unwritten c)
      (absent : ∀ token ∈ tokens, ¬[c, '\x7b'] <:+: token.toList) :
      ¬[c, '\x7b'] <:+: (Tokens.join tokens).toList := by
    intro pair
    rcases Tokens.exists_token_of_pair unwritten ⟨by decide, by decide, by decide⟩ pair with
      ⟨token, member, found⟩
    exact absent token member found
  constructor
  · exact kept ⟨by decide, by decide, by decide⟩ fun token member => (each token member).plain
  · exact kept ⟨by decide, by decide, by decide⟩ fun token member => (each token member).plainHost

end Unreferring

namespace Engine

/-- An argument that assigns a text asks neither for filters nor for help. -/
theorem ofTokens_assigning {characters : Pattern.CharacterNames} {profiles : Profiles}
    {files : Files.FileSystem} {name : String} {command : Command}
    (known : Command.find? true name = some command) (unprofiled : command.needsProfile = false)
    (flag text : String) :
    (Resolution.ofTokens characters profiles files true
        [name, Options.assigning flag text]).outcome.1 =
      .ok (.ready ⟨command, none, [], [Options.assigning flag text]⟩) := by
  have unpiped : Resolution.pipe ∉ [Options.assigning flag text] := by
    simpa using (Options.assigning_ne text (by decide)).symm
  have unasked : Resolution.helpOption ∉ [Options.assigning flag text] := by
    simpa using (Options.assigning_ne text (by decide)).symm
  exact Resolution.ofTokens_ready known unprofiled unpiped unasked

section Setting

/-! ## Setting -/

/-- The line that sets a variable to a text. -/
def settingLine (name value : String) : String :=
  Tokens.join ["set", Options.assigning name value]

variable {run : Runner} {fuel : Nat} {surroundings : Surroundings} {state : State}
  {name value : String}

theorem assignmentOf_assigning (unmarked : '=' ∉ name.toList) :
    Perform.assignmentOf [Options.assigning name value] = .ok (name, value) := by
  rw [Perform.assignmentOf, Options.toList_assigning, Text.splitAtFirst_append_cons unmarked]
  simp

theorem endsIn_execute_set (isPlain : IsPlainName name) (block : Option (List Instruction)) :
    EndsIn (execute run fuel surroundings
        ⟨.set, none, [], [Options.assigning name value]⟩ block) state (.ok .done)
      { state.view with bindings := state.bindings.set name (.scalar value) } := by
  have options : readOptions .set [Options.assigning name value] =
      return .ok (⟨[]⟩, [Options.assigning name value]) := rfl
  have named : ¬(name == "") = true := by simpa using isPlain.nonempty
  rw [execute, options, pure_bind]
  change EndsIn (Perform.set _) _ _ _
  rw [Perform.set, assignmentOf_assigning (isPlain.not_mem (by simp))]
  dsimp only
  rw [if_neg named]
  apply EndsIn.bind (.setVariable name (.scalar value) state)
  intro final seen
  exact .pure seen

theorem unreferring_assigning (isPlain : IsPlainName name)
    (unreferring : Unreferring value.toList) :
    Unreferring (Options.assigning name value).toList := by
  have named : Unreferring name.toList := .of_not_mem (isPlain.not_mem (by simp))
  rw [Options.toList_assigning]
  exact named.append_cons unreferring (by decide)

theorem endsIn_settingLine (isPlain : IsPlainName name) (unreferring : Unreferring value.toList)
    (verbose : Bool) (below : Option (List Instruction)) :
    EndsIn (runLine run fuel surroundings verbose (settingLine name value) below) state
      (.ok ⟨true, false⟩)
      { state.view.showing (announcement verbose (settingLine name value)
          (settingLine name value)) with
        bindings := state.bindings.set name (.scalar value) } := by
  have token := unreferring_assigning isPlain unreferring
  have line : Unreferring (settingLine name value).toList := by
    apply Unreferring.join
    intro other member
    rcases List.mem_pair.mp member with rfl | rfl
    · exact .of_not_mem (by decide)
    · exact token
  have expands : state.bindings.expand surroundings.host surroundings.limit
      (settingLine name value) = .ok (settingLine name value) :=
    Variables.expand_eq_self line.plain line.plainHost
  apply endsIn_runLine below expands (Tokens.split_join _) (ofTokens_assigning rfl rfl name value)
  intro middle shown
  have bindings : middle.bindings = state.bindings := congrArg View.bindings shown
  rw [← bindings, ← shown]
  exact endsIn_execute_set isPlain _

/-! ## Echoing -/

/-- The line that outputs a text, written in double quotes. -/
def quotingLine (text : String) : String := "echo --message=\"" ++ text ++ "\""

/-- A reference to a variable, as it is written in a line. -/
def referenceTo (name : String) : String := "$\x7b" ++ name ++ "\x7d"

theorem toList_quotingLine (text : String) :
    (quotingLine text).toList = "echo --message=\"".toList ++ text.toList ++ "\"".toList := by
  change ("echo --message=\"" ++ text ++ "\"").toList = _
  rw [String.toList_append, String.toList_append]

/-- The tokens in the line and what separates them. -/
theorem toList_quotingLine_eq_tokens (text : String) :
    (quotingLine text).toList =
      "echo".toList ++ ' ' :: ("--message=".toList ++ '"' :: (text.toList ++ ['"'])) := by
  have start : "echo --message=\"".toList =
      "echo".toList ++ ' ' :: ("--message=".toList ++ ['"']) := by decide
  have finish : "\"".toList = ['"'] := by decide
  calc (quotingLine text).toList
      = "echo --message=\"".toList ++ text.toList ++ "\"".toList := toList_quotingLine text
    _ = "echo".toList ++ ' ' :: ("--message=".toList ++ ['"']) ++ text.toList ++ ['"'] :=
        congrArg₂ (· ++ text.toList ++ ·) start finish
    _ = "echo".toList ++ ' ' :: ("--message=".toList ++ '"' :: (text.toList ++ ['"'])) := by
        simp only [List.append_assoc, List.cons_append, List.nil_append]

example : quotingLine (referenceTo "n") = "echo --message=\"$\x7bn\x7d\"" := by decide

theorem toList_referenceTo (name : String) : (referenceTo name).toList = reference name.toList := by
  simp [referenceTo, reference, referenceStart]

theorem split_quotingLine {text : String} (unquoted : '"' ∉ text.toList)
    (unescaped : '\\' ∉ text.toList) :
    Tokens.split (quotingLine text) = .ok ["echo", Options.assigning "--message" text] := by
  have command : ∀ c ∈ "echo".toList, Tokens.Literal c := Tokens.literal_of_all (by decide)
  have flag : ∀ c ∈ "--message=".toList, Tokens.Literal c := Tokens.literal_of_all (by decide)
  have quoted := Tokens.splitFrom_quoted unquoted (fun _ => unescaped)
    "--message=".toList.reverse []
  have opened : Tokens.splitFrom .between []
      ("--message=".toList ++ '"' :: (text.toList ++ ['"'])) =
        .ok ["--message=".toList ++ text.toList] := by
    rw [Tokens.splitFrom_between flag (by decide), Tokens.splitFrom, if_neg (by decide),
      if_neg (by decide), if_pos (by decide), quoted, Tokens.splitFrom, List.reverse_append,
      List.reverse_reverse, List.reverse_reverse]
  have assigned : String.ofList ("--message=".toList ++ text.toList) =
      Options.assigning "--message" text := by
    rw [String.ofList_append, String.ofList_toList, String.ofList_toList]
    rfl
  rw [Tokens.split, toList_quotingLine_eq_tokens, Tokens.splitFrom_between command (by decide),
    Tokens.splitFrom, if_pos (by decide), opened, List.reverse_reverse]
  simp only [Except.map, List.map_cons, List.map_nil, String.ofList_toList, assigned]

theorem readOptions_echo (text : String) :
    readOptions .echo [Options.assigning "--message" text] =
      return .ok (⟨[("message", .text text), ("stderr", .switch false)]⟩, []) := by
  let parameter : Options.Parameter := .requiredText "--message" "message" "the message to output"
  let grammar : Options.Grammar := .ofCommand "echo" [parameter, .switch "--stderr" "stderr"
    "for outputting the message on stderr instead of stdout"]
  have known : grammar.find? "--message" = some parameter := by decide
  have read : Options.read grammar [Options.assigning "--message" text] =
      .ok ⟨[("message", .text text), ("stderr", .switch false)]⟩ :=
    Options.read_assigning known (by decide) (by decide) rfl (by decide) text
  have takes : Command.echo.grammar? = some grammar := rfl
  rw [readOptions, takes]
  dsimp only
  rw [read]

theorem unreferring_quotingLine (unreferring : Unreferring value.toList) :
    Unreferring (quotingLine value).toList := by
  have closed : Unreferring (value.toList ++ ['"']) :=
    unreferring.append_cons (.of_not_mem (by decide)) (by decide)
  have flag : Unreferring ("--message=".toList ++ '"' :: (value.toList ++ ['"'])) :=
    (Unreferring.of_not_mem (by decide)).append_cons closed (by decide)
  rw [toList_quotingLine_eq_tokens]
  exact (Unreferring.of_not_mem (by decide)).append_cons flag (by decide)

theorem expand_referenceTo (isPlain : IsPlainName name) (unreferring : Unreferring value.toList)
    (bound : state.bindings.get? name = some (.scalar value)) :
    state.bindings.expand surroundings.host surroundings.limit (quotingLine (referenceTo name)) =
      .ok (quotingLine value) := by
  have line := unreferring_quotingLine unreferring
  have written : (quotingLine (referenceTo name)).toList =
      "echo --message=\"".toList ++ reference name.toList ++ "\"".toList := by
    rw [toList_quotingLine, toList_referenceTo]
  apply Variables.expand_reference bound written (toList_quotingLine value) _ _ line.plain
    line.plainHost
  · have free : '$' ∉ name.toList := isPlain.not_mem (by simp)
    simp only [List.mem_append, not_or]
    exact ⟨⟨by decide, free⟩, by decide⟩
  · have free : '\x7d' ∉ name.toList := isPlain.not_mem (by simp)
    simp only [List.mem_append, not_or]
    exact ⟨free, by decide⟩

theorem endsIn_execute_echo (text : String) (block : Option (List Instruction)) :
    EndsIn (execute run fuel surroundings
        ⟨.echo, none, [], [Options.assigning "--message" text]⟩ block) state (.ok .done)
      (state.view.showing [(true, text)]) := by
  rw [execute, readOptions_echo, pure_bind]
  apply EndsIn.bind (.print surroundings true text state)
  intro final seen
  exact .pure seen

theorem endsIn_quotingLine (isPlain : IsPlainName name) (unreferring : Unreferring value.toList)
    (unquoted : '"' ∉ value.toList) (unescaped : '\\' ∉ value.toList)
    (bound : state.bindings.get? name = some (.scalar value)) (verbose : Bool)
    (below : Option (List Instruction)) :
    EndsIn (runLine run fuel surroundings verbose (quotingLine (referenceTo name)) below) state
      (.ok ⟨true, false⟩)
      (state.view.showing (announcement verbose (quotingLine (referenceTo name))
          (quotingLine value) ++ [(true, value)])) := by
  apply endsIn_runLine below (expand_referenceTo isPlain unreferring bound)
    (split_quotingLine unquoted unescaped) (ofTokens_assigning rfl rfl "--message" value)
  intro middle shown
  rw [← View.showing_showing, ← shown]
  exact endsIn_execute_echo value _

/-- Setting a variable to a text succeeds, binds the variable to just this text, and leaves
all other variables alone. Wherever the variable is bound to the text, echoing a reference
to it in double quotes succeeds and prints just this text, once, whatever other variables
there are. -/
theorem set_text_is_echoed (isPlain : IsPlainName name) (unreferring : Unreferring value.toList)
    (run : Runner) (fuel : Nat) (surroundings : Surroundings) (verbose : Bool)
    (below : Option (List Instruction)) :
    (∀ state : State,
      EndsIn (runLine run fuel surroundings verbose (settingLine name value) below) state
        (.ok ⟨true, false⟩)
        { state.view.showing (announcement verbose (settingLine name value)
            (settingLine name value)) with
          bindings := state.bindings.set name (.scalar value) } ∧
      (state.bindings.set name (.scalar value)).get? name = some (.scalar value) ∧
      ∀ other, other ≠ name →
        (state.bindings.set name (.scalar value)).get? other = state.bindings.get? other) ∧
    ('"' ∉ value.toList → '\\' ∉ value.toList →
      ∀ state : State, state.bindings.get? name = some (.scalar value) →
        EndsIn (runLine run fuel surroundings verbose (quotingLine (referenceTo name)) below) state
          (.ok ⟨true, false⟩)
          (state.view.showing (announcement verbose (quotingLine (referenceTo name))
              (quotingLine value) ++ [(true, value)]))) := by
  constructor
  · intro state
    refine ⟨endsIn_settingLine isPlain unreferring verbose below, ?_, ?_⟩
    · rw [Variables.get?_set, if_pos rfl]
    · intro other different
      rw [Variables.get?_set, if_neg different]
  · intro unquoted unescaped state bound
    exact endsIn_quotingLine isPlain unreferring unquoted unescaped bound verbose below

end Setting

/-! ### A text that looks like options -/

def optionsText : String := "--help | it's \x7bx\x7d \n$"

/-- A variable refers to one that is not set. -/
def unsetState : State :=
  .initial (Variables.empty.set "x" (.scalar "$\x7bit's\x7d")) ⟨.directory (.ofList []), []⟩

/-- The text is bound between other variables, one of which has an odd name. -/
def optionsState : State :=
  .initial ((unsetState.bindings.set "it's" (.scalar optionsText)).set "it's\x7d\""
    (.scalar "y")) ⟨.directory (.ofList []), []⟩

theorem optionsText_is_echoed :
    EndsIn (runLine (runBlock 1) 1 bareSurroundings true (settingLine "it's" optionsText) none)
        unsetState (.ok ⟨true, false⟩)
        { unsetState.view.showing (announcement true (settingLine "it's" optionsText)
            (settingLine "it's" optionsText)) with
          bindings := unsetState.bindings.set "it's" (.scalar optionsText) } ∧
      '"' ∉ optionsText.toList ∧ '\\' ∉ optionsText.toList ∧
      optionsState.bindings.get? "it's" = some (.scalar optionsText) ∧
      EndsIn (runLine (runBlock 1) 1 bareSurroundings true (quotingLine (referenceTo "it's")) none)
        optionsState (.ok ⟨true, false⟩)
        (optionsState.view.showing (announcement true (quotingLine (referenceTo "it's"))
          (quotingLine optionsText) ++ [(true, optionsText)])) := by
  have isPlain : IsPlainName "it's" := ⟨by decide, by simp⟩
  have unreferring : Unreferring optionsText.toList := ⟨by decide, by decide⟩
  have unquoted : '"' ∉ optionsText.toList := by decide
  have unescaped : '\\' ∉ optionsText.toList := by decide
  have bound : optionsState.bindings.get? "it's" = some (.scalar optionsText) := by decide
  rcases set_text_is_echoed isPlain unreferring (runBlock 1) 1 bareSurroundings true none with
    ⟨sets, echoes⟩
  exact ⟨(sets unsetState).1, unquoted, unescaped, bound,
    echoes unquoted unescaped optionsState bound⟩

end Engine

end Runbook
