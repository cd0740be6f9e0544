import Runbook.Proofs.Engine.Unrolling
import Runbook.Proofs.Pattern.OneCharacter
import Runbook.Proofs.Text.Substituting
import Mathlib.Data.List.DropRight

/-! # Cutting texts and joining them again

A text that is cut at a character and joined by that character again is the text as it was, apart
from the characters at its end: the empty pieces that these leave are dropped. Elements that are
joined and then cut are the elements as they were, unless the last one is empty.
-/

namespace Runbook

open Script (Instruction)

/-! ## Pieces -/

namespace Text

/-- Only the character itself leaves an empty piece at the end of a text. -/
theorem getLast?_splitOn_concat {c d : Char} (different : d ≠ c) (text : List Char) :
    ((text ++ [d]).splitOn c).getLast? ≠ some [] := by
  induction text with
  | nil => simp [List.splitOn_cons_eq_if_modifyHead, different]
  | cons e text induction =>
      rw [List.cons_append, List.splitOn_cons_eq_if_modifyHead]
      rcases List.exists_cons_of_ne_nil (List.splitOn_ne_nil c (text ++ [d])) with
        ⟨piece, pieces, shape⟩
      rw [shape] at induction ⊢
      split
      · rwa [List.getLast?_cons_cons]
      · cases pieces with
        | nil => simp
        | cons next pieces => simpa using induction

/-- Without empty pieces at the end, the pieces make up the text without the characters at its
end. -/
theorem intercalate_pieces (c : Char) (text : List Char) :
    [c].intercalate ((text.splitOn c).rdropWhile (· == [])) = text.rdropWhile (· == c) := by
  induction text using List.reverseRecOn with
  | nil => rfl
  | append_singleton text d induction =>
      by_cases same : d = c
      · rw [same, List.splitOn_append_cons_self, List.splitOn_nil,
          List.rdropWhile_concat_pos _ _ _ (by simp), induction,
          List.rdropWhile_concat_pos _ _ _ (by simp)]
      · have last := getLast?_splitOn_concat same text
        have kept : ((text ++ [d]).splitOn c).rdropWhile (· == []) = (text ++ [d]).splitOn c := by
          rw [List.rdropWhile_eq_self_iff]
          intro nonempty empty
          exact last (by rw [List.getLast?_eq_some_getLast nonempty, beq_iff_eq.mp empty])
        rw [kept, List.intercalate_splitOn, List.rdropWhile_concat_neg _ _ _ (by simpa using same)]

/-- Pieces that do not hold the character and do not end in an empty one are found again. -/
theorem pieces_intercalate {c : Char} {pieces : List (List Char)}
    (absent : ∀ piece ∈ pieces, c ∉ piece) (last : pieces.getLast? ≠ some []) :
    (([c].intercalate pieces).splitOn c).rdropWhile (· == []) = pieces := by
  cases pieces with
  | nil => rfl
  | cons piece pieces =>
      rw [List.splitOn_intercalate c absent (List.cons_ne_nil piece pieces),
        List.rdropWhile_eq_self_iff]
      intro nonempty empty
      exact last (by rw [List.getLast?_eq_some_getLast nonempty, beq_iff_eq.mp empty])

/-- An escape has two characters. -/
theorem expandControls_singleton (c : Char) : expandControls [c] = [c] := by
  have unescaped (d : Char) (new : List Char) : substitute ['\\', d] new [c] = [c] := by
    refine substitute_eq_self new (List.cons_ne_nil _ _) fun occurs => ?_
    have lengths := occurs.length_le
    simp at lengths
  rw [expandControls, unescaped, unescaped, unescaped]

end Text

namespace Perform

/-! ## Commands that cut and join -/

/-- The pieces of a text that is cut at a character, without empty ones at the end. -/
theorem piecesOf_eq {pattern : Pattern} {c : Char} (only : pattern.MatchesOnly c)
    (groupless : pattern.groups = 0) (text : String) :
    piecesOf pattern text =
      ((text.toList.splitOn c).rdropWhile (· == [])).map String.ofList := by
  have shown : ((fun piece : Option (List Char) => (piece.map String.ofList).getD "None") ∘ some) =
      String.ofList := rfl
  have empty : (fun piece : String => piece == "") ∘ String.ofList = (· == []) := by
    funext piece
    rw [Function.comp_apply, Bool.eq_iff_iff, beq_iff_eq, beq_iff_eq, ← String.toList_inj,
      String.toList_ofList]
    rfl
  simp only [piecesOf, Pattern.split_of_matchesOnly only groupless, List.map_map, shown]
  rw [← List.map_reverse, List.dropWhile_map, empty, ← List.map_reverse, List.rdropWhile]

section Outcomes

variable {characters : Pattern.CharacterNames} {given : Given} {state : State}

theorem outcome_valueOf {name : String} {value : Value}
    (stored : state.bindings.get? name = some value) :
    (valueOf name).outcome state = (some (.ok (.ok value)), state) := by
  simp only [valueOf, Run.outcome_bind, Run.outcome_get, Run.proceed, stored, Run.outcome_pure]

theorem outcome_split {text : String} {pattern : Pattern}
    (stored : state.bindings.get? (given.settings.text "source") = some (.scalar text))
    (read : Pattern.ofText characters (given.settings.text "delimiter") = .ok pattern) :
    (split characters given).outcome state = (some (.ok .done), { state with
      bindings := state.bindings.set (given.settings.text "dest")
        (.array (piecesOf pattern text)) }) := by
  have known : patternOf characters "Invalid delimiter" (given.settings.text "delimiter") =
      pure (.ok pattern) := by
    rw [patternOf, read]
  rw [split, Run.outcome_bind, outcome_valueOf stored, Run.proceed]
  dsimp only
  rw [known, pure_bind]
  rfl

theorem outcome_flatten {elements : List String}
    (stored : state.bindings.get? (given.settings.text "array") = some (.array elements)) :
    (flatten given).outcome state = (some (.ok .done), { state with
      bindings := state.bindings.set (given.settings.text "dest") (.scalar
        ((String.ofList (Text.expandControls (given.settings.text "glue").toList)).intercalate
          elements)) }) := by
  rw [flatten, Run.outcome_bind, outcome_valueOf stored, Run.proceed]
  rfl

end Outcomes

end Perform

namespace Engine

/-- A command cuts the text in `source` where a pattern matches and stores the pieces in `dest`. -/
structure Splits (setup : Setup) (source delimiter dest : String) : Prop where
  command : setup.command = .split
  read : ∃ grammar settings, setup.command.grammar? = some grammar ∧
    Options.read grammar setup.options = .ok settings ∧ settings.text "source" = source ∧
      settings.text "delimiter" = delimiter ∧ settings.text "dest" = dest

/-- A command joins the elements of `array` with a text between them and stores the result in
`dest`. -/
structure Flattens (setup : Setup) (array glue dest : String) : Prop where
  command : setup.command = .flatten
  read : ∃ grammar settings, setup.command.grammar? = some grammar ∧
    Options.read grammar setup.options = .ok settings ∧ settings.text "array" = array ∧
      settings.text "glue" = glue ∧ settings.text "dest" = dest

section Outcomes

variable (run : Runner) (fuel : Nat) (surroundings : Surroundings) {setup : Setup}
  (block : Option (List Instruction)) {state : State} {source delimiter array glue dest : String}

/-- The state after a command that has stored a value. -/
def storing (state : State) (name : String) (value : Value) : State :=
  { state with bindings := state.bindings.set name value }

theorem get?_storing (state : State) (name : String) (value : Value) :
    (storing state name value).bindings.get? name = some value := by
  rw [storing, Variables.get?_set, if_pos rfl]

theorem Splits.outcome (splits : Splits setup source delimiter dest) {text : String}
    {pattern : Pattern} (stored : state.bindings.get? source = some (.scalar text))
    (known : Pattern.ofText surroundings.characters delimiter = .ok pattern) :
    (execute run fuel surroundings setup block).outcome state = (some (.ok .done),
      storing state dest (.array (Perform.piecesOf pattern text))) := by
  rcases splits.read with ⟨grammar, settings, grammatical, read, rfl, rfl, rfl⟩
  rw [execute, readOptions_eq grammatical read, pure_bind]
  dsimp only
  rw [splits.command, perform]
  exact Perform.outcome_split stored known

theorem Flattens.outcome (flattens : Flattens setup array glue dest) {elements : List String}
    (stored : state.bindings.get? array = some (.array elements)) :
    (execute run fuel surroundings setup block).outcome state = (some (.ok .done),
      storing state dest (.scalar
        ((String.ofList (Text.expandControls glue.toList)).intercalate elements))) := by
  rcases flattens.read with ⟨grammar, settings, grammatical, read, rfl, rfl, rfl⟩
  rw [execute, readOptions_eq grammatical read, pure_bind]
  dsimp only
  rw [flattens.command, perform]
  exact Perform.outcome_flatten stored

end Outcomes

theorem toList_glued (c : Char) (elements : List String) :
    ((String.ofList (Text.expandControls (String.singleton c).toList)).intercalate
      elements).toList = [c].intercalate (elements.map String.toList) := by
  rw [String.toList_singleton, Text.expandControls_singleton, String.toList_intercalate,
    String.toList_ofList]

/-- Where a pattern without groups matches one character, cutting and then joining takes nothing
from a text but the characters at its end, and joining and then cutting gives the same elements, if
none of them holds the character and the last one is not empty. -/
theorem split_and_flatten_undo_each_other (run : Runner) (fuel : Nat)
    (surroundings : Surroundings) (block : Option (List Instruction)) {splitting flattening : Setup}
    {source middle dest delimiter : String} {c : Char} {pattern : Pattern}
    (known : Pattern.ofText surroundings.characters delimiter = .ok pattern)
    (only : pattern.MatchesOnly c) (groupless : pattern.groups = 0) (state : State) :
    (Splits splitting source delimiter middle →
      Flattens flattening middle (String.singleton c) dest →
      ∀ text, state.bindings.get? source = some (.scalar text) → ∃ pieces,
        (execute run fuel surroundings splitting block).outcome state =
            (some (.ok .done), storing state middle (.array pieces)) ∧
          (execute run fuel surroundings flattening block).outcome
              (storing state middle (.array pieces)) =
            (some (.ok .done), storing (storing state middle (.array pieces)) dest
              (.scalar (String.ofList (text.toList.rdropWhile (· == c)))))) ∧
      (Flattens flattening source (String.singleton c) middle →
        Splits splitting middle delimiter dest →
        ∀ elements, state.bindings.get? source = some (.array elements) →
          (∀ element ∈ elements, c ∉ element.toList) → elements.getLast? ≠ some "" → ∃ text,
            (execute run fuel surroundings flattening block).outcome state =
                (some (.ok .done), storing state middle (.scalar text)) ∧
              (execute run fuel surroundings splitting block).outcome
                  (storing state middle (.scalar text)) =
                (some (.ok .done), storing (storing state middle (.scalar text)) dest
                  (.array elements))) := by
  constructor
  · intro splits flattens text stored
    refine ⟨_, splits.outcome run fuel surroundings block stored known, ?_⟩
    have joined : (String.ofList (Text.expandControls (String.singleton c).toList)).intercalate
        (Perform.piecesOf pattern text) = String.ofList (text.toList.rdropWhile (· == c)) := by
      rw [← String.toList_inj, toList_glued, String.toList_ofList,
        Perform.piecesOf_eq only groupless, ← Text.intercalate_pieces, List.map_map]
      simp
    rw [← joined]
    exact flattens.outcome run fuel surroundings block (get?_storing ..)
  · intro flattens splits elements stored absent last
    refine ⟨_, flattens.outcome run fuel surroundings block stored, ?_⟩
    have separate : ∀ piece ∈ elements.map String.toList, c ∉ piece := by
      intro piece member
      rcases List.mem_map.mp member with ⟨element, inside, rfl⟩
      exact absent element inside
    have nonempty : (elements.map String.toList).getLast? ≠ some [] := by
      rw [List.getLast?_map]
      intro empty
      rcases Option.map_eq_some_iff.mp empty with ⟨element, final, none⟩
      exact last (by rw [final, String.toList_eq_nil_iff.mp none])
    have cut : Perform.piecesOf pattern
        ((String.ofList (Text.expandControls (String.singleton c).toList)).intercalate elements) =
          elements := by
      rw [Perform.piecesOf_eq only groupless, toList_glued,
        Text.pieces_intercalate separate nonempty, List.map_map]
      simp
    have ended := splits.outcome run fuel surroundings block
      (get?_storing state middle (.scalar ((String.ofList
        (Text.expandControls (String.singleton c).toList)).intercalate elements))) known
    rwa [cut] at ended

/-! ## Two delimiters -/

def cutting (source delimiter dest : String) : Setup :=
  ⟨.split, none, [], ["--str", source, "--delimiter", delimiter, "--dest", dest]⟩

def joining (array glue dest : String) : Setup :=
  ⟨.flatten, none, [], ["--array", array, "--glue", glue, "--dest", dest]⟩

/-- A pattern that is the escape of one character. -/
def dotPattern : Pattern := ⟨.single ⟨false, [.range '.'.toNat '.'.toNat], .exact, false⟩, 0, []⟩

def dottedState : State :=
  .initial ((Variables.empty.set "s" (.scalar ".a..b..")).set "xs" (.array ["", "a", "", "b"]))
    ⟨.directory .nil, []⟩

theorem split_and_flatten_undo_each_other_at_dots :
    (∃ pieces,
      (execute (runBlock 0) 0 bareSurroundings (cutting "s" "\\." "ys") none).outcome dottedState =
          (some (.ok .done), storing dottedState "ys" (.array pieces)) ∧
        (execute (runBlock 0) 0 bareSurroundings (joining "ys" "." "t") none).outcome
            (storing dottedState "ys" (.array pieces)) =
          (some (.ok .done),
            storing (storing dottedState "ys" (.array pieces)) "t" (.scalar ".a..b"))) ∧
      ∃ text,
        (execute (runBlock 0) 0 bareSurroundings (joining "xs" "." "t") none).outcome dottedState =
            (some (.ok .done), storing dottedState "t" (.scalar text)) ∧
          (execute (runBlock 0) 0 bareSurroundings (cutting "t" "\\." "zs") none).outcome
              (storing dottedState "t" (.scalar text)) =
            (some (.ok .done),
              storing (storing dottedState "t" (.scalar text)) "zs"
                (.array ["", "a", "", "b"])) := by
  have known : Pattern.ofText bareSurroundings.characters "\\." = .ok dotPattern := by
    decide +kernel
  have only : dotPattern.MatchesOnly '.' :=
    Pattern.matchesOnly_single (Pattern.accepts_literal '.' · false) 0 []
  have cuts : Splits (cutting "s" "\\." "ys") "s" "\\." "ys" :=
    ⟨rfl, _, _, rfl, rfl, rfl, rfl, rfl⟩
  have joins : Flattens (joining "ys" "." "t") "ys" (String.singleton '.') "t" :=
    ⟨rfl, _, _, rfl, rfl, rfl, rfl, rfl⟩
  have joinsFirst : Flattens (joining "xs" "." "t") "xs" (String.singleton '.') "t" :=
    ⟨rfl, _, _, rfl, rfl, rfl, rfl, rfl⟩
  have cutsAgain : Splits (cutting "t" "\\." "zs") "t" "\\." "zs" :=
    ⟨rfl, _, _, rfl, rfl, rfl, rfl, rfl⟩
  exact ⟨(split_and_flatten_undo_each_other (runBlock 0) 0 bareSurroundings none known only rfl
      dottedState).1 cuts joins ".a..b.." rfl,
    (split_and_flatten_undo_each_other (runBlock 0) 0 bareSurroundings none known only rfl
      dottedState).2 joinsFirst cutsAgain ["", "a", "", "b"] rfl (by decide) (by decide)⟩

/-- A character in a group that captures it. -/
def capturedComma : Pattern :=
  ⟨.group (some 1) (.single ⟨false, [.range ','.toNat ','.toNat], .exact, false⟩), 1, []⟩

def commaState : State :=
  .initial (Variables.empty.set "s" (.scalar "a,b")) ⟨.directory .nil, []⟩

/-- What a group captures is kept between the pieces, so that it is there twice once they are
joined. -/
theorem split_keeps_captured_delimiters :
    (Pattern.ofText bareSurroundings.characters "(,)" = .ok capturedComma ∧
        capturedComma.MatchesOnly ',') ∧
      commaState.bindings.get? "s" = some (.scalar "a,b") ∧
      ∃ pieces,
        (execute (runBlock 0) 0 bareSurroundings (cutting "s" "(,)" "xs") none).outcome commaState =
            (some (.ok .done), storing commaState "xs" (.array pieces)) ∧
          (execute (runBlock 0) 0 bareSurroundings (joining "xs" "," "t") none).outcome
              (storing commaState "xs" (.array pieces)) =
            (some (.ok .done),
              storing (storing commaState "xs" (.array pieces)) "t" (.scalar "a,,,b")) ∧
          "a,,,b" ≠ String.ofList ("a,b".toList.rdropWhile (· == ',')) := by
  have known : Pattern.ofText bareSurroundings.characters "(,)" = .ok capturedComma := by
    decide +kernel
  have only : capturedComma.MatchesOnly ',' :=
    Pattern.matchesOnly_group (Pattern.accepts_literal ',' · false) 1 [] 1
  have splits : Splits (cutting "s" "(,)" "xs") "s" "(,)" "xs" :=
    ⟨rfl, _, _, rfl, rfl, rfl, rfl, rfl⟩
  have flattens : Flattens (joining "xs" "," "t") "xs" "," "t" :=
    ⟨rfl, _, _, rfl, rfl, rfl, rfl, rfl⟩
  refine ⟨⟨known, only⟩, rfl, _, splits.outcome _ _ _ _ rfl known, ?_, by decide⟩
  have joined : (String.ofList (Text.expandControls ",".toList)).intercalate
      (Perform.piecesOf capturedComma "a,b") = "a,,,b" := by
    decide +kernel
  rw [← joined]
  exact flattens.outcome _ _ _ _ (get?_storing ..)

end Engine

end Runbook
