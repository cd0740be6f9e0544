import Mathlib.Data.List.Chain
import Runbook.Proofs.Variables.Passes

/-! # Templates

A template is a text in which every mark of a reference belongs to a whole reference
to a plain name. Its pieces are found again in the text, so replacing the references
to a variable in the text is replacing them among the pieces.
-/

namespace Runbook.Variables

inductive Piece
  | character (c : Char) (plain : isPlain c = true)
  | reference (name : String) (plain : name.toList.all isPlain = true)

abbrev Template := List Piece

def Piece.text : Piece → List Char
  | .character c _ => [c]
  | .reference name _ => Variables.reference name.toList

namespace Template

def text (template : Template) : List Char := template.flatMap Piece.text

@[simp] theorem text_nil : text [] = [] := rfl

@[simp] theorem text_cons (piece : Piece) (template : Template) :
    text (piece :: template) = piece.text ++ template.text := rfl

@[simp] theorem text_append (first second : Template) :
    text (first ++ second) = first.text ++ second.text :=
  List.flatMap_append

theorem text_injective : ∀ {first second : Template}, first.text = second.text → first = second
  | [], [], _ => rfl
  | [], .character _ _ :: _, same => by simp [Piece.text] at same
  | [], .reference _ _ :: _, same => by simp [Piece.text, reference, referenceStart] at same
  | .character _ _ :: _, [], same => by simp [Piece.text] at same
  | .reference _ _ :: _, [], same => by simp [Piece.text, reference, referenceStart] at same
  | .character c plain :: first, .character d _ :: second, same => by
      rcases List.cons.inj same with ⟨rfl, rest⟩
      rw [text_injective rest]
  | .character c plain :: _, .reference _ _ :: _, same => by
      have dollar : c = '$' := (List.cons.inj same).1
      exact absurd plain (by rw [dollar]; decide)
  | .reference _ _ :: _, .character c plain :: _, same => by
      have dollar : '$' = c := (List.cons.inj same).1
      exact absurd plain (by rw [← dollar]; decide)
  | .reference name plain :: first, .reference other otherPlain :: second, same => by
      rcases reference_append_inj plain otherPlain same with ⟨names, rest⟩
      cases String.toList_inj.mp names
      rw [text_injective rest]

/-! ## Replacing references -/

/-- Put a template in the place of the references to a variable. -/
def replace (name : String) (inner : Template) (template : Template) : Template :=
  template.flatMap fun
    | .reference other plain => if other = name then inner else [.reference other plain]
    | .character c plain => [.character c plain]

variable {name : String} {inner : Template}

@[simp] theorem replace_nil : replace name inner [] = [] := rfl

@[simp] theorem replace_character (c : Char) (plain : isPlain c = true) (template : Template) :
    replace name inner (.character c plain :: template) =
      .character c plain :: replace name inner template := rfl

@[simp] theorem replace_same (plain : name.toList.all isPlain = true) (template : Template) :
    replace name inner (.reference name plain :: template) =
      inner ++ replace name inner template := by
  simp [replace]

theorem replace_other {other : String} (different : other ≠ name)
    (plain : other.toList.all isPlain = true) (template : Template) :
    replace name inner (.reference other plain :: template) =
      .reference other plain :: replace name inner template := by
  simp [replace, different]

theorem replace_eq_self {template : Template}
    (absent : ∀ plain, .reference name plain ∉ template) :
    replace name inner template = template := by
  induction template with
  | nil => rfl
  | cons piece template induction =>
      have rest := induction fun plain member => absent plain (List.mem_cons_of_mem piece member)
      cases piece with
      | character c plain => rw [replace_character, rest]
      | reference other plain =>
          have different : other ≠ name := by
            rintro rfl
            exact absent plain List.mem_cons_self
          rw [replace_other different, rest]

theorem mem_replace {piece : Piece} {template : Template}
    (member : piece ∈ replace name inner template) :
    (piece ∈ inner ∧ ∃ plain, .reference name plain ∈ template) ∨
      piece ∈ template ∧ ∀ plain, piece ≠ .reference name plain := by
  rcases List.mem_flatMap.mp member with ⟨⟨c, plain⟩ | ⟨other, plain⟩, inTemplate, inReplaced⟩
  · rw [List.mem_singleton.mp inReplaced]
    exact .inr ⟨inTemplate, by simp⟩
  · change piece ∈ if other = name then inner else [.reference other plain] at inReplaced
    by_cases same : other = name
    · subst same
      rw [if_pos rfl] at inReplaced
      exact .inl ⟨inReplaced, plain, inTemplate⟩
    · rw [if_neg same] at inReplaced
      rw [List.mem_singleton.mp inReplaced]
      exact .inr ⟨inTemplate, by simp [same]⟩

/-- Characters that start no reference are passed over. -/
theorem substitute_reference_append {name passed : List Char} (new rest : List Char)
    (free : '$' ∉ passed) :
    Text.substitute (reference name) new (passed ++ rest) =
      passed ++ Text.substitute (reference name) new rest :=
  (Text.StartsNowhere.of_head rfl free).substitute (reference_ne_nil name) new

theorem resolve_text {value : String} (plain : name.toList.all isPlain = true)
    (written : inner.text = value.toList) (template : Template) :
    resolve name value template.text = (replace name inner template).text := by
  unfold resolve
  induction template with
  | nil => exact Text.substitute_nil _ (reference_ne_nil _)
  | cons piece template induction =>
      cases piece with
      | character c cPlain =>
          have free : '$' ∉ [c] := not_mem_of_plain (by simpa using cPlain) (by decide)
          rw [replace_character, text_cons, text_cons, ← induction]
          exact substitute_reference_append _ _ free
      | reference other otherPlain =>
          by_cases same : other = name
          · subst same
            rw [replace_same, text_append, written, ← induction]
            exact Text.substitute_append _ (reference_ne_nil _) _
          · rw [replace_other same, text_cons, text_cons, ← induction]
            have differs : ¬reference name.toList <+:
                '$' :: (('\x7b' :: other.toList ++ ['\x7d']) ++ Template.text template) := by
              rintro ⟨behind, shape⟩
              exact same (String.toList_inj.mp
                (reference_append_inj otherPlain plain shape.symm).1)
            have free : '$' ∉ '\x7b' :: other.toList ++ ['\x7d'] := by
              simpa using not_mem_of_plain otherPlain (by decide)
            have shape : Piece.text (.reference other otherPlain) ++ Template.text template =
                '$' :: (('\x7b' :: other.toList ++ ['\x7d']) ++ Template.text template) := rfl
            rw [shape, Text.substitute_cons _ (reference_ne_nil _) differs,
              substitute_reference_append _ _ free]
            rfl

/-! ## References to the host environment -/

/-- An opening brace stands directly behind a dollar sign. -/
def Braced : List Char → Prop := List.IsChain fun c d => d = '\x7b' → c = '$'

theorem braced_cons {c : Char} {text : List Char} (opens : text.head? = some '\x7b' → c = '$')
    (braced : Braced text) : Braced (c :: text) := by
  cases text with
  | nil => exact .singleton c
  | cons d text => exact .cons_cons (fun same => opens (by rw [same, List.head?_cons])) braced

section

variable {front rest : List Char} (free : '\x7b' ∉ front) (closed : rest.head? ≠ some '\x7b')
include free closed

theorem head?_append_ne : (front ++ rest).head? ≠ some '\x7b' := by
  cases front with
  | nil => exact closed
  | cons c front =>
      intro same
      rw [Option.some.inj same] at free
      exact free List.mem_cons_self

theorem braced_append (braced : Braced rest) : Braced (front ++ rest) := by
  induction front with
  | nil => exact braced
  | cons c front induction =>
      have free := List.not_mem_of_not_mem_cons free
      exact braced_cons (fun opens => absurd opens (head?_append_ne free closed)) (induction free)

end

theorem head?_text_ne (template : Template) : template.text.head? ≠ some '\x7b' := by
  rcases template with _ | ⟨⟨c, plain⟩ | ⟨name, plain⟩, template⟩
  · simp
  · rintro same
    rw [Option.some.inj same] at plain
    contradiction
  · simp [Piece.text, reference, referenceStart]

theorem braced_text (template : Template) : Braced template.text := by
  induction template with
  | nil => exact .nil
  | cons piece template induction =>
      have closed := head?_text_ne template
      cases piece with
      | character c plain =>
          have free : '\x7b' ∉ [c] := not_mem_of_plain (by simpa using plain) (by decide)
          exact braced_append free closed induction
      | reference name plain =>
          have free : '\x7b' ∉ name.toList ++ ['\x7d'] := by
            simpa using not_mem_of_plain plain (by decide)
          have shape : text (.reference name plain :: template) =
              '$' :: '\x7b' :: (name.toList ++ ['\x7d'] ++ text template) := rfl
          rw [shape]
          refine braced_cons (fun _ => rfl) (braced_cons (fun opens => ?_) ?_)
          · exact absurd opens (head?_append_ne free closed)
          · exact braced_append free closed induction

/-- A template refers to nothing of the host environment. -/
theorem expandHost_text (host : List (String × String)) (template : Template) :
    expandHost host template.text = template.text := by
  refine expandHost_of_absent fun entry _ refers => ?_
  have opening : ['@', '\x7b'] <:+: hostReference entry.1.toList :=
    ((List.prefix_append ['@', '\x7b'] _).trans (List.prefix_append _ _)).isInfix
  have braced : Braced ['@', '\x7b'] :=
    List.IsChain.infix (braced_text template) (opening.trans refers)
  simp [Braced] at braced

end Template

end Runbook.Variables
