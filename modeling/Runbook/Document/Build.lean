import Runbook.Document.Node
import Runbook.Text.Lines

/-!
The values of nodes. A mapping can take over the fields of other mappings under
a merge key; its own fields come behind those and win over them. The elements of a
set are held in the order in which they are written.
-/

namespace Runbook.Document

def refuse {α : Type} (problem : String) : Reading α := .error (.at .values 0 problem)

def Value.isKey : Value → Bool
  | .sequence _ | .set _ | .mapping _ | .cycle _ => false
  | .pair first second => first.isKey && second.isKey
  | _ => true

def Node.isDefaultKey : Node → Bool
  | .scalar .defaultValue _ => true
  | _ => false

def Node.isMergeKey : Node → Bool
  | .scalar .merge _ => true
  | _ => false

mutual

/-- The text of a scalar. A mapping stands for its default value if it has one. -/
def Node.scalarText : Node → Reading String
  | .scalar _ text => .ok text
  | .mapping _ pairs => pairs.defaultText
  | _ => refuse "expected a scalar node"

def NodePairs.defaultText : NodePairs → Reading String
  | .nil => refuse "expected a scalar node"
  | .cons key value tail => if key.isDefaultKey then value.scalarText else tail.defaultText

end

/-- The value of a node with a tag, given what the node is as a text, as a
sequence and as a mapping. -/
def buildAs (tag : Tag) (text : Reading String) (elements : Reading (List Value))
    (fields : Reading (List (Value × Value))) : Reading Value :=
  match tag with
  | .null => text.map fun _ => .null
  | .boolean => text.bind readBoolean
  | .integer => text.bind readInteger
  | .decimal => text.bind readDecimal
  | .moment => text.bind readMoment
  | .bytes => text.bind readBytes
  | .text => text.map .text
  | .sequence => elements.map fun values => .sequence (.ofList values)
  | .mapping => fields.map fun pairs => .mapping (.ofPairs pairs)
  | .set => fields.map fun pairs => .set (.ofList ((Fields.ofPairs pairs).toList.map (·.1)))
  | .orderedMapping | .pairs => refuse "expected a sequence"
  | .merge | .defaultValue | .other _ =>
      refuse "could not determine a constructor for the tag"

def notText {α : Type} : Reading α := refuse "expected a scalar node"

def notSequence {α : Type} : Reading α := refuse "expected a sequence node"

def notMapping {α : Type} : Reading α := refuse "expected a mapping node"

/-- The fields that a mapping takes over, and its own. -/
structure Parts where
  merged : List (Value × Value)
  own : List (Value × Value)

/-- All fields in the order in which they are set. -/
def Parts.fields (parts : Parts) : List (Value × Value) := parts.merged ++ parts.own

mutual

def Node.build : Node → Reading Value
  | .cycle mapping => .ok (.cycle mapping)
  | .scalar tag text => buildAs tag (.ok text) notSequence notMapping
  | .sequence tag items =>
      if tag == .orderedMapping || tag == .pairs then
        items.buildPairs.map fun pairs => .sequence (.ofList pairs)
      else buildAs tag notText items.build notMapping
  | .mapping tag pairs => buildAs tag pairs.defaultText notSequence (pairs.build.map Parts.fields)

def Nodes.build : Nodes → Reading (List Value)
  | .nil => .ok []
  | .cons head tail => do
      let value ← head.build
      return value :: (← tail.build)

/-- The pairs that mappings of one field each stand for. -/
def Nodes.buildPairs : Nodes → Reading (List Value)
  | .nil => .ok []
  | .cons (.mapping _ (.cons key value .nil)) tail => do
      let first ← key.build
      let second ← value.build
      return .pair first second :: (← tail.buildPairs)
  | .cons _ _ => refuse "expected a mapping of length 1"

def NodePairs.build : NodePairs → Reading Parts
  | .nil => .ok ⟨[], []⟩
  | .cons key value tail => do
      if key.isMergeKey then
        let fields ← value.mergedFields
        let parts ← tail.build
        return { parts with merged := fields ++ parts.merged }
      else
        let name ← if key.isDefaultKey then key.scalarText.map .text else key.build
        if !name.isKey then refuse "found unhashable key"
        let content ← value.build
        let parts ← tail.build
        return { parts with own := (name, content) :: parts.own }

/-- What a merge key contributes: the fields of a mapping, or those of several
mappings, the first of which wins. -/
def Node.mergedFields : Node → Reading (List (Value × Value))
  | .mapping _ pairs => pairs.build.map Parts.fields
  | .sequence _ items => items.mergedFields
  | _ => refuse "expected a mapping or list of mappings for merging"

def Nodes.mergedFields : Nodes → Reading (List (Value × Value))
  | .nil => .ok []
  | .cons (.mapping _ pairs) tail => do
      let parts ← pairs.build
      return (← tail.mergedFields) ++ parts.fields
  | .cons _ _ => refuse "expected a mapping for merging"

end

/-- Read a document from the text of a file. A file without any document holds
null. -/
def read (text : String) : Except Fault Value := do
  match ← Node.ofText? (Text.unifyNewlines text.toList) with
  | none => return .null
  | some node => node.build

end Runbook.Document
