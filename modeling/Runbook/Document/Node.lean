import Runbook.Document.Scalar
import Runbook.Document.Token

/-!
The nodes of a document: what its tokens say before tags are turned into values.
An alias stands for a copy of the node that it refers to.
-/

namespace Runbook.Document

mutual

/-- A node. `cycle` is an alias to a collection in which it stands. -/
inductive Node
  | scalar (tag : Tag) (text : String)
  | sequence (tag : Tag) (items : Nodes)
  | mapping (tag : Tag) (pairs : NodePairs)
  | cycle (mapping : Bool)

inductive Nodes
  | nil
  | cons (head : Node) (tail : Nodes)

inductive NodePairs
  | nil
  | cons (key value : Node) (tail : NodePairs)

end

def Nodes.ofList : List Node → Nodes
  | [] => .nil
  | head :: tail => .cons head (ofList tail)

def Nodes.toList : Nodes → List Node
  | .nil => []
  | .cons head tail => head :: tail.toList

def NodePairs.ofList : List (Node × Node) → NodePairs
  | [] => .nil
  | (key, value) :: tail => .cons key value (ofList tail)

def NodePairs.toList : NodePairs → List (Node × Node)
  | .nil => []
  | .cons key value tail => (key, value) :: tail.toList

/-! ## Composing -/

/-- The anchors set so far, the newest first, and what tags may be shortened to. -/
structure Context where
  anchors : List (String × Node)
  handles : List (String × String)

abbrev Compose := StateT Context Scan

namespace Compose

def fail {α : Type} (stage : Stage) (problem : String) : Compose α := do
  let scanner ← (get : Scan Scanner)
  throw (.at stage scanner.line problem)

def next : Compose Token := nextToken

def take : Compose Token := takeToken

def sees (token : Token) : Compose Bool := do return (← next) == token

def take? (token : Token) : Compose Bool := do
  if ← sees token then
    let _ ← take
    return true
  else return false

def expect (token : Token) (problem : String) : Compose Unit := do
  if !(← take? token) then fail .arrangement problem

end Compose

open Compose

def emptyNode : Node := .scalar .null ""

/-- What may stand before the content of a node. -/
structure Properties where
  anchor : Option String
  tag : Option String

def takeAnchor : Compose (Option String) := do
  match ← next with
  | .anchor name =>
      let _ ← take
      return some name
  | _ => return none

def takeTag : Compose (Option (Option String × String)) := do
  match ← next with
  | .tag handle suffix =>
      let _ ← take
      return some (handle, suffix)
  | _ => return none

def takeProperties : Compose Properties := do
  let first ← takeAnchor
  let tag ← takeTag
  let anchor ← if first.isNone && tag.isSome then takeAnchor else pure first
  match tag with
  | none => return ⟨anchor, none⟩
  | some (none, suffix) => return ⟨anchor, some suffix⟩
  | some (some handle, suffix) =>
      match (← get).handles.lookup handle with
      | some start => return ⟨anchor, some (start ++ suffix)⟩
      | none => fail .arrangement "found undefined tag handle"

def checkAnchor (properties : Properties) : Compose Unit := do
  let context ← get
  if properties.anchor.any fun name => (context.anchors.lookup name).isSome then
    fail .references "found duplicate anchor"

def setAnchor (properties : Properties) (node : Node) : Compose Unit := do
  match properties.anchor with
  | none => return ()
  | some name => modify fun context => { context with anchors := (name, node) :: context.anchors }

/-- The tag of a scalar, which counts as plain or not if it has none. -/
def scalarTag (properties : Properties) (text : String) (plain : Bool) : Tag :=
  match properties.tag with
  | none => if plain then plainTag text else .text
  | some name => if name == "!" then plainTag text else .ofName name

def collectionTag (properties : Properties) (default : Tag) : Tag :=
  match properties.tag with
  | none => default
  | some name => if name == "!" then default else .ofName name

def isMissingInMapping (token : Token) : Bool :=
  token == .key || token == .value || token == .blockEnd

mutual

/-- A node. In block context it may be a block collection, and with `indentless`
also a sequence whose entries are not indented. -/
def composeNode : (fuel : Nat) → (block indentless : Bool) → Compose Node
  | 0, _, _ => fail .arrangement "expected a shallower document"
  | fuel + 1, block, indentless => do
      match ← next with
      | .alias name =>
          let _ ← take
          match (← get).anchors.lookup name with
          | some node => return node
          | none => fail .references "found undefined alias"
      | _ =>
          let properties ← takeProperties
          let token ← next
          match token with
          | .scalar text plain =>
              let _ ← take
              checkAnchor properties
              let node := Node.scalar (scalarTag properties text plain) text
              setAnchor properties node
              return node
          | .flowSequenceStart =>
              checkAnchor properties
              setAnchor properties (.cycle false)
              let _ ← take
              let node := Node.sequence (collectionTag properties .sequence)
                (← composeFlowSequence fuel true)
              setAnchor properties node
              return node
          | .flowMappingStart =>
              checkAnchor properties
              setAnchor properties (.cycle true)
              let _ ← take
              let node := Node.mapping (collectionTag properties .mapping)
                (← composeFlowMapping fuel true)
              setAnchor properties node
              return node
          | _ =>
              if indentless && token == .blockEntry then
                checkAnchor properties
                setAnchor properties (.cycle false)
                let node := Node.sequence (collectionTag properties .sequence)
                  (← composeIndentless fuel)
                setAnchor properties node
                return node
              else if block && token == .blockSequenceStart then
                checkAnchor properties
                setAnchor properties (.cycle false)
                let _ ← take
                let node := Node.sequence (collectionTag properties .sequence)
                  (← composeBlockSequence fuel)
                setAnchor properties node
                return node
              else if block && token == .blockMappingStart then
                checkAnchor properties
                setAnchor properties (.cycle true)
                let _ ← take
                let node := Node.mapping (collectionTag properties .mapping)
                  (← composeBlockMapping fuel)
                setAnchor properties node
                return node
              else if properties.anchor.isSome || properties.tag.isSome then
                checkAnchor properties
                let node := Node.scalar (scalarTag properties "" true) ""
                setAnchor properties node
                return node
              else fail .arrangement "expected the node content"

def composeBlockSequence : (fuel : Nat) → Compose Nodes
  | 0 => fail .arrangement "expected a shorter document"
  | fuel + 1 => do
      if ← take? .blockEntry then
        let token ← next
        let item ← if token == .blockEntry || token == .blockEnd then pure emptyNode
          else composeNode fuel true false
        return .cons item (← composeBlockSequence fuel)
      else
        expect .blockEnd "expected <block end>"
        return .nil

def composeIndentless : (fuel : Nat) → Compose Nodes
  | 0 => fail .arrangement "expected a shorter document"
  | fuel + 1 => do
      if ← take? .blockEntry then
        let token ← next
        let item ← if token == .blockEntry || isMissingInMapping token then pure emptyNode
          else composeNode fuel true false
        return .cons item (← composeIndentless fuel)
      else return .nil

def composeBlockMapping : (fuel : Nat) → Compose NodePairs
  | 0 => fail .arrangement "expected a shorter document"
  | fuel + 1 => do
      if ← take? .key then
        let key ← if isMissingInMapping (← next) then pure emptyNode
          else composeNode fuel true true
        let value ← (do
          if ← take? .value then
            if isMissingInMapping (← next) then return emptyNode else composeNode fuel true true
          else return emptyNode)
        return .cons key value (← composeBlockMapping fuel)
      else
        expect .blockEnd "expected <block end>"
        return .nil

/-- The items of a flow sequence behind the opening bracket. An item can be a
mapping of one key. -/
def composeFlowSequence : (fuel : Nat) → (first : Bool) → Compose Nodes
  | 0, _ => fail .arrangement "expected a shorter document"
  | fuel + 1, first => do
      if ← take? .flowSequenceEnd then return .nil
      else
        if !first then expect .flowEntry "expected ',' or ']'"
        if ← take? .key then
          let key ← (do
            let token ← next
            if token == .value || token == .flowEntry || token == .flowSequenceEnd then
              return emptyNode
            else composeNode fuel false false)
          let value ← (do
            if ← take? .value then
              let token ← next
              if token == .flowEntry || token == .flowSequenceEnd then return emptyNode
              else composeNode fuel false false
            else return emptyNode)
          return .cons (.mapping .mapping (.cons key value .nil)) (← composeFlowSequence fuel false)
        else if ← take? .flowSequenceEnd then return .nil
        else
          let item ← composeNode fuel false false
          return .cons item (← composeFlowSequence fuel false)

/-- The fields of a flow mapping behind the opening brace. -/
def composeFlowMapping : (fuel : Nat) → (first : Bool) → Compose NodePairs
  | 0, _ => fail .arrangement "expected a shorter document"
  | fuel + 1, first => do
      if ← take? .flowMappingEnd then return .nil
      else
        if !first then expect .flowEntry "expected ',' or a closing brace"
        if ← take? .key then
          let key ← (do
            let token ← next
            if token == .value || token == .flowEntry || token == .flowMappingEnd then
              return emptyNode
            else composeNode fuel false false)
          let value ← (do
            if ← take? .value then
              let token ← next
              if token == .flowEntry || token == .flowMappingEnd then return emptyNode
              else composeNode fuel false false
            else return emptyNode)
          return .cons key value (← composeFlowMapping fuel false)
        else if ← take? .flowMappingEnd then return .nil
        else
          let key ← composeNode fuel false false
          return .cons key emptyNode (← composeFlowMapping fuel false)

end

/-! ## Whole documents -/

/-- What tags can be shortened to unless a directive says otherwise. -/
def defaultHandles : List (String × String) := [("!", "!"), ("!!", Tag.commonStart)]

def takeDirectives : (fuel : Nat) → (version : Bool) → List (String × String) →
    Compose (List (String × String))
  | 0, _, handles => return handles
  | fuel + 1, version, handles => do
      match ← next with
      | .directive _ (some (major, _)) _ =>
          let _ ← take
          if version then fail .arrangement "found duplicate YAML directive"
          else if major != 1 then fail .arrangement "found incompatible YAML document"
          else takeDirectives fuel true handles
      | .directive _ none (some (handle, start)) =>
          let _ ← take
          if (handles.lookup handle).isSome then fail .arrangement "duplicate tag handle"
          else takeDirectives fuel version ((handle, start) :: handles)
      | .directive _ none none =>
          let _ ← take
          takeDirectives fuel version handles
      | _ => return handles

/-- Directives and the line that starts a document. -/
def startDocument (fuel : Nat) : Compose Unit := do
  let handles ← takeDirectives fuel false []
  expect .documentStart "expected '<document start>'"
  modify fun context => { context with handles := handles ++ defaultHandles }

def skipDocumentEnds : (fuel : Nat) → Compose Unit
  | 0 => return ()
  | fuel + 1 => do
      if ← take? .documentEnd then skipDocumentEnds fuel

def isDirective : Token → Bool
  | .directive _ _ _ => true
  | _ => false

/-- The only document of a text, if there is any. -/
def composeDocument (fuel : Nat) : Compose (Option Node) := do
  let first ← next
  if first == .streamEnd then return none
  else
    let node ← (do
      if isDirective first || first == .documentStart then
        startDocument fuel
        let token ← next
        if isDirective token || token == .documentStart || token == .documentEnd ||
            token == .streamEnd then
          return emptyNode
        else composeNode fuel true false
      else composeNode fuel true false)
    skipDocumentEnds fuel
    if ← sees .streamEnd then return some node
    else
      startDocument fuel
      fail .references "expected a single document in the stream"

def isPermitted (c : Char) : Bool :=
  let code := c.toNat
  code == 9 || code == 10 || code == 13 || (32 ≤ code && code ≤ 126) || code == 0x85 ||
    (0xA0 ≤ code && code ≤ 0xD7FF) || (0xE000 ≤ code && code ≤ 0xFFFD) || 0x10000 ≤ code

def Node.ofText? (text : List Char) : Except Fault (Option Node) := do
  if text.all isPermitted then
    let fuel := 10 * text.length + 50
    let ((node, _), _) ← ((composeDocument fuel).run ⟨[], defaultHandles⟩).run (.ofText text)
    return node
  else throw (.at .characters 0 "special characters are not allowed")

end Runbook.Document
