import Runbook.Association
import Runbook.Number.Arithmetic
import Runbook.Number.Notation
import Runbook.Text.Substitute

/-!
Script variables. A variable holds one text or an array of texts. Only single
texts take part in the expansion of a line: a reference to a variable is
replaced by its value, pass after pass, until a pass changes nothing.
-/

namespace Runbook

inductive Value
  | scalar (text : String)
  | array (elements : List String)
  deriving DecidableEq, Repr

/-- Variables in the order in which their names were first set. -/
structure Variables where
  entries : List (String × Value)
  distinct : (entries.map (·.1)).Nodup
  deriving Repr

namespace Variables

def empty : Variables := ⟨[], List.nodup_nil⟩

def get? (bindings : Variables) (name : String) : Option Value :=
  bindings.entries.lookup name

def has (bindings : Variables) (name : String) : Bool := (bindings.get? name).isSome

/-- A name that is already set keeps its place. -/
def set (bindings : Variables) (name : String) (value : Value) : Variables :=
  ⟨Association.set bindings.entries name value, Association.nodup_set bindings.distinct name value⟩

theorem get?_set (bindings : Variables) (name other : String) (value : Value) :
    (bindings.set name value).get? other =
      if other = name then some value else bindings.get? other :=
  Association.lookup_set bindings.entries name other value

def remove (bindings : Variables) (name : String) : Variables :=
  ⟨bindings.entries.filter fun entry => entry.1 != name,
    bindings.distinct.sublist (List.filter_sublist.map _)⟩

def size (bindings : Variables) : Nat := bindings.entries.length

/-- Names in the order of their code points. -/
def names (bindings : Variables) : List String :=
  (bindings.entries.map (·.1)).mergeSort fun a b => a ≤ b

def sorted (bindings : Variables) : List (String × Value) :=
  Association.sorted bindings.entries

/-! ## References -/

/-- What every reference to a variable starts with. -/
def referenceStart : List Char := ['$', '\x7b']

def reference (name : List Char) : List Char := referenceStart ++ name ++ ['\x7d']

/-- The text that refers to an entry of the host environment. -/
def hostReference (name : List Char) : List Char := ['@', '\x7b'] ++ name ++ ['\x7d']

/-- Replace the references to each scalar in turn. -/
def expandOnce (bindings : Variables) (text : List Char) : List Char :=
  bindings.entries.foldl (fun text entry =>
    match entry.2 with
    | .scalar value => Text.substitute (reference entry.1.toList) value.toList text
    | .array _ => text) text

/-- Replace the references to each entry of the host environment in turn. -/
def expandHost (host : List (String × String)) (text : List Char) : List Char :=
  host.foldl (fun text entry =>
    Text.substitute (hostReference entry.1.toList) entry.2.toList text) text

/-! ## Expansion -/

/-- How many passes an expansion may take. A limit that is no whole number still
bounds the passes if it can be compared with their number. -/
inductive Limit
  | passes (count : Int)
  | fractional (bound : Double)
  | flag (value : Bool)
  | incomparable (type : String)

namespace Limit

/-- The number of passes at which the limit counts as reached. A limit that no
number reaches bounds nothing in practice. -/
def bound : Limit → Int
  | .passes count => count
  | .fractional bound => bound.ceil.integer?.getD (if bound.isNegative then 0 else 1000000000000000)
  | .flag value => if value then 1 else 0
  | .incomparable _ => 0

def shown : Limit → String
  | .passes count => toString count
  | .fractional bound => Number.write bound
  | .flag value => if value then "True" else "False"
  | .incomparable type => type

/-- The passes that may follow the first one, which is always made. -/
def further (limit : Limit) : Nat := (limit.bound - 1).toNat

end Limit

inductive ExpansionError
  | tooDeep (limit : Limit) (text : String)
  | cyclic (text : String)
  | incomparableLimit (type : String)

def ExpansionError.message : ExpansionError → String
  | .tooDeep limit text => s!"Variable expansion exceeded max depth ({limit.shown}): {text}"
  | .cyclic text => s!"Cyclic variable reference in: {text}"
  | .incomparableLimit type => s!"'>=' not supported between instances of 'int' and '{type}'"

inductive Settled
  | stable (text : List Char)
  | revisited
  | unfinished
  deriving DecidableEq, Repr

/-- Make further passes over `result`, which came from the texts in `seen`. -/
def settle (pass : List Char → List Char) (seen : List (List Char)) :
    (further : Nat) → (result : List Char) → Settled
  | further, result =>
      if !Text.contains referenceStart result || seen.contains result then .stable result
      else
        match further with
        | 0 => .unfinished
        | further + 1 =>
            let next := pass result
            if next = result then .stable result
            else if (result :: seen).contains next then .revisited
            else settle pass (result :: seen) further next

/-- Expand the references to variables in a text. -/
def expandVariables (bindings : Variables) (limit : Limit) (text : String) :
    Except ExpansionError (List Char) :=
  match settle bindings.expandOnce [text.toList] limit.further
      (bindings.expandOnce text.toList) with
  | .stable result => .ok result
  | .revisited => .error (.cyclic text)
  | .unfinished =>
      match limit with
      | .incomparable type => .error (.incomparableLimit type)
      | _ => .error (.tooDeep limit text)

/-- Expand a text: references to variables until they settle, then references to
the host environment once. -/
def expand (bindings : Variables) (host : List (String × String)) (limit : Limit)
    (text : String) : Except ExpansionError String :=
  (bindings.expandVariables limit text).map fun result =>
    String.ofList (expandHost host result)

end Variables

end Runbook
