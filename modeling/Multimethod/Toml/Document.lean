import Multimethod.Toml.Draft
import Multimethod.Toml.Moment
import Multimethod.Toml.Number

/-!
# Documents

Each loop goes on only while characters are taken, and values are nested at most 79 deep.
-/

namespace Multimethod.Toml

/-! ## Values -/

def startsNumber (c : Char) : Bool := c = '+' || c = '-' || c = 'i' || c = 'n' || c.isDigit

def scalar (cs : List Char) : Option (Value × List Char) :=
  match cs with
  | 't' :: 'r' :: 'u' :: 'e' :: rest => some (.boolean true, rest)
  | 'f' :: 'a' :: 'l' :: 's' :: 'e' :: rest => some (.boolean false, rest)
  | c :: _ =>
    if c = '"' || c = '\x27' then (text cs).map fun (s, rest) => (.string s, rest)
    else if startsNumber c then
      match moment cs with
      | some (m, rest) => some (.moment m, rest)
      | none => number cs
    else none
  | [] => none

def elements (value : Reader Value) (cs : List Char) : Option (List Value × List Char) :=
  match skipSpace false cs with
  | none => none
  | some (']' :: rest) => some ([], rest)
  | some start =>
    match value start with
    | none => none
    | some (v, rest) =>
      match skipSpace false rest with
      | some (']' :: rest) => some ([v], rest)
      | some (',' :: rest) =>
        if rest.length < cs.length then
          (elements value rest).map fun (vs, rest) => (v :: vs, rest)
        else none
      | _ => none
termination_by cs.length

def keyValue (value : Reader Value) (cs : List Char) : Option ((KeyPath × Value) × List Char) := do
  let (key, rest) ← keyPath cs
  let rest ← mark '=' rest
  let (v, rest) ← value (skipBlanks rest)
  return ((key, v), rest)

/-- The pairs of an inline table, added to those before. There is one behind every comma. -/
def pairs (value : Reader Value) (nodes : Nodes) (cs : List Char) : Option (Nodes × List Char) :=
  match keyValue value cs with
  | none => none
  | some ((key, v), rest) =>
    match nodes.insert key v with
    | none => none
    | some nodes =>
      match skipBlanks rest with
      | '}' :: rest => some (nodes, rest)
      | ',' :: rest => if rest.length < cs.length then pairs value nodes rest else none
      | _ => none
termination_by cs.length

def inlineTable (value : Reader Value) (cs : List Char) : Option (Value × List Char) :=
  match skipBlanks cs with
  | '}' :: rest => some (.table [], rest)
  | cs => (pairs value [] cs).map fun (nodes, rest) => (.table (closeNodes nodes), rest)

/-- A value with at most `depth` others around a scalar. -/
def value : (depth : Nat) → Reader Value
  | 0, cs => scalar cs
  | depth + 1, '[' :: rest =>
    (elements (value depth) rest).map fun (vs, rest) => (.array vs, rest)
  | depth + 1, '{' :: rest => inlineTable (value depth) rest
  | _ + 1, cs => scalar cs

def deepestNesting : Nat := 79

/-! ## Lines -/

def header (closing : List Char) (cs : List Char) : Option (KeyPath × List Char) := do
  let (key, rest) ← keyPath cs
  if closing.isPrefixOf rest then
    let rest ← trailing (rest.drop closing.length)
    return (key, rest)
  else none

def line (d : Draft) (cs : List Char) : Option (Draft × List Char) :=
  match cs with
  | '[' :: '[' :: rest => do
    let (key, rest) ← header [']', ']'] rest
    let d ← d.startElement key
    return (d, rest)
  | '[' :: rest => do
    let (key, rest) ← header [']'] rest
    let d ← d.startTable key
    return (d, rest)
  | c :: _ =>
    if c = '#' || c = '\n' || c = '\r' then (trailing cs).map (d, ·)
    else do
      let ((key, v), rest) ← keyValue (value deepestNesting) cs
      let d ← d.insert key v
      let rest ← trailing rest
      return (d, rest)
  | [] => some (d, [])

def lines (d : Draft) (cs : List Char) : Option Draft :=
  match skipBlanks cs with
  | [] => some d
  | start =>
    match line d start with
    | none => none
    | some (d, rest) => if rest.length < cs.length then lines d rest else none
termination_by cs.length

/-- The tree of a document; a mark of the byte order in front is skipped. -/
def read (document : String) : Option Table :=
  let cs :=
    match document.toList with
    | '\uFEFF' :: rest => rest
    | cs => cs
  (lines {} cs).bind fun d => d.finish.map closeNodes

end Multimethod.Toml
