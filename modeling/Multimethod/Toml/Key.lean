import Multimethod.Toml.Text

/-!
# Keys

A path of eighty names or more is refused.
-/

namespace Multimethod.Toml

def isBareKeyChar (c : Char) : Bool := c.isAlphanum || c = '_' || c = '-'

def keyName : Reader String
  | '"' :: rest => (basicText rest).map fun (name, rest) => (String.ofList name, rest)
  | '\x27' :: rest => (literalText rest).map fun (name, rest) => (String.ofList name, rest)
  | cs =>
    let name := cs.takeWhile isBareKeyChar
    if name.isEmpty then none else some (String.ofList name, cs.dropWhile isBareKeyChar)

/-- The names of a path. Reading goes on as long as something is read. -/
def keyNames (cs : List Char) : Option (List String × List Char) :=
  match keyName (skipBlanks cs) with
  | none => none
  | some (name, rest) =>
    match skipBlanks rest with
    | '.' :: rest =>
      if rest.length < cs.length then
        (keyNames rest).map fun (names, rest) => (name :: names, rest)
      else none
    | rest => some ([name], rest)
termination_by cs.length

def longestPath : Nat := 79

structure KeyPath where
  parents : List String
  name : String
deriving DecidableEq

def keyPath (cs : List Char) : Option (KeyPath × List Char) := do
  let (names, rest) ← keyNames cs
  if names.length ≤ longestPath then
    let name ← names.getLast?
    return ({ parents := names.dropLast, name }, rest)
  else none

end Multimethod.Toml
