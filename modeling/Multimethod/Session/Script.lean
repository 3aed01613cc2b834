import Multimethod.Action
import Multimethod.Session.Scope

/-!
# Scripts

A script is run from its first part to its last, and each part adds to the text that the method answers.
-/

namespace Multimethod

inductive Script where
  | done
  | text (s : String) (rest : Script)
  | argument (i : Nat) (rest : Script)
  | typeName (i : Nat) (rest : Script)
  | count (rest : Script)
  | log (line : String) (rest : Script)
  /-- Goes on to the next method; an error becomes text if `caught`. -/
  | next (caught : Bool) (rest : Script)
  | nextArguments (rest : Script)
  | nextOutline (rest : Script)
  | peek (f : String) (rest : Script)
  /-- Calls a function; in an inner body an error ends the body if it is `passed`. -/
  | call (f : String) (sources : List Source) (passed : Bool) (rest : Script)
  | register (f : String) (kind : Kind) (types : List String) (body rest : Script)

namespace Script

abbrev Effect (k : Kind) := Action Argument Tag Scope String k

/-! ## Texts of single parts -/

def failureText (e : DispatchError Argument Tag) : String := "!" ++ e.kind

def faultText : Fault (DispatchError Argument Tag) → String
  | .unknownFunction => "!UnknownFunction"
  | .arityMismatch => "!ArityMismatch"
  | .raised e => failureText e

def registrationText : Except (Fault (RegistrationError Tag)) Unit → String
  | .ok _ => "+"
  | .error .unknownFunction => "!UnknownFunction"
  | .error .arityMismatch => "!ArityMismatch"
  | .error (.raised _) => "!DuplicateSignature"

def argumentsText (arguments : List Argument) : String :=
  ",".intercalate (arguments.map fun a => a.tag.name ++ "=" ++ a.value.plain)

def outlineText (chain : Outline Tag) (arguments : List Argument) : String :=
  "NextMethod " ++ Text.braced
    ["invoker: " ++ chain.text, "arguments: " ++ Text.bracketed (arguments.map toString)]

/-- What an inner part says in a leaf. -/
def leafText : String := "!leaf"

/-! ## Effects of single parts, each followed by `use` of its text -/

variable {k : Kind}

def nextEffect (caught : Bool) (use : String → Effect k) : Effect k :=
  match k with
  | .leaf => use leafText
  | .inner => .next fun
    | .ok answer => use answer
    | .error e => if caught then use (failureText e) else .fail e

def outlineEffect (arguments : List Argument) (use : String → Effect k) : Effect k :=
  match k with
  | .leaf => use leafText
  | .inner => .describe fun chain => use (outlineText chain arguments)

def peekEffect (f : String) (use : String → Effect k) : Effect k :=
  .ask fun scope =>
    match scope.function? f with
    | none => use "!UnknownFunction"
    | some f => .size f fun size => .cached f fun cached =>
      use ("<" ++ toString size ++ "," ++ toString cached ++ ">")

def passEffect (passed : Bool) (fault : Fault (DispatchError Argument Tag))
    (use : String → Effect k) : Effect k :=
  match k, fault with
  | .inner, .raised e => if passed then .fail e else use (failureText e)
  | _, _ => use (faultText fault)

def callEffect (f : String) (sources : List Source) (passed : Bool) (arguments : List Argument)
    (use : String → Effect k) : Effect k :=
  .ask fun scope =>
    match scope.function? f with
    | none => use "!UnknownFunction"
    | some f =>
      match sources.mapM (Source.resolve scope arguments) with
      | none => use "!BadArgument"
      | some values => .invoke f values fun
        | .ok answer => use answer
        | .error fault => passEffect passed fault use

def registerEffect (f : String) (kind : Kind) (types : List String)
    (body : List Argument → Effect kind) (use : String → Effect k) : Effect k :=
  .ask fun scope =>
    match scope.function? f with
    | none => use "!UnknownFunction"
    | some f =>
      match scope.types? types with
      | none => use "!UnknownType"
      | some tags => .register f ⟨tags⟩ kind body fun answer => use (registrationText answer)

/-! ## The whole script -/

/-- The effects of the script, with `before` as the text so far. -/
def effect : (k : Kind) → Script → List Argument → (before : String) → Effect k
  | _, done, _, before => .done before
  | k, text s rest, arguments, before => rest.effect k arguments (before ++ s)
  | k, argument i rest, arguments, before =>
    rest.effect k arguments (before ++ arguments[i]?.elim "" (·.value.plain))
  | k, typeName i rest, arguments, before =>
    rest.effect k arguments (before ++ arguments[i]?.elim "" (·.tag.name))
  | k, count rest, arguments, before =>
    rest.effect k arguments (before ++ toString arguments.length)
  | k, log line rest, arguments, before => .log line (rest.effect k arguments before)
  | k, next caught rest, arguments, before =>
    nextEffect caught fun s => rest.effect k arguments (before ++ s)
  | k, nextArguments rest, arguments, before =>
    rest.effect k arguments
      (before ++ if k = .leaf then leafText else argumentsText arguments)
  | k, nextOutline rest, arguments, before =>
    outlineEffect arguments fun s => rest.effect k arguments (before ++ s)
  | k, peek f rest, arguments, before =>
    peekEffect f fun s => rest.effect k arguments (before ++ s)
  | k, call f sources passed rest, arguments, before =>
    callEffect f sources passed arguments fun s => rest.effect k arguments (before ++ s)
  | k, register f kind types body rest, arguments, before =>
    registerEffect f kind types (fun arguments => body.effect kind arguments "") fun s =>
      rest.effect k arguments (before ++ s)

def body (script : Script) (k : Kind) : Body Argument Tag Scope String k :=
  fun arguments => script.effect k arguments ""

end Script

end Multimethod
