import Multimethod.Toml.Reader

/-!
# Texts

Each reader here starts behind the opening quotes.
-/

namespace Multimethod.Toml

def found (cs : List Char) (r : Option (List Char × List Char)) : Option (List Char × List Char) :=
  r.map fun (text, rest) => (cs ++ text, rest)

def hexValue? (c : Char) : Option Nat :=
  if '0' ≤ c ∧ c ≤ '9' then some (c.toNat - '0'.toNat)
  else if 'a' ≤ c ∧ c ≤ 'f' then some (c.toNat - 'a'.toNat + 10)
  else if 'A' ≤ c ∧ c ≤ 'F' then some (c.toNat - 'A'.toNat + 10)
  else none

def numbered? (hex : List Char) : Option Char := do
  let values ← hex.mapM hexValue?
  let n := values.foldl (fun n d => 16 * n + d) 0
  if n.isValidChar then some (Char.ofNat n) else none

def escaped? : Char → Option Char
  | 'b' => some '\x08'
  | 't' => some '\t'
  | 'n' => some '\n'
  | 'f' => some '\x0c'
  | 'r' => some '\r'
  | '"' => some '"'
  | '\\' => some '\\'
  | _ => none

/-! ## One line -/

def basicText : Reader (List Char)
  | '"' :: rest => some ([], rest)
  | '\\' :: 'u' :: a :: b :: c :: d :: rest =>
    (numbered? [a, b, c, d]).bind fun x => found [x] (basicText rest)
  | '\\' :: 'U' :: a :: b :: c :: d :: e :: f :: g :: h :: rest =>
    (numbered? [a, b, c, d, e, f, g, h]).bind fun x => found [x] (basicText rest)
  | '\\' :: c :: rest => (escaped? c).bind fun x => found [x] (basicText rest)
  | c :: rest => if isPrintable c then found [c] (basicText rest) else none
  | [] => none

def literalText : Reader (List Char)
  | '\x27' :: rest => some ([], rest)
  | c :: rest => if isPrintable c then found [c] (literalText rest) else none
  | [] => none

/-! ## Several lines -/

/-- Where a text over several lines stands after a backslash at the end of a line: before the end
of that line, or in the blanks and line ends behind it, none of which count. -/
inductive Joint where
  | none
  | opened
  | passed
deriving DecidableEq

/-- Up to two quotes may stand directly before the three that close the text. -/
def multilineBasicText : Joint → Reader (List Char)
  | .passed, '\n' :: rest => multilineBasicText .passed rest
  | .passed, '\r' :: '\n' :: rest => multilineBasicText .passed rest
  | .opened, '\n' :: rest => multilineBasicText .passed rest
  | .opened, '\r' :: '\n' :: rest => multilineBasicText .passed rest
  | .none, '\n' :: rest => found ['\n'] (multilineBasicText .none rest)
  | .none, '\r' :: '\n' :: rest => found ['\n'] (multilineBasicText .none rest)
  | .opened, c :: rest => if isBlank c then multilineBasicText .opened rest else none
  | _, '"' :: '"' :: '"' :: '"' :: '"' :: rest => some (['"', '"'], rest)
  | _, '"' :: '"' :: '"' :: '"' :: rest => some (['"'], rest)
  | _, '"' :: '"' :: '"' :: rest => some ([], rest)
  | _, '\\' :: 'u' :: a :: b :: c :: d :: rest =>
    (numbered? [a, b, c, d]).bind fun x => found [x] (multilineBasicText .none rest)
  | _, '\\' :: 'U' :: a :: b :: c :: d :: e :: f :: g :: h :: rest =>
    (numbered? [a, b, c, d, e, f, g, h]).bind fun x => found [x] (multilineBasicText .none rest)
  | _, '\\' :: '\n' :: rest => multilineBasicText .passed rest
  | _, '\\' :: '\r' :: '\n' :: rest => multilineBasicText .passed rest
  | _, '\\' :: c :: rest =>
    if isBlank c then multilineBasicText .opened rest
    else (escaped? c).bind fun x => found [x] (multilineBasicText .none rest)
  | joint, c :: rest =>
    if joint = .passed ∧ isBlank c then multilineBasicText .passed rest
    else if isPrintable c then found [c] (multilineBasicText .none rest)
    else none
  | _, [] => none

def multilineLiteralText : Reader (List Char)
  | '\n' :: rest => found ['\n'] (multilineLiteralText rest)
  | '\r' :: '\n' :: rest => found ['\n'] (multilineLiteralText rest)
  | '\x27' :: '\x27' :: '\x27' :: '\x27' :: '\x27' :: rest => some (['\x27', '\x27'], rest)
  | '\x27' :: '\x27' :: '\x27' :: '\x27' :: rest => some (['\x27'], rest)
  | '\x27' :: '\x27' :: '\x27' :: rest => some ([], rest)
  | c :: rest => if isPrintable c then found [c] (multilineLiteralText rest) else none
  | [] => none

def text (cs : List Char) : Option (String × List Char) :=
  let opened (rest : List Char) := (newline rest).getD rest
  let read :=
    match cs with
    | '"' :: '"' :: '"' :: rest => multilineBasicText .none (opened rest)
    | '"' :: rest => basicText rest
    | '\x27' :: '\x27' :: '\x27' :: rest => multilineLiteralText (opened rest)
    | '\x27' :: rest => literalText rest
    | _ => none
  read.map fun (text, rest) => (String.ofList text, rest)

end Multimethod.Toml
