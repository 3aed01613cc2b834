/-!
# Blanks, comments and the ends of lines

A reader takes characters from the front of a document and gives what it read and what remains.
-/

namespace Multimethod.Toml

abbrev Reader (α : Type) := List Char → Option (α × List Char)

def isBlank (c : Char) : Bool := c = ' ' || c = '\t'

/-- Everything but controls; the tab is allowed. -/
def isPrintable (c : Char) : Bool := c = '\t' || (' ' ≤ c && c ≠ '\x7f')

def skipBlanks (cs : List Char) : List Char := cs.dropWhile isBlank

def newline : List Char → Option (List Char)
  | '\n' :: rest => some rest
  | '\r' :: '\n' :: rest => some rest
  | _ => none

def lineEnd : List Char → Option (List Char)
  | [] => some []
  | cs => newline cs

def skipComment : List Char → List Char
  | '#' :: rest => rest.dropWhile isPrintable
  | cs => cs

/-- Nothing but blanks and a comment may follow on a line. -/
def trailing (cs : List Char) : Option (List Char) := lineEnd (skipComment (skipBlanks cs))

/-- Skips blanks, ends of lines and whole comments. A comment has to end with its line. -/
def skipSpace (inComment : Bool) : List Char → Option (List Char)
  | '\n' :: rest => skipSpace false rest
  | '\r' :: '\n' :: rest => skipSpace false rest
  | [] => if inComment then none else some []
  | c :: rest =>
    if inComment then if isPrintable c then skipSpace true rest else none
    else if isBlank c then skipSpace false rest
    else if c = '#' then skipSpace true rest
    else if c = '\r' then none
    else some (c :: rest)

end Multimethod.Toml
