/-! # The text of a sequence: items between brackets, divided by a comma and a blank -/

namespace Multimethod.Text

def commaSeparated (items : List String) : String := ", ".intercalate items

def bracketed (items : List String) : String := "[" ++ commaSeparated items ++ "]"

def parenthesised (items : List String) : String := "(" ++ commaSeparated items ++ ")"

def braced (items : List String) : String := "\x7b " ++ commaSeparated items ++ " \x7d"

end Multimethod.Text
