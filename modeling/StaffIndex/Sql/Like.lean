/-!
# Patterns

In a pattern a percent sign stands for any text, an underscore for any character, and a backslash takes away the meaning
of the character after it. `escape` writes a text as the pattern that only that text matches.
-/

namespace StaffIndex.Sql

/-- The characters with a meaning in patterns. -/
def isSpecial (c : Char) : Bool := c = '\\' || c = '%' || c = '_'

def escape (text : List Char) : List Char :=
  text.flatMap fun c => if isSpecial c then ['\\', c] else [c]

/-- The pattern of the texts that start with the given one. -/
def startingWith (start : String) : String := String.ofList (escape start.toList ++ ['%'])

end StaffIndex.Sql
