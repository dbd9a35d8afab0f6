/-!
# The lines of a text

A line ends at a line feed, and a carriage return right before the line feed belongs to the
ending. A text that ends with an ending has no further, empty line.
-/

set_option autoImplicit false

namespace Scaffold.Text

/-- The pieces that end at a line feed, without it, and the piece after the last one. -/
def splitFeeds : List Char → List (List Char) × List Char
  | [] => ([], [])
  | c :: rest =>
    let (ended, last) := splitFeeds rest
    if c = '\n' then ([] :: ended, last)
    else match ended with
      | [] => ([], c :: last)
      | line :: more => ((c :: line) :: more, last)

/-- Drops one carriage return at the end. -/
def dropReturn (line : List Char) : List Char :=
  if line.getLast? = some '\r' then line.dropLast else line

def lineChars (s : List Char) : List (List Char) :=
  let (ended, last) := splitFeeds s
  ended.map dropReturn ++ if last.isEmpty then [] else [last]

/-- The lines of a text, without their endings. -/
def lines (s : String) : List String :=
  (lineChars s.toList).map .ofList

end Scaffold.Text
