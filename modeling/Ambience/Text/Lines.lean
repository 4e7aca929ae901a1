/-!
# Lines

A line ends with a line feed, or with a carriage return and a line feed, and the last line of a text
may also end with the text. A text that is at hand is split at its line feeds; one that is still coming
in is read character by character, and each line is there as soon as its line feed is.
-/

namespace Ambience.Text

/-- A line without the carriage return at its end. -/
def withoutReturn (line : List Char) : List Char :=
  if line.getLast? = some '\r' then line.dropLast else line

/-- What is left of a text behind its last line feed, if it is a line. -/
def unended (line : List Char) : List String :=
  if line.isEmpty then [] else [String.ofList line]

/-- The lines of which these are the pieces between line feeds. -/
def ofPieces : List (List Char) → List String
  | [] => []
  | [last] => unended last
  | piece :: later => String.ofList (withoutReturn piece) :: ofPieces later

/-- The lines of a text, split at its line feeds. -/
def lines (text : String) : List String := ofPieces (text.toList.splitOn '\n')

/-- The lines of characters that come in one after another. `begun` is the line that has begun, with
its newest character first. -/
def incoming (begun : List Char) : List Char → List String
  | [] => unended begun.reverse
  | c :: later =>
    if c == '\n' then String.ofList (withoutReturn begun.reverse) :: incoming [] later
    else incoming (c :: begun) later

end Ambience.Text
