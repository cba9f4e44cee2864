/-!
# Lines

`lines` cuts a text into lines.  A line ends at a line feed, and a carriage return just before that
line feed belongs to the line end.  The last line need not be ended; an empty rest after the last
line feed is no line.
-/

namespace TaskPipeline.Text

/-- The line whose characters, last first, are `front`, without the carriage return that belongs to
its end. -/
def endedLine (front : List Char) : List Char :=
  match front with
  | '\r' :: rest => rest.reverse
  | _ => front.reverse

/-- Cuts characters into lines; `front` holds the characters of the current line, last first. -/
def lineChars (front : List Char) : List Char → List (List Char)
  | [] => if front.isEmpty then [] else [front.reverse]
  | c :: rest =>
    if c = '\n' then endedLine front :: lineChars [] rest else lineChars (c :: front) rest

/-- The lines of a text. -/
def lines (s : String) : List String := (lineChars [] s.toList).map String.ofList

end TaskPipeline.Text
