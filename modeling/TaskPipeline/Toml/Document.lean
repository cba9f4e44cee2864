import TaskPipeline.Toml.Scalar
import TaskPipeline.Toml.Table

/-!
# Configuration texts

`Toml.read?` reads a configuration text as one JSON value: an object whose members are what the text
assigns.  A text is a list of sections.  The first has no header; each of the others begins with the
name of a table in brackets, or in double brackets if the table is one of several.
-/

namespace TaskPipeline.Toml

open Json (Value)

/-- The nesting that is not reached any more, in values as well as in dotted names. -/
def maxDepth : Nat := 80

/-- Takes the values of a list up to the closing bracket, of which there are at most `n`. -/
def items (item : List Char → Option (Value × List Char)) : Nat → List Char → Option (List Value × List Char)
  | 0, _ => none
  | n + 1, cs => do
    let (v, cs) ← item (skipLines cs.length cs)
    match skipLines cs.length cs with
    | ',' :: cs =>
      match skipLines cs.length cs with
      | ']' :: cs => return ([v], cs)
      | cs =>
        let (vs, cs) ← items item n cs
        return (v :: vs, cs)
    | ']' :: cs => return ([v], cs)
    | _ => none

/-- A value under a name. -/
abbrev Row := List String × Value

/-- Takes a name, an equals sign and a value. -/
def row? (value : List Char → Option (Value × List Char)) (cs : List Char) : Option (Row × List Char) := do
  let (path, cs) ← path? (maxDepth - 1) cs
  match cs with
  | '=' :: cs =>
    let (v, cs) ← value (skipBlanks cs)
    return ((path, v), cs)
  | _ => none

/-- Takes the rows of a table that is written as a value up to the closing brace, of which there are at
most `n`. -/
def rows (value : List Char → Option (Value × List Char)) : Nat → List Char → Option (List Row × List Char)
  | 0, _ => none
  | n + 1, cs => do
    let (r, cs) ← row? value cs
    match skipBlanks cs with
    | ',' :: cs =>
      let (rs, cs) ← rows value n cs
      return (r :: rs, cs)
    | '\x7d' :: cs => return ([r], cs)
    | _ => none

/-- The value of a table that is written as a value. -/
def tableOf? (rs : List Row) : Option Value := (assignAll [] rs).map fun ms => .object (membersToValues ms)

/-- Takes a value with less than `depth` lists and tables around each other. -/
def value? : Nat → List Char → Option (Value × List Char)
  | depth, cs =>
    match cs with
    | '"' :: _ => (string? cs).map fun (s, cs) => (.string s, cs)
    | '\'' :: _ => (string? cs).map fun (s, cs) => (.string s, cs)
    | '[' :: cs =>
      match depth with
      | 0 => none
      | depth + 1 =>
        match skipLines cs.length cs with
        | ']' :: cs => some (.array [], cs)
        | cs => (items (value? depth) (cs.length + 1) cs).map fun (vs, cs) => (.array vs, cs)
    | '\x7b' :: cs =>
      match depth with
      | 0 => none
      | depth + 1 =>
        match skipBlanks cs with
        | '\x7d' :: cs => some (.object [], cs)
        | cs => do
          let (rs, cs) ← rows (value? depth) (cs.length + 1) cs
          return (← tableOf? rs, cs)
    | cs => scalar? cs

/-! ### Statements -/

/-- A line of a configuration text, or several lines with one value. -/
inductive Statement where
  /-- Begins a table. -/
  | table (path : List String)
  /-- Begins one of several tables. -/
  | item (path : List String)
  /-- Writes a value under a name. -/
  | row (r : Row)

/-- Takes the path of a header up to its closing brackets. -/
def header? (closing : List Char) (cs : List Char) : Option (List String × List Char) := do
  let (path, cs) ← path? (maxDepth - 1) cs
  if closing.isPrefixOf cs then some (path, cs.drop closing.length) else none

/-- Takes a statement. -/
def statement? : List Char → Option (Statement × List Char)
  | '[' :: '[' :: cs => (header? [']', ']'] cs).map fun (path, cs) => (.item path, cs)
  | '[' :: cs => (header? [']'] cs).map fun (path, cs) => (.table path, cs)
  | cs => (row? (value? (maxDepth - 1)) cs).map fun (r, cs) => (.row r, cs)

/-- The statements of a text, of which there are at most `n`; each has its own line. -/
def statements? : Nat → List Char → Option (List Statement)
  | 0, _ => none
  | n + 1, cs =>
    match skipLines cs.length cs with
    | [] => some []
    | '#' :: cs => (restOfLine? ('#' :: cs)).map fun _ => []
    | cs => do
      let (s, cs) ← statement? cs
      return s :: (← statements? n (← restOfLine? cs))

/-- The rows up to the next header, and what follows them. -/
def leadingRows : List Statement → List Row × List Statement
  | .row r :: rest =>
    let (rs, rest) := leadingRows rest
    (r :: rs, rest)
  | rest => ([], rest)

/-- Adds sections to a table, of which there are at most `n`. -/
def addSections (members : Members) : Nat → List Statement → Option Members
  | 0, _ => none
  | _ + 1, [] => some members
  | n + 1, s :: rest =>
    let (rs, rest) := leadingRows rest
    match s with
    | .table path => do addSections (← alter (openTable rs) members path) n rest
    | .item path => do addSections (← alter (openItem rs) members path) n rest
    | .row _ => none

/-- The table that statements build. -/
def assemble? (ss : List Statement) : Option Value := do
  let (rs, rest) := leadingRows ss
  let members ← assignAll [] rs
  let members ← addSections members (rest.length + 1) rest
  return .object (membersToValues members)

/-- Reads a configuration text.  A mark of the byte order at its very beginning is skipped. -/
def read? (s : String) : Option Value :=
  let cs :=
    match s.toList with
    | '\ufeff' :: cs => cs
    | cs => cs
  statements? (cs.length + 1) cs >>= assemble?

end TaskPipeline.Toml
