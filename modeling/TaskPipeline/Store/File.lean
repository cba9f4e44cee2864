import TaskPipeline.Text.Lines

/-!
# Files

The contents of a file: a text, or bytes that are no text.  Either way the file is read line by line,
and only the lines that are no text cannot be read.  A `FileFault` says why a file system refuses a
call.
-/

namespace TaskPipeline

/-- Why the file system refuses a call. -/
inductive FileFault where
  /-- Nothing stands where something is needed. -/
  | missing
  /-- A file stands where a directory is needed. -/
  | notDirectory
  /-- Something stands where a directory is to be made. -/
  | inTheWay
  /-- A directory stands where a file is needed. -/
  | isDirectory
  /-- The name is longer than names can be, or the path longer than paths can be. -/
  | nameTooLong
  /-- A zero stands in the path, where the system takes it for the end. -/
  | zeroInPath
  /-- The file is no text. -/
  | notText
deriving DecidableEq

/-- What the system calls the fault. -/
def FileFault.message : FileFault → String
  | missing => "No such file or directory (os error 2)"
  | notDirectory => "Not a directory (os error 20)"
  | inTheWay => "File exists (os error 17)"
  | isDirectory => "Is a directory (os error 21)"
  | nameTooLong => "File name too long (os error 36)"
  | zeroInPath => "file name contained an unexpected NUL byte"
  | notText => "stream did not contain valid UTF-8"

/-- The contents of a file. -/
inductive FileContents where
  /-- A text. -/
  | text (s : String)
  /-- Bytes that are no text. -/
  | binary (bytes : ByteArray)

namespace FileContents

/-- The contents with these bytes. -/
def ofBytes (bytes : ByteArray) : FileContents :=
  match String.fromUTF8? bytes with
  | some s => text s
  | none => binary bytes

/-- The bytes of the contents. -/
def bytes : FileContents → ByteArray
  | text s => s.toUTF8
  | binary bytes => bytes

/-- Cuts bytes at line feeds; `front` holds the bytes of the current line, last first. -/
def byteLines (front : List UInt8) : List UInt8 → List (List UInt8)
  | [] => if front.isEmpty then [] else [front.reverse]
  | b :: rest =>
    if b = 10 then (b :: front).reverse :: byteLines [] rest else byteLines (b :: front) rest

/-- The text of one line given by its bytes, without its line end. -/
def lineOfBytes? (bs : List UInt8) : Option String :=
  (String.fromUTF8? ⟨bs.toArray⟩).map fun s => (Text.lines s).headD ""

/-- The lines; a line that is no text cannot be read. -/
def lines : FileContents → List (Option String)
  | text s => (Text.lines s).map some
  | binary bytes => (byteLines [] bytes.toList).map lineOfBytes?

/-- Adds a text at the end. -/
def append : FileContents → String → FileContents
  | text s, t => text (s ++ t)
  | binary bytes, t => ofBytes (bytes ++ t.toUTF8)

end FileContents

end TaskPipeline
