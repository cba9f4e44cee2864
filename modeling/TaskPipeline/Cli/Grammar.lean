import TaskPipeline.Text.Terminal

/-!
# Command lines

A `Grammar` says which options, positional arguments and commands a command line may have, and
`Grammar.read` reads the arguments from left to right.  An option is `--name value`, `--name=value`,
`-n value`, `-nvalue` or `-n=value`; after `--` every argument is positional.  A value must not begin
with a hyphen unless it is joined to its option.

The values of an option are checked when the next option or positional argument begins or when the
command ends, and what a command needs is checked at its end.  The command inside another one ends
first.  So of several mistakes the one that is reported is the one that is found first.
-/

namespace TaskPipeline.Cli

/-- What an option stands for. -/
inductive Kind where
  /-- It is there or not. -/
  | flag
  /-- It has a value, and stands once. -/
  | value
  /-- It has a value, and may stand several times. -/
  | values
  /-- It asks for help. -/
  | help
  /-- It asks for the version. -/
  | version
deriving DecidableEq

/-- Why a value is refused. -/
structure Objection where
  /-- How the message shows the value. -/
  shown : String
  /-- The reason; none for a value that is not among the known ones. -/
  reason : Option String

/-- What becomes of a value: it is accepted or refused. -/
abbrev Verdict := Except Objection Unit

/-- An option or a positional argument. -/
structure Parameter where
  /-- The name, which is also the long form of an option. -/
  name : String
  /-- The short form of an option. -/
  short : Option Char
  /-- How messages call it. -/
  shown : String
  /-- What it stands for. -/
  kind : Kind
  /-- Whether a value is accepted. -/
  check : String → Verdict
  /-- Whether it must be there. -/
  required : Bool
  /-- Another parameter instead of which it must be there. -/
  insteadOf : Option String
  /-- Another parameter beside which it must not be there. -/
  excludes : Option String

namespace Parameter

/-- Accepts every value. -/
def anyText : String → Verdict := fun _ => .ok ()

/-- Whether the parameter has values. -/
def takesValue (p : Parameter) : Bool := p.kind == .value || p.kind == .values

/-- An option with a value. -/
def option (name placeholder : String) : Parameter :=
  ⟨name, none, "--" ++ name ++ " <" ++ placeholder ++ ">", .value, anyText, false, none, none⟩

/-- An option without a value. -/
def flag (name : String) : Parameter :=
  ⟨name, none, "--" ++ name, .flag, anyText, false, none, none⟩

/-- A positional argument that must be there. -/
def positional (name placeholder : String) : Parameter :=
  ⟨name, none, "<" ++ placeholder ++ ">", .value, anyText, true, none, none⟩

/-- Positional arguments of which one must be there. -/
def positionals (name placeholder : String) : Parameter :=
  ⟨name, none, "<" ++ placeholder ++ ">...", .values, anyText, true, none, none⟩

end Parameter

/-- The form of a command line from some word on. -/
inductive Grammar where
  /-- The command of this name, with its options and positional arguments; it may have commands of
  its own, one of which must follow. -/
  | command (name : String) (options positionals : List Parameter) (commands : List Grammar)

namespace Grammar

/-- The name. -/
def name : Grammar → String
  | command n _ _ _ => n

/-- The options. -/
def options : Grammar → List Parameter
  | command _ os _ _ => os

/-- The positional arguments. -/
def positionals : Grammar → List Parameter
  | command _ _ ps _ => ps

/-- The commands. -/
def commands : Grammar → List Grammar
  | command _ _ _ cs => cs

/-- The command of a name. -/
def find? (g : Grammar) (name : String) : Option Grammar := g.commands.find? (·.name == name)

end Grammar

/-- Why a command line is not carried out. -/
inductive Stop where
  /-- A value is refused. -/
  | invalidValue (value shown : String) (reason : Option String)
  /-- An argument has no place. -/
  | strayArgument (arg : String)
  /-- A word stands where a command is expected and names none. -/
  | unknownCommand (word : String)
  /-- A value is joined to an option that has none. -/
  | strayValue (value shown : String)
  /-- The form is wrong. -/
  | usage (problem : String)
  /-- Help is asked for. -/
  | help
  /-- The version is asked for. -/
  | version (path : List String)
deriving DecidableEq

/-- What the user is told, cut where the colour of the text changes. -/
def Stop.pieces : Stop → List String
  | invalidValue value shown reason =>
    let why := (reason.map (": " ++ ·)).getD ""
    ["error:", " invalid value '", value, "' for '", shown,
      "'" ++ why ++ "\n\nFor more information, try '", "--help", "'."]
  | strayArgument arg => ["error:", " unexpected argument '", arg, "' found"]
  | unknownCommand word => ["error:", " unrecognized subcommand '", word, "'"]
  | strayValue value shown =>
    ["error:", " unexpected value '", value, "' for '", shown, "' found; no more were expected"]
  | usage problem => ["error:", " " ++ problem]
  | help => ["Usage: tasker [OPTIONS] <COMMAND>"]
  | version path => [String.intercalate "-" path ++ " 0.1.0"]

/-- What the user is told, without colours.  A change of colour is a control sequence, so it ends the
control sequences before it, which the user may have typed. -/
def Stop.message (s : Stop) : String := String.join (s.pieces.map Text.plainText)

/-- Whether the command line is wrong. -/
def Stop.isError : Stop → Bool
  | help | version _ => false
  | _ => true

/-- The words of a command and the values of its parameters, in the order in which they stand. -/
structure Words where
  /-- The names of the commands, from the outermost. -/
  path : List String
  /-- The values by parameter. -/
  values : List (String × String)

namespace Words

/-- The values of a parameter. -/
def all (w : Words) (name : String) : List String :=
  (w.values.filter (·.1 == name)).map (·.2)

/-- The value of a parameter, the last if there are several. -/
def last? (w : Words) (name : String) : Option String := (w.all name).getLast?

/-- The value of a parameter, or a text that stands for it if it is not there. -/
def lastD (w : Words) (name default : String) : String := (w.last? name).getD default

/-- Whether a parameter is there. -/
def has (w : Words) (name : String) : Bool := w.values.any (·.1 == name)

end Words

/-- What the next argument is for. -/
inductive Await where
  /-- Anything. -/
  | anything
  /-- The value of an option. -/
  | value (p : Parameter)
  /-- Positional arguments that go on. -/
  | more

/-- A command line that is read in part. -/
structure Reading where
  /-- The names of the commands so far. -/
  path : List String
  /-- The values of the current command. -/
  taken : List (String × String)
  /-- A parameter with values that are not checked yet. -/
  pending : Option (Parameter × List String)
  /-- What the next argument is for. -/
  await : Await
  /-- The number of positional arguments that are done with. -/
  position : Nat
  /-- Whether only positional arguments follow. -/
  trailing : Bool

namespace Reading

/-- The beginning of a command. -/
def start (path : List String) : Reading := ⟨path, [], none, .anything, 0, false⟩

/-- Checks values one after the other. -/
def checkAll (p : Parameter) : List String → Except Stop Unit
  | [] => .ok ()
  | v :: vs =>
    match p.check v with
    | .ok () => checkAll p vs
    | .error ⟨shown, reason⟩ =>
      if shown.isEmpty && reason.isNone then
        .error (.usage ("a value is required for '" ++ p.shown ++ "'"))
      else .error (.invalidValue shown p.shown reason)

/-- Takes an occurrence of a parameter with its values. -/
def take (r : Reading) (p : Parameter) (vs : List String) : Except Stop Reading :=
  if p.takesValue && vs.isEmpty then
    .error (.usage ("a value is required for '" ++ p.shown ++ "'"))
  else
    match p.kind with
    | .help => .error .help
    | .version => .error (.version r.path)
    | kind =>
      if kind != .values && r.taken.any (·.1 == p.name) then
        .error (.usage ("the argument '" ++ p.shown ++ "' cannot be used multiple times"))
      else do
        checkAll p vs
        let vs := if p.takesValue then vs else ["true"]
        return { r with taken := r.taken ++ vs.map fun v => (p.name, v) }

/-- Takes the parameter whose values were not checked yet. -/
def settle (r : Reading) : Except Stop Reading :=
  match r.pending with
  | none => .ok r
  | some (p, vs) => { r with pending := none }.take p vs

/-- Takes an occurrence of a parameter after the one before it. -/
def next (r : Reading) (p : Parameter) (vs : List String) : Except Stop Reading := do
  let r ← r.settle
  let r ← r.take p vs
  return { r with await := .anything }

/-- Takes an option whose value is the next argument. -/
def expect (r : Reading) (p : Parameter) : Except Stop Reading := do
  let r ← r.settle
  return { r with pending := some (p, []), await := .value p }

/-- Takes an option in its long form; the hyphens are gone already. -/
def long (g : Grammar) (r : Reading) (arg : List Char) : Except Stop Reading :=
  let (name, value) := arg.span (· != '=')
  match g.options.find? (·.name.toList == name) with
  | none => .error (.strayArgument ("--" ++ String.ofList name))
  | some p =>
    match value with
    | [] => if p.takesValue then r.expect p else r.next p []
    | _ :: value =>
      if p.takesValue then r.next p [String.ofList value]
      else .error (.strayValue (String.ofList value) p.shown)

/-- Takes options in their short forms; the hyphen is gone already. -/
def shorts (g : Grammar) (r : Reading) : List Char → Except Stop Reading
  | [] => .ok { r with await := .anything }
  | c :: rest =>
    match g.options.find? (·.short == some c) with
    | none => .error (.strayArgument ("-" ++ c.toString))
    | some p =>
      if p.takesValue then
        match rest with
        | [] => r.expect p
        | '=' :: value => r.next p [String.ofList value]
        | value => r.next p [String.ofList value]
      else do shorts g (← r.next p []) rest

/-- What is wrong with a word that has no place.  Where a command must stand it should have been one;
after `--` it may even name one. -/
def stray (g : Grammar) (r : Reading) (word : String) : Stop :=
  if g.commands.isEmpty || (r.trailing && (g.find? word).isSome) then .strayArgument word
  else .unknownCommand word

/-- Takes a positional argument. -/
def positional (g : Grammar) (r : Reading) (arg : String) : Except Stop Reading :=
  match g.positionals[r.position]? with
  | none => .error (r.stray g arg)
  | some p =>
    if p.kind == .values then
      match r.pending with
      | some (q, vs) =>
        if q.name == p.name then .ok { r with pending := some (p, vs ++ [arg]), await := .more }
        else do return { ← r.settle with pending := some (p, [arg]), await := .more }
      | none => .ok { r with pending := some (p, [arg]), await := .more }
    else do
      let r ← r.settle
      return { r with pending := some (p, [arg]), position := r.position + 1, await := .anything }

/-- Takes the value of an option or a positional argument. -/
def plain (g : Grammar) (r : Reading) (arg : String) : Except Stop Reading :=
  match r.await, r.pending with
  | .value _, some (p, vs) => .ok { r with pending := some (p, vs ++ [arg]), await := .anything }
  | _, _ => r.positional g arg

/-- Takes an argument that is no command. -/
def argument (g : Grammar) (r : Reading) (arg : String) : Except Stop Reading :=
  if r.trailing then r.positional g arg
  else
    match arg.toList with
    | ['-', '-'] => .ok { r with trailing := true }
    | '-' :: '-' :: rest => r.long g rest
    | ['-'] => r.plain g arg
    | '-' :: rest => r.shorts g rest
    | _ => r.plain g arg

/-- The command that an argument names, where one may stand. -/
def command? (g : Grammar) (r : Reading) (arg : String) : Option Grammar :=
  if r.trailing then none
  else
    match r.await with
    | .anything => g.find? arg
    | _ => none

/-- Whether an argument asks for help about commands. -/
def asksForHelp (g : Grammar) (r : Reading) (arg : String) : Bool :=
  arg == "help" && !g.commands.isEmpty && !r.trailing &&
    match r.await with
    | .anything => true
    | _ => false

/-! ### The end -/

/-- Checks that what must be there is there, and that nothing stands beside what excludes it. -/
def checkPresence (r : Reading) : List Parameter → Except Stop Unit
  | [] => .ok ()
  | p :: ps =>
    let has (name : String) : Bool := r.taken.any (·.1 == name)
    if has p.name && p.excludes.any has then
      .error (.usage ("the argument '" ++ p.shown ++ "' cannot be used with another one"))
    else if !has p.name && (p.required || p.insteadOf.any (!has ·)) then
      .error (.usage ("the required argument '" ++ p.shown ++ "' was not provided"))
    else r.checkPresence ps

/-- The end of the command line. -/
def finish (g : Grammar) (r : Reading) : Except Stop Words := do
  let r ← r.settle
  if !g.commands.isEmpty then .error (.usage ("'" ++ g.name ++ "' requires a subcommand"))
  else do
    r.checkPresence (g.positionals ++ g.options)
    return ⟨r.path, r.taken⟩

/-- The end of a command, given what the command inside it read. -/
def finishAround (g : Grammar) (r : Reading) (inner : Words) : Except Stop Words := do
  let r ← r.settle
  r.checkPresence g.options
  return { inner with values := r.taken ++ inner.values }

end Reading

namespace Grammar

/-- Answers a question for help about the command with these names.  Beside other commands stands one
for help, which has none of its own. -/
def helpOn (g : Grammar) : List String → Stop
  | [] => .help
  | name :: rest =>
    if name == "help" && !g.commands.isEmpty then
      match rest with
      | [] => .help
      | word :: _ => .unknownCommand word
    else
      match g.find? name with
      | some g => g.helpOn rest
      | none => .unknownCommand name

/-- Reads the arguments that are left. -/
def readFrom (g : Grammar) (r : Reading) : List String → Except Stop Words
  | [] => r.finish g
  | arg :: rest =>
    if r.asksForHelp g arg then .error (g.helpOn rest)
    else
      match r.command? g arg with
      | some sub => do r.finishAround g (← sub.readFrom (.start (r.path ++ [sub.name])) rest)
      | none => do g.readFrom (← r.argument g arg) rest

/-- Reads a command line. -/
def read (g : Grammar) (args : List String) : Except Stop Words :=
  g.readFrom (.start [g.name]) args

end Grammar

end TaskPipeline.Cli
