import TaskPipeline.Cli.Grammar
import TaskPipeline.Log.Level
import TaskPipeline.Service.Message
import TaskPipeline.Settings.Basic
import TaskPipeline.Time.Reader
import TaskPipeline.User.Basic

/-!
# Commands

The commands of the program, the grammar of its command line, and how the words of a command line
become a command.
-/

namespace TaskPipeline.Cli

/-- What a user is added with. -/
structure NewUser where
  /-- The text for the identifier. -/
  id : String
  /-- The mail address. -/
  email : String
  /-- The name, or nothing. -/
  name : String
  /-- The notifications wanted, in the order in which they are set. -/
  settings : List NotificationSetting

/-- A command on tasks. -/
inductive TaskCommand where
  | add (name description user : String)
  | stage (id : String) (after location : Option String) (points : List Point) (tags : Tags)
  | start (id : String)
  | stop (id : String) (points : List Point)
  | complete (id : String)
  | merge (source target : String)
  | split (id : String) (names descriptions : List String)
  | advertise (id : String) (targets : List String)
  | stitch (target : String) (sources : List String)
  | tag (id : String) (tags : Tags)
  | due (id : String) (date : Option Instant)
  | list (stage : Option Stage) (user : Option String)
  | view (id : String)
  | dag (user : Option String)
  | check

/-- A command. -/
inductive Command where
  /-- Makes a workspace. -/
  | init (path : String)
  /-- A command on tasks. -/
  | task (c : TaskCommand)
  /-- Adds or replaces a user. -/
  | addUser (u : NewUser)
  /-- Lists the users. -/
  | listUsers
  /-- Sends the reminders that are due now. -/
  | remind

/-- A command with the options that every command has. -/
structure Invocation where
  /-- The form of output. -/
  format : Option OutputFormat
  /-- The level of log lines. -/
  logLevel : Option LogLevel
  /-- The command. -/
  command : Command

/-! ### Values -/

/-- Cuts a text at its first equals sign. -/
def splitAtEquals? (s : String) : Option (String × String) :=
  match s.toList.span (· != '=') with
  | (front, _ :: rest) => some (String.ofList front, String.ofList rest)
  | _ => none

/-- The number that digits stand for, with an optional plus sign in front, if it fits 32 bits. -/
def word32? (s : String) : Option UInt32 :=
  let ds :=
    match s.toList with
    | '+' :: ds => ds
    | ds => ds
  if ds.isEmpty || !ds.all Char.isDigit then none
  else
    let n := Json.digitsValue ds
    if n < UInt32.size then some (.ofNat n) else none

/-- Reads a point, as `design=3`. -/
def point? (s : String) : Except String Point :=
  match splitAtEquals? s with
  | none => .error ("expected TITLE=VALUE, got '" ++ s ++ "'")
  | some (title, value) =>
    match word32? (Text.trim value) with
    | some n => .ok ⟨Text.trim title, n⟩
    | none => .error ("point value must be a non-negative integer, got '" ++ value ++ "'")

/-- Reads a tag, as `env=prod`. -/
def tag? (s : String) : Except String Tag :=
  match splitAtEquals? s with
  | none => .error ("expected KEY=VALUE, got '" ++ s ++ "'")
  | some (key, value) =>
    let key := Text.trim key
    if key.isEmpty then .error "tag key must not be empty" else .ok ⟨key, .text value⟩

/-- Reads a time, or a date, which stands for its beginning. -/
def due? (s : String) : Except String Instant :=
  match Instant.readStrict? s with
  | some t => .ok t
  | none =>
    match Date.read? s with
    | some d => .ok (.midnight d)
    | none => .error ("expected RFC 3339 or YYYY-MM-DD, got '" ++ s ++ "'")

/-- Reads the name of a stage. -/
def stage? (s : String) : Except String Stage :=
  match Stage.read? s with
  | some stage => .ok stage
  | none => .error ("unknown stage '" ++ s ++ "'")

/-- Appends decimal digits to a number as long as it fits a signed 64-bit word; `negative` says on
which side of zero. -/
def appendDigits (negative : Bool) : Nat → List Char → Except String Int
  | n, [] => .ok (if negative then -(n : Int) else n)
  | n, c :: cs =>
    if !c.isDigit then .error "invalid digit found in string"
    else
      let n := 10 * n + (c.toNat - '0'.toNat)
      if (if negative then 2 ^ 63 else 2 ^ 63 - 1) < n then
        .error ("number too " ++ (if negative then "small" else "large") ++ " to fit in target type")
      else appendDigits negative n cs

/-- Reads a whole number that fits a signed 64-bit word. -/
def integer? (s : String) : Except String Int :=
  match s.toList with
  | [] => .error "cannot parse integer from empty string"
  | '+' :: c :: cs => appendDigits false 0 (c :: cs)
  | '-' :: c :: cs => appendDigits true 0 (c :: cs)
  | cs => appendDigits false 0 cs

/-- Reads a number of days.  One that is out of range is shown as it was understood. -/
def days? (s : String) : Except Objection UInt32 :=
  match integer? s with
  | .error reason => .error ⟨s, some reason⟩
  | .ok n =>
    if 0 ≤ n ∧ n < UInt32.size then .ok (.ofNat n.toNat)
    else .error ⟨toString n, some (toString n ++ " is not in 0..=4294967295")⟩

/-- The segments of a location; blank ones are left out. -/
def segments (s : String) : List String :=
  ((s.splitOn "/").map Text.trim).filter (!·.isEmpty)

/-! ### The grammar -/

/-- Refuses what a reader refuses, with its reason. -/
def byReader (f : String → Except String α) (s : String) : Verdict :=
  match f s with
  | .ok _ => .ok ()
  | .error reason => .error ⟨s, some reason⟩

/-- Refuses what is not among the known names. -/
def byName (f : String → Option α) (s : String) : Verdict :=
  if (f s).isSome then .ok () else .error ⟨s, none⟩

open Parameter in
/-- The options that every command has. -/
def globalOptions : List Parameter :=
  [{ option "format" "FORMAT" with short := some 'f', check := byName OutputFormat.ofName? },
    { option "log-level" "LOG_LEVEL" with check := byName LogLevel.ofName? },
    { flag "help" with short := some 'h', kind := .help },
    { flag "version" with short := some 'V', kind := .version }]

/-- A command without commands of its own. -/
def leaf (name : String) (positionals options : List Parameter) : Grammar :=
  .command name (globalOptions ++ options) positionals []

open Parameter in
/-- Points, each with its option. -/
def pointOptions : Parameter :=
  { option "point" "TITLE=VALUE" with kind := .values, check := byReader point? }

open Parameter in
/-- The commands on users. -/
def userGrammar : Grammar :=
  .command "user" globalOptions [] [
    leaf "add" [positional "id" "ID"]
      [{ option "email" "EMAIL" with required := true }, option "name" "NAME", flag "on-assign",
        flag "on-start",
        { option "remind-days" "DAYS" with
          kind := .values, check := fun s => (days? s).map fun _ => () }],
    leaf "list" [] []]

open Parameter in
/-- The grammar of the command line. -/
def grammar : Grammar :=
  .command "tasker" globalOptions [] [
    leaf "init" [{ positional "path" "PATH" with required := false }] [],
    leaf "add" [positional "name" "NAME"]
      [{ option "description" "DESCRIPTION" with short := some 'd' }, option "user" "USER"],
    leaf "stage" [positional "id" "ID"]
      [{ option "after" "AFTER" with excludes := some "location" }, option "location" "LOCATION",
        pointOptions,
        { option "tag" "KEY=VALUE" with kind := .values, check := byReader tag? }],
    leaf "start" [positional "id" "ID"] [],
    leaf "stop" [positional "id" "ID"] [pointOptions],
    leaf "complete" [positional "id" "ID"] [],
    leaf "merge" [positional "from" "FROM", positional "to" "TO"] [],
    leaf "split" [positional "id" "ID"]
      [{ option "name" "NAMES" with kind := .values, required := true },
        { option "description" "DESCRIPTIONS" with kind := .values }],
    leaf "advertise" [positional "id" "ID", positionals "targets" "TARGETS"] [],
    leaf "stitch" [positional "target" "TARGET", positionals "sources" "SOURCES"] [],
    leaf "tag" [positional "id" "ID", { positionals "tags" "KEY=VALUE" with check := byReader tag? }]
      [],
    leaf "due" [positional "id" "ID",
        { positional "date" "DATE" with
          shown := "[DATE]", check := byReader due?, required := false, insteadOf := some "clear",
          excludes := some "clear" }]
      [flag "clear"],
    leaf "list" []
      [{ option "stage" "STAGE" with check := byReader stage? }, option "user" "USER"],
    leaf "show" [positional "id" "ID"] [],
    leaf "dag" [] [option "user" "USER"],
    leaf "check" [] [],
    userGrammar,
    leaf "remind" [] []]

/-! ### From words to commands -/

/-- The values that a reader accepts. -/
def accepted (f : String → Except ε α) (ss : List String) : List α :=
  ss.filterMap fun s => (f s).toOption

/-- Descriptions for names: those that are given, and blank ones for the rest. -/
def describe (names descriptions : List String) : List String :=
  descriptions ++ List.replicate (names.length - descriptions.length) ""

/-- The notifications that a new user wants. -/
def settingsOf (w : Words) : List NotificationSetting :=
  let setting (kind : NotificationKind) (days : UInt32) : NotificationSetting := ⟨kind, true, days⟩
  (if w.has "on-assign" then [setting .onAssign 0] else []) ++
    (if w.has "on-start" then [setting .onStart 0] else []) ++
    (accepted days? (w.all "remind-days")).map (setting .daysBeforeDue)

/-- The command on tasks of a name. -/
def TaskCommand.ofWords? (w : Words) : String → Option TaskCommand
  | "add" => some (add (w.lastD "name" "") (w.lastD "description" "") (w.lastD "user" ""))
  | "stage" =>
    some (stage (w.lastD "id" "") (w.last? "after") (w.last? "location")
      (accepted point? (w.all "point")) (.ofList (accepted tag? (w.all "tag"))))
  | "start" => some (start (w.lastD "id" ""))
  | "stop" => some (stop (w.lastD "id" "") (accepted point? (w.all "point")))
  | "complete" => some (complete (w.lastD "id" ""))
  | "merge" => some (merge (w.lastD "from" "") (w.lastD "to" ""))
  | "split" =>
    let names := w.all "name"
    some (split (w.lastD "id" "") names (describe names (w.all "description")))
  | "advertise" => some (advertise (w.lastD "id" "") (w.all "targets"))
  | "stitch" => some (stitch (w.lastD "target" "") (w.all "sources"))
  | "tag" => some (tag (w.lastD "id" "") (.ofList (accepted tag? (w.all "tags"))))
  | "due" => some (due (w.lastD "id" "") ((w.last? "date").bind fun s => (due? s).toOption))
  | "list" => some (list ((w.last? "stage").bind Stage.read?) (w.last? "user"))
  | "show" => some (view (w.lastD "id" ""))
  | "dag" => some (dag (w.last? "user"))
  | "check" => some check
  | _ => none

/-- The command that words stand for. -/
def Command.ofWords? (w : Words) : Option Command :=
  match w.path with
  | [_, "init"] => some (init (w.lastD "path" "."))
  | [_, "user", "add"] =>
    some (addUser ⟨w.lastD "id" "", w.lastD "email" "", w.lastD "name" "", settingsOf w⟩)
  | [_, "user", "list"] => some listUsers
  | [_, "remind"] => some remind
  | [_, name] => (TaskCommand.ofWords? w name).map task
  | _ => none

/-- Reads a command line. -/
def Invocation.read (args : List String) : Except Stop Invocation := do
  let w ← grammar.read args
  match Command.ofWords? w with
  | none => .error .help
  | some c =>
    return ⟨(w.last? "format").bind OutputFormat.ofName?, (w.last? "log-level").bind LogLevel.ofName?, c⟩

/-- The request to the service that a command on tasks makes. -/
def TaskCommand.request : TaskCommand → Service.Request
  | add name description user => .addTask name description user
  | stage id after location points tags =>
    .moveToStaging id after ((location.map segments).getD []) points tags
  | start id => .startTask id
  | stop id points => .stopTask id points
  | complete id => .completeTask id
  | merge source target => .mergeTasks source target
  | split id names descriptions => .splitTask id names descriptions
  | advertise id targets => .advertiseTask id targets
  | stitch target sources => .stitchTasks sources target
  | tag id tags => .updateTaskTags id tags
  | due id date => .setDueDate id date
  | list wanted user => .listTasks wanted user
  | view id => .getTask id
  | dag user => .getTaskDag user
  | check => .checkIntegrity

end TaskPipeline.Cli
