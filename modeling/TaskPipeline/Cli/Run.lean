import TaskPipeline.Cli.Report
import TaskPipeline.Log.Lines
import TaskPipeline.Workspace.Basic

/-!
# Running commands

`Cli.run` carries out a command line on a file tree: it gives what is printed, the log, the exit code
and the tree afterwards.  Whatever else a command depends on is in its `Surroundings`.
-/

namespace TaskPipeline.Cli

/-- What a command line depends on besides the files of workspaces. -/
structure Surroundings where
  /-- How messages call the top of the tree. -/
  top : String
  /-- The directory in which the command is given. -/
  directory : Path
  /-- The text of the settings of the user, if there is one. -/
  userSettings : Option String
  /-- The level of log lines that the environment asks for. -/
  logVariable : Option String
  /-- The clock and the source of identifiers. -/
  ambients : Nat → Ambient

/-- What a command line does. -/
structure Outcome where
  /-- What is printed. -/
  output : String
  /-- The complaint, if the command failed. -/
  complaint : Option String
  /-- The exit code. -/
  exitCode : Nat
  /-- The log lines that are written. -/
  log : List LogLine
  /-- The files afterwards. -/
  tree : FileTree

namespace Outcome

/-- A command that did what it should. -/
def done (output : String) (log : List LogLine) (tree : FileTree) : Outcome :=
  ⟨output, none, 0, log, tree⟩

/-- A command that failed after it printed something. -/
def failed (output reason : String) (log : List LogLine) (tree : FileTree) : Outcome :=
  ⟨output, some ("Error: " ++ reason), 1, log, tree⟩

/-- A command line that is not carried out. -/
def stopped (stop : Stop) (tree : FileTree) : Outcome :=
  if stop.isError then ⟨"", some stop.message, 2, [], tree⟩
  else ⟨stop.message ++ "\n", none, 0, [], tree⟩

/-- Leaves out log lines beyond a level. -/
def limit (o : Outcome) (level : LogLevel) : Outcome :=
  { o with log := o.log.filter fun l => l.level.isWritten level }

end Outcome

/-! ### Places -/

/-- The place of a path. -/
def Surroundings.place (s : Surroundings) (path : Path) : Place :=
  if s.top.isEmpty && path.isEmpty then ⟨path, "/"⟩ else .below s.top path

/-- The place that a text calls, seen from the directory of the command. -/
def Surroundings.placeOf (s : Surroundings) (text : String) : Place :=
  let start := if text.startsWith "/" then [] else s.directory
  ⟨start ++ Path.ofText text, text⟩

/-! ### Commands -/

/-- Accepts every message to users. -/
def logNotifier : Delivery → Reply Unit := fun _ => .answer (.ok ())

/-- The parties outside the engine: messages go to the log, and there is no calendar. -/
def parties (w : Workspace) (tree : FileTree) : Collaborators where
  notifier := some logNotifier
  calendar := none
  directory := if w.hasUsers tree then some (w.users tree).read else none

/-- Runs jobs one after the other; gives what was delivered. -/
def runJobs (setup : Service.Setup) (ambient : Ambient) : List Job → Script (List Delivery)
  | [] => .done []
  | job :: rest => do
    let (_, delivered) ← job.run setup.parties setup.policy ambient
    return delivered ++ (← runJobs setup ambient rest)

/-- Handles a request and then runs the jobs that it starts. -/
def handleAll (setup : Service.Setup) (ambients : Nat → Ambient) (request : Service.Request) :
    Script (Except EngineError Service.Response × List Delivery) := do
  match ← Service.handle setup ambients false request with
  | .error e => return (.error e, [])
  | .ok (response, jobs) => return (.ok response, ← runJobs setup (ambients 0) jobs)

/-- The full identifier of the task that a text names in a store. -/
def fullId (store : Journal Task) (given : String) : String :=
  match ((Service.resolve given).run journal false store).1 with
  | .ok id => id.text
  | .error _ => given

/-- Carries out a command on tasks. -/
def runTask (s : Surroundings) (w : Workspace) (format : OutputFormat) (c : TaskCommand)
    (tree : FileTree) : Outcome :=
  let setup : Service.Setup := ⟨w.settings.policy, parties w tree⟩
  let ((answer, delivered), store) :=
    (handleAll setup s.ambients c.request).run journal false (w.tasks tree)
  let log := LogLine.ofRequest setup.parties (fullId (w.tasks tree)) c.request answer delivered
  let tree := w.putBack tree Workspace.tasksFile store
  match answer with
  | .error e => .failed "" (Service.Failure.ofError e).text log tree
  | .ok response =>
    match complaint? response with
    | some reason => .failed (c.report format response) reason log tree
    | none => .done (c.report format response) log tree

/-- Adds or replaces a user. -/
def runAddUser (w : Workspace) (format : OutputFormat) (u : NewUser) (tree : FileTree) : Outcome :=
  match (Ident.parse u.id : Except IdentError UserId) with
  | .error e => .failed "" e.message [] tree
  | .ok id =>
    let user := u.settings.foldl User.withSetting (.create id u.email u.name)
    let (answer, users) := (w.users tree).upsert user
    let tree := w.putBack tree Workspace.usersFile users
    match answer with
    | .error e => .failed "" e.fullMessage [] tree
    | .ok () =>
      .done
        (inFormat format user.encode
          ("Saved user " ++ user.id.text ++ " <" ++ user.email ++ ">\n"))
        [] tree

/-- The tree after the directory of users has been read. -/
def afterReading (w : Workspace) (tree : FileTree) : FileTree :=
  w.putBack tree Workspace.usersFile (w.users tree).entered

/-- Lists the users. -/
def runListUsers (w : Workspace) (format : OutputFormat) (tree : FileTree) : Outcome :=
  match (w.users tree).read with
  | .error e => .failed "" e.fullMessage [] (afterReading w tree)
  | .ok users =>
    .done (inFormat format (.array (users.toList.map User.encode)) (userTable users.toList)) []
      (afterReading w tree)

/-- Sends the reminders that are due now. -/
def runRemind (s : Surroundings) (w : Workspace) (format : OutputFormat) (tree : FileTree) :
    Outcome :=
  if !w.hasUsers tree then .done (success format "No users configured; nothing to remind") [] tree
  else
    let script := sweep (w.users tree).read logNotifier ((s.ambients 0).now 0)
    let (answer, store) := script.run journal false (w.tasks tree)
    let tree := w.putBack (afterReading w tree) Workspace.tasksFile store
    match answer with
    | .error e => .failed "" e.fullMessage [] tree
    | .ok (sent, delivered) =>
      .done
        (inFormat format (.object [("delivered", .nat sent)])
          ("Sent " ++ toString sent ++ " reminder(s)\n"))
        (delivered.map LogLine.ofDelivery) tree

/-- Makes a workspace. -/
def runInit (s : Surroundings) (format : OutputFormat) (path : String) (tree : FileTree) : Outcome :=
  match Workspace.init tree s.userSettings (s.placeOf path) with
  | (.error e, tree) => .failed "" e.fullMessage [] tree
  | (.ok w, tree) =>
    .done (success format ("Initialized tasker workspace at " ++ w.root.shown))
      [.ofValues .debug "workspace created"
        [("dir", (w.root.inside [Workspace.directoryName]).shown)]]
      tree

/-- Opens the nearest workspace. -/
def openNearest (s : Surroundings) (tree : FileTree) : Except WorkspaceError Workspace :=
  match Workspace.find? tree s.place s.directory with
  | none => .error .notInWorkspace
  | some root => Workspace.openAt tree s.userSettings root

/-- Carries out a command. -/
def runCommand (s : Surroundings) (format : OutputFormat) (c : Command) (tree : FileTree) : Outcome :=
  match c with
  | .init path => runInit s format path tree
  | c =>
    match openNearest s tree with
    | .error e => .failed "" e.fullMessage [] tree
    | .ok w =>
      let o :=
        match c with
        | .task c => runTask s w format c tree
        | .addUser u => runAddUser w format u tree
        | .listUsers => runListUsers w format tree
        | .remind => runRemind s w format tree
        | .init _ => .done "" [] tree
      { o with log := .ofValues .debug "workspace opened" [("root", w.root.shown)] :: o.log }

/-- The settings that decide the form of output and the log, as far as they can be read. -/
def presets? (s : Surroundings) (tree : FileTree) : Option (String × UserSettings) :=
  match Workspace.find? tree s.place s.directory with
  | some root =>
    match Workspace.load tree s.userSettings root with
    | .ok w => some (w.settings.logLevel, w.userSettings)
    | .error _ => none
  | none =>
    match Workspace.loadUser s.userSettings with
    | .ok u => some (WorkspaceSettings.default.logLevel, u)
    | .error _ => none

/-- Carries out a command line. -/
def run (s : Surroundings) (args : List String) (tree : FileTree) : Outcome :=
  match Invocation.read args with
  | .error stop => .stopped stop tree
  | .ok i =>
    let presets := presets? s tree
    let format := i.format.getD ((presets.map (·.2.format)).getD .text)
    (runCommand s format i.command tree).limit
      (.choose i.logLevel s.logVariable (presets.map (·.1)))

end TaskPipeline.Cli
