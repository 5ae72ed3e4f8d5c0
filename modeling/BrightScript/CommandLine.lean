import BrightScript.Manifest
import BrightScript.Session
set_option autoImplicit false

/-!
The command line: its arguments, and what a run with them prints and returns. Files are read by
whoever runs it; here they are given by name. The error output of a report has what the program and
the checks of its sources write, and not the lines of the log that go the same way: the warning that
`CreateObject` does not know a component, and whatever else a filter lets through.
-/

namespace BrightScript

namespace CommandLine

structure Job where
  manifest : Option String := none
  constants : List (String × Bool) := []
  files : List String := []

inductive Request where
  | run (job : Job)
  | version
  | help

inductive UsageFault where
  | unknownOption (argument : String)
  | missingValue (option : String)
  | unexpectedValue (option : String)
  | repeated (option : String)
  | emptyPath
  | malformedConst (fault : ManifestFault)
  | noFiles

def UsageFault.message : UsageFault → String
  | .unknownOption argument => s!"unexpected argument {quoted argument}"
  | .missingValue option => s!"a value is required for '{option}'"
  | .unexpectedValue option => s!"no value is expected for '{option}'"
  | .repeated option => s!"'{option}' cannot be used more than once"
  | .emptyPath => "a path cannot be empty"
  | .malformedConst fault => fault.message
  | .noFiles => "no source files are given"

def Job.addFile (job : Job) (path : String) : Except UsageFault Job :=
  if path = "" then .error .emptyPath else .ok { job with files := job.files ++ [path] }

inductive Choice where
  | manifest
  | const

def Choice.flag : Choice → String
  | .manifest => "--manifest"
  | .const => "--const"

def Job.set (job : Job) (choice : Choice) (value : String) : Except UsageFault Job :=
  match choice with
  | .manifest =>
    if job.manifest.isSome then .error (.repeated "--manifest")
    else if value = "" then .error .emptyPath
    else .ok { job with manifest := some value }
  | .const =>
    match parseConst value with
    | .ok entry => .ok { job with constants := job.constants ++ [entry] }
    | .error fault => .error (.malformedConst fault)

inductive Argument where
  | separator
  | choice (choice : Choice) (value : Option String)
  | help
  | version
  | file (path : String)
  | fault (fault : UsageFault)

def Argument.ofLong (name : String) (value : Option String) : Argument :=
  match name, value with
  | "manifest", value => .choice .manifest value
  | "const", value => .choice .const value
  | "help", none => .help
  | "version", none => .version
  | "help", some _ | "version", some _ => .fault (.unexpectedValue name)
  | _, _ => .fault (.unknownOption name)

def Argument.read (text : String) : Argument :=
  match text.toList with
  | ['-', '-'] => .separator
  | '-' :: '-' :: long =>
    match splitFirst? '=' long with
    | some (name, value) => .ofLong (String.ofList name) (some (String.ofList value))
    | none => .ofLong (String.ofList long) none
  | '-' :: 'h' :: _ => .help
  | '-' :: 'V' :: _ => .version
  | '-' :: _ :: _ => .fault (.unknownOption text)
  | _ => .file text

def readFiles (job : Job) : List String → Except UsageFault Job
  | [] => .ok job
  | path :: rest => do readFiles (← job.addFile path) rest

def readAll (job : Job) : Option Choice → List String → Except UsageFault Request
  | none, [] => .ok (.run job)
  | some choice, [] => .error (.missingValue choice.flag)
  | waiting, argument :: rest =>
    match waiting, Argument.read argument with
    | some choice, .file value => do readAll (← job.set choice value) none rest
    | some choice, _ => .error (.missingValue choice.flag)
    | none, .separator => .run <$> readFiles job rest
    | none, .choice choice (some value) => do readAll (← job.set choice value) none rest
    | none, .choice choice none => readAll job (some choice) rest
    | none, .help => .ok .help
    | none, .version => .ok .version
    | none, .file path => do readAll (← job.addFile path) none rest
    | none, .fault fault => .error fault

def parse (arguments : List String) : Except UsageFault Request := do
  match ← readAll {} none arguments with
  | .run job => if job.files.isEmpty then .error .noFiles else .ok (.run job)
  | request => .ok request

def versionText : String := "brs 0.1.0\n"

def usageText : String :=
  "Usage: brs [--manifest PATH] [--const NAME=BOOL]... FILE...\n"

structure Report where
  exitCode : Nat
  output : String
  errors : String

abbrev Files := String → Except String String

def fileMessage (path reason : String) : String :=
  s!"{path}: {reason}\n"

def Job.constantTable (job : Job) (files : Files) : Except String Constants :=
  match job.manifest with
  | none => .ok (.ofList job.constants)
  | some path =>
    match files path with
    | .error reason => .error (fileMessage path reason)
    | .ok text =>
      match (Manifest.parse text).bind Manifest.constants with
      | .error fault => .error (fileMessage path fault.message)
      | .ok constants => .ok (constants.insertAll job.constants)

inductive Loaded where
  | program (statements : List Stmt)
  | refused (errors : String)
  | unreadable (errors : String)

-- Loads files in order. Errors in one file do not keep the next from being checked, but a file that
-- cannot be read ends it all.
def load (files : Files) (constants : Constants) (statements : List Stmt) (errors : String)
    (sound : Bool) : List String → Loaded
  | [] => if sound then .program statements else .refused errors
  | path :: rest =>
    match files path with
    | .error reason => .unreadable (errors ++ fileMessage path reason)
    | .ok text =>
      match parseSource text path constants with
      | .ok more => load files constants (statements ++ more) errors sound rest
      | .error e =>
        let report := String.join (e.messages.map fun message => message ++ "\n")
        load files constants statements (errors ++ report) false rest

def entryPoints : List String :=
  ["main", "runuserinterface"]

def entryPoint? (session : Session) : Option String :=
  entryPoints.find? fun name => (session.get? name).isSome

def succeeded : Conclusion → Bool
  | .value _ => true
  | .failed _ | .exhausted => false

def runStatements (options : Options) (statements : List Stmt) : Conclusion × Session :=
  (Session.start options none none).exec statements

def runProgram (options : Options) (statements : List Stmt) : Bool × Session :=
  let (conclusion, session) := runStatements options statements
  if succeeded conclusion then
    match entryPoint? session with
    | some name =>
      let (conclusion, session) := session.call name []
      (succeeded conclusion, session)
    | none => (true, session)
  else (false, session)

def Job.options (job : Job) (constants : Constants) : Options :=
  { file := job.files.headD "main.brs", constants }

def Job.report (job : Job) (files : Files) : Report :=
  match job.constantTable files with
  | .error message => ⟨2, "", message⟩
  | .ok constants =>
    match load files constants [] "" true job.files with
    | .unreadable errors => ⟨2, "", errors⟩
    | .refused errors => ⟨1, "", errors⟩
    | .program statements =>
      let (success, session) := runProgram (job.options constants) statements
      ⟨if success then 0 else 1, session.state.output.sink.written, session.errors.written⟩

def Request.report (files : Files) : Request → Report
  | .run job => job.report files
  | .version => ⟨0, versionText, ""⟩
  | .help => ⟨0, usageText, ""⟩

end CommandLine

end BrightScript
