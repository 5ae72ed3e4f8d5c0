import BrightScript.CommandLine
set_option autoImplicit false

namespace BrightScript.CommandLine

def Job.paths (job : Job) : List String :=
  job.manifest.toList ++ job.files

def reason : IO.Error → String
  | .noFileOrDirectory _ _ _ => "No such file or directory (os error 2)"
  | .permissionDenied _ _ _ => "Permission denied (os error 13)"
  | .inappropriateType _ _ _ => "Is a directory (os error 21)"
  | .userError _ => "stream did not contain valid UTF-8"
  | error => toString error

def readFile (path : String) : IO (String × Except String String) := do
  match ← (IO.FS.readFile path).toBaseIO with
  | .ok text => pure (path, .ok text)
  | .error error => pure (path, .error (reason error))

def lookUp (contents : List (String × Except String String)) (path : String) :
    Except String String :=
  (contents.lookup path).getD (.error "not read")

def readPaths : Request → List String
  | .run job => job.paths
  | _ => []

end BrightScript.CommandLine

open BrightScript in
def main (arguments : List String) : IO UInt32 := do
  match CommandLine.parse arguments with
  | .error fault =>
    IO.eprint s!"error: {fault.message}\n\n{CommandLine.usageText}"
    pure 2
  | .ok request =>
    let contents ← (CommandLine.readPaths request).mapM CommandLine.readFile
    let report := request.report (CommandLine.lookUp contents)
    IO.print report.output
    IO.eprint report.errors
    pure (UInt32.ofNat report.exitCode)
