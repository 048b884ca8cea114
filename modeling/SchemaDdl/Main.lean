import SchemaDdl.Command.Run

/-!
# The command

Reads the files that the arguments name, and prints the result of the run.
-/

namespace SchemaDdl.Command

/-- The reason behind an error of the system. What the command has no word for counts as not
    found. -/
def reasonOf : IO.Error → Unreadable
  | .inappropriateType _ code _ => if code = 21 then .isADirectory else .notADirectory
  | .invalidArgument .. => .nameTooLong
  | .permissionDenied .. => .accessDenied
  | .userError _ => .notText
  | _ => .notFound

/-- The text of a file, or the reason why there is none. -/
def readFile (name : String) : IO (Except Unreadable String) := do
  try
    return .ok (← IO.FS.readFile name)
  catch e =>
    return .error (reasonOf e)

/-- The files of a run by their names. -/
def readFiles : List String → IO (List (String × Except Unreadable String))
  | [] => return []
  | name :: rest => do
    let file ← readFile name
    return (name, file) :: (← readFiles rest)

end SchemaDdl.Command

open SchemaDdl.Command in
/-- Run the command and give its exit code. -/
def main (arguments : List String) : IO UInt32 := do
  let files ← readFiles (filesOf arguments)
  let result := execute (fun name => (files.lookup name).getD (.error .notFound)) arguments
  match result with
  | .printed text => IO.print text
  | .failed message => IO.eprintln ("error: " ++ message)
  | .misused => IO.eprintln "error: wrong usage"
  return UInt32.ofNat result.code
