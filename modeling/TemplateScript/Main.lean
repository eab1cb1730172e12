import TemplateScript.Command

namespace TemplateScript

def failureReason : IO.Error → String
  | .noFileOrDirectory .. => "No such file or directory (os error 2)"
  | .permissionDenied .. => "Permission denied (os error 13)"
  | .inappropriateType .. => "Is a directory (os error 21)"
  | e => toString e

def attempt {α : Type} (action : IO α) : IO (Except String α) := do
  try return .ok (← action)
  catch e => return .error (failureReason e)

def terminal : Console IO where
  read path := attempt (IO.FS.readFile path)
  write path contents := attempt (IO.FS.writeFile path contents)
  print text := do
    IO.print text
    (← IO.getStdout).flush
  printError := IO.eprint

end TemplateScript

def main (arguments : List String) : IO UInt32 :=
  TemplateScript.Command.runArguments TemplateScript.terminal arguments
