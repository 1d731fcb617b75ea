import SqlAssist.CommandLine.Command
import SqlAssist.UsualRules

/-!
# The command line

Reads the arguments, fetches the files that they name and prints the answer. There is no parser for
statements here: all texts are taken as texts that a parser refuses, so that suggestions come from
all streams.
-/
open SqlAssist

/-- Reads a file, or tells why it cannot be read. -/
def fetch (path : String) : IO (Except FileError ByteArray) := do
  if path.toList.contains (Char.ofNat 0) then return .error .invalidName
  try
    return .ok (← IO.FS.readBinFile (if path.isEmpty then "." else path))
  catch
    | .noFileOrDirectory .. => return .error .notFound
    | .inappropriateType _ code _ =>
      -- The system has one code for a directory and one for a path through a file.
      return .error (if code = 21 then .isDirectory else .notDirectory)
    | e => throw e

/-- The text of a failure. -/
def failureText : Invocation.RunError → String
  | .notText => "a file is not a text"
  | .tooManyDigits => "a number has too many digits"
  | .tooDeep => "the values of the configuration are nested too deep"
  | .brokenOff => "the configuration cannot be checked"
  | .invalidName => "a path is not valid"
  | .noMessage => "there is no message"
  | .parserBroken message => message

/-- Runs the command of the arguments. -/
def main (arguments : List String) : IO UInt32 := do
  match Invocation.parse arguments with
  | .error code => return UInt32.ofNat code
  | .ok invocation =>
    let home := (← IO.getEnv "HOME").getD ""
    let config ← fetch (invocation.config.getD (home ++ "/.config/pvquery/config.toml"))
    let source ← if invocation.file = standardInput then
        .ok <$> (← IO.getStdin).readBinToEnd
      else fetch invocation.file
    match invocation.run (fun _ _ => .refused "no parser") .usual .usual config source with
    | .ok answer =>
      for entry in answer.log do
        IO.eprintln entry.message
      IO.print (String.ofList answer.output)
      return UInt32.ofNat answer.exit
    | .error e =>
      IO.eprintln (failureText e)
      return 1
