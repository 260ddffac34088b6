import UrlRouting.CommandLine.Outcome

/-!
The command line program: reads the file that the words name and writes what comes of them.
-/

open UrlRouting

def contentOfFile (path : String) : IO (Option (List UInt8)) := do
  try
    return some (← IO.FS.readBinFile (FilePath.ofText path).text).toList
  catch _ => return none

def main (words : List String) : IO UInt32 := do
  let content ← match (CommandLine.Reading.ofTexts words).file? with
    | some path => contentOfFile path
    | none => pure none
  match CommandLine.run (fun _ => content) words with
  | .ok outcome =>
      IO.print outcome.output
      IO.eprint outcome.errors
      return outcome.exitCode.toUInt32
  | .error failure =>
      IO.eprintln s!"{failure.kind.name}: {failure.message}"
      return 1
