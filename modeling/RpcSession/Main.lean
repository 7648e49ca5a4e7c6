import RpcSession.CommandLine.Report

/-!
# The program

Reads the file of the configuration, runs, and writes what the run reports.
-/

namespace RpcSession.CommandLine

/-- Whether a code of the system is a given one, which may come with its sign reversed. -/
private def isCode (code : UInt32) (known : UInt32) : Bool :=
  code == known || code == -known

private def faultOf : IO.Error → FileFault
  | .noFileOrDirectory .. => .notFound
  | .inappropriateType _ code _ => if isCode code 20 then .notDirectory else .isDirectory
  | .permissionDenied .. => .notPermitted
  | .invalidArgument _ code details =>
      if isCode code 36 then .nameTooLong else .other code.toNat details
  | error => .other 5 (toString error)

private def contentsOf (path : String) : IO (Except FileFault (List UInt8)) := do
  if path.toList.contains '\x00' then return .error .embeddedNul
  try
    let bytes ← IO.FS.readBinFile (normalPath path)
    return .ok bytes.toList
  catch error => return .error (faultOf error)

/-- More steps than any run takes. -/
private def fuel : Nat := Nat.pow 10 15

private def reportOf (arguments : List String) : IO Report := do
  match Options.ofArguments arguments with
  | .error refusal => return .ofRefusal refusal
  | .ok options =>
      let contents ← match options.config with
        | .value path => contentsOf path
        | _ => pure (.error .notFound)
      let otherSeed ← IO.rand 0 (Nat.pow 2 31)
      return .ofOptions fuel options (fun _ => contents) otherSeed

/-- Runs with the given arguments, writes what comes of it, and gives the code to exit with. -/
def runMain (arguments : List String) : IO UInt32 := do
  let report ← reportOf arguments
  (← IO.getStdout).putStr report.output
  (← IO.getStderr).putStr report.errors
  match report.ending with
  | .exit code => return UInt32.ofNat code
  | .failed kind message =>
      (← IO.getStderr).putStrLn (kind ++ ": " ++ message)
      return 1

end RpcSession.CommandLine

def main (arguments : List String) : IO UInt32 :=
  RpcSession.CommandLine.runMain arguments
