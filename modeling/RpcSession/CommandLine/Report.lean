import RpcSession.CommandLine.Arguments
import RpcSession.CommandLine.File
import RpcSession.Configuration.Reader
import RpcSession.Demonstration
import RpcSession.Logging.Threshold

/-!
# Runs of the program

A run of the program reads its arguments and its configuration, plays the demonstration, and
reports what it wrote and how it ended. Messages to the peer are lines of the standard output and
log records are lines of the standard error.
-/

namespace RpcSession.CommandLine

inductive Ending where
  | exit (code : Nat)
  | failed (kind message : String)
  deriving DecidableEq, Repr

structure Report where
  ending : Ending := .exit 0
  output : String := ""
  errors : String := ""
  deriving DecidableEq, Repr

def usage : String :=
  "usage: notify-ls [-h] [--config CONFIG] [--files FILES] [--seed SEED]\n"

def help : String :=
  usage ++
    "\nIn-process notify language server demo.\n\noptions:\n" ++
    "  -h, --help       show this help message and exit\n" ++
    "  --config CONFIG  Path to an optional JSON config file.\n" ++
    "  --files FILES    Number of files the indexing demo walks through.\n" ++
    "  --seed SEED      Seed for the random file count.\n"

namespace Report

def misuse (message : String) : Report where
  ending := .exit 2
  errors := usage ++ "notify-ls: error: " ++ message ++ "\n"

def ofRefusal : Refusal → Report
  | .help => { output := help }
  | .misuse message => misuse message
  | .emptyFiles =>
      { ending := .failed "TypeError" "'<' not supported between instances of 'list' and 'int'" }

/-- What a session wrote, from its history. Records are made at the start of 1970, where the
clock of a demonstration stands. -/
def ofSession (sink : Logging.Sink) (session : Session) : Report :=
  let events := session.history.reverse
  let lines := events.filterMap fun event =>
    (Demonstration.messageOf? event).map fun message => Json.text Json.compact message ++ "\n"
  let records := events.filterMap fun
    | .logged entry =>
        (sink.write entry.level.number
          (.make (.string entry.logger) entry.level.number (.string entry.message) []
            (.int 0) entry.failure)).toOption
    | _ => none
  { output := String.join lines, errors := String.join records }

def ofConfiguration (fuel : Nat) (configuration : Configuration) (files : Option Int)
    (seed : Option Int) : Report :=
  match Logging.Sink.configure configuration.logLevel configuration.structuredLogging with
  | .error fault => { ending := .failed fault.kind fault.message }
  | .ok sink =>
      match Demonstration.play fuel files seed { configuration } with
      | (.failed failure, session) =>
          { ofSession sink session with ending := .failed failure.kind failure.message }
      | (_, session) => ofSession sink session

/-- A run with options, given what is in the file of the configuration if there is one, and the
seed to use unless one is chosen. -/
def ofOptions (fuel : Nat) (options : Options)
    (contents : (path : String) → Except FileFault (List UInt8)) (otherSeed : Int) : Report :=
  let files := match options.files with
    | .value files => some files
    | _ => none
  let seed := match options.seed with
    | .unset => some otherSeed
    | .empty => none
    | .value seed => some seed
  match options.config with
  | .unset => ofConfiguration fuel {} files seed
  | .empty =>
      { ending := .failed "TypeError" "expected str, bytes or os.PathLike object, not list" }
  | .value path =>
      match contents path with
      | .error fault => misuse (fault.message path)
      | .ok bytes =>
          match Configuration.ofBytes bytes with
          | .ok configuration => ofConfiguration fuel configuration files seed
          | .error fault =>
              if fault.isOrdinary then misuse fault.message
              else { ending := .failed fault.kind fault.message }

def ofArguments (fuel : Nat) (arguments : List String)
    (contents : (path : String) → Except FileFault (List UInt8)) (otherSeed : Int) : Report :=
  match Options.ofArguments arguments with
  | .error refusal => ofRefusal refusal
  | .ok options => ofOptions fuel options contents otherSeed

end Report

end RpcSession.CommandLine
