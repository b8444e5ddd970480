import HostAgent.Service.Control

set_option autoImplicit false

/-! # The command line

The program takes one word that says what to do, and runs the agent if there is none. Options
ask for help or for the version; the first option decides, unless something before it is
wrong. After a double dash there are no more options.
-/

namespace HostAgent

/-- How the agent is run: under the service manager, or in the foreground until it is
interrupted. -/
inductive RunMode
  | service
  | foreground
deriving DecidableEq, Repr

/-- The name of a mode in reports. -/
def RunMode.name : RunMode → String
  | .service => "Service"
  | .foreground => "Foreground"

/-- What the program can do. -/
inductive Job
  | run (mode : RunMode)
  | control (action : Service.Action)
deriving DecidableEq, Repr

/-- What a command line asks for. -/
inductive Invocation
  | help (long : Bool)
  | version
  | job (job : Job)
  | misused
deriving DecidableEq, Repr

namespace Invocation

/-- The words for what the program can do, with what they mean. -/
def words : List (String × String × Job) :=
  [("run", "Run under the service manager", .run .service),
    ("noservice", "Run in the foreground until interrupted", .run .foreground),
    ("install", "Register the system service", .control .install),
    ("start", "Start the system service", .control .start),
    ("stop", "Stop the system service", .control .stop),
    ("remove", "Unregister the system service", .control .remove)]

/-- What a word asks for. -/
def wordJob? (word : String) : Option Job :=
  (words.find? fun entry => entry.1 == word).map (·.2.2)

/-- What arguments ask for, given the job that arguments before them ask for; `options` tells
whether there can still be options. -/
def readFrom (options : Bool) (job? : Option Job) : List String → Invocation
  | [] => .job (job?.getD (.run .service))
  | argument :: rest =>
    if options ∧ argument = "--" then readFrom false job? rest
    else if options ∧ argument = "--help" then .help true
    else if options ∧ argument = "--version" then .version
    else if options ∧ argument.toList.take 2 = ['-', 'h'] then .help false
    else if options ∧ argument.toList.take 2 = ['-', 'V'] then .version
    else
      match job?, wordJob? argument with
      | none, some found => readFrom options (some found) rest
      | _, _ => .misused

/-- What a command line asks for. -/
def read (arguments : List String) : Invocation := readFrom true none arguments

/-! ## Help -/

/-- A text of lines. -/
def ofLines (lines : List String) : String := String.join (lines.map (· ++ "\n"))

/-- A text with blanks after it up to the given width. -/
def padded (width : Nat) (s : String) : String :=
  s ++ String.ofList (List.replicate (width - s.length) ' ')

/-- The first lines of the help. -/
def helpHead : List String :=
  ["VM configuration agent", "", "Usage: vm-agent [ACTION]", "", "Arguments:"]

/-- The help in full. -/
def longHelp : String :=
  ofLines (helpHead
    ++ ["  [ACTION]", "          What to do", "", "          Possible values:"]
    ++ words.map (fun (word, meaning, _) =>
      "          - " ++ padded 11 (word ++ ":") ++ meaning)
    ++ ["          ", "          [default: run]", "", "Options:",
      "  -h, --help", "          Print help (see a summary with '-h')", "",
      "  -V, --version", "          Print version"])

/-- The help in short. -/
def shortHelp : String :=
  ofLines (helpHead
    ++ ["  [ACTION]  What to do [default: run] [possible values: "
        ++ ", ".intercalate (words.map (·.1)) ++ "]",
      "", "Options:",
      "  -h, --help     Print help (see more with '--help')",
      "  -V, --version  Print version"])

end Invocation

end HostAgent
