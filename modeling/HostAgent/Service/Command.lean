import HostAgent.File.Fault
import HostAgent.Text.Blank
import HostAgent.Text.Utf8

set_option autoImplicit false

/-! # Commands

The service manager is driven by a command that is run with arguments. A run that starts ends
with an exit status or by a signal, and leaves a text of what went wrong.
-/

namespace HostAgent

/-- How a command ends. -/
inductive CommandEnd
  | exited (status : Nat)
  | killed (signal : Nat)
deriving DecidableEq, Repr

namespace CommandEnd

/-- The names of the signals from number 1 on. -/
def signalNames : List String :=
  ["SIGHUP", "SIGINT", "SIGQUIT", "SIGILL", "SIGTRAP", "SIGABRT", "SIGBUS", "SIGFPE",
    "SIGKILL", "SIGUSR1", "SIGSEGV", "SIGUSR2", "SIGPIPE", "SIGALRM", "SIGTERM", "SIGSTKFLT",
    "SIGCHLD", "SIGCONT", "SIGSTOP", "SIGTSTP", "SIGTTIN", "SIGTTOU", "SIGURG", "SIGXCPU",
    "SIGXFSZ", "SIGVTALRM", "SIGPROF", "SIGWINCH", "SIGIO", "SIGPWR", "SIGSYS"]

/-- The wording of an end. -/
def message : CommandEnd → String
  | .exited status => "exit status: " ++ toString status
  | .killed signal =>
    let name := match signalNames[signal - 1]? with
      | some name => if signal = 0 then "" else " (" ++ name ++ ")"
      | none => ""
    "signal: " ++ toString signal ++ name

end CommandEnd

/-- What becomes of a command that starts. -/
structure CommandReply where
  ending : CommandEnd := .exited 0
  /-- What the command writes about its failure. -/
  complaint : List UInt8 := []
deriving DecidableEq, Repr

namespace CommandReply

/-- Whether the command did what it was run for. -/
def succeeded (r : CommandReply) : Bool := r.ending == .exited 0

/-- The report on a command that failed. -/
def detail (r : CommandReply) : String :=
  r.ending.message ++ ": " ++ trim (Utf8.decodeLossy r.complaint)

end CommandReply

end HostAgent
