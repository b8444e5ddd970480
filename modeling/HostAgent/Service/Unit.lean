import HostAgent.File.Path

set_option autoImplicit false

/-! # The service of the agent

The service manager knows the agent by a unit file, which tells how it is started and when.
The file stands in the unit directory under the name of the service.
-/

namespace HostAgent

/-- The agent as a service: the name of the service, the program to start, the directory of
unit files, and the command that drives the service manager. -/
structure Service where
  name : String
  executable : String
  unitDirectory : String := "/etc/systemd/system"
  manager : String := "systemctl"
deriving DecidableEq, Repr

namespace Service

/-- The name of the unit file. -/
def unitName (s : Service) : String := s.name ++ ".service"

/-- The path of the unit file. -/
def unitPath (s : Service) : String := Path.join s.unitDirectory s.unitName

/-- The lines of the unit file. -/
def unitLines (s : Service) : List String :=
  ["[Unit]",
    "Description=VM configuration agent",
    "Wants=network-online.target",
    "After=network-online.target",
    "",
    "[Service]",
    "Type=simple",
    "ExecStart=" ++ s.executable ++ " run",
    "Restart=always",
    "RestartSec=5",
    "KillSignal=SIGTERM",
    "",
    "[Install]",
    "WantedBy=multi-user.target"]

/-- The text of the unit file. -/
def unitText (s : Service) : String := String.join (s.unitLines.map (· ++ "\n"))

end Service

end HostAgent
