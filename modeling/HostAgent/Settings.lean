import HostAgent.Number.Decimal
import HostAgent.Text.Blank

set_option autoImplicit false

/-! # Settings of the agent

The agent is set up by environment variables. Every variable has a default; three of them can
be wrong, and the first wrong one in the order backoff, long poll, log format is reported.
-/

namespace HostAgent

/-- The form of log lines. -/
inductive LogFormat
  | text
  | json
deriving DecidableEq, Repr

/-- What the agent needs to know to run. -/
structure Settings where
  metadataUrl : String := "http://169.254.169.254/computeMetadata/v1/"
  overridePath : String := "/etc/vmagent/instance_configs.cfg"
  /-- The pause between a failed fetch and the next one. -/
  backoffSecs : Nat := 5
  /-- How long the metadata service may hold back its answer. -/
  longPollTimeoutSecs : Nat := 60
  /-- The device that receives a copy of the log. -/
  serialPort : Option String := none
  logLevel : String := "info"
  logFormat : LogFormat := .text
  serviceName : String := "vm-agent"
deriving DecidableEq, Repr

namespace Settings

/-- Why the variables do not make up settings. -/
inductive Fault
  | number (name text : String) (cause : Decimal.Fault)
  | zeroBackoff
  | unknownFormat (text : String)
deriving DecidableEq, Repr

/-- The wording of a fault, without its cause. -/
def Fault.summary : Fault → String
  | .number name text _ => "invalid " ++ name ++ " '" ++ text ++ "'"
  | .zeroBackoff => "VMAGENT_BACKOFF_SECS must be at least 1"
  | .unknownFormat text => "invalid VMAGENT_LOG_FORMAT '" ++ text ++ "'"

/-- The wording of a fault. -/
def Fault.message (f : Fault) : String :=
  match f with
  | .number _ _ cause => f.summary ++ ": " ++ cause.message
  | _ => f.summary

/-- A variable that holds a number of sixty-four bits. -/
def readNumber (lookup : String → Option String) (name : String) (default : Nat) :
    Except Fault Nat :=
  match lookup name with
  | none => .ok default
  | some text => (Decimal.read Decimal.max64 text).mapError (.number name text)

/-- The settings that variables make up. -/
def ofLookup (lookup : String → Option String) : Except Fault Settings := do
  let backoffSecs ← readNumber lookup "VMAGENT_BACKOFF_SECS" 5
  if backoffSecs = 0 then throw .zeroBackoff
  let longPollTimeoutSecs ← readNumber lookup "VMAGENT_LONG_POLL_TIMEOUT_SECS" 60
  let logFormat ← match lookup "VMAGENT_LOG_FORMAT" with
    | none => pure .text
    | some "text" => pure .text
    | some "json" => pure .json
    | some other => throw (.unknownFormat other)
  let defaults : Settings := {}
  return {
    metadataUrl := (lookup "VMAGENT_METADATA_URL").getD defaults.metadataUrl
    overridePath := (lookup "VMAGENT_OVERRIDE_PATH").getD defaults.overridePath
    backoffSecs
    longPollTimeoutSecs
    serialPort := (lookup "VMAGENT_SERIAL_PORT").filter fun port => !isBlankText port
    logLevel := (lookup "VMAGENT_LOG_LEVEL").getD defaults.logLevel
    logFormat
    serviceName := (lookup "VMAGENT_SERVICE_NAME").getD defaults.serviceName }

end Settings

end HostAgent
