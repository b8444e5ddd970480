import HostAgent.Dict
import HostAgent.Event
import HostAgent.Json.Quote
import HostAgent.Text.Quoted

set_option autoImplicit false

/-! # Log lines

An event is logged as a line of text or as a JSON object with the members in the order of
their names. Both show the level, the target (the name under which filters know the component
that reports the event), the message and the fields. The time of the event goes in front and
is not part of the line here.
-/

namespace HostAgent

/-- The name of a component in log filters. -/
def Component.target : Component → String
  | .program => "vm_agent"
  | .agent => "vmagent::agent"
  | .watch => "vmagent::watch"
  | .dispatch => "vmagent_reconcile::dispatch"
  | .domain name => "vmagent::domains::" ++ name
  | .overrides => "vmagent::overrides"
  | .service => "vmagent::service"

/-- A value on a line of text. -/
def FieldValue.onLine : FieldValue → String
  | .word t => quoted t
  | v => v.text

/-- A value in JSON. -/
def FieldValue.json : FieldValue → String
  | .shown t | .word t => Json.quote t
  | v => v.text

namespace Event

/-- The name of the level, as wide as the widest. -/
def levelColumn (e : Event) : String :=
  String.ofList (List.replicate (5 - e.level.name.length) ' ') ++ e.level.name

/-- An event on a line of text. -/
def textLine (e : Event) : String :=
  " " ++ e.levelColumn ++ " " ++ e.component.target ++ ": " ++ e.message
    ++ String.join (e.fields.map fun (name, value) => " " ++ name ++ "=" ++ value.onLine)

/-- An event as an object. -/
def jsonLine (e : Event) : String :=
  let fields := Dict.ofList
    (("message", Json.quote e.message) :: e.fields.map fun (name, value) => (name, value.json))
  Json.object [("fields", Json.object fields.entries), ("level", Json.quote e.level.name),
    ("target", Json.quote e.component.target)]

end Event

end HostAgent
