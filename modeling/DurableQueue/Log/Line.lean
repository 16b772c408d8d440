import DurableQueue.Event
import DurableQueue.Format.Json
import DurableQueue.Settings.Logging

/-!
# Log lines

An event as one line of a log, as text with or without colours or as a JSON object. The time stands in
front and is given by the caller.
-/

namespace DurableQueue.Event

/-- A text on a terminal between the codes that switch a style on and off. -/
def styled (style text : String) : String := "\x1b[" ++ style ++ "m" ++ text ++ "\x1b[0m"

/-- The style of a level's name. -/
def levelStyle : Level → String
  | .error => "31"
  | .warn => "33"
  | .info => "32"
  | .debug => "34"
  | .trace => "35"

/-- The value of a field as text. -/
def fieldText : FieldValue → String
  | .number n => toString n
  | .text s => s

/-- The value of a field in a JSON object. -/
def fieldJson : FieldValue → String
  | .number n => toString n
  | .text s => Format.Json.writtenText s

/-- The line of an event as text. Time and target are dim, the level has the colour of its gravity,
and the names of fields are in italics. -/
def textLine (color : Bool) (time : String) (event : Event) : String :=
  let paint (style text : String) := if color then styled style text else text
  let name := event.level.name
  let level := String.ofList (List.replicate (5 - name.length) ' ') ++ name
  let fields := event.fields.map fun (name, value) =>
    " " ++ paint "3" name ++ paint "2" "=" ++ fieldText value
  paint "2" time ++ " " ++ paint (levelStyle event.level) level ++ " " ++ paint "2" event.target
    ++ paint "2" ":" ++ " " ++ event.message ++ "".intercalate fields

/-- The line of an event as a JSON object. -/
def jsonLine (time : String) (event : Event) : String :=
  let member (name value : String) := Format.Json.writtenText name ++ ":" ++ value
  let object (members : List String) := "\x7b" ++ ",".intercalate members ++ "\x7d"
  let text := Format.Json.writtenText
  let fields := event.fields.map fun (name, value) => member name (fieldJson value)
  object [
    member "timestamp" (text time),
    member "level" (text event.level.name),
    member "fields" (object (member "message" (text event.message) :: fields)),
    member "target" (text event.target)]

/-- The line of an event in some format. -/
def line (format : LogFormat) (color : Bool) (time : String) (event : Event) : String :=
  match format with
  | .text => event.textLine color time
  | .json => event.jsonLine time

end DurableQueue.Event
