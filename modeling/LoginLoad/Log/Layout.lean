import LoginLoad.Log.Event

/-! # The layout of log lines

An event is written as its level, its target, its message and its fields, each field with an equals
sign before its value.  On a terminal that wants colours the parts are marked; without them the line
is plain.  The time stands in front of everything. -/

namespace LoginLoad
namespace LogLayout

/-- A text between the marks that switch a style on and off. -/
def styled (style : String) (text : String) : String := "\x1b[" ++ style ++ "m" ++ text ++ "\x1b[0m"

/-- The style of a level. -/
def levelStyle : LogLevel → String
  | .error => "31"
  | .warn => "33"
  | .info => "32"
  | .debug => "34"
  | .trace => "35"

/-- The plain line of an event, without a time. -/
def plain (e : Event) : String :=
  e.level.label ++ " " ++ e.target ++ ": " ++ e.message ++
    String.join (e.fields.map fun (name, value) => " " ++ name ++ "=" ++ value)

/-- The coloured line of an event, without a time. -/
def coloured (e : Event) : String :=
  styled (levelStyle e.level) e.level.label ++ " " ++ styled "2" e.target ++ styled "2" ":" ++ " " ++
    e.message ++
    String.join (e.fields.map fun (name, value) =>
      " " ++ styled "3" name ++ styled "2" "=" ++ value)

/-- The line of an event with the time in front. -/
def line (colours : Bool) (time : String) (e : Event) : String :=
  if colours then styled "2" time ++ " " ++ coloured e else time ++ " " ++ plain e

end LogLayout
end LoginLoad
