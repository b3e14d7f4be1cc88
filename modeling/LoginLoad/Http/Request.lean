import LoginLoad.Http.Head
import LoginLoad.Text.Utf8

/-! # Requests on the wire

A request as a server receives it, and its bytes. -/

namespace LoginLoad
namespace Http

/-- The methods that a client uses. -/
inductive Method where
  | get
  | post
deriving DecidableEq, Repr

/-- The printed form of a method. -/
def Method.text : Method → String
  | get => "GET"
  | post => "POST"

/-- A request: its line, its headers with their names in small letters, and its body. -/
structure Request where
  method : Method
  target : List Char
  version : Version := .http11
  headers : List (String × List Char)
  body : List UInt8
deriving DecidableEq, Repr

namespace Request

/-- The first line of a request. -/
def line (r : Request) : String :=
  r.method.text ++ " " ++ String.ofList r.target ++ " " ++ r.version.text

/-- A request in the version that was heard on its connection; a server of the older version is told
that the connection is to be kept. -/
def spokenIn (r : Request) (version : Version) : Request :=
  match version with
  | .http11 => r
  | .http10 => { r with version, headers := r.headers ++ [("connection", "keep-alive".toList)] }

/-- A line and its end. -/
def lineBytes (text : List Char) : List UInt8 := Utf8.encode (text ++ ['\r', '\n'])

/-- The bytes of a request: its first line, its headers, an empty line and its body. -/
def bytes (r : Request) : List UInt8 :=
  lineBytes r.line.toList ++
    r.headers.flatMap (fun (name, value) => lineBytes (name.toList ++ ": ".toList ++ value)) ++
    lineBytes [] ++ r.body

end Request
end Http
end LoginLoad
