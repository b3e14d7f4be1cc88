import LoginLoad.Json.Quoted

/-! # The login request

The target of every request of a run and the credentials that its body carries.  `LoginBody.json`
is the body as it is sent: one object with the members `username` and `password` in this order and
no blank. -/

namespace LoginLoad

/-- The credentials in the body of a request. -/
structure LoginBody where
  username : String
  password : String
deriving DecidableEq, Repr

/-- The body as JSON text. -/
def LoginBody.json (b : LoginBody) : List Char :=
  "\x7b\"username\":".toList ++ Json.quote b.username.toList ++
    (",\"password\":".toList ++ Json.quote b.password.toList ++ ['}'])

namespace Default

/-- The target of a request where none is given. -/
def url : String := "http://localhost/auth/login"

/-- The number of virtual users where none is given. -/
def users : Nat := 10

/-- The number of requests of each user where none is given. -/
def requestsPerUser : Nat := 100

/-- The user name where none is given. -/
def username : String := "test1"

/-- The password where none is given. -/
def password : String := "test123"

/-- The time limit of a request, in seconds, where none is given. -/
def timeoutSeconds : Nat := 10

end Default

/-- The target and the body of every request of a run. -/
structure RequestSpec where
  url : String := Default.url
  body : LoginBody := ⟨Default.username, Default.password⟩
deriving DecidableEq, Repr

end LoginLoad
