import LoginLoad.Http.Reply
import LoginLoad.Http.Request
import LoginLoad.Log.Notice
import LoginLoad.Outcome
import LoginLoad.Spec
import LoginLoad.Text.Base64
import LoginLoad.Url.Reader
import LoginLoad.Url.Uri

/-! # A login request under way

A login request is one POST of the body of its spec, and the redirects that the servers answer with
are followed.

* `Flight.start` prepares the first exchange or refuses the URL.  Of a spec it depends on nothing but
  the URL and the body.
* `Flight.request` is what the next exchange puts on the wire.
* `Flight.receive` takes the reply: it ends the flight with an answer or prepares the next exchange.
  After ten exchanges that all redirect the flight ends with a fault, and so it does where a redirect
  leads to a scheme other than `http` and `https`.  A final head that does not redirect settles the
  status whatever its body does. -/

namespace LoginLoad

open Http (ExchangeFault Reply Request)

/-- Why a login request has no status code. -/
inductive SendFault where
  | badUrl (fault : UrlFault)
  | badScheme (url : Url)
  | badTarget (url : Url)
  | exchange (url : Url) (fault : ExchangeFault)
  | tooManyRedirects (url : Url)
deriving DecidableEq, Repr

namespace SendFault

/-- A URL in brackets, as fault texts name it. -/
def named (url : Url) : String := " for url (" ++ String.ofList url.text ++ "): "

/-- The wording of a fault. -/
def message : SendFault → String
  | badUrl fault => "builder error: " ++ fault.message
  | badScheme url => "builder error" ++ named url ++ "URL scheme is not allowed"
  | badTarget url => "builder error" ++ named url ++ "Parsed Url is not a valid Uri"
  | exchange url fault => "error sending request" ++ named url ++ fault.message
  | tooManyRedirects url => "error following redirect" ++ named url ++ "too many redirects"

/-- The fault as it is reported: by its kind and its wording. -/
def toRequestFault (f : SendFault) : RequestFault :=
  match f with
  | exchange _ .timedOut => .timeout f.message
  | exchange _ (.connect _) => .connect f.message
  | _ => .request f.message

end SendFault

/-- What a login request came to: its status, and what was wrong with the body of its response. -/
structure Answer where
  status : Status
  bodyFault : Option Http.BodyFault := none
deriving DecidableEq, Repr

/-- A login request before its next exchange. -/
structure Flight where
  url : Url
  method : Http.Method
  /-- The headers that are kept from exchange to exchange. -/
  headers : List (String × List Char)
  body : Option (List UInt8)
  /-- The number of redirects that were followed. -/
  followed : Nat := 0
  /-- The milliseconds that earlier exchanges took. -/
  spent : Nat := 0
deriving DecidableEq, Repr

/-- What a reply makes of a flight. -/
inductive Progress where
  | again (next : Flight)
  | done (answer : Answer)
  /-- The body of the response never ends, and neither does the flight. -/
  | endless
deriving DecidableEq, Repr

namespace Flight

/-- The number of exchanges after which no redirect is followed. -/
def maxExchanges : Nat := 10

/-- A credential, decoded. -/
def credential? (text : List Char) : Option (List Char) :=
  Utf8.decode? (Percent.decode (Utf8.encode text))

/-- The header value that carries a user name and a password. -/
def basic (username password : List Char) : List Char :=
  "Basic ".toList ++ Base64.encode (Utf8.encode (username ++ ':' :: password))

/-- Takes the credentials out of a URL and returns the header value that carries them instead.
A user name that does not decode stays where it is. -/
def takeCredentials (url : Url) : Url × Option (List Char) :=
  match credential? url.username with
  | none => (url, none)
  | some username =>
    let password := if url.password.isEmpty then none else credential? url.password
    if username.isEmpty && password.isNone then (url, none)
    else (url.withoutCredentials, some (basic username (password.getD [])))

/-- Whether a scheme can be requested. -/
def isWebScheme (scheme : List Char) : Bool :=
  scheme = "http".toList || scheme = "https".toList

/-- The flight of a spec before its first exchange. -/
def start (spec : RequestSpec) : Except SendFault Flight :=
  match Url.read? spec.url.toList with
  | .error fault => .error (.badUrl fault)
  | .ok url =>
    let (url, authorization) := takeCredentials url
    if url.host?.isNone || !isWebScheme url.scheme then .error (.badScheme url)
    else if !url.isUri then .error (.badTarget url)
    else
      let authorized := match authorization with
        | some value => [("authorization", value)]
        | none => []
      .ok {
        url
        method := .post
        headers :=
          [("accept", "*/*".toList), ("content-type", "application/json".toList)] ++ authorized
        body := some (Utf8.encode spec.body.json) }

/-! ### The next exchange -/

/-- Whether the connection is to be secured. -/
def isSecure (f : Flight) : Bool := f.url.scheme = "https".toList

/-- The port to connect to. -/
def port (f : Flight) : Nat :=
  (f.url.authority.bind (·.port)).getD (if f.isSecure then 443 else 80)

/-- The host as the server is told it: the port is left out where it is the usual one. -/
def hostHeader (f : Flight) : List Char :=
  let port := match f.url.authority.bind (·.port) with
    | some p => if p = (if f.isSecure then 443 else 80) then [] else ':' :: Decimal.digits p
    | none => []
  (f.url.host?.map Host.text).getD [] ++ port

/-- Where the next exchange leads. -/
def origin (f : Flight) : Origin :=
  let usual := if f.isSecure then 443 else 80
  { isSecure := f.isSecure
    host := String.ofList ((f.url.host?.map Host.text).getD [])
    port := (f.url.authority.bind (·.port)).filter (· ≠ usual) }

/-- What the next exchange puts on the wire. -/
def request (f : Flight) : Request :=
  let length := match f.body with
    | some bytes => [("content-length", Decimal.digits bytes.length)]
    | none => []
  { method := f.method
    target := f.url.target
    headers := f.headers ++ ("host", f.hostHeader) :: length
    body := f.body.getD [] }

/-! ### The reply -/

/-- Whether a code redirects, and whether the request is then repeated as it was. -/
def redirection? (code : UInt16) : Option Bool :=
  if code = 301 ∨ code = 302 ∨ code = 303 then some false
  else if code = 307 ∨ code = 308 then some true
  else none

/-- The headers without those of the given names. -/
def without (names : List String) (headers : List (String × List Char)) :
    List (String × List Char) :=
  headers.filter fun (name, _) => !names.contains name

/-- Whether two URLs are served by the same host at the same port. -/
def sameHost (u v : Url) : Bool := u.host? = v.host? && u.port? = v.port?

/-- The flight that follows a redirect to `url`. -/
def follow (f : Flight) (url : Url) (repeated : Bool) (took : Nat) : Flight :=
  let kept := if repeated then f.headers else without ["content-type"] f.headers
  let referred :=
    if url.scheme = "http".toList ∧ f.isSecure then kept
    else
      without ["referer"] kept ++
        [("referer", f.url.withoutCredentials.withoutFragment.text)]
  { url
    method := if repeated then f.method else .get
    headers := if sameHost url f.url then referred else without ["authorization"] referred
    body := if repeated then f.body else none
    followed := f.followed + 1
    spent := f.spent + took }

/-- The flight that a redirect asks for, if the code is one and its location is a URI. -/
def redirect? (f : Flight) (code : UInt16) (location : Option (List Char)) (took : Nat) :
    Option Flight := do
  let repeated ← redirection? code
  let url ← (Url.join f.url (← location)).toOption
  if url.isUri then some (f.follow url repeated took) else none

/-- The answer of a final response. -/
def settle (code : UInt16) : Http.Tail → Progress
  | .whole => .done { status := .code code }
  | .broken fault => .done { status := .code code, bodyFault := some fault }
  | .endless => .endless

/-- Takes the reply to the exchange. -/
def receive (f : Flight) : Reply → Progress
  | .fault fault => .done { status := .failed (SendFault.exchange f.url fault).toRequestFault }
  | .response code location took tail =>
    match f.redirect? code location took with
    | none => settle code tail
    | some next =>
      if maxExchanges ≤ next.followed then
        .done { status := .failed (SendFault.tooManyRedirects f.url).toRequestFault }
      else if isWebScheme next.url.scheme then .again next
      else .done { status := .failed (SendFault.badScheme next.url).toRequestFault }

/-- What is told of a redirect that is followed, or would be if its scheme were another. -/
def redirectNotices (f : Flight) : Reply → List Notice
  | .fault _ => []
  | .response code location took _ =>
    match f.redirect? code location took with
    | none => []
    | some next =>
      if maxExchanges ≤ next.followed then [] else [.redirecting f.url.text next.url.text]

theorem followed_redirect? {f next : Flight} {code : UInt16} {location : Option (List Char)}
    {took : Nat} (h : f.redirect? code location took = some next) :
    next.followed = f.followed + 1 := by
  simp only [redirect?, Option.bind_eq_bind, Option.bind_eq_some_iff] at h
  obtain ⟨repeated, _, target, _, url, _, h⟩ := h
  split at h
  · cases h; rfl
  · cases h

/-- Each exchange after the first follows one redirect more, and only few are followed. -/
theorem followed_receive {f next : Flight} {r : Reply} (h : f.receive r = .again next) :
    next.followed = f.followed + 1 ∧ next.followed < maxExchanges := by
  cases r with
  | fault fault => simp [receive] at h
  | response code location took tail =>
    simp only [receive] at h
    cases hr : f.redirect? code location took with
    | none => rw [hr] at h; cases tail <;> simp [settle] at h
    | some g =>
      rw [hr] at h
      simp only at h
      split at h
      · cases h
      · next hle =>
        split at h
        · cases h; exact ⟨followed_redirect? hr, Nat.lt_of_not_le hle⟩
        · cases h

/-- The number of exchanges that may still follow. -/
def exchangesLeft (f : Flight) : Nat := maxExchanges - f.followed

theorem exchangesLeft_receive {f next : Flight} {r : Reply} (h : f.receive r = .again next) :
    next.exchangesLeft < f.exchangesLeft := by
  obtain ⟨h1, h2⟩ := followed_receive h
  simp only [exchangesLeft] at *
  omega

end Flight

/-- What answers the exchanges of a run: its state, and the reply to an exchange of the request
number `ite` of the user number `rank`.  Without a reply the exchange never ends. -/
structure Service (σ : Type) where
  reply : σ → (rank ite : Nat) → Flight → Option (Reply × σ)
  /-- What is told of the exchange that is replied to next, and of its connection. -/
  notices : σ → (rank : Nat) → Flight → List Notice := fun _ _ _ => []

namespace Service

variable {σ : Type} (v : Service σ)

/-- Carries a flight to its answer. What was told about its connections follows `told`. -/
def carry (s : σ) (rank ite : Nat) (told : List Notice) (f : Flight) :
    Option (Answer × List Notice × σ) :=
  match v.reply s rank ite f with
  | none => none
  | some (r, next) =>
    let told := told ++ v.notices s rank f
    match _h : f.receive r with
    | .again g => carry next rank ite told g
    | .done answer => some (answer, told, next)
    | .endless => none
termination_by f.exchangesLeft
decreasing_by exact Flight.exchangesLeft_receive _h

/-- Sends one login request and waits for its answer. -/
def send (s : σ) (rank ite : Nat) (spec : RequestSpec) : Option (Answer × List Notice × σ) :=
  match Flight.start spec with
  | .ok f => v.carry s rank ite [] f
  | .error fault => some ({ status := .failed fault.toRequestFault }, [], s)

end Service
end LoginLoad
