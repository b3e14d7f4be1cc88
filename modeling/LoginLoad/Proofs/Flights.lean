import LoginLoad.Flight

/-! # The course of a flight

Where a flight begins and where a response takes it.

* A flight begins at the URL of its spec without the credentials (`Flight.start_eq_ok`); taking them
  out changes nothing else of the URL.
* A final head that redirects leads a client to another URL if its location is a URI
  (`ResponseHead.redirectUrl?`).  There the flight goes on, or it ends in a fault
  (`Flight.receive_ofHead_of_some`).  Any other final head settles it
  (`Flight.receive_ofHead_of_none`).
* `Service.carry` follows the flight exchange by exchange (`Service.carry_again`).  What a request
  under way returns is decided by the exchange that ends it (`Service.answer?`).  Where the exchanges
  leave no trace in the service it is what sending it returns, whatever came between
  (`Service.EndsIn`). -/

namespace LoginLoad

open Http (Reply ResponseHead)

/-! ### Redirects -/

/-- The URL to which a response leads a client that has requested `base`: it redirects, and its
location is a URI. -/
def Http.ResponseHead.redirectUrl? (h : ResponseHead) (base : Url) : Option Url :=
  if h.code ∈ [301, 302, 303, 307, 308] then do
    let url ← (Url.join base (← h.location?)).toOption
    if url.isUri then some url else none
  else none

namespace Flight

variable {f g : Flight} {url : Url}

theorem redirection?_isSome_iff {c : UInt16} :
    (redirection? c).isSome = true ↔ c.toNat ∈ [301, 302, 303, 307, 308] := by
  simp only [List.mem_cons, List.not_mem_nil, or_false]
  have heq (n : UInt16) : c = n ↔ c.toNat = n.toNat := UInt16.toNat_inj.symm
  unfold redirection?
  split
  · next h =>
      simp only [heq, UInt16.reduceToNat] at h
      exact ⟨fun _ => by omega, fun _ => rfl⟩
  · next h =>
      split
      · next h' =>
          simp only [heq, UInt16.reduceToNat] at h'
          exact ⟨fun _ => by omega, fun _ => rfl⟩
      · next h' =>
          simp only [heq, UInt16.reduceToNat] at h h'
          exact ⟨fun hs => absurd hs Bool.false_ne_true, fun hc => by omega⟩

/-- A code of three digits is one of sixteen bits. -/
theorem toNat_ofNat_of_code {code : Nat} (h : code < 1000) : (UInt16.ofNat code).toNat = code :=
  UInt16.toNat_ofNat_of_lt' (Nat.lt_trans h (by decide))

/-- The flight that a redirect asks for is one to the URL to which its response leads. -/
theorem map_url_redirect? {h : ResponseHead} (hcode : h.code < 1000) (took : Nat) :
    (f.redirect? (UInt16.ofNat h.code) h.location? took).map Flight.url =
      h.redirectUrl? f.url := by
  have hnat : (UInt16.ofNat h.code).toNat = h.code := toNat_ofNat_of_code hcode
  have hmem := redirection?_isSome_iff (c := UInt16.ofNat h.code)
  rw [hnat] at hmem
  unfold redirect? ResponseHead.redirectUrl?
  cases hr : redirection? (UInt16.ofNat h.code) with
  | none =>
      rw [hr] at hmem
      rw [if_neg (fun hc => Bool.false_ne_true (hmem.mpr hc))]
      rfl
  | some repeated =>
      rw [hr] at hmem
      rw [if_pos (hmem.mp rfl)]
      cases h.location? with
      | none => rfl
      | some location =>
          cases hurl : (Url.join f.url location).toOption with
          | none => simp [hurl]
          | some url =>
              simp only [Option.bind_eq_bind, Option.bind_some, hurl]
              split <;> rfl

theorem settle_eq_endless {code : UInt16} {tail : Http.Tail} :
    settle code tail = .endless ↔ tail = .endless := by
  cases tail <;> simp [settle]

theorem settle_eq_done {code : UInt16} {tail : Http.Tail} (h : tail ≠ .endless) :
    ∃ a : Answer, settle code tail = .done a ∧ a.status = .code code := by
  cases tail with
  | whole => exact ⟨_, rfl, rfl⟩
  | broken fault => exact ⟨_, rfl, rfl⟩
  | endless => exact absurd rfl h

theorem settle_ne_again {code : UInt16} {tail : Http.Tail} : settle code tail ≠ .again g := by
  cases tail <;> simp [settle]

/-- A response that leads nowhere settles the flight. -/
theorem receive_ofHead_of_none {h : ResponseHead} (took : Nat) {tail : Http.Tail}
    (hcode : h.code < 1000) (hr : h.redirectUrl? f.url = none) :
    f.receive (.ofHead h took tail) = settle (UInt16.ofNat h.code) tail := by
  rw [← map_url_redirect? hcode took, Option.map_eq_none_iff] at hr
  simp only [Reply.ofHead, receive, hr]

/-- A response that leads to a URL sends the flight there, or it makes it fail. -/
theorem receive_ofHead_of_some {h : ResponseHead} (took : Nat) (tail : Http.Tail)
    (hcode : h.code < 1000) (hr : h.redirectUrl? f.url = some url) :
    (∃ g, f.receive (.ofHead h took tail) = .again g ∧ g.url = url) ∨
      ∃ fault, f.receive (.ofHead h took tail) = .done { status := .failed fault } := by
  rw [← map_url_redirect? hcode took, Option.map_eq_some_iff] at hr
  obtain ⟨g, hg, hurl⟩ := hr
  simp only [Reply.ofHead, receive, hg]
  split
  · exact .inr ⟨_, rfl⟩
  · split
    · exact .inl ⟨g, rfl, hurl⟩
    · exact .inr ⟨_, rfl⟩

/-- Only a response whose body never ends keeps a flight from going on or ending. -/
theorem receive_ne_endless {r : Reply}
    (h : ∀ code location took, r ≠ .response code location took .endless) :
    f.receive r ≠ .endless := by
  intro he
  cases r with
  | fault fault => cases he
  | response code location took tail =>
      simp only [receive] at he
      repeat' split at he
      · rw [settle_eq_endless] at he
        exact h code location took (he ▸ rfl)
      all_goals cases he

/-! ### The first exchange -/

/-- Taking the credentials out changes nothing else of a URL. -/
theorem takeCredentials_cases (url : Url) :
    (takeCredentials url).1 = url ∨ (takeCredentials url).1 = url.withoutCredentials := by
  unfold takeCredentials
  split
  · exact .inl rfl
  · extract_lets password
    split
    · exact .inl rfl
    · exact .inr rfl

@[simp] theorem scheme_takeCredentials (url : Url) :
    (takeCredentials url).1.scheme = url.scheme := by
  rcases takeCredentials_cases url with h | h <;> simp [h]

@[simp] theorem host?_takeCredentials (url : Url) :
    (takeCredentials url).1.host? = url.host? := by
  rcases takeCredentials_cases url with h | h <;> simp [h]

@[simp] theorem port?_takeCredentials (url : Url) :
    (takeCredentials url).1.port? = url.port? := by
  rcases takeCredentials_cases url with h | h <;> simp [h]

@[simp] theorem target_takeCredentials (url : Url) :
    (takeCredentials url).1.target = url.target := by
  rcases takeCredentials_cases url with h | h <;> simp [h]

theorem isSecure_eq_false (h : f.url.scheme = "http".toList) : f.isSecure = false := by
  simp [isSecure, h]

/-- Plain HTTP is spoken at the port of the URL. -/
theorem port_eq {port : Nat} (h : f.url.scheme = "http".toList)
    (hport : f.url.port? = some port) : f.port = port := by
  simp only [Url.port?, defaultPort?, h] at hport
  simp only [Flight.port, isSecure_eq_false h]
  cases hp : f.url.authority.bind (·.port) <;> simp_all

/-- The flight of a spec whose URL is a URI. -/
theorem start_eq_ok {spec : RequestSpec} (hread : Url.read? spec.url.toList = .ok url)
    (hscheme : url.scheme = "http".toList) (hhost : url.host?.isSome = true)
    (huri : (takeCredentials url).1.isUri = true) :
    ∃ authorization, start spec = .ok {
      url := (takeCredentials url).1
      method := .post
      headers := [("accept", "*/*".toList), ("content-type", "application/json".toList)] ++
        authorization
      body := some (Utf8.encode spec.body.json) } := by
  have hweb : isWebScheme (takeCredentials url).1.scheme = true := by
    simp [hscheme, isWebScheme]
  have hsome : (takeCredentials url).1.host?.isNone = false := by
    simpa using hhost
  unfold start
  rw [hread]
  dsimp only
  generalize takeCredentials url = taken at hweb hsome huri ⊢
  obtain ⟨u, authorization⟩ := taken
  dsimp only at hweb hsome huri ⊢
  rw [if_neg (by rw [hsome, hweb]; decide), if_neg (by rw [huri]; decide)]
  exact ⟨_, rfl⟩

end Flight

/-! ### Exchange by exchange -/

/-- The answer with which a reply ends a flight, if it does. -/
def Progress.answer? : Progress → Option Answer
  | .done answer => some answer
  | .again _ | .endless => none

theorem Progress.answer?_eq_some {p : Progress} {a : Answer} :
    p.answer? = some a ↔ p = .done a := by
  cases p <;> simp [answer?]

namespace Service

variable {σ : Type} {v : Service σ} {s next : σ} {rank ite : Nat} {told : List Notice}
  {f g : Flight} {r : Reply}

theorem carry_again (hr : v.reply s rank ite f = some (r, next)) (hg : f.receive r = .again g) :
    v.carry s rank ite told f = v.carry next rank ite (told ++ v.notices s rank f) g := by
  rw [carry, hr]
  simp only
  split <;> simp_all

theorem carry_done {a : Answer} (hr : v.reply s rank ite f = some (r, next))
    (ha : f.receive r = .done a) :
    v.carry s rank ite told f = some (a, told ++ v.notices s rank f, next) := by
  rw [carry, hr]
  simp only
  split <;> simp_all

theorem carry_endless (hr : v.reply s rank ite f = some (r, next)) (he : f.receive r = .endless) :
    v.carry s rank ite told f = none := by
  rw [carry, hr]
  simp only
  split <;> simp_all

theorem carry_silent (hr : v.reply s rank ite f = none) : v.carry s rank ite told f = none := by
  rw [carry, hr]

/-- What the next exchange makes a request return, if it ends the request.  One that cannot be sent
returns why. -/
def answer? (v : Service σ) (s : σ) (rank ite : Nat) : Except SendFault Flight → Option Answer
  | .error fault => some { status := .failed fault.toRequestFault }
  | .ok f => (v.reply s rank ite f).bind fun (r, _) => (f.receive r).answer?

theorem answer?_ok_eq_some {a : Answer} :
    v.answer? s rank ite (.ok f) = some a ↔
      ∃ r next, v.reply s rank ite f = some (r, next) ∧ f.receive r = .done a := by
  simp only [answer?, Option.bind_eq_some_iff, Prod.exists, Progress.answer?_eq_some]

/-- It is what carrying the flight comes to. -/
theorem carry_of_answer? {a : Answer} (told : List Notice)
    (h : v.answer? s rank ite (.ok f) = some a) :
    ∃ next, v.carry s rank ite told f = some (a, told ++ v.notices s rank f, next) := by
  obtain ⟨r, next, hr, ha⟩ := answer?_ok_eq_some.mp h
  exact ⟨next, carry_done hr ha⟩

/-! ### Where the exchanges leave no trace -/

section traceless
variable {v : Service Unit} {status : Status}

/-- What is left of a request comes to an answer of this status, if it comes to any. -/
def EndsIn (v : Service Unit) (rank ite : Nat) (status : Status) : Except SendFault Flight → Prop
  | .error fault => .failed fault.toRequestFault = status
  | .ok f => ∃ told, ∀ a after next, v.carry () rank ite told f = some (a, after, next) →
      a.status = status

theorem endsIn_start {spec : RequestSpec}
    (h : ∀ a told next, v.send () rank ite spec = some (a, told, next) → a.status = status) :
    v.EndsIn rank ite status (Flight.start spec) := by
  unfold send at h
  cases hstart : Flight.start spec with
  | error fault =>
      rw [hstart] at h
      exact h _ _ _ rfl
  | ok f =>
      rw [hstart] at h
      exact ⟨[], h⟩

theorem EndsIn.again (h : v.EndsIn rank ite status (.ok f))
    (hr : v.reply () rank ite f = some (r, ())) (hg : f.receive r = .again g) :
    v.EndsIn rank ite status (.ok g) := by
  obtain ⟨told, hcarry⟩ := h
  rw [carry_again hr hg] at hcarry
  exact ⟨_, hcarry⟩

theorem EndsIn.status_eq {attempt : Except SendFault Flight} {a : Answer}
    (h : v.EndsIn rank ite status attempt) (ha : v.answer? () rank ite attempt = some a) :
    a.status = status := by
  cases attempt with
  | error fault =>
      cases ha
      exact h
  | ok f =>
      obtain ⟨told, hcarry⟩ := h
      obtain ⟨next, hc⟩ := carry_of_answer? told ha
      exact hcarry _ _ _ hc

end traceless

end Service

end LoginLoad
