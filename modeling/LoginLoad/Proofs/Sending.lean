import Mathlib.Control.Monad.Basic
import LoginLoad.Proofs.Flights
import LoginLoad.Proofs.Replies

/-! # What one login request brings to the servers

A login request is carried in exchanges.  `World.requests` lists the requests that they bring to the
servers, those included that never get a reply; when the call returns it is what the servers have
received (`World.arrivals_send`).  There are no more than ten of them (`World.length_requests_le`).

Where a server listens at the URL of a spec (`World.Serves`) the first of them is the POST of its
body.  Whether another one follows is up to the response: a client follows a redirect whose location
can be requested (`ResponseHead.redirectUrl?`).  So the call reports the code of the response to its
POST, and brings nothing else to the servers, exactly when the response is no such redirect
(`World.reports_first_code_iff`). -/

namespace LoginLoad

open Http (Reply Request ResponseHead ResponseState)

/-! ### The requests of a call -/

/-- Whether a request is the POST of the body of a spec to the target of a URL. -/
structure Http.Request.IsLogin (r : Request) (spec : RequestSpec) (url : Url) : Prop where
  method : r.method = .post
  target : r.target = url.target
  contentType : ("content-type", "application/json".toList) ∈ r.headers
  body : r.body = Utf8.encode spec.body.json

theorem Http.Request.IsLogin.spokenIn {r : Request} {spec : RequestSpec} {url : Url}
    (h : r.IsLogin spec url) (version : Http.Version) : (r.spokenIn version).IsLogin spec url := by
  cases version with
  | http11 => exact h
  | http10 => exact { h with contentType := List.mem_append_left _ h.contentType }

namespace World

variable {w next : World} {rank ite : Nat} {f : Flight}

/-- The request that an exchange brings to a server, whether or not a reply comes back. -/
def arrival? (w : World) (rank ite : Nat) (f : Flight) : Option Arrival := do
  let host ← f.url.host?
  let (server, _) ← (w.connect f.isSecure host f.port).toOption
  if w.remaining f = some 0 then none
  else some ⟨server, rank, ite, f.followed, w.spoken rank f host⟩

/-- The requests that a flight brings to the servers, in order. -/
def requests (w : World) (rank ite : Nat) (f : Flight) : List Arrival :=
  (w.arrival? rank ite f).toList ++
    match w.reply rank ite f with
    | none => []
    | some (r, next) =>
      match _h : f.receive r with
      | .again g => next.requests rank ite g
      | .done _ | .endless => []
termination_by f.exchangesLeft
decreasing_by exact Flight.exchangesLeft_receive _h

/-- The requests that one call brings to the servers, in order. -/
def sentRequests (w : World) (rank ite : Nat) (spec : RequestSpec) : List Arrival :=
  match Flight.start spec with
  | .ok f => w.requests rank ite f
  | .error _ => []

/-- The exchange of a flight with a server that listens: the request arrives, and the client sees
what comes of the reply within the time that is left. -/
theorem reply_of_listening (rank ite : Nat) {host : Host} {server : Nat} {script : Script}
    (hhost : f.url.host? = some host)
    (hconn : w.connect f.isSecure host f.port = .ok (server, script))
    (hpos : w.remaining f ≠ some 0) :
    ∃ first, w.arrival? rank ite f = some first ∧ first.server = server ∧
      (∃ version, first.request = f.request.spokenIn version) ∧
      (w.reply rank ite f).map (fun (r, next) => (r, next.arrivals)) =
        ((w.scripted server script f).seen? (w.remaining f)).map (·, w.arrivals.push first) := by
  refine ⟨⟨server, rank, ite, f.followed, w.spoken rank f host⟩, ?_, rfl, ⟨_, rfl⟩, ?_⟩
  · simp [arrival?, hhost, hconn, Except.toOption, hpos]
  · simp only [reply, hhost, hconn, if_neg hpos]
    unfold ScriptedReply.seen? sight
    split <;> simp_all

theorem fst_reply_of_listening (rank ite : Nat) {host : Host} {server : Nat} {script : Script}
    (hhost : f.url.host? = some host)
    (hconn : w.connect f.isSecure host f.port = .ok (server, script))
    (hpos : w.remaining f ≠ some 0) :
    (w.reply rank ite f).map Prod.fst = (w.scripted server script f).seen? (w.remaining f) := by
  obtain ⟨_, _, _, _, hexchange⟩ := reply_of_listening rank ite hhost hconn hpos
  simpa [Function.comp_def] using congrArg (Option.map Prod.fst) hexchange

/-- An exchange finds a server that listens, or it brings nothing to a server and ends in a fault. -/
theorem listens_or_faults (w : World) (rank ite : Nat) (f : Flight) :
    (∃ host server script, f.url.host? = some host ∧
      w.connect f.isSecure host f.port = .ok (server, script) ∧ w.remaining f ≠ some 0) ∨
    (w.arrival? rank ite f = none ∧ ∃ fault, w.reply rank ite f = some (.fault fault, w)) := by
  cases hhost : f.url.host? with
  | none => exact .inr ⟨by simp [arrival?, hhost], .connect .unresolved, by simp only [reply, hhost]⟩
  | some host =>
      cases hconn : w.connect f.isSecure host f.port with
      | error fault =>
          exact .inr ⟨by simp [arrival?, hhost, hconn, Except.toOption], .connect fault,
            by simp only [reply, hhost, hconn]⟩
      | ok found =>
          by_cases hlimit : w.remaining f = some 0
          · exact .inr ⟨by simp [arrival?, hhost, hlimit], .timedOut,
              by simp only [reply, hhost, hconn, if_pos hlimit]⟩
          · exact .inl ⟨host, found.1, found.2, rfl, hconn, hlimit⟩

/-- What an exchange with a reply brings to the servers. -/
theorem arrivals_reply {r : Reply} (h : w.reply rank ite f = some (r, next)) :
    next.arrivals.toList = w.arrivals.toList ++ (w.arrival? rank ite f).toList := by
  rcases w.listens_or_faults rank ite f with ⟨host, server, script, hhost, hconn, hpos⟩ |
    ⟨hnone, fault, hr⟩
  · obtain ⟨first, harrival, _, _, hreply⟩ := reply_of_listening rank ite hhost hconn hpos
    rw [h, Option.map_some] at hreply
    obtain ⟨seen, _, hseen⟩ := Option.map_eq_some_iff.mp hreply.symm
    rw [harrival, ← (Prod.mk.inj hseen).2]
    simp
  · rw [hr] at h
    cases h
    simp [hnone]

/-- An exchange that brings nothing to a server ends in a fault. -/
theorem reply_of_no_arrival (h : w.arrival? rank ite f = none) :
    ∃ fault, w.reply rank ite f = some (.fault fault, w) := by
  rcases w.listens_or_faults rank ite f with ⟨host, server, script, hhost, hconn, hpos⟩ | ⟨_, hr⟩
  · obtain ⟨first, harrival, _⟩ := reply_of_listening rank ite hhost hconn hpos
    rw [h] at harrival
    cases harrival
  · exact hr

theorem requests_again {r : Reply} {g : Flight} (hr : w.reply rank ite f = some (r, next))
    (hg : f.receive r = .again g) :
    w.requests rank ite f = (w.arrival? rank ite f).toList ++ next.requests rank ite g := by
  rw [requests, hr]
  simp only
  split <;> simp_all

/-- Where no exchange follows nothing else is brought to the servers. -/
theorem requests_last
    (h : ∀ r next, w.reply rank ite f = some (r, next) → ∀ g, f.receive r ≠ .again g) :
    w.requests rank ite f = (w.arrival? rank ite f).toList := by
  rw [requests]
  cases hr : w.reply rank ite f with
  | none => simp
  | some reply =>
      obtain ⟨r, next⟩ := reply
      simp only
      split
      · next g hg => exact absurd hg (h r next hr g)
      · simp
      · simp

/-- What the servers have received when a flight has come to its answer. -/
theorem arrivals_carry {told all : List Notice} {a : Answer} {w w' : World} {f : Flight}
    (h : service.carry w rank ite told f = some (a, all, w')) :
    w'.arrivals.toList = w.arrivals.toList ++ w.requests rank ite f := by
  cases hr : w.reply rank ite f with
  | none =>
      rw [Service.carry_silent (v := service) hr] at h
      cases h
  | some reply =>
      obtain ⟨r, next⟩ := reply
      have hone := arrivals_reply hr
      cases hp : f.receive r with
      | again g =>
          rw [Service.carry_again (v := service) hr hp] at h
          rw [arrivals_carry h, hone, requests_again hr hp, List.append_assoc]
      | done b =>
          rw [Service.carry_done (v := service) hr hp] at h
          cases h
          rw [hone, requests_last (by simp [hr, hp])]
      | endless =>
          rw [Service.carry_endless (v := service) hr hp] at h
          cases h
termination_by f.exchangesLeft
decreasing_by exact Flight.exchangesLeft_receive hp

/-- What the servers have received when a call has returned. -/
theorem arrivals_send {told : List Notice} {a : Answer} {w w' : World} {spec : RequestSpec}
    (h : service.send w rank ite spec = some (a, told, w')) :
    w'.arrivals.toList = w.arrivals.toList ++ w.sentRequests rank ite spec := by
  unfold Service.send at h
  unfold sentRequests
  cases hf : Flight.start spec with
  | ok f =>
      rw [hf] at h
      exact arrivals_carry h
  | error fault =>
      rw [hf] at h
      cases h
      simp

/-- A flight brings to the servers no more requests than it has exchanges. -/
theorem length_requests_le (w : World) (rank ite : Nat) (f : Flight)
    (hf : f.followed < Flight.maxExchanges) :
    (w.requests rank ite f).length ≤ f.exchangesLeft := by
  have hone : (w.arrival? rank ite f).toList.length ≤ 1 := by
    cases w.arrival? rank ite f <;> simp
  have hleft : 1 ≤ f.exchangesLeft := Nat.sub_pos_of_lt hf
  by_cases hlast : ∀ r next, w.reply rank ite f = some (r, next) → ∀ g, f.receive r ≠ .again g
  · rw [requests_last hlast]
    omega
  · simp only [Classical.not_forall, Classical.not_not] at hlast
    obtain ⟨r, next, hr, g, hg⟩ := hlast
    have hrest := length_requests_le next rank ite g (Flight.followed_receive hg).2
    have hless := Flight.exchangesLeft_receive hg
    rw [requests_again hr hg, List.length_append]
    omega
termination_by f.exchangesLeft
decreasing_by exact Flight.exchangesLeft_receive hg

/-! ### Listening servers -/

/-- The halves of an address. -/
theorem halves_of_eq {a b : UInt16} {n : UInt32} (h : 0x10000 * a.toUInt32 + b.toUInt32 = n) :
    a = UInt16.ofNat (n.toNat / 0x10000) ∧ b = UInt16.ofNat (n.toNat % 0x10000) := by
  have ha := a.toNat_lt
  have hb := b.toNat_lt
  have hn : n.toNat = 0x10000 * a.toNat + b.toNat := by
    rw [← h, UInt32.toNat_add, UInt32.toNat_mul, UInt16.toNat_toUInt32, UInt16.toNat_toUInt32]
    simp only [UInt32.reduceToNat]
    omega
  constructor
  · rw [← UInt16.toNat_inj, UInt16.toNat_ofNat']
    omega
  · rw [← UInt16.toNat_inj, UInt16.toNat_ofNat']
    omega

/-- The servers listen at a few hosts only. -/
theorem host_of_isServed {host : Host} (h : isServed host = true) :
    host = .name "localhost".toList ∨ host = .ipv4 0 ∨ host = .ipv4 0x7F000001 ∨
      host = .ipv6 [0, 0, 0, 0, 0, 0xFFFF, 0, 0] ∨
      host = .ipv6 [0, 0, 0, 0, 0, 0xFFFF, 0x7F00, 1] := by
  obtain ⟨n, hn, hone⟩ := (Option.any_eq_true _ _).mp h
  have hone : n = 0 ∨ n = 0x7F000001 := by simpa using hone
  unfold ipv4? at hn
  split at hn
  · split at hn
    · next htext => exact .inl (by rw [htext])
    · cases hn
  · cases hn
    rcases hone with rfl | rfl
    · exact .inr (.inl rfl)
    · exact .inr (.inr (.inl rfl))
  · obtain ⟨rfl, rfl⟩ := halves_of_eq (Option.some.inj hn)
    rcases hone with rfl | rfl
    · exact .inr (.inr (.inr (.inl rfl)))
    · exact .inr (.inr (.inr (.inr rfl)))
  · cases hn

/-- A server was found at a host at which servers listen. -/
theorem isServed_of_connect {secure : Bool} {host : Host} {port server : Nat} {script : Script}
    (h : w.connect secure host port = .ok (server, script)) : isServed host = true := by
  unfold connect at h
  split at h
  · cases h
  · cases h
  · cases h
  · split at h
    · cases h
    · next found hfound =>
        exact (Option.filter_eq_some_iff.mp hfound).2

/-- A URL of plain HTTP of which a server was found is a URI, if it is not too long. -/
theorem isUri_of_isServed {url : Url} {host : Host} (hscheme : url.scheme = "http".toList)
    (hhost : url.host? = some host) (hserved : isServed host = true)
    (hlength : url.text.length ≤ maxUriLength) : url.isUri = true := by
  have hspecial : isSpecialScheme url.scheme = true := by rw [hscheme]; rfl
  have htext : host.text.any (fun c => "\"\x60\x7b\x7d".toList.contains c) = false := by
    rcases host_of_isServed hserved with rfl | rfl | rfl | rfl | rfl <;> decide +kernel
  simp only [Url.isUri, hlength, hspecial, hhost, Option.any_some, htext, if_pos]
  rfl

/-- The URL of a spec is one of plain HTTP, and it leads to a server that listens. -/
structure Serves (w : World) (spec : RequestSpec) (url : Url) (server : Nat) (script : Script) :
    Prop where
  read : Url.read? spec.url.toList = .ok url
  scheme : url.scheme = "http".toList
  /-- Without its credentials the URL is not too long. -/
  length_le : (Flight.takeCredentials url).1.text.length ≤ maxUriLength
  listens : ∃ host port, url.host? = some host ∧ url.port? = some port ∧
    w.connect false host port = .ok (server, script)

/-- The first exchange of a call: it leads to the server and brings it the login request. -/
theorem Serves.start {spec : RequestSpec} {url : Url} {server : Nat} {script : Script}
    (h : w.Serves spec url server script) :
    ∃ f host, Flight.start spec = .ok f ∧ f.url = (Flight.takeCredentials url).1 ∧
      f.url.host? = some host ∧ w.connect f.isSecure host f.port = .ok (server, script) ∧
      f.followed = 0 ∧ f.spent = 0 ∧ f.request.IsLogin spec url := by
  obtain ⟨host, port, hhost, hport, hconn⟩ := h.listens
  have huri : (Flight.takeCredentials url).1.isUri = true :=
    isUri_of_isServed (by rw [Flight.scheme_takeCredentials, h.scheme])
      (by rw [Flight.host?_takeCredentials, hhost]) (isServed_of_connect hconn) h.length_le
  obtain ⟨authorization, hstart⟩ :=
    Flight.start_eq_ok h.read h.scheme (Option.isSome_of_eq_some hhost) huri
  refine ⟨_, host, hstart, rfl, by simpa using hhost, ?_, rfl, rfl, ?_⟩
  · rw [Flight.isSecure_eq_false (by simpa using h.scheme),
      Flight.port_eq (by simpa using h.scheme) (by simpa using hport)]
    exact hconn
  · exact ⟨rfl, by simp [Flight.request], by simp [Flight.request], by simp [Flight.request]⟩

variable {first : Arrival} {limit : Option Nat} {scripted : ScriptedReply}

/-- The requests of a flight begin with the one of its first exchange. -/
theorem requests_eq_cons (harrival : w.arrival? rank ite f = some first) :
    ∃ later, w.requests rank ite f = first :: later := by
  rw [requests, harrival]
  exact ⟨_, rfl⟩

/-- Where a client is led nowhere its call brings one request to the servers. -/
theorem requests_eq_singleton (harrival : w.arrival? rank ite f = some first)
    (hreply : (w.reply rank ite f).map Prod.fst = scripted.seen? limit)
    (hstays : ∀ head, (scripted.readWithin limit).head? = some head →
      head.redirectUrl? f.url = none) :
    w.requests rank ite f = [first] := by
  rw [requests_last, harrival]
  · rfl
  · intro r next hr g hg
    rw [hr, Option.map_some] at hreply
    cases hhead : (scripted.readWithin limit).head? with
    | none =>
        obtain ⟨fault, rfl⟩ := ScriptedReply.seen?_of_no_head hhead hreply.symm
        simp [Flight.receive] at hg
    | some head =>
        obtain ⟨took, tail, hseen, _⟩ := ScriptedReply.seen?_of_head hhead
        rw [hseen] at hreply
        obtain rfl := Option.some.inj hreply
        rw [Flight.receive_ofHead_of_none took (ResponseState.code_of_head hhead).2.1
          (hstays head hhead)] at hg
        exact Flight.settle_ne_again hg

/-- A flight that brings nothing to the servers has no code. -/
theorem failed_of_no_requests {told all : List Notice} {a : Answer} {w' : World}
    (hnone : w.requests rank ite f = [])
    (h : service.carry w rank ite told f = some (a, all, w')) : a.status.code? = none := by
  have harrival : w.arrival? rank ite f = none := by
    rw [requests] at hnone
    simpa using (List.append_eq_nil_iff.mp hnone).1
  obtain ⟨fault, hr⟩ := reply_of_no_arrival harrival
  rw [Service.carry_done (v := service) hr rfl] at h
  cases h
  rfl

/-- When a final head has come, then the flight brings one request to the servers and returns that
code exactly if the response leads nowhere else and its body comes to an end. -/
theorem carry_code_iff {head : ResponseHead} (harrival : w.arrival? rank ite f = some first)
    (hreply : (w.reply rank ite f).map Prod.fst = scripted.seen? limit)
    (hhead : (scripted.readWithin limit).head? = some head) :
    (w.requests rank ite f = [first] ∧
      ∃ answer told w', service.carry w rank ite [] f = some (answer, told, w') ∧
        answer.status.code?.map UInt16.toNat = some head.code) ↔
    head.redirectUrl? f.url = none ∧ (limit.isSome = true ∨ scripted.closes = true ∨
      (scripted.readWithin limit).isOver = true) := by
  have hcode : head.code < 1000 := (ResponseState.code_of_head hhead).2.1
  obtain ⟨took, tail, hseen, hends⟩ := ScriptedReply.seen?_of_head hhead
  obtain ⟨⟨_, next⟩, hr, rfl⟩ := Option.map_eq_some_iff.mp (hreply.trans hseen)
  rw [← hends]
  constructor
  · rintro ⟨hsent, answer, told, w', hsend, hanswer⟩
    have hstays : head.redirectUrl? f.url = none := by
      cases hred : head.redirectUrl? f.url with
      | none => rfl
      | some target =>
          rcases Flight.receive_ofHead_of_some took tail hcode hred with ⟨g, hg, _⟩ | ⟨fault, hf⟩
          · -- the flight goes on to another URL, and nothing that reaches no server has a code
            rw [requests_again hr hg, harrival] at hsent
            have hnone : next.requests rank ite g = [] := by simpa using hsent
            rw [Service.carry_again (v := service) hr hg] at hsend
            rw [failed_of_no_requests hnone hsend] at hanswer
            cases hanswer
          · rw [Service.carry_done (v := service) hr hf] at hsend
            cases hsend
            cases hanswer
    refine ⟨hstays, fun he => ?_⟩
    have hp := (Flight.receive_ofHead_of_none took hcode hstays).trans
      (Flight.settle_eq_endless.mpr he)
    rw [Service.carry_endless (v := service) hr hp] at hsend
    cases hsend
  · rintro ⟨hstays, hne⟩
    obtain ⟨a, ha, hstatus⟩ := Flight.settle_eq_done hne
    have hp := (Flight.receive_ofHead_of_none took hcode hstays).trans ha
    refine ⟨?_, a, _, next, Service.carry_done (v := service) hr hp, ?_⟩
    · rw [requests_last (by simp [hr, hp]), harrival]
      rfl
    · rw [hstatus, Status.code?, Option.map_some, Flight.toNat_ofNat_of_code hcode]

/-- Take a server that listens at the URL of a spec.  A call brings it the login request first, and
then less than ten others to the servers; when the call returns, these are what the servers have
received.  There are no others, whatever the server does, unless it sends the final head of a
response that leads somewhere else.  When the final head of a response has come within the limit,
then the call brings nothing but the login request to the servers and returns the code of that head
exactly if the response leads nowhere else, and its body does not go on for ever without a limit. -/
theorem reports_first_code_iff {spec : RequestSpec} {url : Url} {server : Nat} {script : Script}
    (h : w.Serves spec url server script) (hpos : w.limit ≠ some 0) (rank ite : Nat) :
    ∃ first later, w.sentRequests rank ite spec = first :: later ∧ first.server = server ∧
      first.request.IsLogin spec url ∧ later.length < 10 ∧
      (∀ answer told w', service.send w rank ite spec = some (answer, told, w') →
        w'.arrivals.toList = w.arrivals.toList ++ first :: later) ∧
      let base := (Flight.takeCredentials url).1
      let reply := script.reply (w.arrivalCount server) url.target
      let read := reply.readWithin w.limit
      ((∀ head, read.head? = some head → head.redirectUrl? base = none) → later = []) ∧
      ∀ head, read.head? = some head →
        ((later = [] ∧
            ∃ answer told w', service.send w rank ite spec = some (answer, told, w') ∧
              answer.status.code?.map UInt16.toNat = some head.code) ↔
          head.redirectUrl? base = none ∧
            (w.limit.isSome = true ∨ reply.closes = true ∨ read.isOver = true)) := by
  obtain ⟨f, host, hstart, hurl, hhost, hconn, hfollowed, hspent, hlogin⟩ := h.start
  have htarget : f.url.target = url.target := by rw [hurl, Flight.target_takeCredentials]
  have hremaining : w.remaining f = w.limit := by simp [remaining, hspent]
  have hpos : w.remaining f ≠ some 0 := by
    rw [hremaining]
    exact hpos
  obtain ⟨first, harrival, hserver, ⟨version, hrequest⟩, -⟩ :=
    reply_of_listening rank ite hhost hconn hpos
  have hreply : (w.reply rank ite f).map Prod.fst =
      (script.reply (w.arrivalCount server) url.target).seen? w.limit := by
    rw [← htarget, ← hremaining]
    exact fst_reply_of_listening rank ite hhost hconn hpos
  obtain ⟨later, hlater⟩ := requests_eq_cons harrival
  have hsent : w.sentRequests rank ite spec = first :: later := by
    simp only [sentRequests, hstart, hlater]
  have hfew : f.followed < Flight.maxExchanges := by
    rw [hfollowed]
    decide
  have hsingle : w.requests rank ite f = [first] ↔ later = [] := by simp [hlater]
  refine ⟨first, later, hsent, hserver, by rw [hrequest]; exact hlogin.spokenIn version, ?_,
    fun answer told w' hsend => by rw [arrivals_send hsend, hsent], fun hstays => ?_,
    fun head hhead => ?_⟩
  · have hlength := length_requests_le w rank ite f hfew
    simpa [hlater, Flight.exchangesLeft, hfollowed, Flight.maxExchanges, Nat.lt_succ_iff]
      using hlength
  · exact hsingle.mp (requests_eq_singleton harrival hreply (by simpa only [hurl] using hstays))
  · simp only [Service.send, hstart, ← hurl, ← hsingle]
    exact carry_code_iff harrival hreply hhead

/-! ### A login page -/

/-- A reply in one part, after which the connection is kept. -/
def replyOf (text : String) : ScriptedReply where
  parts := [Utf8.encode text.toList]
  closes := false

/-- A server that answers a login with `reply` and everything else with an empty page. -/
def loginPage (reply : ScriptedReply) : Script where
  replies := [replyOf "HTTP/1.1 200 OK\r\ncontent-length: 0\r\n\r\n"]
  routes := [("/auth/login".toList, reply)]

/-- The machine of a login page; a client waits for ten seconds. -/
def loginHost (reply : ScriptedReply) : World where
  servers := [(8080, loginPage reply)]
  limit := some 10000

/-- The spec of the login page. -/
def loginSpec : RequestSpec where
  url := "http://127.0.0.1:8080/auth/login"

/-- The URL of the login page. -/
def loginUrl : Url where
  scheme := "http".toList
  authority := some { host := some (.ipv4 0x7F000001), port := some 8080 }
  path := .segments ["auth".toList, "login".toList]

theorem loginHost_serves (reply : ScriptedReply) :
    (loginHost reply).Serves loginSpec loginUrl 0 (loginPage reply) where
  read := by decide +kernel
  scheme := rfl
  length_le := by decide +kernel
  listens := ⟨.ipv4 0x7F000001, 8080, rfl, rfl, rfl⟩

/-- A redirect that names no location. -/
def bareRedirect : ScriptedReply :=
  replyOf "HTTP/1.1 302 Found\r\ncontent-length: 0\r\n\r\n"

/-- A redirect that names no location is what the call reports, after one request. -/
theorem bareRedirect_reported : ∃ answer told w',
    service.send (loginHost bareRedirect) 0 0 loginSpec = some (answer, told, w') ∧
      w'.arrivals.size = 1 ∧ answer.status.code?.map UInt16.toNat = some 302 := by
  obtain ⟨first, later, _, _, _, _, hreceived, _, hiff⟩ :=
    reports_first_code_iff (loginHost_serves bareRedirect) (by decide) 0 0
  have hhead : (((loginPage bareRedirect).reply ((loginHost bareRedirect).arrivalCount 0)
      loginUrl.target).readWithin (some 10000)).head? =
      some ⟨.http11, 302, [⟨"content-length".toList, [0x30]⟩]⟩ := by decide +kernel
  obtain ⟨rfl, answer, told, w', hsend, hcode⟩ :=
    (hiff _ hhead).mpr ⟨by decide +kernel, .inl rfl⟩
  refine ⟨answer, told, w', hsend, ?_, hcode⟩
  rw [← Array.length_toList, hreceived answer told w' hsend]
  rfl

/-- A redirect to another page of the same server. -/
def homeRedirect : ScriptedReply :=
  replyOf "HTTP/1.1 302 Found\r\nlocation: /home\r\ncontent-length: 0\r\n\r\n"

/-- The call brings the server a second request, one that is no POST, and returns the code of the
response to it. -/
theorem homeRedirect_followed :
    (loginHost homeRedirect).Serves loginSpec loginUrl 0 (loginPage homeRedirect) ∧
      ((loginPage homeRedirect).reply 0 loginUrl.target = homeRedirect ∧
        (homeRedirect.readWithin (some 10000)).head?.map ResponseHead.code = some 302) ∧
      (service.send (loginHost homeRedirect) 0 0 loginSpec).map
          (fun (answer, _, w') => (answer.status, w'.arrivals.toList.map (·.request.method))) =
        some (.code 200, [.post, .get]) :=
  ⟨loginHost_serves homeRedirect, by decide +kernel, by decide +kernel⟩

end World
end LoginLoad
