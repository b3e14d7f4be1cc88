import LoginLoad.Proofs.LoginBody
import LoginLoad.Proofs.Run.Tally
import LoginLoad.Proofs.Sending

/-! # The first request of every iteration

Each of the requests of a user may be redirected, so it may bring several requests to the servers.
The first of them is the same for all requests of all users, whatever was answered before: no
response changes what is sent later.

* A `Service.Wire` says what the exchanges of a service put on the wire: each the request of its own
  flight, in the version that the network has come to speak, and at least once if a response comes
  back.  Whatever else the network and the servers do is left open.  `World.wire` is the wire of
  scripted servers.
* A user begins an iteration with a flight of the spec before it has put anything on the wire for
  it (`Wire.Orderly`), and every move keeps this (`User.Moved.orderly`).

So the first request of an iteration is that of a new flight of the spec
(`Run.Reachable.isOpening`), and two of them agree but for the version and what is said about the
connection (`Run.first_requests_agree`). -/

namespace LoginLoad

open Http (Reply Request Version)

/-! ### Requests over any connection -/

/-- Two requests that differ at most in their version and in what they say about the connection. -/
structure Http.Request.Agrees (a b : Request) : Prop where
  method : a.method = b.method
  target : a.target = b.target
  headers : Flight.without ["connection"] a.headers = Flight.without ["connection"] b.headers
  body : a.body = b.body

theorem Http.Request.Agrees.trans {a b c : Request} (h : a.Agrees b) (k : b.Agrees c) :
    a.Agrees c :=
  ⟨h.method.trans k.method, h.target.trans k.target, h.headers.trans k.headers,
    h.body.trans k.body⟩

theorem Http.Request.Agrees.symm {a b : Request} (h : a.Agrees b) : b.Agrees a :=
  ⟨h.method.symm, h.target.symm, h.headers.symm, h.body.symm⟩

/-- The version that is spoken changes nothing else. -/
theorem Http.Request.agrees_spokenIn (r : Request) (version : Version) :
    (r.spokenIn version).Agrees r := by
  cases version with
  | http11 => exact ⟨rfl, rfl, rfl, rfl⟩
  | http10 =>
      refine ⟨rfl, rfl, ?_, rfl⟩
      simp [Request.spokenIn, Flight.without]

/-- Whether a request is the first one of a flight of the spec, in some version. -/
def RequestSpec.IsOpening (spec : RequestSpec) (r : Request) : Prop :=
  ∃ f version, Flight.start spec = .ok f ∧ r = f.request.spokenIn version

namespace RequestSpec.IsOpening
variable {spec : RequestSpec} {a b : Request}

theorem agrees (ha : spec.IsOpening a) (hb : spec.IsOpening b) : a.Agrees b := by
  obtain ⟨f, version, hf, rfl⟩ := ha
  obtain ⟨g, version', hg, rfl⟩ := hb
  rw [hf] at hg
  cases hg
  exact (Request.agrees_spokenIn _ _).trans (Request.agrees_spokenIn _ _).symm

theorem body_eq (ha : spec.IsOpening a) : a.body = Utf8.encode spec.body.json := by
  obtain ⟨f, version, hf, rfl⟩ := ha
  rw [(Request.agrees_spokenIn _ _).body]
  simp [Flight.request, Flight.body_start hf]

end RequestSpec.IsOpening

/-! ### The wire of a service -/

variable {σ : Type}

/-- What the exchanges of a service put on the wire. -/
structure Service.Wire (v : Service σ) where
  /-- The requests of the exchanges that were replied to, in order. -/
  log : σ → List Arrival
  /-- The requests of one exchange, whether or not a reply comes back. -/
  sent : σ → (rank ite : Nat) → Flight → List Arrival
  log_reply : ∀ {s t : σ} {rank ite : Nat} {f : Flight} {r : Reply},
    v.reply s rank ite f = some (r, t) → log t = log s ++ sent s rank ite f
  /-- An exchange sends the request of its flight. -/
  own : ∀ {s : σ} {rank ite : Nat} {f : Flight} {a : Arrival}, a ∈ sent s rank ite f →
    a.rank = rank ∧ a.ite = ite ∧ ∃ version, a.request = f.request.spokenIn version
  /-- A response comes only to a request that was sent. -/
  sent_of_response : ∀ {s t : σ} {rank ite : Nat} {f : Flight} {code : UInt16}
    {location : Option (List Char)} {took : Nat} {tail : Http.Tail},
    v.reply s rank ite f = some (.response code location took tail, t) → sent s rank ite f ≠ []

/-- Scripted servers note the requests that reach them. -/
def World.wire : World.service.Wire where
  log w := w.arrivals.toList
  sent w rank ite f := (w.arrival? rank ite f).toList
  log_reply h := arrivals_reply h
  own := by
    intro w rank ite f a ha
    rw [Option.mem_toList] at ha
    simp only [arrival?, Option.bind_eq_bind, Option.bind_eq_some_iff] at ha
    obtain ⟨host, -, found, -, ha⟩ := ha
    split at ha
    · cases ha
    · cases ha
      exact ⟨rfl, rfl, _, rfl⟩
  sent_of_response := by
    intro w w' rank ite f code location took tail hr hnone
    have harrival : w.arrival? rank ite f = none := by simpa using hnone
    obtain ⟨fault, hfault⟩ := reply_of_no_arrival harrival
    have heq := hr.symm.trans hfault
    cases heq

namespace Service.Wire
variable {v : Service σ} (wire : v.Wire) {s t : σ} {rank ite : Nat} {f : Flight} {r : Reply}

/-- The requests of one iteration of a user, in order. -/
def sentBy (s : σ) (rank ite : Nat) : List Arrival :=
  (wire.log s).filter fun a => a.rank = rank && a.ite = ite

theorem sentBy_self (h : v.reply s rank ite f = some (r, t)) :
    wire.sentBy t rank ite = wire.sentBy s rank ite ++ wire.sent s rank ite f := by
  unfold sentBy
  rw [wire.log_reply h, List.filter_append]
  congr 1
  rw [List.filter_eq_self]
  intro a ha
  obtain ⟨hrank, hite, -⟩ := wire.own ha
  simp [hrank, hite]

/-- An exchange puts nothing on the wire for another iteration. -/
theorem sentBy_other {rank' ite' : Nat} (h : v.reply s rank ite f = some (r, t))
    (hne : rank' ≠ rank ∨ ite' ≠ ite) : wire.sentBy t rank' ite' = wire.sentBy s rank' ite' := by
  unfold sentBy
  rw [wire.log_reply h, List.filter_append]
  have hnone : (wire.sent s rank ite f).filter (fun a => a.rank = rank' && a.ite = ite') = [] := by
    rw [List.filter_eq_nil_iff]
    intro a ha
    obtain ⟨hrank, hite, -⟩ := wire.own ha
    rw [hrank, hite]
    simp only [Bool.and_eq_true, decide_eq_true_eq, not_and]
    rintro rfl rfl
    simp at hne
  rw [hnone, List.append_nil]

theorem isOpening_of_sent {spec : RequestSpec} {a : Arrival} (hf : Flight.start spec = .ok f)
    (ha : a ∈ wire.sent s rank ite f) : spec.IsOpening a.request := by
  obtain ⟨-, -, version, hrequest⟩ := wire.own ha
  exact ⟨f, version, hf, hrequest⟩

/-- The requests of the exchange for which a user waits in one of its iterations. -/
def underway (s : σ) (rank ite : Nat) (u : User) : List Arrival :=
  match u.phase with
  | .waiting i _ (.ok f) => if i = ite then wire.sent s rank i f else []
  | _ => []

end Service.Wire

/-! ### From iteration to iteration -/

/-- Whether a user has still to begin one of its iterations, where it stands. -/
def Phase.IsBefore (ite : Nat) : Phase → Prop
  | .fresh => True
  | .ready i => i ≤ ite
  | .waiting i _ _ => i < ite
  | .offering o => o.ite < ite
  | .ended _ => False

/-- The iterations of a user begin one by one, each with a new flight of the spec. -/
structure Service.Wire.Orderly {v : Service σ} (wire : v.Wire) (spec : RequestSpec) (rank : Nat)
    (u : User) (site : Site σ) : Prop where
  isOpening : ∀ {ite : Nat} {a : Arrival}, (wire.sentBy site.service rank ite).head? = some a →
    spec.IsOpening a.request
  silent : ∀ {ite : Nat}, u.phase.IsBefore ite → wire.sentBy site.service rank ite = []
  /-- A flight for which nothing was on the wire yet is a new one. -/
  start_eq : ∀ {ite : Nat} {sentAt : Int} {f : Flight}, u.phase = .waiting ite sentAt (.ok f) →
    wire.sentBy site.service rank ite = [] → Flight.start spec = .ok f

namespace Service.Wire.Orderly
variable {sc : Scenario σ} {wire : sc.service.Wire} {spec : RequestSpec} {rank : Nat} {u v : User}
  {site next : Site σ}

/-- What follows on the wire counts only where nothing was there before. -/
theorem isOpening_append (h : wire.Orderly spec rank u site) {ite : Nat} {a : Arrival}
    {later : List Arrival}
    (hlater : wire.sentBy site.service rank ite = [] → ∀ b ∈ later, spec.IsOpening b.request)
    (ha : (wire.sentBy site.service rank ite ++ later).head? = some a) :
    spec.IsOpening a.request := by
  cases hsent : wire.sentBy site.service rank ite with
  | nil =>
      rw [hsent, List.nil_append] at ha
      exact hlater hsent a (List.mem_of_mem_head? ha)
  | cons b rest =>
      have hfirst : (wire.sentBy site.service rank ite).head? = some a := by
        rw [hsent] at ha ⊢
        exact ha
      exact h.isOpening hfirst

/-- A move that leaves the service as it is keeps the order, unless it leads back before an iteration
or to an old flight for an iteration that is still silent. -/
theorem quiet (h : wire.Orderly spec rank u site) (hservice : next.service = site.service)
    (hbefore : ∀ ite, v.phase.IsBefore ite → u.phase.IsBefore ite)
    (hstart : ∀ {ite : Nat} {sentAt : Int} {f : Flight}, v.phase = .waiting ite sentAt (.ok f) →
      wire.sentBy site.service rank ite = [] → Flight.start spec = .ok f) :
    wire.Orderly spec rank v next where
  isOpening := by
    rw [hservice]
    exact h.isOpening
  silent hv := by
    rw [hservice]
    exact h.silent (hbefore _ hv)
  start_eq := by
    rw [hservice]
    exact hstart

/-- A user that has ended begins no iteration. -/
theorem stop (h : wire.Orderly spec rank u site) (hservice : next.service = site.service)
    (error : Option RunError) : wire.Orderly spec rank (u.stop error) next := by
  refine h.quiet hservice ?_ ?_
  · rintro ite ⟨⟩
  · rintro ite sentAt f ⟨⟩

/-- An exchange of an iteration keeps the order, whether the user then waits for the next one or
not. -/
theorem exchange {service : σ} {ite : Nat} {sentAt : Int} {f : Flight} {r : Reply}
    (h : wire.Orderly spec rank u site) (hp : u.phase = .waiting ite sentAt (.ok f))
    (hr : sc.service.reply site.service rank ite f = some (r, service))
    (hservice : next.service = service)
    (hbefore : ∀ i, v.phase.IsBefore i → ite < i)
    (hagain : ∀ {i : Nat} {sentAt' : Int} {g : Flight}, v.phase = .waiting i sentAt' (.ok g) →
      i = ite ∧ f.receive r = .again g) :
    wire.Orderly spec rank v next where
  isOpening {i a} ha := by
    rw [hservice] at ha
    by_cases hi : i = ite
    · subst hi
      rw [wire.sentBy_self hr] at ha
      apply h.isOpening_append ?_ ha
      -- the exchange is the first one of the iteration
      intro hnone b hb
      exact wire.isOpening_of_sent (h.start_eq hp hnone) hb
    · rw [wire.sentBy_other hr (.inr hi)] at ha
      exact h.isOpening ha
  silent {i} hv := by
    have hlater : ite < i := hbefore i hv
    rw [hservice, wire.sentBy_other hr (.inr (by omega))]
    apply h.silent
    rw [hp]
    exact hlater
  start_eq {i sentAt' g} hv hnone := by
    -- a redirect is a response, and it came to a request
    obtain ⟨rfl, hg⟩ := hagain hv
    rw [hservice, wire.sentBy_self hr] at hnone
    obtain ⟨-, hnone⟩ := List.append_eq_nil_iff.mp hnone
    cases r with
    | fault fault => cases hg
    | response code location took tail => exact absurd hnone (wire.sent_of_response hr)

/-- An exchange of another user puts nothing on the wire for this one. -/
theorem exchange_other {service : σ} {other ite : Nat} {f : Flight} {r : Reply}
    (h : wire.Orderly spec rank u site) (hne : rank ≠ other)
    (hr : sc.service.reply site.service other ite f = some (r, service))
    (hservice : next.service = service) : wire.Orderly spec rank u next := by
  have hsame (i : Nat) : wire.sentBy next.service rank i = wire.sentBy site.service rank i := by
    rw [hservice]
    exact wire.sentBy_other hr (.inl hne)
  constructor
  · intro i a ha
    rw [hsame] at ha
    exact h.isOpening ha
  · intro i hu
    rw [hsame]
    exact h.silent hu
  · intro i sentAt g hu hnone
    rw [hsame] at hnone
    exact h.start_eq hu hnone

/-- In an orderly iteration the first request on the wire is that of a new flight, also when it is
the one for which the user waits. -/
theorem isOpening_head (h : wire.Orderly spec rank u site) {ite : Nat} {a : Arrival}
    (ha : (wire.sentBy site.service rank ite ++ wire.underway site.service rank ite u).head? =
      some a) : spec.IsOpening a.request := by
  apply h.isOpening_append ?_ ha
  intro hnone b hb
  unfold underway at hb
  split at hb
  · next i sentAt f hp =>
      split at hb
      · next hi =>
          subst hi
          exact wire.isOpening_of_sent (h.start_eq hp hnone) hb
      · cases hb
  · cases hb

end Service.Wire.Orderly

namespace User
variable {sc : Scenario σ} {wire : sc.service.Wire} {rank : Nat} {u v : User} {site next : Site σ}

/-- A move keeps the order: a request starts a new flight, and a reply to it concerns no other
iteration. -/
theorem Moved.orderly (hm : u.Moved sc rank site v next)
    (h : wire.Orderly sc.config.spec rank u site) : wire.Orderly sc.config.spec rank v next := by
  cases hm with
  | refused | turnedAway | finished | panicked =>
      apply h.stop
      rfl
  | launched hp =>
      refine h.quiet rfl ?_ ?_
      · intro ite _
        rw [hp]
        trivial
      · rintro ite sentAt f ⟨⟩
  | requested hp =>
      refine h.quiet rfl ?_ ?_
      · intro i hi
        rw [hp]
        exact Nat.le_of_lt hi
      · intro i sentAt f hv _
        injection hv with _ _ hstart
  | unsent hp =>
      refine h.quiet (Site.service_tellAll _ _) ?_ ?_
      · intro i hi
        rw [hp]
        exact hi
      · rintro i sentAt f ⟨⟩
  | redirected hp hr hg =>
      refine h.exchange hp hr rfl ?_ ?_
      · intro i hi
        exact hi
      · intro i sentAt g hv
        cases hv
        exact ⟨rfl, hg⟩
  | answered hp hr =>
      refine h.exchange hp hr (Site.service_tellAll _ _) ?_ ?_
      · intro i hi
        exact hi
      · rintro i sentAt g ⟨⟩
  | accepted hp =>
      refine h.quiet rfl ?_ ?_
      · intro i hi
        rw [hp]
        exact Nat.lt_of_succ_le hi
      · rintro i sentAt f ⟨⟩

/-- A move of another user keeps the order. -/
theorem Moved.orderly_other (hm : u.Moved sc rank site v next) {other : Nat} {w : User}
    (hne : other ≠ rank) (h : wire.Orderly sc.config.spec other w site) :
    wire.Orderly sc.config.spec other w next := by
  have hquiet (hservice : next.service = site.service) :
      wire.Orderly sc.config.spec other w next :=
    h.quiet hservice (fun _ hi => hi) h.start_eq
  cases hm with
  | refused | launched | requested | turnedAway | accepted | finished | panicked => exact hquiet rfl
  | unsent => exact hquiet (Site.service_tellAll _ _)
  | redirected _ hr => exact h.exchange_other hne hr rfl
  | answered _ hr => exact h.exchange_other hne hr (Site.service_tellAll _ _)

end User

namespace Run
variable {δ : Type} [Device δ] {sc : Scenario σ} {capacity : Nat} {service : σ} {out : δ}
  {s : Run σ δ} {wire : sc.service.Wire}

/-- The iterations of each user are in order in every state. -/
theorem Reachable.orderly (hlog : wire.log service = [])
    (h : Reachable sc capacity service out s) (rank : Nat) :
    wire.Orderly sc.config.spec rank (s.userOf rank) s.site := by
  refine Reachable.user_induction (P := wire.Orderly sc.config.spec)
    ?_ ?_ ?_ ?_ ?_ h rank
  · intro rank
    have hnone (ite : Nat) :
        wire.sentBy (Run.start sc capacity service out).site.service rank ite = [] := by
      show (wire.log service).filter _ = []
      rw [hlog]
      rfl
    constructor
    · intro ite a ha
      rw [hnone] at ha
      cases ha
    · intro ite _
      exact hnone ite
    · rintro ite sentAt f ⟨⟩
  · intro rank u v site next n pending _ hm ih
    exact hm.orderly ih
  · intro rank other u v w site next n pending _ hne hm ih
    exact hm.orderly_other hne ih
  · intro rank u site error ih
    exact ih.stop rfl error
  · intro rank u site next ih hservice _ _ _
    exact ih.quiet hservice (fun _ hi => hi) ih.start_eq

/-- The requests that are on the wire in a state for one iteration of a user, in order: those of its
exchanges that were replied to, and those of the exchange for which it waits. -/
def requestsOf (wire : sc.service.Wire) (s : Run σ δ) (rank ite : Nat) : List Arrival :=
  wire.sentBy s.site.service rank ite ++ wire.underway s.site.service rank ite (s.userOf rank)

/-- The first request of an iteration is that of a new flight of the spec. -/
theorem Reachable.isOpening (h : Reachable sc capacity service out s)
    (hlog : wire.log service = []) {rank ite : Nat} {a : Arrival}
    (ha : (s.requestsOf wire rank ite).head? = some a) :
    sc.config.spec.IsOpening a.request :=
  (h.orderly hlog rank).isOpening_head ha

/-- The first request that one iteration of a user puts on the wire, whatever was answered before,
agrees with the first request of any other iteration of any user of the same spec, of the same run
or of another: they differ at most in the version and in what they say about the connection.  Their
body is the JSON text of the spec. -/
theorem first_requests_agree {τ ε : Type} [Device ε] {tc : Scenario τ} {capacity' : Nat}
    {service' : τ} {out' : ε} {t : Run τ ε} {wire' : tc.service.Wire}
    (hs : Reachable sc capacity service out s) (hlog : wire.log service = [])
    (ht : Reachable tc capacity' service' out' t) (hlog' : wire'.log service' = [])
    (hspec : tc.config.spec = sc.config.spec) {rank ite rank' ite' : Nat} {first first' : Arrival}
    (hfirst : (s.requestsOf wire rank ite).head? = some first)
    (hfirst' : (t.requestsOf wire' rank' ite').head? = some first') :
    first.request.Agrees first'.request ∧
      first.request.body = Utf8.encode sc.config.spec.body.json := by
  have hopening : sc.config.spec.IsOpening first.request := hs.isOpening hlog hfirst
  have hopening' : sc.config.spec.IsOpening first'.request := by
    rw [← hspec]
    exact ht.isOpening hlog' hfirst'
  exact ⟨hopening.agrees hopening', hopening.body_eq⟩

/-- Servers of which a login page redirects to another one; this speaks the older version, sets a
cookie and refuses the user. -/
def relayHost : World :=
  let home := "HTTP/1.0 401 Unauthorized\r\nconnection: keep-alive\r\ncontent-length: 0\r\n" ++
    "set-cookie: seen=1\r\nwww-authenticate: Basic\r\n\r\n"
  { World.loginHost World.homeRedirect with
    servers := [(8080, {
      routes := [("/auth/login".toList, World.homeRedirect),
        ("/home".toList, World.replyOf home)] })] }

/-- Two users that each log in twice there. -/
def relayedUsers : Scenario World where
  config := { users := 2, requestsPerUser := 2, spec := World.loginSpec }
  service := World.service

/-- What they put on the wire. -/
def relayedWire : relayedUsers.service.Wire := World.wire

/-- What the two pages answered to the first login of a user does not change the second one, but it
is spoken in the older version, and so are the words about the connection. -/
theorem relayedUsers_agree : ∃ (s : Run World Sink) (first first' : Arrival),
    Reachable relayedUsers channelCapacity relayHost ({} : Sink) s ∧
      (s.requestsOf relayedWire 0 0).head? = some first ∧
      (s.requestsOf relayedWire 1 1).head? = some first' ∧
      (s.requestsOf relayedWire 1 0).length = 2 ∧
      (first.request.version, first'.request.version) = (.http11, .http10) ∧
      first'.request.headers =
        first.request.headers ++ [("connection", "keep-alive".toList)] ∧
      first.request.Agrees first'.request ∧
      first.request.body = Utf8.encode World.loginSpec.body.json := by
  obtain ⟨s, hs⟩ : ∃ s, s = complete relayedUsers relayHost {} := ⟨_, rfl⟩
  have hreach : Reachable relayedUsers channelCapacity relayHost ({} : Sink) s :=
    hs ▸ reachable_complete
  have hseen : ((s.requestsOf relayedWire 0 0).head?.any fun first =>
      (s.requestsOf relayedWire 1 1).head?.any fun first' =>
        (s.requestsOf relayedWire 1 0).length = 2 &&
        (first.request.version, first'.request.version) = (.http11, .http10) &&
        first'.request.headers =
          first.request.headers ++ [("connection", "keep-alive".toList)]) = true := by
    rw [hs]
    decide +kernel
  obtain ⟨first, hfirst, hseen⟩ := (Option.any_eq_true _ _).mp hseen
  obtain ⟨first', hfirst', hseen⟩ := (Option.any_eq_true _ _).mp hseen
  simp only [Bool.and_eq_true, decide_eq_true_eq] at hseen
  obtain ⟨⟨htwo, hversions⟩, hheaders⟩ := hseen
  obtain ⟨hagrees, hbody⟩ :=
    first_requests_agree hreach rfl hreach rfl rfl hfirst hfirst'
  exact ⟨s, first, first', hreach, hfirst, hfirst', htwo, hversions, hheaders, hagrees, hbody⟩

end Run

end LoginLoad
