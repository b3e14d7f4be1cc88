import LoginLoad.Log.Filter
import LoginLoad.Proofs.Sending

/-! # Requests that differ in their bodies

What the body of a request says has no part in how the request goes on.  Two flights are alike if
they differ at most in the bytes of their bodies and in the time that they took (`Flight.Alike`).
The flights of two specs with the same URL are alike at the start (`Flight.start_alike`), and alike
replies, that is replies which differ at most in the time that they took, make alike flights of them
or the same answer (`Flight.Alike.receive`).  Whether a longer body may take more time is left open:
flights and replies that are `timed` must agree in their times as well.

A service is blind if it sees no difference between alike flights, unless a time limit runs out
(`Service.Blind`).  Servers whose answers depend on the number of a request and on its target, like
the scripted ones, are (`World.blind`), and no time limit runs out where there is none
(`World.not_timeout_reply`).

How long a request was is told when it is written, so the events of the part that writes and reads
messages (`Event.isProtocol`) may give away the length of a body.  The other notices of scripted
servers do not depend on it (`World.tellsAlike`). -/

namespace LoginLoad

open Http (Reply)

/-! ### Flights -/

variable {timed : Prop}

/-- Two flights that differ at most in the bytes of their bodies and, if they are not `timed`, in
the time that they took. -/
structure Flight.Alike (timed : Prop) (f g : Flight) : Prop where
  url : f.url = g.url
  method : f.method = g.method
  headers : f.headers = g.headers
  body : f.body.isSome = g.body.isSome
  followed : f.followed = g.followed
  spent : timed → f.spent = g.spent

/-- Two replies that differ at most in the time that they took, and are the same if they are
`timed`. -/
inductive Http.Reply.Alike (timed : Prop) : Reply → Reply → Prop
  | fault (fault : Http.ExchangeFault) : Alike timed (.fault fault) (.fault fault)
  | response (code : UInt16) (location : Option (List Char)) {took took' : Nat}
      (tail : Http.Tail) : (timed → took = took') →
      Alike timed (.response code location took tail) (.response code location took' tail)

theorem Http.Reply.Alike.refl (r : Reply) : r.Alike timed r := by
  cases r with
  | fault fault => exact .fault fault
  | response code location took tail => exact .response code location tail fun _ => rfl

/-- What alike replies make of alike flights: alike flights, or the same answer. -/
inductive Progress.Alike (timed : Prop) : Progress → Progress → Prop
  | again {f g : Flight} : f.Alike timed g → Alike timed (.again f) (.again g)
  | done (answer : Answer) : Alike timed (.done answer) (.done answer)
  | endless : Alike timed .endless .endless

theorem Progress.Alike.refl_settle (code : UInt16) (tail : Http.Tail) :
    Alike timed (Flight.settle code tail) (Flight.settle code tail) := by
  cases tail with
  | whole | broken => exact .done _
  | endless => exact .endless

namespace Flight

/-- The body of a spec goes into the body of its first request and nowhere else. -/
theorem start_alike (spec : RequestSpec) (body : LoginBody) :
    (∃ fault, start spec = .error fault ∧ start { spec with body } = .error fault) ∨
      ∃ f g, start spec = .ok f ∧ start { spec with body } = .ok g ∧ f.Alike timed g := by
  unfold start
  cases Url.read? spec.url.toList with
  | error fault => exact .inl ⟨_, rfl, rfl⟩
  | ok url =>
      dsimp only
      split
      · exact .inl ⟨_, rfl, rfl⟩
      · split
        · exact .inl ⟨_, rfl, rfl⟩
        · exact .inr ⟨_, _, rfl, rfl, rfl, rfl, rfl, rfl, rfl, fun _ => rfl⟩

namespace Alike
variable {f g : Flight} {took took' : Nat}

theorem isSecure_eq (h : f.Alike timed g) : f.isSecure = g.isSecure := by
  unfold isSecure
  rw [h.url]

theorem port_eq (h : f.Alike timed g) : f.port = g.port := by
  unfold port
  rw [h.url, h.isSecure_eq]

theorem origin_eq (h : f.Alike timed g) : f.origin = g.origin := by
  unfold origin
  rw [h.url, h.isSecure_eq]

theorem follow (h : f.Alike timed g) (url : Url) (repeated : Bool)
    (htook : timed → took = took') :
    (f.follow url repeated took).Alike timed (g.follow url repeated took') where
  url := rfl
  method := by simp only [Flight.follow, h.method]
  headers := by simp only [Flight.follow, h.headers, h.url, h.isSecure_eq]
  body := by cases repeated <;> simp [Flight.follow, h.body]
  followed := by simp only [Flight.follow, h.followed]
  spent ht := by simp only [Flight.follow, h.spent ht, htook ht]

theorem redirect? (h : f.Alike timed g) (code : UInt16) (location : Option (List Char))
    (htook : timed → took = took') :
    Option.Rel (Alike timed) (f.redirect? code location took) (g.redirect? code location took') := by
  unfold Flight.redirect?
  rw [h.url]
  cases redirection? code with
  | none => exact .none
  | some repeated =>
      cases location with
      | none => exact .none
      | some target =>
          simp only [Option.bind_eq_bind, Option.bind_some]
          cases (Url.join g.url target).toOption with
          | none => exact .none
          | some url =>
              simp only [Option.bind_some]
              split
              · exact .some (h.follow url repeated htook)
              · exact .none

theorem receive {r r' : Reply} (h : f.Alike timed g) (hr : r.Alike timed r') :
    (f.receive r).Alike timed (g.receive r') := by
  cases hr with
  | fault fault =>
      simp only [Flight.receive, h.url]
      exact .done _
  | response code location tail htook =>
      have hnext := h.redirect? code location htook
      simp only [Flight.receive]
      generalize f.redirect? code location _ = next at hnext
      generalize g.redirect? code location _ = next' at hnext
      cases hnext with
      | none => exact .refl_settle code tail
      | some hnext =>
          simp only [hnext.followed, hnext.url, h.url]
          split
          · exact .done _
          · split
            · exact .again hnext
            · exact .done _

/-- What is told of a redirect names the URLs alone. -/
theorem redirectNotices_eq (h : f.Alike timed g) (r : Reply) :
    f.redirectNotices r = g.redirectNotices r := by
  cases r with
  | fault fault => rfl
  | response code location took tail =>
      have hnext := h.redirect? code location fun _ => (rfl : took = took)
      simp only [Flight.redirectNotices]
      generalize f.redirect? code location took = next at hnext
      generalize g.redirect? code location took = next' at hnext
      cases hnext with
      | none => rfl
      | some hnext => simp only [hnext.followed, hnext.url, h.url]

end Alike
end Flight

/-! ### Time limits -/

/-- Whether a reply is that the time limit ran out, before the head was complete or after it. -/
def Http.Reply.isTimeout : Reply → Bool
  | .fault .timedOut | .response _ _ _ (.broken .timedOut) => true
  | _ => false

namespace Http
namespace BodyState

theorem ofFraming_ne_timedOut (framing : Framing) : ofFraming framing ≠ .broken .timedOut := by
  cases framing with
  | length n =>
      unfold ofFraming
      dsimp only
      split <;> exact nofun
  | _ => exact nofun

theorem addDigit_ne_timedOut (value digit : Nat) : addDigit value digit ≠ .broken .timedOut := by
  unfold addDigit
  dsimp only
  split <;> simp

theorem afterSize_ne_timedOut (value : Nat) (b : UInt8) {fault : BodyFault}
    (h : fault ≠ .timedOut) : afterSize value b fault ≠ .broken .timedOut := by
  unfold afterSize
  repeat' split
  all_goals simp [h]

/-- Reading a byte does not make a time limit run out. -/
theorem step_ne_timedOut {s : BodyState} (b : UInt8) (h : s ≠ .broken .timedOut) :
    s.step b ≠ .broken .timedOut := by
  cases s with
  | sizeStart =>
      unfold step
      dsimp only
      split
      · exact addDigit_ne_timedOut _ _
      · exact nofun
  | size =>
      unfold step
      dsimp only
      split
      · exact addDigit_ne_timedOut _ _
      · exact afterSize_ne_timedOut _ _ nofun
  | sizeBlank => exact afterSize_ne_timedOut _ _ nofun
  | broken => exact h
  | _ =>
      unfold step
      dsimp only
      repeat' split
      all_goals exact nofun

theorem atEnd_ne_timedOut {s : BodyState} (h : s ≠ .broken .timedOut) :
    s.atEnd ≠ .broken .timedOut := by
  cases s with
  | broken => exact h
  | _ => exact nofun

end BodyState

namespace ResponseState

/-- Whether the body was given up for want of time. -/
def IsTooLate : ResponseState → Prop
  | .body _ s _ => s = .broken .timedOut
  | _ => False

theorem not_isTooLate_step {s : ResponseState} (b : UInt8) (h : ¬ s.IsTooLate) :
    ¬ (s.step b).IsTooLate := by
  cases s with
  | body head s extra => exact BodyState.step_ne_timedOut b h
  | head s =>
      unfold step ofHead
      dsimp only
      repeat' split
      · exact nofun
      · exact BodyState.ofFraming_ne_timedOut _
      all_goals exact nofun
  | failed | closed => exact h

theorem not_isTooLate_feed {s : ResponseState} (bytes : List UInt8) (h : ¬ s.IsTooLate) :
    ¬ (s.feed bytes).IsTooLate := by
  induction bytes generalizing s with
  | nil => exact h
  | cons b rest ih => exact ih (not_isTooLate_step b h)

theorem not_isTooLate_atEnd {s : ResponseState} (h : ¬ s.IsTooLate) : ¬ s.atEnd.IsTooLate := by
  cases s with
  | body head s extra => exact BodyState.atEnd_ne_timedOut h
  | _ => exact nofun

end ResponseState

/-- A client that waits for ever does not see a time limit run out. -/
theorem Sight.not_timeout_of_reply? {s : Sight} {closes : Bool} {r : Reply}
    (hs : ¬ s.state.IsTooLate) (h : s.reply? false closes = some r) : r.isTimeout = false := by
  have hend : ¬ (if closes && !s.late then s.state.atEnd else s.state).IsTooLate := by
    split
    · exact ResponseState.not_isTooLate_atEnd hs
    · exact hs
  unfold Sight.reply? at h
  generalize (if closes && !s.late then s.state.atEnd else s.state) = state at h hend
  cases state with
  | failed | closed =>
      cases h
      rfl
  | head => cases h
  | body head body extra =>
      cases h
      cases body with
      | broken fault =>
          cases fault with
          | timedOut => exact absurd rfl hend
          | _ => rfl
      | _ => rfl

end Http

/-- A client that waits for ever never finds its time limit run out. -/
theorem ScriptedReply.not_timeout_of_seen? {script : ScriptedReply} {r : Reply}
    (h : script.seen? none = some r) : r.isTimeout = false := by
  have hread : ¬ (watch none 0 {} script.parts).state.IsTooLate := by
    rw [watch_state]
    exact Http.ResponseState.not_isTooLate_feed _ nofun
  exact Http.Sight.not_timeout_of_reply? hread h

/-! ### Services -/

/-- Whether an event comes from the part that writes requests and reads responses. -/
def Event.isProtocol (e : Event) : Bool := "hyper::proto".toList.isPrefixOf e.target.toList

namespace Event

theorem isProtocol_flushed (bytes : Nat) : (connection (.flushed bytes)).isProtocol = true := by
  show "hyper::proto".toList.isPrefixOf "hyper::proto::h1::io".toList = true
  decide +kernel

/-- The events that come from there. -/
theorem isProtocol_cases {e : Event} (h : e.isProtocol = true) :
    (∃ bytes, e = connection (.flushed bytes)) ∨ (∃ headers, e = connection (.parsed headers)) ∨
      ∃ framing, e = connection (.incoming framing) := by
  cases e with
  | connection notice =>
      cases notice with
      | flushed bytes => exact .inl ⟨bytes, rfl⟩
      | parsed headers => exact .inr (.inl ⟨headers, rfl⟩)
      | incoming framing => exact .inr (.inr ⟨framing, rfl⟩)
      | _ =>
          exfalso
          simp only [isProtocol, target, Notice.target] at h
          revert h
          decide +kernel
  | _ =>
      exfalso
      simp only [isProtocol, target] at h
      revert h
      decide +kernel

end Event

/-- Whether a filter hides them can be seen from two of them. -/
theorem LogFilter.hides_protocol {filter : LogFilter}
    (hwritten : filter.shows (.connection (.flushed 0)) = false)
    (hread : filter.shows (.connection (.incoming .empty)) = false) :
    ∀ e : Event, e.isProtocol = true → filter.shows e = false := by
  intro e he
  rcases Event.isProtocol_cases he with ⟨bytes, rfl⟩ | ⟨headers, rfl⟩ | ⟨framing, rfl⟩
  · exact (filter.shows_congr rfl rfl rfl).trans hwritten
  · exact (filter.shows_congr rfl rfl rfl).trans hwritten
  · exact (filter.shows_congr rfl rfl rfl).trans hread

namespace Service
variable {σ : Type}

/-- A service that sees no difference between flights that are alike: in states that are alike its
replies to them are alike, and its states stay so, unless the time limit of one of them runs out. -/
def Blind (timed : Prop) (v : Service σ) (like : σ → σ → Prop) : Prop :=
  ∀ {s t next : σ} {rank ite : Nat} {f g : Flight} {r : Reply}, like s t → f.Alike timed g →
    v.reply s rank ite f = some (r, next) → r.isTimeout = false →
    ∃ r' next', v.reply t rank ite g = some (r', next') ∧
      (r'.isTimeout = true ∨ r.Alike timed r' ∧ like next next')

/-- What is told of the exchanges of alike flights is the same, as far as it is shown. -/
def TellsAlike (timed : Prop) (v : Service σ) (like : σ → σ → Prop) (shown : Event → Bool) :
    Prop :=
  ∀ {s t : σ} {f g : Flight} (rank : Nat), like s t → f.Alike timed g →
    ((v.notices s rank f).map Event.connection).filter shown =
      ((v.notices t rank g).map Event.connection).filter shown

/-- Where less is shown it is the same all the more. -/
theorem TellsAlike.mono {timed : Prop} {v : Service σ} {like : σ → σ → Prop}
    {shown shown' : Event → Bool} (h : v.TellsAlike timed like shown)
    (hless : ∀ e, shown' e = true → shown e = true) : v.TellsAlike timed like shown' := by
  intro s t f g rank hst hfg
  have htwice (l : List Event) : l.filter shown' = (l.filter shown).filter shown' := by
    rw [List.filter_filter]
    refine List.filter_congr fun e _ => ?_
    cases hs : shown' e with
    | false => rfl
    | true => rw [hless e hs]; rfl
  rw [htwice, h rank hst hfg, ← htwice]

end Service

namespace World

/-- Two worlds that differ at most in what was sent to the servers, not in how often. -/
structure Alike (w z : World) : Prop where
  outage : w.outage = z.outage
  servers : w.servers = z.servers
  limit : w.limit = z.limit
  idle : w.idle = z.idle
  counts : ∀ server, w.arrivalCount server = z.arrivalCount server

namespace Alike
variable {w z : World}

theorem refl (w : World) : w.Alike w := ⟨rfl, rfl, rfl, rfl, fun _ => rfl⟩

theorem connect (h : w.Alike z) (secure : Bool) (host : Host) (port : Nat) :
    w.connect secure host port = z.connect secure host port := by
  unfold World.connect
  rw [h.outage, h.servers]

end Alike

theorem arrivalCount_push (w : World) (a : Arrival) (idle : List IdleConnection) (server : Nat) :
    ({ w with arrivals := w.arrivals.push a, idle } : World).arrivalCount server =
      w.arrivalCount server + if a.server = server then 1 else 0 := by
  unfold arrivalCount
  rw [Array.toList_push, List.filter_append, List.length_append]
  by_cases h : a.server = server <;> simp [h]

/-- A request arrives in both. -/
theorem Alike.arrived {w z : World} (h : w.Alike z) {a b : Arrival} (hab : a.server = b.server)
    (idle : List IdleConnection) :
    ({ w with arrivals := w.arrivals.push a, idle } : World).Alike
      { z with arrivals := z.arrivals.push b, idle } where
  outage := h.outage
  servers := h.servers
  limit := h.limit
  idle := rfl
  counts server := by rw [arrivalCount_push, arrivalCount_push, h.counts, hab]

theorem Alike.remaining {w z : World} (h : w.Alike z) {f g : Flight} (hfg : f.Alike True g) :
    w.remaining f = z.remaining g := by
  unfold World.remaining
  rw [h.limit, hfg.spent trivial]

theorem Alike.scripted {w z : World} (h : w.Alike z) {f g : Flight} (hfg : f.Alike timed g)
    (server : Nat) (script : Script) : w.scripted server script f = z.scripted server script g := by
  unfold World.scripted
  rw [h.counts, hfg.url]

theorem Alike.sight {w z : World} (h : w.Alike z) {f g : Flight} (hfg : f.Alike True g)
    (reply : ScriptedReply) : w.sight f reply = z.sight g reply := by
  unfold World.sight
  rw [h.remaining hfg]

/-- Scripted servers answer by the number of a request and its target. -/
theorem blind : service.Blind True World.Alike := by
  intro w z next rank ite f g r h hfg hr _
  show ∃ r' next', z.reply rank ite g = some (r', next') ∧ _
  replace hr : w.reply rank ite f = some (r, next) := hr
  unfold World.reply at hr ⊢
  rw [← hfg.url]
  cases hhost : f.url.host? with
  | none =>
      simp only [hhost] at hr
      cases hr
      exact ⟨_, z, rfl, .inr ⟨.refl _, h⟩⟩
  | some host =>
      simp only [hhost] at hr
      simp only [← hfg.isSecure_eq, ← hfg.port_eq, ← h.connect, ← h.remaining hfg,
        ← h.scripted hfg, ← h.sight hfg, ← h.idle]
      cases hc : w.connect f.isSecure host f.port with
      | error fault =>
          simp only [hc] at hr
          cases hr
          exact ⟨_, z, rfl, .inr ⟨.refl _, h⟩⟩
      | ok found =>
          obtain ⟨server, script⟩ := found
          simp only [hc] at hr ⊢
          by_cases hout : w.remaining f = some 0
          · rw [if_pos hout] at hr ⊢
            cases hr
            exact ⟨_, z, rfl, .inr ⟨.refl _, h⟩⟩
          · rw [if_neg hout] at hr ⊢
            split at hr
            · cases hr
            · cases hr
              exact ⟨_, _, rfl, .inr ⟨.refl _, h.arrived (by rfl) _⟩⟩

theorem Alike.connectionNotices_eq {w z : World} (h : w.Alike z) {f g : Flight}
    (hfg : f.Alike timed g) (rank : Nat) (host : Host) :
    w.connectionNotices rank f host = z.connectionNotices rank g host := by
  unfold World.connectionNotices
  simp only [h.idle, hfg.isSecure_eq, hfg.port_eq, hfg.origin_eq, h.connect]

theorem responseNotices_eq {f g : Flight} (hfg : f.Alike timed g) (sight : Http.Sight) :
    responseNotices f sight = responseNotices g sight := by
  unfold responseNotices
  simp only [hfg.redirectNotices_eq]

/-- What is told of an exchange with scripted servers does not depend on the body of the request, but
for the length of what was written. -/
theorem tellsAlike : service.TellsAlike True World.Alike fun e => !e.isProtocol := by
  intro w z f g rank h hfg
  show ((w.notices rank f).map Event.connection).filter _ =
    ((z.notices rank g).map Event.connection).filter _
  unfold World.notices
  rw [hfg.url]
  cases g.url.host? with
  | none => rfl
  | some host =>
      simp only [List.map_append, List.filter_append, h.connectionNotices_eq hfg]
      congr 1
      unfold World.exchangeNotices
      rw [hfg.isSecure_eq, hfg.port_eq, h.connect, h.remaining hfg]
      cases z.connect g.isSecure host g.port with
      | error fault => rfl
      | ok found =>
          simp only [h.scripted hfg, h.sight hfg, responseNotices_eq hfg]
          by_cases hout : z.remaining g = some 0
          · rw [if_pos hout, if_pos hout]
          · -- only the lengths of the requests may differ, and they are left out
            rw [if_neg hout, if_neg hout, List.map_cons, List.map_cons,
              List.filter_cons_of_neg (by simp [Event.isProtocol_flushed]),
              List.filter_cons_of_neg (by simp [Event.isProtocol_flushed])]

theorem flushed_notMem_connectionNotices {w : World} {rank bytes : Nat} {f : Flight} {host : Host} :
    .flushed bytes ∉ w.connectionNotices rank f host := by
  unfold connectionNotices
  dsimp only
  repeat' split
  all_goals simp

theorem flushed_notMem_responseNotices {f : Flight} {sight : Http.Sight} {bytes : Nat} :
    .flushed bytes ∉ responseNotices f sight := by
  unfold responseNotices Notice.ofHead Flight.redirectNotices
  repeat' split
  all_goals simp

/-- The length of a request is told, and no other. -/
theorem flushed_mem_notices {w : World} {rank bytes : Nat} {f : Flight}
    (h : .flushed bytes ∈ w.notices rank f) :
    ∃ version, bytes = (f.request.spokenIn version).bytes.length := by
  unfold notices at h
  split at h
  · cases h
  · replace h := (List.mem_append.mp h).resolve_left flushed_notMem_connectionNotices
    unfold exchangeNotices at h
    split at h
    · cases h
    · split at h
      · cases h
      · rcases List.mem_cons.mp h with h | h
        · exact ⟨_, Notice.flushed.inj h⟩
        · exact absurd h flushed_notMem_responseNotices

/-- Which servers listen does not change. -/
theorem connect_reply {w next : World} {rank ite : Nat} {f : Flight} {r : Reply}
    (hr : w.reply rank ite f = some (r, next)) : next.connect = w.connect := by
  unfold World.reply at hr
  dsimp only at hr
  repeat' split at hr
  all_goals cases hr
  all_goals rfl

theorem limit_reply {w next : World} {rank ite : Nat} {f : Flight} {r : Reply}
    (hr : w.reply rank ite f = some (r, next)) : next.limit = w.limit := by
  unfold World.reply at hr
  dsimp only at hr
  repeat' split at hr
  all_goals cases hr
  all_goals rfl

/-- Without a time limit a client sees all of the reply of a server that listens. -/
theorem seen?_of_reply {w next : World} {rank ite server : Nat} {f : Flight} {r : Reply} {host : Host}
    {script : Script} (h : w.limit = none) (hhost : f.url.host? = some host)
    (hconn : w.connect f.isSecure host f.port = .ok (server, script))
    (hr : w.reply rank ite f = some (r, next)) : (w.scripted server script f).seen? none = some r := by
  have hremaining : w.remaining f = none := by
    rw [World.remaining, h]
    rfl
  have hreply := fst_reply_of_listening rank ite hhost hconn
    (by rw [hremaining]; exact (Option.some_ne_none 0).symm)
  rw [hr, hremaining] at hreply
  exact hreply.symm

/-- Without a time limit none runs out. -/
theorem not_timeout_reply {w next : World} {rank ite : Nat} {f : Flight} {r : Reply}
    (h : w.limit = none) (hr : w.reply rank ite f = some (r, next)) : r.isTimeout = false := by
  cases hhost : f.url.host? with
  | none =>
      simp only [reply, hhost] at hr
      cases hr
      rfl
  | some host =>
      cases hconn : w.connect f.isSecure host f.port with
      | error fault =>
          simp only [reply, hhost, hconn] at hr
          cases hr
          rfl
      | ok found =>
          exact ScriptedReply.not_timeout_of_seen? (seen?_of_reply h hhost hconn hr)

end World
end LoginLoad
