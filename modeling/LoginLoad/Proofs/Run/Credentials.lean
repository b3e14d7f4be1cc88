import Mathlib.Data.Set.Basic
import LoginLoad.Proofs.Run.Exchanges
import LoginLoad.Proofs.Run.Likeness

/-! # Credentials are not revealed

Whatever a run may come to, with what it has written and what it has told of itself besides times, it
may come to with any other credentials: to each of its orders of steps there is one with the other
credentials that leads to the same report (`Run.Reachable.exists_alike`), so the reports that are
possible are the same (`Run.credentials_not_revealed`).

The servers must not look at the bodies of requests, and no time limit may run out.  Scripted
servers are an example (`Run.inTime_of_unlimited`).

The part that writes requests tells how long each of them was.  A filter that shows its events gives
away how long the credentials are (`Run.flushedLength_revealed`), and one that shows none of them
reveals nothing. -/

namespace LoginLoad

open Http (Reply)
open Event (seen)

namespace Run
variable {σ δ : Type} {timed : Prop} {like : σ → σ → Prop} {shown : Event → Bool}
  {sc : Scenario σ} {body : LoginBody} {clock : Nat → Int} {s t : Run σ δ}

/-! ### Reports -/

/-- What is found of a run that has come to its end. -/
structure Findings where
  result : Except RunError Nat
  /-- The bytes that the device has accepted. -/
  output : List UInt8
  /-- The lines that were reported. -/
  lines : Nat
  /-- The events that are shown, without times. -/
  events : List Event

/-- The report of a run, if it has come to its end. -/
def report? [Device δ] (shown : Event → Bool) (s : Run σ δ) : Option Findings :=
  s.result.map fun result =>
    ⟨result, s.output, s.desk.reporter.lines, seen shown s.site.log⟩

/-- What a run may report over all orders of steps. -/
def reports [Device δ] (sc : Scenario σ) (capacity : Nat) (service : σ) (out : δ)
    (shown : Event → Bool) : Set Findings :=
  { report | ∃ s, Reachable sc capacity service out s ∧ s.report? shown = some report }

/-- In no order of steps does a time limit run out. -/
def InTime [Device δ] (sc : Scenario σ) (capacity : Nat) (service : σ) (out : δ) : Prop :=
  ∀ s, Reachable sc capacity service out s → ¬ s.TimesOut sc

section reports
variable [Device δ] {capacity : Nat} {service : σ} {out : δ}

theorem Reachable.mem_reports {result : Except RunError Nat}
    (h : Reachable sc capacity service out s) (hresult : s.result = some result) :
    ⟨result, s.output, s.desk.reporter.lines, seen shown s.site.log⟩ ∈
      reports sc capacity service out shown := by
  refine ⟨s, h, ?_⟩
  rw [report?, hresult]
  rfl

theorem Alike.report?_eq (h : s.Alike timed like shown t) : s.report? shown = t.report? shown := by
  unfold report? output
  rw [h.result, h.desk.reporter_eq, h.site.log]

/-- Every run has its like with other credentials. -/
theorem Reachable.exists_alike (hv : sc.service.Overlooks timed like shown)
    (hlike : like service service) (hin : InTime sc capacity service out)
    (hin' : InTime (sc.withBody body clock) capacity service out)
    (h : Reachable sc capacity service out s) :
    ∃ t, Reachable (sc.withBody body clock) capacity service out t ∧
      s.Alike timed like shown t := by
  refine h.induction (P := fun s => ∃ t, Reachable (sc.withBody body clock) capacity service out t ∧
    s.Alike timed like shown t) ⟨_, .start, .start hlike⟩ fun {s s'} hr hs ⟨t, ht, halike⟩ => ?_
  obtain ⟨t', hstep, halike'⟩ := halike.stepped hv (hin s hr) (hin' t ht) hs
  obtain ⟨label, hl⟩ := hstep.exists_step?
  exact ⟨t', .step label ht hl, halike'⟩

/-- Whatever a run may report it may report with other credentials. -/
theorem reports_subset (hv : sc.service.Overlooks timed like shown)
    (hlike : like service service) (hin : InTime sc capacity service out)
    (hin' : InTime (sc.withBody body clock) capacity service out) :
    reports sc capacity service out shown ⊆
      reports (sc.withBody body clock) capacity service out shown := by
  rintro report ⟨s, hs, hreport⟩
  obtain ⟨t, ht, halike⟩ := hs.exists_alike hv hlike hin hin'
  exact ⟨t, ht, halike.report?_eq ▸ hreport⟩

/-- What a run may report is the same with other credentials. -/
theorem reports_withBody (hv : sc.service.Overlooks timed like shown)
    (hlike : like service service) (hin : InTime sc capacity service out)
    (hin' : InTime (sc.withBody body clock) capacity service out) :
    reports (sc.withBody body clock) capacity service out shown =
      reports sc capacity service out shown := by
  apply Set.Subset.antisymm
  · -- the first credentials are other ones for the second
    have hback := @reports_subset σ δ timed like shown (sc.withBody body clock)
      sc.config.spec.body sc.clock _ capacity service out hv hlike hin' hin
    exact hback
  · exact reports_subset hv hlike hin hin'

/-- The credentials that the requests of a run carry have no part in what the run may report: in
its result, in the bytes that its device has accepted, in the number of lines, and in the events
that are shown, but for the times in them.  This holds for every device and of every service that
sees no difference between the bodies of requests, as long as no time limit runs out.

Of the events of the run itself it holds whatever the filter and whatever is told about the
connections.  Of all events it holds if what is told about the connections does not depend on the
bodies, but for the part that writes requests and reads responses, and if the filter shows nothing
of this part: there the length of a request is told. -/
theorem credentials_not_revealed (hv : sc.service.Blind timed like) (hlike : like service service)
    (body : LoginBody) (clock : Nat → Int) (hin : InTime sc capacity service out)
    (hin' : InTime (sc.withBody body clock) capacity service out) (filter : LogFilter) :
    (reports (sc.withBody body clock) capacity service out fun e => e.isOwn && filter.shows e) =
        (reports sc capacity service out fun e => e.isOwn && filter.shows e) ∧
      (sc.service.TellsAlike timed like (fun e => !e.isProtocol) →
        (∀ e : Event, e.isProtocol = true → filter.shows e = false) →
        reports (sc.withBody body clock) capacity service out filter.shows =
          reports sc capacity service out filter.shows) := by
  constructor
  · -- no notice is an event of the run itself
    have hown : sc.service.TellsAlike timed like fun e => e.isOwn && filter.shows e := by
      intro s t f g rank _ _
      rw [Event.filter_isOwn_connection, Event.filter_isOwn_connection]
    have huntimed (e : Event) :
        (e.untimed.isOwn && filter.shows e.untimed) = (e.isOwn && filter.shows e) := by
      rw [Event.isOwn_untimed, Event.shows_untimed]
    exact reports_withBody ⟨hv, hown, huntimed⟩ hlike hin hin'
  · intro hnotices hhides
    have hshown : sc.service.TellsAlike timed like filter.shows := by
      refine hnotices.mono fun e he => ?_
      rw [Bool.not_eq_true', ← Bool.not_eq_true]
      intro hprotocol
      rw [hhides e hprotocol] at he
      cases he
    exact reports_withBody ⟨hv, hshown, Event.shows_untimed filter⟩ hlike hin hin'

end reports

/-- Where requests may take for ever no time limit runs out. -/
theorem inTime_of_unlimited [Device δ] {sc : Scenario World} (hsc : sc.service = World.service)
    {w : World} (hw : w.limit = none) (capacity : Nat) (out : δ) : InTime sc capacity w out := by
  rintro s h ⟨rank, u, -, ite, sentAt, flight, reply, next, -, hr, hlate⟩
  have hkeeps : sc.Keeps (fun z => z.limit = none) (fun _ _ _ => True) (fun _ => True) := by
    refine ⟨fun _ _ _ => trivial, fun {z _ _ _ _ _} hz _ hr => ?_⟩
    rw [hsc] at hr
    exact ⟨(World.limit_reply hr).trans hz, fun _ _ => trivial, fun _ _ => trivial⟩
  rw [hsc] at hr
  rw [World.not_timeout_reply (h.kept hkeeps hw).service hr] at hlate
  cases hlate

/-- A user of the login page that waits as long as it takes. -/
def patientUser : Scenario World where
  config := { users := 1, requestsPerUser := 1, timeout := none, spec := World.loginSpec }
  service := World.service

/-- The redirects of the login page do not reveal whose login it is to those who see every event
but those of the part that writes requests and reads responses: its one request is reported in the
same ways. -/
theorem patientUser_not_revealed :
    let host : World := { World.loginHost World.homeRedirect with limit := none }
    let other := patientUser.withBody ⟨"root", "\"\u2028\\"⟩ fun n => 7 * n
    let shown := (LogFilter.readable "trace,hyper::proto=off").shows
    reports other channelCapacity host ({} : Sink) shown =
        reports patientUser channelCapacity host ({} : Sink) shown ∧
      ∃ report ∈ reports other channelCapacity host ({} : Sink) shown,
        report.result = .ok 1 ∧ report.output = Utf8.encode "user-0 -> 200\n".toList := by
  intro host other shown
  have hblind : patientUser.service.Blind True World.Alike := World.blind
  have hin : InTime patientUser channelCapacity host ({} : Sink) := inTime_of_unlimited rfl rfl _ _
  have hin' : InTime other channelCapacity host ({} : Sink) := inTime_of_unlimited rfl rfl _ _
  have hhides : ∀ e : Event, e.isProtocol = true → shown e = false :=
    LogFilter.hides_protocol (by decide +kernel) (by decide +kernel)
  obtain ⟨-, hall⟩ := credentials_not_revealed hblind (.refl host) _ _ hin hin'
    (LogFilter.readable "trace,hyper::proto=off")
  have hreports : reports other channelCapacity host ({} : Sink) shown =
      reports patientUser channelCapacity host ({} : Sink) shown := hall World.tellsAlike hhides
  obtain ⟨s, hs⟩ : ∃ s, s = complete patientUser host {} := ⟨_, rfl⟩
  have hresult : s.result = some (.ok 1) := by
    rw [hs]
    decide +kernel
  have houtput : s.output = Utf8.encode "user-0 -> 200\n".toList := by
    rw [hs]
    decide +kernel
  have hs : Reachable patientUser channelCapacity host ({} : Sink) s := hs ▸ reachable_complete
  exact ⟨hreports, _, hreports ▸ hs.mem_reports hresult, rfl, houtput⟩

/-- An empty page. -/
def plainReply : ScriptedReply := World.replyOf "HTTP/1.1 200 OK\r\ncontent-length: 0\r\n\r\n"

/-- The machine of a login page that is empty; a client waits as long as it takes. -/
def plainHost : World := { World.loginHost plainReply with limit := none }

/-- The same user with a longer password. -/
def wordyUser : Scenario World :=
  patientUser.withBody ⟨"test1", "a password of forty characters, or more."⟩ patientUser.clock

/-- The empty page sends no request on. -/
theorem reply_plainHost {w next : World} {spec : RequestSpec} {rank ite : Nat} {f : Flight}
    {r : Reply} (hserves : w.Serves spec World.loginUrl 0 (World.loginPage plainReply))
    (hlimit : w.limit = none) (hf : Flight.start spec = .ok f)
    (hr : w.reply rank ite f = some (r, next)) : r = .response 200 none 0 .whole := by
  obtain ⟨g, host, hg, hurl, hhost, hconn, -⟩ := hserves.start
  obtain rfl : f = g := Except.ok.inj (hf.symm.trans hg)
  have hscripted : w.scripted 0 (World.loginPage plainReply) f = plainReply := by
    unfold World.scripted
    rw [hurl, Flight.target_takeCredentials]
    rfl
  have hwhole : plainReply.seen? none = some (.response 200 none 0 .whole) := by decide +kernel
  have hseen := World.seen?_of_reply hlimit hhost hconn hr
  rw [hscripted, hwhole] at hseen
  exact (Option.some.inj hseen).symm

/-- Every request of the wordy user is longer than the one of the other. -/
theorem wordyUser_keeps : wordyUser.Keeps
    (fun w => w.Serves wordyUser.config.spec World.loginUrl 0 (World.loginPage plainReply) ∧
      w.limit = none)
    (fun _ _ attempt => attempt = Flight.start wordyUser.config.spec)
    (fun notice => notice ≠ .flushed 157) := by
  refine ⟨fun _ _ _ => rfl, fun {w next rank ite f r} ⟨hserves, hlimit⟩ hf hr => ?_⟩
  have hserves' : next.Serves wordyUser.config.spec World.loginUrl 0 (World.loginPage plainReply) :=
    { hserves with listens := by rw [World.connect_reply hr]; exact hserves.listens }
  refine ⟨⟨hserves', (World.limit_reply hr).trans hlimit⟩, fun g hg => ?_, ?_⟩
  · -- the page is no redirect
    rw [reply_plainHost hserves hlimit hf.symm hr] at hg
    have hno : f.redirect? 200 none 0 = none := by simp [Flight.redirect?]
    simp [Flight.receive, hno, Flight.settle] at hg
  · rintro notice hn rfl
    obtain ⟨version, hlength⟩ := World.flushed_mem_notices hn
    have hlengths : (Flight.start wordyUser.config.spec).toOption.map
        (fun f => ((f.request.spokenIn .http10).bytes.length,
          (f.request.spokenIn .http11).bytes.length)) = some (214, 190) := by
      decide +kernel
    rw [← hf] at hlengths
    obtain ⟨h10, h11⟩ := Prod.mk.inj (Option.some.inj hlengths)
    cases version <;> omega

/-- Those who debug see how long a request was, and with it how long the credentials are: a report
that is possible with the short password is not possible with the long one. -/
theorem flushedLength_revealed :
    let shown := (LogFilter.readable "debug").shows
    patientUser.service.Blind True World.Alike ∧ plainHost.Alike plainHost ∧
      InTime patientUser channelCapacity plainHost ({} : Sink) ∧
      InTime wordyUser channelCapacity plainHost ({} : Sink) ∧
      reports wordyUser channelCapacity plainHost ({} : Sink) shown ≠
        reports patientUser channelCapacity plainHost ({} : Sink) shown := by
  intro shown
  refine ⟨World.blind, .refl plainHost, inTime_of_unlimited rfl rfl _ _,
    inTime_of_unlimited rfl rfl _ _, fun heq => ?_⟩
  obtain ⟨s, hs⟩ : ∃ s, s = complete patientUser plainHost {} := ⟨_, rfl⟩
  have hresult : s.result = some (.ok 1) := by
    rw [hs]
    decide +kernel
  have htold : .connection (.flushed 157) ∈ seen shown s.site.log := by
    rw [hs]
    decide +kernel
  have hs : Reachable patientUser channelCapacity plainHost ({} : Sink) s := hs ▸ reachable_complete
  have hmem : ⟨.ok 1, s.output, s.desk.reporter.lines, seen shown s.site.log⟩ ∈
      reports wordyUser channelCapacity plainHost ({} : Sink) shown := heq ▸ hs.mem_reports hresult
  obtain ⟨t, ht, hreport⟩ := hmem
  -- a run of the wordy user with this report would have told of the shorter request
  obtain ⟨result, -, hfindings⟩ := Option.map_eq_some_iff.mp hreport
  rw [← (Findings.mk.inj hfindings).2.2.2] at htold
  obtain ⟨e, he, huntimed⟩ := List.mem_map.mp htold
  have hserves : plainHost.Serves wordyUser.config.spec World.loginUrl 0 (World.loginPage plainReply) :=
    { World.loginHost_serves plainReply with }
  have hkept := ht.kept wordyUser_keeps ⟨hserves, rfl⟩
  cases e with
  | connection notice =>
      cases huntimed
      exact hkept.notices _ (List.mem_filter.mp he).1 rfl
  | _ => cases huntimed

end Run
end LoginLoad
