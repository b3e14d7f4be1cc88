import LoginLoad.Log.Filter
import LoginLoad.Proofs.Blindness
import LoginLoad.Proofs.Run.Steps

/-! # Runs with other credentials

Two runs are alike if they differ at most in the bodies of requests under way, in times, and in what
their services make of these (`Run.Alike`).  One module of the run after the other is looked at:
channels, what the users share, where a user stands, the desk of the reporter.

Alike runs stay in step, if the servers see no difference between the bodies and no time limit runs
out: whatever one of them can do next the other can do with its credentials, and afterwards they are
alike again (`User.Moved.alike`, `Run.Alike.stepped`). -/

namespace LoginLoad

open Http (Reply)

/-! ### What is seen of a run besides times -/

/-- An outcome without the readings of the clock. -/
def Outcome.untimed (o : Outcome) : Outcome := { o with sentAt := 0, receivedAt := 0 }

namespace Event

/-- An event without the time that a request took. -/
def untimed : Event → Event
  | responded rank ite code _ => responded rank ite code 0
  | e => e

/-- The events of a log that are shown, without times. -/
def seen (shown : Event → Bool) (log : List Event) : List Event := (log.filter shown).map untimed

variable {shown : Event → Bool}

theorem seen_append (l m : List Event) : seen shown (l ++ m) = seen shown l ++ seen shown m := by
  simp [seen]

theorem isOwn_untimed (e : Event) : e.untimed.isOwn = e.isOwn := by cases e <;> rfl

/-- The time that a request took has no part in whether its event is shown. -/
theorem shows_untimed (filter : LogFilter) (e : Event) :
    filter.shows e.untimed = filter.shows e := by
  cases e with
  | responded => exact filter.shows_congr rfl rfl rfl
  | _ => rfl

/-- Events that differ in times only are both shown or both not. -/
theorem seen_congr (hshown : ∀ e, shown e.untimed = shown e) {l m : List Event}
    (h : l.map untimed = m.map untimed) : seen shown l = seen shown m := by
  have hseen (k : List Event) : seen shown k = (k.map untimed).filter shown := by
    unfold seen
    rw [List.filter_map]
    congr 2
    funext e
    exact (hshown e).symm
  rw [hseen, hseen, h]

theorem filter_isOwn_connection (told : List Notice) (shown : Event → Bool) :
    (told.map connection).filter (fun e => e.isOwn && shown e) = [] := by
  rw [List.filter_map]
  simp [Function.comp_def, isOwn]

end Event

open Event (seen seen_append)

/-- Neither the service nor what is shown tells alike flights apart, and nothing is shown or hidden
for the time in it. -/
structure Service.Overlooks {σ : Type} (timed : Prop) (v : Service σ) (like : σ → σ → Prop)
    (shown : Event → Bool) : Prop where
  blind : v.Blind timed like
  tells : v.TellsAlike timed like shown
  untimed : ∀ e : Event, shown e.untimed = shown e

/-- The event of an outcome says what its outcome says. -/
theorem Outcome.event_untimed {o p : Outcome} (h : o.untimed = p.untimed) :
    o.event.untimed = p.event.untimed := by
  have hevent (o : Outcome) : o.event.untimed = o.untimed.event := by
    unfold Outcome.event
    cases h : o.status <;> simp [Outcome.untimed, h, Event.untimed, Outcome.elapsed]
  rw [hevent, hevent, h]

/-- A reporter does not look at times. -/
theorem Reporter.record_untimed {δ : Type} [Device δ] {o p : Outcome} (h : o.untimed = p.untimed)
    (r : Reporter δ) : r.record o = r.record p := by
  have hrecord (o : Outcome) : r.record o = r.record o.untimed := rfl
  rw [hrecord, hrecord p, h]

/-! ### What the users share -/

/-- Two channels that differ at most in the times of what they hold. -/
structure Channel.Alike (c d : Channel) : Prop where
  capacity : c.capacity = d.capacity
  queue : c.queue.map Outcome.untimed = d.queue.map Outcome.untimed
  isOpen : c.isOpen = d.isOpen
  senders : c.senders = d.senders

namespace Channel.Alike
variable {c d : Channel}

theorem held (h : c.Alike d) : c.held = d.held := by
  have hlength := congrArg List.length h.queue
  rwa [List.length_map, List.length_map] at hlength

theorem hasRoom (h : c.Alike d) : c.hasRoom = d.hasRoom := by
  unfold Channel.hasRoom
  rw [h.held, h.capacity]

theorem isExhausted (h : c.Alike d) : c.isExhausted = d.isExhausted := by
  unfold Channel.isExhausted
  rw [h.held, h.senders]

theorem push (h : c.Alike d) {o p : Outcome} (hop : o.untimed = p.untimed) :
    (c.push o).Alike (d.push p) where
  capacity := h.capacity
  queue := by simp [Channel.push, h.queue, hop]
  isOpen := h.isOpen
  senders := h.senders

theorem close (h : c.Alike d) : c.close.Alike d.close where
  capacity := h.capacity
  queue := h.queue
  isOpen := rfl
  senders := h.senders

theorem addSender (h : c.Alike d) : c.addSender.Alike d.addSender where
  capacity := h.capacity
  queue := h.queue
  isOpen := h.isOpen
  senders := congrArg (· + 1) h.senders

theorem dropSender (h : c.Alike d) : c.dropSender.Alike d.dropSender where
  capacity := h.capacity
  queue := h.queue
  isOpen := h.isOpen
  senders := congrArg (· - 1) h.senders

theorem take? (h : c.Alike d) {c' : Channel} {o : Outcome} (hc : c.take? = some (o, c')) :
    ∃ p d', d.take? = some (p, d') ∧ o.untimed = p.untimed ∧ c'.Alike d' := by
  obtain ⟨hqueue, hc'⟩ := take?_eq_some hc
  have hmap := h.queue
  rw [hqueue, List.map_cons] at hmap
  obtain ⟨p, rest, hd, hp, hrest⟩ := List.map_eq_cons_iff.mp hmap.symm
  refine ⟨p, { d with queue := rest, past := p :: d.past }, ?_, hp.symm, ?_⟩
  · unfold Channel.take?
    rw [hd]
  · rw [hc']
    exact ⟨h.capacity, hrest.symm, h.isOpen, h.senders⟩

end Channel.Alike

/-- Two sites whose services are alike, whose channels differ at most in times, and where the same
was told as far as it is shown. -/
structure Site.Alike {σ : Type} (like : σ → σ → Prop) (shown : Event → Bool) (s t : Site σ) :
    Prop where
  service : like s.service t.service
  channel : s.channel.Alike t.channel
  log : seen shown s.log = seen shown t.log

namespace Site.Alike
variable {σ : Type} {like : σ → σ → Prop} {shown : Event → Bool} {s t : Site σ}

theorem tellAll (h : s.Alike like shown t) {es fs : List Event}
    (he : seen shown es = seen shown fs) : (s.tellAll es).Alike like shown (t.tellAll fs) where
  service := by
    rw [Site.service_tellAll, Site.service_tellAll]
    exact h.service
  channel := by
    rw [Site.channel_tellAll, Site.channel_tellAll]
    exact h.channel
  log := by rw [Site.log_tellAll, Site.log_tellAll, seen_append, seen_append, h.log, he]

theorem tell (h : s.Alike like shown t) (e : Event) :
    (s.tell e).Alike like shown (t.tell e) := h.tellAll (rfl : seen shown [e] = seen shown [e])

theorem tick (h : s.Alike like shown t) : s.tick.Alike like shown t.tick :=
  ⟨h.service, h.channel, h.log⟩

theorem release (h : s.Alike like shown t) : s.release.Alike like shown t.release :=
  ⟨h.service, h.channel.dropSender, h.log⟩

/-- The channels may be changed in the same way. -/
theorem withChannel (h : s.Alike like shown t) {c d : Channel} (hc : c.Alike d) :
    ({ s with channel := c } : Site σ).Alike like shown { t with channel := d } :=
  ⟨h.service, hc, h.log⟩

end Site.Alike

/-! ### Users -/

/-- Two phases that differ at most in times and in the bodies of requests under way. -/
inductive Phase.Alike (timed : Prop) : Phase → Phase → Prop
  | fresh : Alike timed .fresh .fresh
  | ready (ite : Nat) : Alike timed (.ready ite) (.ready ite)
  | unsent (ite : Nat) {sentAt sentAt' : Int} (fault : SendFault) :
      Alike timed (.waiting ite sentAt (.error fault)) (.waiting ite sentAt' (.error fault))
  | sent (ite : Nat) {sentAt sentAt' : Int} {f g : Flight} : f.Alike timed g →
      Alike timed (.waiting ite sentAt (.ok f)) (.waiting ite sentAt' (.ok g))
  | offering {o p : Outcome} : o.untimed = p.untimed → Alike timed (.offering o) (.offering p)
  | ended (error : Option RunError) : Alike timed (.ended error) (.ended error)

theorem User.isEnded_of_alike {timed : Prop} {u v : User} (h : u.phase.Alike timed v.phase) :
    u.isEnded = v.isEnded := by
  unfold User.isEnded
  generalize u.phase = p at h ⊢
  generalize v.phase = q at h ⊢
  cases h <;> rfl

/-- The scenario with other credentials in the bodies of its requests, and other readings of the
clock. -/
def Scenario.withBody {σ : Type} (sc : Scenario σ) (body : LoginBody) (clock : Nat → Int) :
    Scenario σ :=
  { sc with config := { sc.config with spec := { sc.config.spec with body } }, clock }

/-- A user to which the service would reply that its time limit has run out. -/
def User.TimesOut {σ : Type} (sc : Scenario σ) (rank : Nat) (u : User) (s : Site σ) : Prop :=
  ∃ ite sentAt flight reply next, u.phase = .waiting ite sentAt (.ok flight) ∧
    sc.service.reply s.service rank ite flight = some (reply, next) ∧ reply.isTimeout = true

namespace User
variable {σ : Type} {timed : Prop} {like : σ → σ → Prop} {shown : Event → Bool} {sc : Scenario σ}
  {body : LoginBody} {clock : Nat → Int} {rank : Nat} {u u' v : User} {s s' t : Site σ}

/-- The same answer arrives in both. -/
theorem answered_alike (hshown : ∀ e, shown e.untimed = shown e) (h : s.Alike like shown s')
    (ite : Nat) (sentAt sentAt' : Int) (a : Answer) :
    (answered sc rank ite sentAt a u s).1.phase.Alike timed
        (answered (sc.withBody body clock) rank ite sentAt' a u' s').1.phase ∧
      (answered sc rank ite sentAt a u s).2.Alike like shown
        (answered (sc.withBody body clock) rank ite sentAt' a u' s').2 := by
  constructor
  · exact .offering rfl
  · refine h.tick.tellAll (Event.seen_congr hshown ?_)
    rw [List.map_append, List.map_append]
    congr 1
    exact congrArg (fun e => [e]) (Outcome.event_untimed rfl)

/-- The connections of both are told of alike, and their services go on alike. -/
theorem told_alike (hv : sc.service.Overlooks timed like shown) (h : s.Alike like shown s')
    {f g : Flight} (hfg : f.Alike timed g) {next next' : σ} (hnext : like next next') :
    ({ s.tellAll ((sc.service.notices s.service rank f).map .connection) with
        service := next } : Site σ).Alike like shown
      { s'.tellAll ((sc.service.notices s'.service rank g).map .connection) with
        service := next' } := by
  have htold : seen shown ((sc.service.notices s.service rank f).map .connection) =
      seen shown ((sc.service.notices s'.service rank g).map .connection) :=
    congrArg (List.map Event.untimed) (hv.tells rank h.service hfg)
  have hsite := h.tellAll htold
  exact ⟨hnext, hsite.channel, hsite.log⟩

/-- What the service replies to one user it replies to the other, in time for both. -/
theorem reply_alike (hv : sc.service.Overlooks timed like shown) (h : s.Alike like shown s') {ite : Nat}
    {sentAt sentAt' : Int} {f g : Flight} (hf : u.phase = .waiting ite sentAt (.ok f))
    (hg : u'.phase = .waiting ite sentAt' (.ok g)) (hfg : f.Alike timed g)
    (hin : ¬ u.TimesOut sc rank s) (hin' : ¬ u'.TimesOut sc rank s') {r : Reply} {next : σ}
    (hr : sc.service.reply s.service rank ite f = some (r, next)) :
    ∃ r' next', sc.service.reply s'.service rank ite g = some (r', next') ∧ r.Alike timed r' ∧
      like next next' := by
  have hr_in : r.isTimeout = false := by
    rw [← Bool.not_eq_true]
    exact fun hlate => hin ⟨ite, sentAt, f, r, next, hf, hr, hlate⟩
  obtain ⟨r', next', hr', hlate | hlike⟩ := hv.blind h.service hfg hr hr_in
  · exact absurd ⟨ite, sentAt', g, r', next', hg, hr', hlate⟩ hin'
  · exact ⟨r', next', hr', hlike⟩

/-- Both start the request number `ite` alike. -/
theorem start_alike (spec : RequestSpec) (ite : Nat) (sentAt sentAt' : Int) :
    (Phase.waiting ite sentAt (Flight.start spec)).Alike timed
      (.waiting ite sentAt' (Flight.start { spec with body })) := by
  rcases Flight.start_alike spec body with ⟨fault, hf, hg⟩ | ⟨f, g, hf, hg, hfg⟩
  · rw [hf, hg]
    exact .unsent ite fault
  · rw [hf, hg]
    exact .sent ite hfg

/-- Whatever one user can do, the other can do as well. -/
theorem Moved.alike (hv : sc.service.Overlooks timed like shown) (hu : u.phase.Alike timed u'.phase)
    (h : s.Alike like shown s') (hin : ¬ u.TimesOut sc rank s) (hin' : ¬ u'.TimesOut sc rank s')
    (hm : Moved sc rank u s v t) :
    ∃ v' t', Moved (sc.withBody body clock) rank u' s' v' t' ∧
      v.phase.Alike timed v'.phase ∧ t.Alike like shown t' := by
  generalize hq : u'.phase = q at hu
  cases hm with
  | refused hp hc =>
      rw [hp] at hu
      cases hu
      exact ⟨_, _, .refused hq hc, .ended _, h.release⟩
  | launched hp hc =>
      rw [hp] at hu
      cases hu
      exact ⟨_, _, .launched hq hc, .ready 0, h.tell _⟩
  | @requested ite hp hi =>
      rw [hp] at hu
      cases hu
      exact ⟨_, _, .requested hq hi, start_alike _ _ _ _, h.tick⟩
  | unsent hp =>
      rw [hp] at hu
      cases hu
      exact ⟨_, _, .unsent hq, answered_alike hv.untimed h _ _ _ _⟩
  | redirected hp hr hnext =>
      rw [hp] at hu
      cases hu with
      | sent _ hfg =>
          obtain ⟨r', next', hr', hlike, hservice⟩ := reply_alike hv h hp hq hfg hin hin' hr
          have hreceive := hfg.receive hlike
          rw [hnext] at hreceive
          generalize hg : Flight.receive _ r' = progress at hreceive
          cases hreceive with
          | again hafter =>
              exact ⟨_, _, .redirected hq hr' hg, .sent _ hafter, told_alike hv h hfg hservice⟩
  | answered hp hr hdone =>
      rw [hp] at hu
      cases hu with
      | sent _ hfg =>
          obtain ⟨r', next', hr', hlike, hservice⟩ := reply_alike hv h hp hq hfg hin hin' hr
          have hreceive := hfg.receive hlike
          rw [hdone] at hreceive
          generalize hg : Flight.receive _ r' = progress at hreceive
          cases hreceive with
          | done =>
              exact ⟨_, _, .answered hq hr' hg,
                answered_alike hv.untimed (told_alike hv h hfg hservice) _ _ _ _⟩
  | turnedAway hp ho =>
      rw [hp] at hu
      cases hu
      rw [h.channel.isOpen] at ho
      exact ⟨_, _, .turnedAway hq ho, .ended _, h.release⟩
  | @accepted o hp ho hroom =>
      rw [hp] at hu
      cases hu with
      | @offering _ p hop =>
          rw [h.channel.isOpen] at ho
          rw [h.channel.hasRoom] at hroom
          have hready : Phase.Alike timed (.ready (o.untimed.ite + 1))
              (.ready (p.untimed.ite + 1)) := by
            rw [hop]
            exact .ready _
          exact ⟨_, _, .accepted hq ho hroom, hready, h.withChannel (h.channel.push hop)⟩
  | finished hp hi =>
      rw [hp] at hu
      cases hu
      exact ⟨_, _, .finished hq hi, .ended _, (h.tell _).release⟩
  | panicked hm hn =>
      rw [← hq] at hu
      rw [isEnded_of_alike hu] at hn
      exact ⟨_, _, .panicked hm hn, .ended _, h.release⟩

end User

/-! ### Alike runs -/

/-- Two desks that differ at most in the times of an outcome. -/
inductive Desk.Alike {δ : Type} : Desk δ → Desk δ → Prop
  | waiting (r : Reporter δ) : Alike (.waiting r) (.waiting r)
  | holding (r : Reporter δ) {o p : Outcome} : o.untimed = p.untimed →
      Alike (.holding r o) (.holding r p)
  | stopped (r : Reporter δ) (fault : Option WriteFault) :
      Alike (.stopped r fault) (.stopped r fault)

theorem Desk.Alike.reporter_eq {δ : Type} {d e : Desk δ} (h : d.Alike e) :
    d.reporter = e.reporter := by
  cases h <;> rfl

namespace Run
variable {σ δ : Type} {timed : Prop} {like : σ → σ → Prop} {shown : Event → Bool}
  {sc : Scenario σ} {body : LoginBody} {clock : Nat → Int} {s s' t : Run σ δ}

/-- Two runs that differ at most in times, in the bodies of requests under way, and in what their
services make of these. -/
structure Alike (timed : Prop) (like : σ → σ → Prop) (shown : Event → Bool) (s t : Run σ δ) :
    Prop where
  size : s.users.size = t.users.size
  users : ∀ (rank : Nat) (u v : User), s.users[rank]? = some u → t.users[rank]? = some v →
    u.phase.Alike timed v.phase
  site : s.site.Alike like shown t.site
  desk : s.desk.Alike t.desk
  isSpawning : s.isSpawning = t.isSpawning
  joined : s.joined = t.joined
  firstError : s.firstError = t.firstError
  result : s.result = t.result

/-- A run in which a time limit can run out next. -/
def TimesOut (sc : Scenario σ) (s : Run σ δ) : Prop :=
  ∃ (rank : Nat) (u : User), s.users[rank]? = some u ∧ u.TimesOut sc rank s.site

namespace Alike

theorem exists_user (h : s.Alike timed like shown t) {rank : Nat} {u : User}
    (hu : s.users[rank]? = some u) :
    ∃ v, t.users[rank]? = some v ∧ u.phase.Alike timed v.phase := by
  have hlt : rank < t.users.size := by
    rw [← h.size]
    exact (Array.getElem?_eq_some_iff.mp hu).1
  have hv := Array.getElem?_eq_getElem hlt
  exact ⟨_, hv, h.users rank _ _ hu hv⟩

theorem start {capacity : Nat} {service : σ} {out : δ} (hlike : like service service) :
    (Run.start sc capacity service out).Alike timed like shown
      (Run.start (sc.withBody body clock) capacity service out) where
  size := rfl
  users _ _ _ hu _ := by simp [Run.start] at hu
  site := ⟨hlike, ⟨rfl, rfl, rfl, rfl⟩, rfl⟩
  desk := .waiting _
  isSpawning := rfl
  joined := rfl
  firstError := rfl
  result := rfl

/-- The same user may be changed in both. -/
theorem withUser (h : s.Alike timed like shown t) {rank : Nat} {u u' v v' : User}
    (hu : s.users[rank]? = some u) (hu' : t.users[rank]? = some u')
    (hv : v.phase.Alike timed v'.phase) {site site' : Site σ}
    (hsite : site.Alike like shown site') :
    ({ s with site }.withUser rank v).Alike timed like shown
      ({ t with site := site' }.withUser rank v') where
  size := by simp [Run.withUser, h.size]
  users i w w' hw hw' := by
    rw [getElem?_withUser (s := { s with site }) hu] at hw
    rw [getElem?_withUser (s := { t with site := site' }) hu'] at hw'
    by_cases hi : i = rank
    · rw [if_pos hi] at hw hw'
      cases hw
      cases hw'
      exact hv
    · rw [if_neg hi] at hw hw'
      exact h.users i w w' hw hw'
  site := hsite
  desk := h.desk
  isSpawning := h.isSpawning
  joined := h.joined
  firstError := h.firstError
  result := h.result

theorem spawned (h : s.Alike timed like shown t) :
    s.spawned.Alike timed like shown t.spawned where
  size := by simp [Run.spawned, h.size]
  users i w w' hw hw' := by
    simp only [Run.spawned, Array.getElem?_push, h.size] at hw hw'
    split at hw
    · rename_i hi
      rw [if_pos hi] at hw'
      cases hw
      cases hw'
      exact .fresh
    · rename_i hi
      rw [if_neg hi] at hw'
      exact h.users i w w' hw hw'
  site := h.site.withChannel h.site.channel.addSender
  desk := h.desk
  isSpawning := h.isSpawning
  joined := h.joined
  firstError := h.firstError
  result := h.result

theorem stopped (h : s.Alike timed like shown t) (r : Reporter δ) (fault : Option WriteFault) :
    (s.stopped r fault).Alike timed like shown (t.stopped r fault) :=
  { h with site := h.site.withChannel h.site.channel.close, desk := .stopped r fault }

theorem concluded (h : s.Alike timed like shown t) (r : Reporter δ) (fault : Option WriteFault) :
    (s.concluded r fault).Alike timed like shown (t.concluded r fault) where
  size := h.size
  users := h.users
  site := by
    unfold Run.concluded
    rw [h.firstError]
    exact h.site.tellAll rfl
  desk := h.desk
  isSpawning := h.isSpawning
  joined := h.joined
  firstError := h.firstError
  result := by
    unfold Run.concluded
    rw [h.firstError]

/-- Whatever a run can do next, it can do with other credentials as well. -/
theorem stepped [Device δ] (hv : sc.service.Overlooks timed like shown)
    (h : s.Alike timed like shown t)
    (hin : ¬ s.TimesOut sc) (hin' : ¬ t.TimesOut (sc.withBody body clock))
    (hs : Stepped sc s s') :
    ∃ t', Stepped (sc.withBody body clock) t t' ∧ s'.Alike timed like shown t' := by
  have hdesk := h.desk
  generalize hd' : t.desk = desk at hdesk
  cases hs with
  | spawned hsp hlt =>
      have hsp' : t.isSpawning = true := by rw [← h.isSpawning, hsp]
      have hlt' : t.users.size < (sc.withBody body clock).config.users := by
        rw [← h.size]
        exact hlt
      exact ⟨_, .spawned hsp' hlt', h.spawned⟩
  | released hsp hsize =>
      have hsp' : t.isSpawning = true := by rw [← h.isSpawning, hsp]
      have hsize' : t.users.size = (sc.withBody body clock).config.users := by
        rw [← h.size]
        exact hsize
      exact ⟨_, .released hsp' hsize', { h with site := h.site.release, isSpawning := rfl }⟩
  | moved hu hm =>
      obtain ⟨u', hu', halike⟩ := h.exists_user hu
      obtain ⟨v', site', hm', hv', hsite⟩ := User.Moved.alike hv halike h.site
        (fun hout => hin ⟨_, _, hu, hout⟩) (fun hout => hin' ⟨_, _, hu', hout⟩) hm
      exact ⟨_, .moved hu' hm', h.withUser hu hu' hv' hsite⟩
  | cancelled hu he hn =>
      obtain ⟨u', hu', halike⟩ := h.exists_user hu
      rw [h.firstError] at he
      rw [User.isEnded_of_alike halike] at hn
      exact ⟨_, .cancelled hu' he hn, h.withUser hu hu' (.ended _) h.site.release⟩
  | took hd ht =>
      rw [hd] at hdesk
      cases hdesk
      obtain ⟨p, channel', ht', hop, hchannel⟩ := h.site.channel.take? ht
      exact ⟨_, .took hd' ht',
        { h with site := h.site.withChannel hchannel, desk := .holding _ hop }⟩
  | wrote hd hr =>
      rw [hd] at hdesk
      cases hdesk with
      | holding r hop =>
          rw [Reporter.record_untimed hop] at hr
          exact ⟨_, .wrote hd' hr, { h with desk := .waiting _ }⟩
  | failed hd hr =>
      rw [hd] at hdesk
      cases hdesk with
      | holding r hop =>
          rw [Reporter.record_untimed hop] at hr
          exact ⟨_, .failed hd' hr, h.stopped _ _⟩
  | closed hd hx =>
      rw [hd] at hdesk
      cases hdesk
      rw [h.site.channel.isExhausted] at hx
      exact ⟨_, .closed hd' hx, h.stopped _ _⟩
  | @joined rank u error hsp hu hp hj =>
      obtain ⟨u', hu', halike⟩ := h.exists_user hu
      rw [hp] at halike
      generalize hp' : u'.phase = p at halike
      cases halike
      have hsp' : t.isSpawning = false := by rw [← h.isSpawning, hsp]
      have hj' : rank ∉ t.joined := by rwa [← h.joined]
      refine ⟨_, .joined hsp' hu' hp' hj', ?_⟩
      exact { h with joined := by rw [h.joined], firstError := by rw [h.firstError] }
  | concluded hd hsp hj hr =>
      rw [hd] at hdesk
      cases hdesk
      have hsp' : t.isSpawning = false := by rw [← h.isSpawning, hsp]
      have hj' : t.joined.length = t.users.size := by rw [← h.joined, ← h.size, hj]
      have hr' : t.result = none := by rw [← h.result, hr]
      exact ⟨_, .concluded hd' hsp' hj' hr', h.concluded _ _⟩

end Alike
end Run
end LoginLoad
