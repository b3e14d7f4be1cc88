import Mathlib.Data.Bool.Basic
import Mathlib.Order.OrderIsoNat
import LoginLoad.Proofs.Flights
import LoginLoad.Proofs.Run.Termination
import LoginLoad.Solo

/-! # One user and any receiver

What a receiver gets of a user, and how far the user runs ahead of a receiver that goes away.  The
receiver takes some number of outcomes and is then gone; the two take their steps in any order.

The requests of the user return whatever they return (`Scenario.Returns`); the exchanges of one
request are carried to this answer whatever the receiver does between them.  So where the user stands
determines what it has handed over and what comes next (`Phase.Stage`), and one move of the user
keeps it there (`User.Moved.stage`).  Together with what the channel and the receiver know of each
other this holds in every state (`Solo.Sound`, `Solo.Reachable.sound`).

Every step lessens the work that is left (`Solo.Stepped.workLeft_lt`), and only where the user has
ended and the receiver has got all that it can get is no step open (`Solo.Sound.settled`).
`user_against_receiver` puts this together. -/

namespace LoginLoad

/-! ### What the requests of a user return -/

/-- The client of a user can be built, the user does not panic, and its requests, sent one after
another, return the given answers; the given states are those of the service between them. -/
structure Scenario.Returns {σ : Type} (sc : Scenario σ) (rank : Nat) (states : Nat → σ)
    (answers : Nat → Answer) : Prop where
  launches : sc.clientFault rank = none
  calm : sc.mayPanic rank = false
  returns : ∀ ite < sc.config.requestsPerUser, ∃ told,
    sc.service.send (states ite) rank ite sc.config.spec = some (answers ite, told, states (ite + 1))

namespace Service
variable {σ : Type} {v : Service σ} {s next : σ} {rank ite : Nat} {told after : List Notice}
  {f : Flight} {a : Answer}

/-- A flight that is carried to an answer gets a reply, and does not wait for the end of a body that
never ends. -/
theorem exists_reply_of_carry (h : v.carry s rank ite told f = some (a, after, next)) :
    ∃ r service, v.reply s rank ite f = some (r, service) ∧ f.receive r ≠ .endless := by
  cases hr : v.reply s rank ite f with
  | none =>
      rw [carry_silent hr] at h
      cases h
  | some p =>
      obtain ⟨r, service⟩ := p
      refine ⟨r, service, rfl, ?_⟩
      intro he
      rw [carry_endless hr he] at h
      cases h

end Service

/-! ### The stages of a user -/

/-- Where a user stands that has handed over `n` outcomes and started some requests, and what is then
known of its next outcome: the exchanges that are left lead to the answer of the request. -/
def Phase.Stage {σ : Type} (sc : Scenario σ) (rank : Nat) (states : Nat → σ)
    (answers : Nat → Answer) (n started : Nat) (service : σ) : Phase → Prop
  | .fresh => n = 0 ∧ started = 0 ∧ service = states 0
  | .ready ite =>
    n = ite ∧ started = ite ∧ ite ≤ sc.config.requestsPerUser ∧ service = states ite
  | .waiting ite _ attempt =>
    n = ite ∧ started = ite + 1 ∧ ite < sc.config.requestsPerUser ∧
      match attempt with
      | .error fault =>
        answers ite = { status := .failed fault.toRequestFault } ∧ service = states (ite + 1)
      | .ok f =>
        ∃ told after, sc.service.carry service rank ite told f =
          some (answers ite, after, states (ite + 1))
  | .offering o =>
    n = o.ite ∧ started = o.ite + 1 ∧ o.ite < sc.config.requestsPerUser ∧
      service = states (o.ite + 1) ∧ o.rank = rank ∧ o.status = (answers o.ite).status
  | .ended none => n = sc.config.requestsPerUser ∧ started = sc.config.requestsPerUser
  | .ended (some .reporterClosed) => n < sc.config.requestsPerUser ∧ started = n + 1
  | .ended (some _) => False

section stages
variable {σ : Type} {sc : Scenario σ} {rank n started : Nat} {states : Nat → σ}
  {answers : Nat → Answer} {service : σ} {p : Phase}

/-- At every stage the user has started the requests whose outcomes it has handed over, and at most
one more. -/
theorem Phase.Stage.started_bounds (h : p.Stage sc rank states answers n started service) :
    n ≤ started ∧ started ≤ n + 1 ∧ started ≤ sc.config.requestsPerUser := by
  match p, h with
  | .fresh, ⟨hn, hs, _⟩ => omega
  | .ready _, ⟨hn, hs, hle, _⟩ => omega
  | .waiting .., ⟨hn, hs, hlt, _⟩ => omega
  | .offering _, ⟨hn, hs, hlt, _⟩ => omega
  | .ended none, ⟨hn, hs⟩ => omega
  | .ended (some .reporterClosed), ⟨hn, hs⟩ => omega

/-- A request that is started leads to its answer. -/
theorem Phase.Stage.requested (hret : sc.Returns rank states answers) (sentAt : Int)
    (hlt : n < sc.config.requestsPerUser) :
    (Phase.waiting n sentAt (Flight.start sc.config.spec)).Stage sc rank states answers n (n + 1)
      (states n) := by
  obtain ⟨told, hsend⟩ := hret.returns n hlt
  unfold Service.send at hsend
  refine ⟨rfl, rfl, hlt, ?_⟩
  cases hf : Flight.start sc.config.spec with
  | error fault =>
      rw [hf] at hsend
      have hpair := Option.some.inj hsend
      exact ⟨(congrArg Prod.fst hpair).symm, congrArg (·.2.2) hpair⟩
  | ok f =>
      rw [hf] at hsend
      exact ⟨[], told, hsend⟩

/-- The answer to a request is offered. -/
theorem Phase.Stage.answered {u : User} {s : Site σ} {sentAt : Int} {a : Answer}
    (hlt : n < sc.config.requestsPerUser) (hstarted : u.started = n + 1)
    (hservice : s.service = states (n + 1)) (ha : a = answers n) :
    (User.answered sc rank n sentAt a u s).1.phase.Stage sc rank states answers n
      (User.answered sc rank n sentAt a u s).1.started
      (User.answered sc rank n sentAt a u s).2.service := by
  have hafter : (User.answered sc rank n sentAt a u s).2.service = s.service := by
    unfold User.answered
    exact Site.service_tellAll _ _
  rw [hafter, hservice]
  subst ha
  exact ⟨rfl, hstarted, hlt, rfl, rfl, rfl⟩

end stages

namespace User
variable {σ : Type} {sc : Scenario σ} {rank n : Nat} {states : Nat → σ} {answers : Nat → Answer}
  {u v : User} {s t : Site σ}

/-- A move takes the user from stage to stage: it hands over nothing, or the outcome of its next
request. -/
theorem Moved.stage (h : Moved sc rank u s v t) (hret : sc.Returns rank states answers)
    (hu : u.phase.Stage sc rank states answers n u.started s.service) :
    (t.channel.sent = s.channel.sent ∧
        v.phase.Stage sc rank states answers n v.started t.service) ∨
      ∃ o : Outcome, t.channel.sent = s.channel.sent ++ [o] ∧ o.rank = rank ∧ o.ite = n ∧
        o.status = (answers n).status ∧
        v.phase.Stage sc rank states answers (n + 1) v.started t.service := by
  cases h with
  | refused _ hc =>
      rw [hret.launches] at hc
      cases hc
  | launched hp _ =>
      rw [hp] at hu
      obtain ⟨hn, hstarted, hservice⟩ := hu
      left
      refine ⟨by simp, hn, hstarted, Nat.zero_le _, ?_⟩
      exact hservice
  | requested hp hi =>
      rw [hp] at hu
      obtain ⟨rfl, hstarted, _, hservice⟩ := hu
      left
      refine ⟨rfl, ?_⟩
      show Phase.Stage sc rank states answers n (u.started + 1) s.service _
      rw [hstarted, hservice]
      exact .requested hret _ hi
  | unsent hp =>
      rw [hp] at hu
      obtain ⟨rfl, hstarted, hlt, hanswer, hservice⟩ := hu
      left
      exact ⟨by simp [User.answered, Site.tick], .answered hlt hstarted hservice hanswer.symm⟩
  | redirected hp hr hf =>
      rw [hp] at hu
      obtain ⟨rfl, hstarted, hlt, told, after, hcarry⟩ := hu
      left
      rw [Service.carry_again hr hf] at hcarry
      exact ⟨by simp, rfl, hstarted, hlt, _, after, hcarry⟩
  | answered hp hr hf =>
      rw [hp] at hu
      obtain ⟨rfl, hstarted, hlt, told, after, hcarry⟩ := hu
      left
      rw [Service.carry_done hr hf] at hcarry
      have hpair := Option.some.inj hcarry
      have ha := congrArg Prod.fst hpair
      have hservice := congrArg (·.2.2) hpair
      exact ⟨by simp [User.answered, Site.tick], .answered hlt hstarted hservice ha⟩
  | turnedAway hp _ =>
      rw [hp] at hu
      obtain ⟨rfl, hstarted, hlt, _⟩ := hu
      left
      exact ⟨rfl, hlt, hstarted⟩
  | @accepted o hp _ _ =>
      rw [hp] at hu
      obtain ⟨rfl, hstarted, hlt, hservice, hrank, hstatus⟩ := hu
      right
      exact ⟨o, Channel.sent_push _ _, hrank, rfl, hstatus, rfl, hstarted, hlt, hservice⟩
  | finished hp hi =>
      rw [hp] at hu
      obtain ⟨rfl, hstarted, hle, _⟩ := hu
      have hall : n = sc.config.requestsPerUser := by omega
      left
      refine ⟨by simp [Site.release], hall, ?_⟩
      exact hstarted.trans hall
  | panicked hm _ =>
      rw [hret.calm] at hm
      cases hm

/-- A user that waits for a reply gets one, and the body of the response ends. -/
theorem exists_reply {ite : Nat} {sentAt : Int} {f : Flight}
    (hu : u.phase.Stage sc rank states answers n u.started s.service)
    (hp : u.phase = .waiting ite sentAt (.ok f)) :
    ∃ r service, sc.service.reply s.service rank ite f = some (r, service) ∧
      f.receive r ≠ .endless := by
  rw [hp] at hu
  obtain ⟨_, _, _, _, _, hcarry⟩ := hu
  exact Service.exists_reply_of_carry hcarry

end User

/-! ### The steps of the two -/

/-- Whose outcome it is, of which request, and what the request came to. -/
def Outcome.mark (o : Outcome) : Nat × Nat × Status := (o.rank, o.ite, o.status)

/-- The marks of the outcomes of the first `n` requests of a user that return the given answers. -/
def Outcome.firstMarks (rank : Nat) (answers : Nat → Answer) (n : Nat) : List (Nat × Nat × Status) :=
  (List.range n).map fun ite => (rank, ite, (answers ite).status)

theorem Outcome.firstMarks_succ (rank : Nat) (answers : Nat → Answer) (n : Nat) :
    firstMarks rank answers (n + 1) =
      firstMarks rank answers n ++ [(rank, n, (answers n).status)] := by
  unfold firstMarks
  rw [List.range_succ, List.map_append, List.map_singleton]

theorem Outcome.take_firstMarks {rank : Nat} {answers : Nat → Answer} {m n : Nat} (h : m ≤ n) :
    (firstMarks rank answers n).take m = firstMarks rank answers m := by
  unfold firstMarks
  rw [← List.map_take, List.take_range, Nat.min_eq_left h]

/-- A user that was turned away found the channel closed. -/
theorem User.Moved.closed_of_turnedAway {σ : Type} {sc : Scenario σ} {rank : Nat} {u v : User}
    {s t : Site σ} (h : Moved sc rank u s v t) (hv : v.phase = .ended (some .reporterClosed)) :
    t.channel.isOpen = false := by
  cases h with
  | turnedAway _ ho => exact ho
  | _ => cases hv

/-- A move leaves the channel as it is for the receiver, but may put an outcome in it if there is
room. -/
theorem User.Moved.channel_eq {σ : Type} {sc : Scenario σ} {rank : Nat} {u v : User}
    {s t : Site σ} (h : Moved sc rank u s v t) :
    t.channel.taken = s.channel.taken ∧ t.channel.isOpen = s.channel.isOpen ∧
      t.channel.capacity = s.channel.capacity ∧ s.channel.held ≤ t.channel.held ∧
      (s.channel.held ≤ s.channel.capacity → t.channel.held ≤ t.channel.capacity) := by
  rcases h.channel with ⟨_, hc⟩ | ⟨_, o, _, _, _, hroom, hc⟩ | ⟨_, hc⟩
  · rw [hc]
    exact ⟨rfl, rfl, rfl, Nat.le_refl _, id⟩
  · rw [hc, Channel.held_push]
    exact ⟨rfl, rfl, rfl, Nat.le_succ _, fun _ => (Channel.hasRoom_iff _).mp hroom⟩
  · rw [hc]
    exact ⟨rfl, rfl, rfl, Nat.le_refl _, id⟩

namespace Solo
variable {σ : Type}

/-- What one step may make of a user and a receiver. -/
inductive Stepped (sc : Scenario σ) (rank : Nat) (wanted : Option Nat) (s : Solo σ) :
    Solo σ → Prop
  | moved {u : User} {site : Site σ} : s.user.Moved sc rank s.site u site →
      Stepped sc rank wanted s { user := u, site }
  | took {o : Outcome} {channel : Channel} : s.isSated wanted = false →
      s.site.channel.take? = some (o, channel) →
      Stepped sc rank wanted s { s with site := { s.site with channel } }
  | left : s.isSated wanted = true → s.site.channel.isOpen = true →
      Stepped sc rank wanted s { s with site := { s.site with channel := s.site.channel.close } }

section steps
variable {sc : Scenario σ} {rank : Nat} {wanted : Option Nat} {s t : Solo σ}

theorem stepped_of_step? {label : Label} (h : s.step? sc rank wanted label = some t) :
    Stepped sc rank wanted s t := by
  cases label with
  | user move =>
      obtain ⟨⟨u, site⟩, hm, rfl⟩ := Option.map_eq_some_iff.mp h
      exact .moved (User.moved_of_step? hm)
  | take =>
      simp only [step?] at h
      split at h
      · cases h
      · rename_i hsated
        obtain ⟨⟨o, channel⟩, ht, rfl⟩ := Option.map_eq_some_iff.mp h
        exact .took (Bool.eq_false_of_not_eq_true hsated) ht
  | leave =>
      simp only [step?] at h
      split at h
      · rename_i hg
        obtain ⟨hsated, hopen⟩ := Bool.and_eq_true_iff.mp hg
        cases h
        exact .left hsated hopen
      · cases h

theorem Stepped.exists_step? (h : Stepped sc rank wanted s t) :
    ∃ label, s.step? sc rank wanted label = some t := by
  cases h with
  | moved hm =>
      obtain ⟨move, hmove⟩ := hm.exists_step?
      exact ⟨.user move, by simp [step?, hmove]⟩
  | took hsated ht => exact ⟨.take, by simp [step?, hsated, ht]⟩
  | left hsated hopen => exact ⟨.leave, by simp [step?, hsated, hopen]⟩

/-- A user that has ended stays as it is. -/
theorem Stepped.user_eq (h : Stepped sc rank wanted s t) (hn : s.user.isEnded = true) :
    t.user = s.user := by
  cases h with
  | moved hm =>
      rw [hm.not_ended] at hn
      cases hn
  | took | left => rfl

/-! ### The work that is left -/

/-- The most steps of the two that are left: those of the user, taking what the channel holds, and
going away. -/
def workLeft (sc : Scenario σ) (s : Solo σ) : Nat :=
  s.user.work sc.config.requestsPerUser + s.site.channel.held + s.site.channel.isOpen.toNat

/-- Every step lessens the work that is left. -/
theorem Stepped.workLeft_lt (h : Stepped sc rank wanted s t) : t.workLeft sc < s.workLeft sc := by
  unfold workLeft
  cases h with
  | @moved u site hm =>
      have hwork := hm.work_lt
      obtain ⟨_, hopen, _, hheld, _⟩ := hm.channel_eq
      show u.work _ + site.channel.held + site.channel.isOpen.toNat < _
      rw [hopen]
      omega
  | took _ ht =>
      obtain ⟨hq, hc⟩ := Channel.take?_eq_some ht
      have hheld : s.site.channel.held = Channel.held _ + 1 := congrArg List.length hq
      rw [hc] at hheld ⊢
      show _ + Channel.held _ + Bool.toNat s.site.channel.isOpen < _
      rw [hheld]
      exact Nat.add_lt_add_right (Nat.lt_succ_self _) _
  | left _ hopen =>
      show _ + s.site.channel.held + Bool.toNat false < _
      rw [hopen]
      exact Nat.lt_succ_self _

/-- No order of steps goes on for ever. -/
theorem not_forall_step (path : Nat → Solo σ) :
    ¬ ∀ n, ∃ label, (path n).step? sc rank wanted label = some (path (n + 1)) := by
  intro hpath
  have hanti : StrictAnti fun n => (path n).workLeft sc := by
    refine strictAnti_nat_of_succ_lt fun n => ?_
    obtain ⟨label, hl⟩ := hpath n
    exact (stepped_of_step? hl).workLeft_lt
  exact not_strictAnti_of_wellFoundedLT _ hanti

end steps

/-! ### What the two know of each other -/

/-- What is known of a user, the channel and a receiver that wants `k` outcomes. -/
structure Sound (sc : Scenario σ) (rank : Nat) (states : Nat → σ) (answers : Nat → Answer)
    (k capacity : Nat) (s : Solo σ) : Prop where
  stage : s.user.phase.Stage sc rank states answers s.site.channel.sent.length s.user.started
    s.site.service
  marks : s.site.channel.sent.map Outcome.mark =
    Outcome.firstMarks rank answers s.site.channel.sent.length
  capacity_eq : s.site.channel.capacity = capacity
  held_le : s.site.channel.held ≤ s.site.channel.capacity
  received_le : s.received.length ≤ k
  sated_of_closed : s.site.channel.isOpen = false → s.received.length = k
  closed_of_turnedAway : s.user.phase = .ended (some .reporterClosed) →
    s.site.channel.isOpen = false

section sound
variable {sc : Scenario σ} {rank k capacity : Nat} {states : Nat → σ} {answers : Nat → Answer}
  {s t : Solo σ}

theorem isSated_iff : s.isSated (some k) = true ↔ k ≤ s.received.length := by
  simp [isSated]

theorem lt_of_not_isSated (h : s.isSated (some k) = false) : s.received.length < k := by
  by_contra hge
  rw [isSated_iff.mpr (Nat.le_of_not_lt hge)] at h
  cases h

namespace Sound

theorem start : (start capacity (states 0)).Sound sc rank states answers k capacity where
  stage := ⟨rfl, rfl, rfl⟩
  marks := rfl
  capacity_eq := rfl
  held_le := Nat.zero_le _
  received_le := Nat.zero_le _
  sated_of_closed h := by cases h
  closed_of_turnedAway h := by cases h

/-- A move of the user. -/
theorem moved (h : s.Sound sc rank states answers k capacity) (hret : sc.Returns rank states answers)
    {u : User} {site : Site σ} (hm : s.user.Moved sc rank s.site u site) :
    Sound sc rank states answers k capacity { user := u, site } := by
  obtain ⟨htaken, hopen, hcapacity, _, hheld⟩ := hm.channel_eq
  have hreceived : site.channel.taken.length = s.received.length := congrArg List.length htaken
  have hsent : site.channel.sent = s.site.channel.sent ∧ u.phase.Stage sc rank states answers
        s.site.channel.sent.length u.started site.service ∨
      ∃ o : Outcome, site.channel.sent = s.site.channel.sent ++ [o] ∧ o.rank = rank ∧
        o.ite = s.site.channel.sent.length ∧
        o.status = (answers s.site.channel.sent.length).status ∧
        u.phase.Stage sc rank states answers (s.site.channel.sent.length + 1) u.started
          site.service := hm.stage hret h.stage
  refine {
    stage := ?_
    marks := ?_
    capacity_eq := hcapacity.trans h.capacity_eq
    held_le := hheld h.held_le
    received_le := hreceived ▸ h.received_le
    sated_of_closed := fun hc => hreceived.trans (h.sated_of_closed (hopen ▸ hc))
    closed_of_turnedAway := fun hp => hm.closed_of_turnedAway hp }
  · show u.phase.Stage sc rank states answers site.channel.sent.length u.started site.service
    rcases hsent with ⟨heq, hstage⟩ | ⟨o, heq, _, _, _, hstage⟩
    · rw [heq]
      exact hstage
    · rw [heq, List.length_append]
      exact hstage
  · show site.channel.sent.map Outcome.mark =
      Outcome.firstMarks rank answers site.channel.sent.length
    rcases hsent with ⟨heq, _⟩ | ⟨o, heq, hrank, hite, hstatus, _⟩
    · rw [heq]
      exact h.marks
    · rw [heq, List.map_append, List.length_append, List.length_singleton, h.marks,
        Outcome.firstMarks_succ, List.map_singleton, Outcome.mark, hrank, hite, hstatus]

theorem stepped (h : s.Sound sc rank states answers k capacity)
    (hret : sc.Returns rank states answers) (hs : Stepped sc rank (some k) s t) :
    t.Sound sc rank states answers k capacity := by
  cases hs with
  | moved hm => exact h.moved hret hm
  | @took o channel hsated ht =>
      have hsent : channel.sent = s.site.channel.sent := Channel.sent_take? ht
      have htaken : channel.taken.length = s.received.length + 1 := by
        rw [Channel.taken_take? ht, List.length_append]
        rfl
      have hlt := lt_of_not_isSated hsated
      obtain ⟨hq, hc⟩ := Channel.take?_eq_some ht
      have hheld : s.site.channel.held = channel.held + 1 := congrArg List.length hq
      have hcapacity : channel.capacity = s.site.channel.capacity := by rw [hc]
      have hopen : channel.isOpen = s.site.channel.isOpen := by rw [hc]
      refine {
        stage := hsent.symm ▸ h.stage
        marks := hsent.symm ▸ h.marks
        capacity_eq := hcapacity.trans h.capacity_eq
        held_le := ?_
        received_le := ?_
        sated_of_closed := ?_
        closed_of_turnedAway := fun hp => hopen.trans (h.closed_of_turnedAway hp) }
      · show channel.held ≤ channel.capacity
        have := h.held_le
        omega
      · show channel.taken.length ≤ k
        omega
      · -- the channel is closed only after the receiver has taken all that it wants
        intro hclosed
        have := h.sated_of_closed (hopen ▸ hclosed)
        omega
  | left hsated _ =>
      have hle := isSated_iff.mp hsated
      exact { h with
        sated_of_closed := fun _ => Nat.le_antisymm h.received_le hle
        closed_of_turnedAway := fun _ => rfl }

end Sound

theorem Reachable.sound (hret : sc.Returns rank states answers)
    (h : Reachable sc rank (some k) capacity (states 0) s) :
    s.Sound sc rank states answers k capacity := by
  induction h with
  | start => exact .start
  | step label _ hl ih => exact ih.stepped hret (stepped_of_step? hl)

/-! ### What the receiver gets, and how the user ends -/

/-- Where the receiver can do nothing it is gone, or it waits at an empty channel. -/
theorem closed_or_empty (hno : ∀ t, ¬ Stepped sc rank (some k) s t) :
    s.site.channel.isOpen = false ∨ s.received.length < k ∧ s.site.channel.queue = [] := by
  cases hopen : s.site.channel.isOpen with
  | false => exact .inl rfl
  | true =>
      right
      have hsated : s.isSated (some k) = false := by
        by_contra hne
        exact hno _ (.left (Bool.eq_true_of_not_eq_false hne) hopen)
      refine ⟨lt_of_not_isSated hsated, ?_⟩
      cases hq : s.site.channel.queue with
      | nil => rfl
      | cons o rest => exact absurd (.took hsated (Channel.take?_of_queue_eq_cons hq)) (hno _)

namespace Sound

/-- What the receiver has got are the first outcomes of the user. -/
theorem received (h : s.Sound sc rank states answers k capacity) :
    s.received.length ≤ min k sc.config.requestsPerUser ∧
      s.received.map Outcome.mark = Outcome.firstMarks rank answers s.received.length := by
  have hprefix : s.received <+: s.site.channel.sent := s.site.channel.taken_prefix_sent
  have hle := hprefix.length_le
  constructor
  · have hstage := h.stage.started_bounds
    have := h.received_le
    omega
  · calc s.received.map Outcome.mark
        = (s.site.channel.sent.map Outcome.mark).take s.received.length := by
          rw [← List.map_take, ← List.prefix_iff_eq_take.mp hprefix]
      _ = Outcome.firstMarks rank answers s.received.length := by
          rw [h.marks, Outcome.take_firstMarks hle]

/-- A user that has ended made all its requests, which the receiver has taken or the channel holds;
or it was turned away with one outcome more than these. -/
theorem ended_cases (h : s.Sound sc rank states answers k capacity) {error : Option RunError}
    (hp : s.user.phase = .ended error) :
    error = none ∧ s.user.started = sc.config.requestsPerUser ∧
        sc.config.requestsPerUser ≤ k + capacity ∨
      error = some .reporterClosed ∧ k < sc.config.requestsPerUser ∧ k + 1 ≤ s.user.started ∧
        s.user.started ≤ min sc.config.requestsPerUser (k + capacity + 1) := by
  have hlength : s.site.channel.sent.length = s.received.length + s.site.channel.held :=
    s.site.channel.length_sent
  have hreceived := h.received_le
  have hheld := h.held_le
  rw [h.capacity_eq] at hheld
  have hstage := h.stage
  rw [hp] at hstage
  match error, hstage with
  | none, ⟨hn, hstarted⟩ =>
      left
      refine ⟨rfl, hstarted, ?_⟩
      omega
  | some .reporterClosed, ⟨hn, hstarted⟩ =>
      right
      have hall := h.sated_of_closed (h.closed_of_turnedAway hp)
      refine ⟨rfl, ?_, ?_, ?_⟩ <;> omega

/-- Where no step is open the user has ended, and the receiver has got all that it wants or all that
there is. -/
theorem settled (h : s.Sound sc rank states answers k capacity) (hcap : 1 ≤ capacity)
    (hno : ∀ t, ¬ Stepped sc rank (some k) s t) :
    s.user.isEnded = true ∧ s.received.length = min k sc.config.requestsPerUser := by
  have hreceiver := closed_or_empty hno
  have hended : s.user.isEnded = true := by
    by_contra hne
    have hroom : s.site.channel.isOpen = true → s.site.channel.hasRoom = true := by
      intro hopen
      rcases hreceiver with hclosed | ⟨_, hempty⟩
      · rw [hopen] at hclosed
        cases hclosed
      · exact Channel.hasRoom_of_queue_eq_nil hempty (by rw [h.capacity_eq]; exact hcap)
    obtain ⟨u, site, hm⟩ := User.exists_moved (Bool.eq_false_of_not_eq_true hne)
      (fun ite sentAt f hp => User.exists_reply h.stage hp) hroom
    exact hno _ (.moved hm)
  refine ⟨hended, ?_⟩
  obtain ⟨error, hp⟩ := User.isEnded_iff.mp hended
  have hbounds := h.stage.started_bounds
  rcases hreceiver with hclosed | ⟨hfew, hempty⟩
  · have hall := h.sated_of_closed hclosed
    have hlength : s.site.channel.sent.length = s.received.length + s.site.channel.held :=
      s.site.channel.length_sent
    omega
  · -- the channel is open, so the user was not turned away and has handed over everything
    have hsent : s.site.channel.sent.length = s.received.length :=
      congrArg List.length (Channel.sent_of_queue_eq_nil hempty)
    rcases h.ended_cases hp with ⟨rfl, _⟩ | ⟨rfl, _⟩
    · have hstage := h.stage
      rw [hp] at hstage
      have hn : s.site.channel.sent.length = sc.config.requestsPerUser := hstage.1
      omega
    · have hall := h.sated_of_closed (h.closed_of_turnedAway hp)
      omega

end Sound
end sound

/-! ### The order of the turns -/

section turns
variable {sc : Scenario σ} {rank : Nat} {wanted : Option Nat} {s t : Solo σ} {service : σ}
  {capacity : Nat}

theorem next?_step {receiving : Bool} {label : Label}
    (h : s.next? sc rank wanted receiving = some (label, t)) :
    s.step? sc rank wanted label = some t := by
  obtain ⟨tried, _, hl⟩ := List.exists_of_findSome?_eq_some h
  obtain ⟨t', ht, heq⟩ := Option.map_eq_some_iff.mp hl
  cases heq
  exact ht

/-- Of a user that does not panic every step is tried. -/
theorem step?_eq_none_of_next? {receiving : Bool} (hcalm : sc.mayPanic rank = false)
    (h : s.next? sc rank wanted receiving = none) (label : Label) :
    s.step? sc rank wanted label = none := by
  by_cases hpanic : label = .user .panic
  · subst hpanic
    simp [step?, User.step?, hcalm]
  · have hmem : label ∈ candidates receiving := by
      cases label with
      | user move => cases move <;> cases receiving <;> first | contradiction | decide
      | take | leave => cases receiving <;> decide
    have := List.findSome?_eq_none_iff.mp h label hmem
    exact Option.map_eq_none_iff.mp this

theorem Reachable.driveFor (h : Reachable sc rank wanted capacity service s) (turn : Turn)
    (fuel : Nat) :
    Reachable sc rank wanted capacity service (s.driveFor sc rank wanted turn fuel) := by
  induction fuel generalizing turn s with
  | zero => exact h
  | succ fuel ih =>
      rw [Solo.driveFor]
      cases hn : s.next? sc rank wanted turn.receiving with
      | none => exact h
      | some p =>
          obtain ⟨label, t⟩ := p
          exact ih (.step label h (next?_step hn)) _

/-- As many steps as there may be are enough. -/
theorem driveFor_done (hcalm : sc.mayPanic rank = false) (turn : Turn) {fuel : Nat}
    (h : s.workLeft sc ≤ fuel) (label : Label) :
    (s.driveFor sc rank wanted turn fuel).step? sc rank wanted label = none := by
  induction fuel generalizing turn s with
  | zero =>
      rw [Solo.driveFor]
      cases hl : s.step? sc rank wanted label with
      | none => rfl
      | some t =>
          have := (stepped_of_step? hl).workLeft_lt
          omega
  | succ fuel ih =>
      rw [Solo.driveFor]
      cases hn : s.next? sc rank wanted turn.receiving with
      | none => exact step?_eq_none_of_next? hcalm hn label
      | some p =>
          obtain ⟨next, t⟩ := p
          have := (stepped_of_step? (next?_step hn)).workLeft_lt
          exact ih _ (by omega)

theorem drive_done (hcalm : sc.mayPanic rank = false) (label : Label) :
    (s.drive sc rank wanted).step? sc rank wanted label = none := by
  refine driveFor_done hcalm _ ?_ label
  unfold workLeft
  have := Bool.toNat_le s.site.channel.isOpen
  omega

end turns

/-- Take a user of `R` requests that return whatever they return, a channel with room for at least
one outcome, and a receiver that takes `k` outcomes and is then gone, at any time.  In every state,
whatever the order of the steps:

* the receiver has got outcomes of the user's first requests, in order, each with the status that
  its own request returned, and no more than `k`;
* the user has started the requests whose outcomes it has handed over, and at most one more;
* if it has ended, it either made all its requests, which then are no more than `k` and the
  channel's capacity, or it was turned away after `k + 1` requests at least, and one more than `k` and
  the capacity at most; and it never changes again;
* if no step is open, it has ended and the receiver has got all that it wants or all that there is;
  where it wants all, the user was not turned away.

No order of steps goes on for ever, and the turns of `Solo.drive` come to a state in which no step is
open. -/
theorem user_against_receiver {sc : Scenario σ} {rank k capacity : Nat} {states : Nat → σ}
    {answers : Nat → Answer} (hcap : 1 ≤ capacity) (hret : sc.Returns rank states answers) :
    (∀ s, Reachable sc rank (some k) capacity (states 0) s →
      s.received.length ≤ min k sc.config.requestsPerUser ∧
      s.received.map Outcome.mark = Outcome.firstMarks rank answers s.received.length ∧
      s.site.channel.sent.length ≤ s.user.started ∧
      s.user.started ≤ s.site.channel.sent.length + 1 ∧
      (∀ error, s.user.phase = .ended error →
        error = none ∧ s.user.started = sc.config.requestsPerUser ∧
            sc.config.requestsPerUser ≤ k + capacity ∨
          error = some .reporterClosed ∧ k < sc.config.requestsPerUser ∧
            k + 1 ≤ s.user.started ∧
            s.user.started ≤ min sc.config.requestsPerUser (k + capacity + 1)) ∧
      (s.user.isEnded = true → ∀ label t, s.step? sc rank (some k) label = some t →
        t.user = s.user) ∧
      ((∀ label, s.step? sc rank (some k) label = none) →
        s.user.isEnded = true ∧
        s.received.map Outcome.mark =
          Outcome.firstMarks rank answers (min k sc.config.requestsPerUser) ∧
        (sc.config.requestsPerUser ≤ k → s.user.phase = .ended none))) ∧
    (¬ ∃ path : Nat → Solo σ, path 0 = start capacity (states 0) ∧
      ∀ n, ∃ label, (path n).step? sc rank (some k) label = some (path (n + 1))) ∧
    Reachable sc rank (some k) capacity (states 0)
      ((start capacity (states 0)).drive sc rank (some k)) ∧
    ∀ label, ((start capacity (states 0)).drive sc rank (some k)).step? sc rank (some k) label =
      none := by
  refine ⟨fun s h => ?_, ?_, Reachable.start.driveFor _ _, drive_done hret.calm⟩
  · have hs := h.sound hret
    obtain ⟨hfew, hmarks⟩ := hs.received
    obtain ⟨hstarted, hmore, _⟩ := hs.stage.started_bounds
    refine ⟨hfew, hmarks, hstarted, hmore, fun error hp => hs.ended_cases hp, ?_, ?_⟩
    · intro hended label t hl
      exact (stepped_of_step? hl).user_eq hended
    · intro hno
      have hstuck : ∀ t, ¬ Stepped sc rank (some k) s t := by
        intro t ht
        obtain ⟨label, hl⟩ := ht.exists_step?
        rw [hno label] at hl
        cases hl
      obtain ⟨hended, hall⟩ := hs.settled hcap hstuck
      refine ⟨hended, hall ▸ hmarks, fun hle => ?_⟩
      obtain ⟨error, hp⟩ := User.isEnded_iff.mp hended
      rcases hs.ended_cases hp with ⟨rfl, _⟩ | ⟨_, hlt, _⟩
      · exact hp
      · exact absurd hle (Nat.not_le_of_lt hlt)
  · rintro ⟨path, _, hpath⟩
    exact not_forall_step path hpath

/-- A user of four requests, the second of which runs out of time. -/
def oneTimeout : Scenario Unit where
  config := { users := 1, requestsPerUser := 4 }
  service := {
    reply := fun s _ ite _ =>
      some (if ite = 1 then .fault .timedOut else .response 200 none 0 .whole, s) }

/-- What its requests return. -/
def oneTimeoutAnswers (ite : Nat) : Answer where
  status := if ite = 1 then .failed (.timeout
    "error sending request for url (http://localhost/auth/login): operation timed out") else .code 200

theorem oneTimeout_returns : oneTimeout.Returns 0 (fun _ => ()) oneTimeoutAnswers where
  launches := rfl
  calm := rfl
  returns ite _ := by
    have hfault : (Flight.start oneTimeout.config.spec).toOption.map
        (fun f => (SendFault.exchange f.url .timedOut).toRequestFault) = some (.timeout
          "error sending request for url (http://localhost/auth/login): operation timed out") := by
      decide +kernel
    obtain ⟨f, hf, htext⟩ := Option.map_eq_some_iff.mp hfault
    have hstart : Flight.start oneTimeout.config.spec = .ok f := by
      cases hs : Flight.start oneTimeout.config.spec with
      | ok g => rw [hs] at hf; cases hf; rfl
      | error fault => rw [hs] at hf; cases hf
    refine ⟨[], ?_⟩
    unfold Service.send
    rw [hstart]
    by_cases hite : ite = 1
    · refine Service.carry_done (r := .fault .timedOut) ?_ ?_
      · simp [oneTimeout, hite]
      · simp [Flight.receive, oneTimeoutAnswers, hite, htext]
    · have hno : f.redirect? 200 none 0 = none := by simp [Flight.redirect?]
      refine Service.carry_done (r := .response 200 none 0 .whole) ?_ ?_
      · simp [oneTimeout, hite]
      · simp [Flight.receive, hno, Flight.settle, oneTimeoutAnswers, hite]

/-- A receiver takes two outcomes, the second of which is a fault, and goes away.  The user, which
would send four requests, is turned away with the outcome of its third or its fourth. -/
theorem oneTimeout_turnedAway : 1 ≤ 1 ∧ oneTimeout.Returns 0 (fun _ => ()) oneTimeoutAnswers ∧
    ((start 1 ()).drive oneTimeout 0 (some 2)).received.map Outcome.mark =
      [(0, 0, .code 200), (0, 1, .failed (.timeout
        "error sending request for url (http://localhost/auth/login): operation timed out"))] ∧
    ((start 1 ()).drive oneTimeout 0 (some 2)).user.phase = .ended (some .reporterClosed) ∧
    3 ≤ ((start 1 ()).drive oneTimeout 0 (some 2)).user.started ∧
    ((start 1 ()).drive oneTimeout 0 (some 2)).user.started ≤ 4 := by
  obtain ⟨hstates, _, hreach, hdone⟩ :=
    user_against_receiver (k := 2) (Nat.le_refl 1) oneTimeout_returns
  obtain ⟨_, _, _, _, hends, _, hend⟩ := hstates _ hreach
  obtain ⟨hended, hmarks, _⟩ := hend hdone
  obtain ⟨error, hp⟩ := User.isEnded_iff.mp hended
  refine ⟨Nat.le_refl 1, oneTimeout_returns, hmarks, ?_⟩
  rcases hends error hp with ⟨_, _, hfour⟩ | ⟨rfl, _, hleast, hmost⟩
  · exact absurd hfour (by decide)
  · exact ⟨hp, hleast, hmost⟩

end Solo
end LoginLoad
