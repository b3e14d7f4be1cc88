import Mathlib
import LoginLoad.Proofs.Run.BackPressure
import LoginLoad.Proofs.Run.Budget

/-! # One request after another

A user sends its next request only when the one before has come to an outcome and the channel has
accepted it, however long the servers, the reporter and the other users take.

* `Phase.Counts` ties the requests that a user has started to those that were answered: there is at
  most one more (`Reachable.counts`).  A step that starts a request finds the outcomes of all the
  requests before it in the channel (`Stepped.request_in_turn`).
* `User.times` are the readings of the clock that a user has made, in order: two for each outcome
  that it has handed over, and those of the request that it is at.  A move adds the present reading
  or leaves some out (`User.Moved.times`), so with a clock that never goes back they never decrease
  (`Reachable.times_pairwise`), and this is what the reporter receives
  (`Outcome.areSequential_iff`).

`strictly_sequential` puts this together. -/

namespace LoginLoad

open Outcome (ofUser ofUser_append ofUser_self)
open Event (answersTo answersTo_append answersTo_self answersTo_bodyEvents)

/-! ### Times of outcomes -/

namespace Outcome

/-- The readings of the clock in a list of outcomes, in order. -/
def times (l : List Outcome) : List Int := l.flatMap fun o => [o.sentAt, o.receivedAt]

theorem times_append (l m : List Outcome) : times (l ++ m) = times l ++ times m :=
  List.flatMap_append ..

/-- Outcomes follow each other if their readings of the clock never decrease. -/
theorem areSequential_iff (l : List Outcome) :
    areSequential l = true ↔ (times l).Pairwise (· ≤ ·) := by
  rw [← List.isChain_iff_pairwise]
  fun_induction areSequential l with
  | case1 => simp [times]
  | case2 o => simp [times]
  | case3 o p rest ih =>
      have hrest : times (p :: rest) = p.sentAt :: p.receivedAt :: times rest := rfl
      have hcons : times (o :: p :: rest) = o.sentAt :: o.receivedAt :: times (p :: rest) := rfl
      rw [hcons, hrest, List.isChain_cons_cons, List.isChain_cons_cons, ← hrest, ← ih]
      simp only [Bool.and_eq_true, decide_eq_true_eq, and_assoc]

end Outcome

open Outcome (times times_append)

/-! ### The requests of a user -/

/-- How many requests a user has started, and how many of them were answered, where it stands. -/
def Phase.Counts (started answered : Nat) : Phase → Prop
  | .fresh => started = 0 ∧ answered = 0
  | .ready ite => started = ite ∧ answered = ite
  | .waiting ite _ _ => started = ite + 1 ∧ answered = ite
  | .offering o => started = o.ite + 1 ∧ answered = o.ite + 1
  | .ended _ => answered ≤ started ∧ started ≤ answered + 1

theorem Phase.Counts.bounds {started answered : Nat} {p : Phase} (h : p.Counts started answered) :
    answered ≤ started ∧ started ≤ answered + 1 := by
  cases p with
  | ended error => exact h
  | _ =>
      obtain ⟨hs, ha⟩ := h
      omega

/-- The clock readings of the request that a user is at, in order. -/
def Phase.times : Phase → List Int
  | .waiting _ sentAt _ => [sentAt]
  | .offering o => [o.sentAt, o.receivedAt]
  | .fresh | .ready _ | .ended _ => []

namespace User

variable {σ : Type} {sc : Scenario σ} {rank n : Nat} {u v : User} {s t : Site σ}
  {pending : List Outcome}

/-- An answer that arrives is told of once. -/
theorem answersTo_answered_self (sc : Scenario σ) (rank ite : Nat) (sentAt : Int) (a : Answer)
    (u : User) (s : Site σ) :
    (answersTo rank (answered sc rank ite sentAt a u s).2.log).length =
      (answersTo rank s.log).length + 1 := by
  obtain ⟨o, hrank, -, -, -, hlog, -⟩ := exists_answered sc rank ite sentAt a u s
  rw [hlog, answersTo_append, answersTo_append, answersTo_bodyEvents, answersTo_self hrank]
  simp

/-- A move keeps the counts: a request is started where none is left open, and answered once. -/
theorem Moved.counts (h : Moved sc rank u s v t)
    (hu : u.phase.Counts u.started (answersTo rank s.log).length) :
    v.phase.Counts v.started (answersTo rank t.log).length := by
  have hbounds := hu.bounds
  cases h with
  | refused | turnedAway | panicked => exact hbounds
  | launched hp =>
      rw [hp] at hu
      rw [answersTo_tell rfl]
      exact hu
  | requested hp =>
      rw [hp] at hu
      obtain ⟨hstarted, hanswered⟩ := hu
      exact ⟨congrArg (· + 1) hstarted, hanswered⟩
  | unsent hp =>
      rw [hp] at hu
      obtain ⟨hstarted, hanswered⟩ := hu
      rw [answersTo_answered_self]
      exact ⟨hstarted, congrArg (· + 1) hanswered⟩
  | redirected hp =>
      rw [hp] at hu
      rw [answersTo_told]
      exact hu
  | answered hp =>
      rw [hp] at hu
      obtain ⟨hstarted, hanswered⟩ := hu
      rw [answersTo_answered_self, answersTo_told]
      exact ⟨hstarted, congrArg (· + 1) hanswered⟩
  | accepted hp =>
      rw [hp] at hu
      exact hu
  | finished hp =>
      have htold : answersTo rank ((s.tell (.userFinished rank)).release).log =
          answersTo rank s.log := answersTo_tell rfl
      rw [htold]
      exact hbounds

/-- Only a user that stands before its next request starts one. -/
theorem Moved.started (h : Moved sc rank u s v t) :
    v.started = u.started ∨ (v.started = u.started + 1 ∧ ∃ ite, u.phase = .ready ite) := by
  cases h with
  | requested hp => exact .inr ⟨rfl, _, hp⟩
  | _ => exact .inl rfl

/-- The readings of the clock that the user number `rank` has made, in order. -/
def times (rank : Nat) (u : User) (s : Site σ) : List Int :=
  Outcome.times (ofUser rank s.channel.sent) ++ u.phase.times

theorem times_congr (hphase : v.phase.times = u.phase.times)
    (hsent : t.channel.sent = s.channel.sent) : v.times rank t = u.times rank s := by
  unfold times
  rw [hphase, hsent]

theorem times_sublist (hphase : v.phase.times = u.phase.times)
    (hsent : t.channel.sent = s.channel.sent) : (v.times rank t).Sublist (u.times rank s) := by
  rw [times_congr hphase hsent]

/-- A user that ends forgets what it has not handed over. -/
theorem times_stop_sublist (error : Option RunError) (hsent : t.channel.sent = s.channel.sent) :
    ((u.stop error).times rank t).Sublist (u.times rank s) := by
  unfold times
  rw [hsent]
  exact (List.nil_sublist _).append_left _

/-- When an answer arrives, perhaps after something was told, the clock is read. -/
theorem times_answered {ite : Nat} {sentAt : Int} {attempt : Except SendFault Flight} (a : Answer)
    (hp : u.phase = .waiting ite sentAt attempt) (hsent : t.channel.sent = s.channel.sent)
    (hreadings : t.readings = s.readings) :
    (answered sc rank ite sentAt a u t).2.readings = s.readings + 1 ∧
      (answered sc rank ite sentAt a u t).1.times rank (answered sc rank ite sentAt a u t).2 =
        u.times rank s ++ [sc.clock s.readings] := by
  constructor
  · simp [answered, Site.tick, hreadings]
  · simp [times, answered, Phase.times, Site.tick, hp, hsent, hreadings]

/-- A move adds the present reading of the clock to those that the user has made, or it makes
none. -/
theorem Moved.times (h : Moved sc rank u s v t)
    (hu : ∀ o, u.phase = .offering o → o.rank = rank) :
    (t.readings = s.readings ∧ (v.times rank t).Sublist (u.times rank s)) ∨
      (t.readings = s.readings + 1 ∧
        v.times rank t = u.times rank s ++ [sc.clock s.readings]) := by
  cases h with
  | refused | turnedAway | panicked => exact .inl ⟨rfl, times_stop_sublist _ rfl⟩
  | finished => exact .inl ⟨rfl, times_stop_sublist _ rfl⟩
  | launched hp => exact .inl ⟨rfl, times_sublist (by rw [hp]; rfl) rfl⟩
  | requested hp =>
      right
      refine ⟨rfl, ?_⟩
      simp [User.times, hp, Phase.times, Site.tick]
  | unsent hp => exact .inr (times_answered _ hp rfl rfl)
  | redirected hp =>
      refine .inl ⟨Site.readings_tellAll _ _, ?_⟩
      exact times_sublist (by rw [hp]; rfl) (sent_told _ _)
  | answered hp => exact .inr (times_answered _ hp (sent_told _ _) (Site.readings_tellAll _ _))
  | @accepted o hp =>
      -- the two readings of the outcome are handed over with it
      refine .inl ⟨rfl, ?_⟩
      have htimes : User.times rank { u with phase := .ready (o.ite + 1) }
          { s with channel := s.channel.push o } = u.times rank s := by
        unfold User.times
        rw [hp, Channel.sent_push, ofUser_append, ofUser_self (hu o hp), times_append]
        simp [Phase.times, Outcome.times]
      rw [htimes]

/-- A move of another user does not touch the readings that a user has made. -/
theorem Moved.times_other (h : Moved sc rank u s v t)
    (ht : Tally sc.config.requestsPerUser rank s u.phase n pending) {other : Nat}
    (hne : other ≠ rank) (w : User) : w.times other t = w.times other s := by
  unfold User.times
  rw [(h.other ht hne).1]

end User

/-- An outcome that a user offers is its own. -/
theorem Tally.offered {σ : Type} {requests rank n : Nat} {site : Site σ} {phase : Phase}
    {pending : List Outcome} (h : Tally requests rank site phase n pending) :
    ∀ o, phase = .offering o → o.rank = rank := by
  intro o ho
  have hst := h.stands
  rw [ho] at hst
  obtain ⟨-, -, hpending⟩ := hst
  exact h.mine o (by rw [hpending]; exact List.mem_cons_self)

/-! ### A clock that never goes back -/

/-- A later reading follows those that were made until now. -/
theorem pairwise_later {l : List Int} {now later : Int} (h : (l ++ [now]).Pairwise (· ≤ ·))
    (hlater : now ≤ later) : (l ++ [now] ++ [later]).Pairwise (· ≤ ·) := by
  rw [List.pairwise_append]
  refine ⟨h, List.pairwise_singleton _ _, ?_⟩
  intro x hx y hy
  rw [List.mem_singleton.mp hy]
  rcases List.mem_append.mp hx with hx | hx
  · have hnow : x ≤ now := (List.pairwise_append.mp h).2.2 x hx now List.mem_cons_self
    omega
  · rw [List.mem_singleton.mp hx]
    exact hlater

namespace Run

variable {σ δ : Type} {sc : Scenario σ} {capacity : Nat} {service : σ} {out : δ} {s t : Run σ δ}

/-- The number of requests of the user number `rank` that were answered. -/
def answeredTo (s : Run σ δ) (rank : Nat) : Nat := (answersTo rank s.site.log).length

/-- The number of requests of the user number `rank` that are in flight: they were started and not
answered.  A request that was cut off by the end of its user is counted with them. -/
def inFlight (s : Run σ δ) (rank : Nat) : Nat := s.startedBy rank - s.answeredTo rank

theorem startedBy_of_getElem? {rank : Nat} {u : User} (h : s.users[rank]? = some u) :
    s.startedBy rank = u.started := congrArg User.started (userOf_of_getElem? h)

theorem startedBy_withUser {rank : Nat} {u v : User} (h : s.users[rank]? = some u) (i : Nat) :
    (s.withUser rank v).startedBy i = if i = rank then v.started else s.startedBy i := by
  show ((s.withUser rank v).userOf i).started = _
  rw [userOf_withUser h]
  split <;> rfl

variable [Device δ]

theorem Reachable.counts (h : Reachable sc capacity service out s) (rank : Nat) :
    (s.phaseOf rank).Counts (s.startedBy rank) (s.answeredTo rank) := by
  refine h.user_induction
    (P := fun rank u site => u.phase.Counts u.started (answersTo rank site.log).length)
    (fun _ => ⟨rfl, rfl⟩) (fun _ hm ih => hm.counts ih) ?_ ?_ ?_ rank
  · intro rank other u v w site next n pending ht hne hm ih
    rw [(hm.other ht hne).2]
    exact ih
  · intro rank u site error ih
    exact ih.bounds
  · intro rank u site next ih _ _ _ hlog
    rw [hlog]
    exact ih

/-- With a clock that never goes back the readings that a user has made never decrease, and none is
later than now. -/
theorem Reachable.times_pairwise (hclock : Monotone sc.clock)
    (h : Reachable sc capacity service out s) (rank : Nat) :
    ((s.userOf rank).times rank s.site ++ [sc.clock s.site.readings]).Pairwise (· ≤ ·) := by
  refine h.user_induction
    (P := fun rank u site =>
      (u.times rank site ++ [sc.clock site.readings]).Pairwise (· ≤ ·)) ?_ ?_ ?_ ?_ ?_ rank
  · intro rank
    exact List.pairwise_singleton _ _
  · intro rank u v site next n pending ht hm ih
    rcases hm.times ht.offered with ⟨hreadings, hsub⟩ | ⟨hreadings, heq⟩
    · rw [hreadings]
      exact ih.sublist (hsub.append_right _)
    · rw [hreadings, heq]
      exact pairwise_later ih (hclock (Nat.le_succ _))
  · intro rank other u v w site next n pending ht hne hm ih
    have hle : site.readings ≤ next.readings := by
      rcases hm.times ht.offered with ⟨hreadings, -⟩ | ⟨hreadings, -⟩ <;> omega
    rw [hm.times_other ht hne]
    refine (pairwise_later ih (hclock hle)).sublist ?_
    exact (List.sublist_append_left _ _).append_right _
  · intro rank u site error ih
    exact ih.sublist ((User.times_stop_sublist error rfl).append_right _)
  · intro rank u site next ih _ hreadings hsent _
    rw [User.times_congr rfl hsent, hreadings]
    exact ih

/-- A step that starts a request of a user finds none of it in flight, and the outcomes of exactly
the requests before it in the channel. -/
theorem Stepped.request_in_turn (hs : Stepped sc s t) (h : Reachable sc capacity service out s)
    {rank : Nat} (hstarts : t.startedBy rank ≠ s.startedBy rank) :
    t.startedBy rank = s.startedBy rank + 1 ∧ s.inFlight rank = 0 ∧
      (ofUser rank s.site.channel.sent).map Outcome.ite = List.range (s.startedBy rank) := by
  cases hs with
  | spawned => exact absurd (congrArg User.started (userOf_spawned rank)) hstarts
  | released | took | wrote | failed | closed | joined | concluded => exact absurd rfl hstarts
  | @cancelled i u hu =>
      rw [startedBy_withUser (s := { s with site := s.site.release }) hu] at hstarts
      split at hstarts
      · rename_i hi
        rw [hi, startedBy_of_getElem? hu] at hstarts
        exact absurd rfl hstarts
      · exact absurd rfl hstarts
  | @moved i u v site hu hm =>
      rw [startedBy_withUser (s := { s with site }) hu] at hstarts ⊢
      by_cases hi : rank = i
      · subst hi
        rw [if_pos rfl, startedBy_of_getElem? hu] at hstarts
        -- the user starts a request itself, so it stands between two of them
        obtain ⟨hone, ite, hp⟩ := hm.started.resolve_left hstarts
        have hphase : s.phaseOf rank = .ready ite := (phaseOf_of_getElem? hu).trans hp
        have hcounts := h.counts rank
        rw [hphase] at hcounts
        obtain ⟨hstarted, hanswered⟩ := hcounts
        obtain ⟨n, pending, ht⟩ := h.tallied rank
        have hst := ht.stands
        rw [hphase] at hst
        obtain ⟨hn, -, -⟩ := hst
        refine ⟨?_, ?_, ?_⟩
        · rw [if_pos rfl, hone, startedBy_of_getElem? hu]
        · unfold inFlight
          omega
        · rw [ht.ites, hn, hstarted]
      · rw [if_neg hi] at hstarts
        exact absurd rfl hstarts

/-- At most one request of a user is in flight in any state, so that the requests in flight are no
more than the users.  A step that starts a request of a user finds the outcomes of all its requests
before accepted by the channel.  With a clock that never goes back the outcomes of a user that the
reporter has received follow each other: they are those of its first requests, none was received
before it was sent, and none was sent before the one in front of it was received. -/
theorem strictly_sequential (h : Reachable sc capacity service out s) :
    (∀ rank, s.answeredTo rank ≤ s.startedBy rank ∧ s.inFlight rank ≤ 1) ∧
    ∑ rank ∈ Finset.range s.users.size, s.inFlight rank ≤ sc.config.users ∧
    (∀ (label : Label) (t : Run σ δ) (rank : Nat), s.step? sc label = some t →
      t.startedBy rank ≠ s.startedBy rank →
        t.startedBy rank = s.startedBy rank + 1 ∧ s.inFlight rank = 0 ∧
          (ofUser rank s.site.channel.sent).map Outcome.ite = List.range (s.startedBy rank)) ∧
    (Monotone sc.clock → ∀ rank,
      let received := ofUser rank s.site.channel.taken
      received.map Outcome.ite = List.range received.length ∧
        Outcome.areSequential received = true) := by
  have hone : ∀ rank, s.answeredTo rank ≤ s.startedBy rank ∧ s.inFlight rank ≤ 1 := by
    intro rank
    have hbounds := (h.counts rank).bounds
    unfold inFlight
    omega
  refine ⟨hone, ?_, ?_, ?_⟩
  · calc ∑ rank ∈ Finset.range s.users.size, s.inFlight rank
        ≤ ∑ _rank ∈ Finset.range s.users.size, 1 := Finset.sum_le_sum fun rank _ => (hone rank).2
      _ = s.users.size := by simp
      _ ≤ sc.config.users := h.sound.size_le
  · intro label t rank hstep hstarts
    exact (stepped_of_step? hstep).request_in_turn h hstarts
  · intro hclock rank received
    obtain ⟨n, pending, ht⟩ := h.tallied rank
    have hprefix : received <+: ofUser rank s.site.channel.sent :=
      (Channel.taken_prefix_sent _).filter _
    constructor
    · have hites : received.map Outcome.ite <+: List.range n := by
        rw [← ht.ites]
        exact hprefix.map _
      obtain ⟨hrange, -⟩ := eq_range_of_prefix hites
      simpa using hrange
    · rw [Outcome.areSequential_iff]
      have hall := h.times_pairwise hclock rank
      have hsub : (Outcome.times received).Sublist
          ((s.userOf rank).times rank s.site ++ [sc.clock s.site.readings]) := by
        have htimes : Outcome.times received <+: Outcome.times (ofUser rank s.site.channel.sent) := by
          obtain ⟨rest, hrest⟩ := hprefix
          rw [← hrest, times_append]
          exact List.prefix_append _ _
        unfold User.times
        rw [List.append_assoc]
        exact htimes.sublist.trans (List.sublist_append_left _ _)
      exact hall.sublist hsub

/-- A user of three requests whose channel has room for one outcome. -/
def crampedUser : Scenario Unit where
  config := { users := 1, requestsPerUser := 3 }
  service := .constant 200
  clock n := 7 * n

/-- Steps in which the user waits with its second outcome until the reporter takes the first one. -/
def crampedSteps : List Label :=
  [.spawn, .release, .user 0 .launch, .user 0 .request, .user 0 .reply, .user 0 .offer,
    .user 0 .request, .user 0 .reply, .take, .user 0 .offer, .record, .take]

/-- The user is held up by the full channel, and starts its third request after both outcomes were
accepted. -/
theorem crampedUser_sequential : Monotone crampedUser.clock ∧ ∃ s t : Run Unit Sink,
    Reachable crampedUser 1 () ({} : Sink) s ∧
      s.step? crampedUser (.user 0 .request) = some t ∧ t.startedBy 0 = 3 ∧
      (((start crampedUser 1 () ({} : Sink)).course? crampedUser (crampedSteps.take 8)).bind
        fun blocked => blocked.step? crampedUser (.user 0 .offer)).isNone = true ∧
      (ofUser 0 s.site.channel.sent).map Outcome.ite = [0, 1] ∧
      (ofUser 0 s.site.channel.taken).length = 2 ∧
      Outcome.areSequential (ofUser 0 s.site.channel.taken) = true := by
  have hclock : Monotone crampedUser.clock := by
    intro m n h
    show (7 * m : Int) ≤ 7 * n
    omega
  have hrun : ((start crampedUser 1 () ({} : Sink)).course? crampedUser crampedSteps).any
      (fun s => s.startedBy 0 = 2 && (ofUser 0 s.site.channel.taken).length = 2 &&
        (s.step? crampedUser (.user 0 .request)).any fun t => t.startedBy 0 = 3) = true := by
    decide +kernel
  obtain ⟨s, hs, hstate⟩ := (Option.any_eq_true _ _).mp hrun
  simp only [Bool.and_eq_true, decide_eq_true_eq] at hstate
  obtain ⟨⟨htwo, hlength⟩, hnext⟩ := hstate
  obtain ⟨t, ht, hthree⟩ := (Option.any_eq_true _ _).mp hnext
  have hthree : t.startedBy 0 = 3 := of_decide_eq_true hthree
  have hreach : Reachable crampedUser 1 () ({} : Sink) s := reachable_iff_course.mpr ⟨_, hs⟩
  obtain ⟨-, -, hturn, hsequential⟩ := strictly_sequential hreach
  obtain ⟨-, -, hites⟩ := hturn _ t 0 ht (by omega)
  rw [htwo] at hites
  exact ⟨hclock, s, t, hreach, ht, hthree, by decide +kernel, hites, hlength,
    (hsequential hclock 0).2⟩

end Run

end LoginLoad
