import Mathlib
import LoginLoad.Proofs.Run.Accounting

/-! # How far the users run ahead

A user starts its next request only after the channel has accepted the outcome of the one before.
`User.granted` counts the requests that a user has started and the one that it may start next
without handing anything over; only an outcome that is accepted raises it
(`User.Moved.granted_le`).

So no user has started more than one request more than it has handed over outcomes, and as the
channel holds only so many of these, the requests of all users together are bounded by what the
reporter has taken (`Reachable.total_started_le`).  When the reporter stops the channel accepts
nothing more, and then no user starts more than one request more
(`requests_bounded_by_taken`). -/

namespace LoginLoad

open Outcome (ofUser ofUser_append ofUser_self)

/-! ### The requests of one user -/

/-- Whether a user comes to its next request without offering an outcome before. -/
def Phase.isBetween : Phase → Bool
  | .fresh | .ready _ => true
  | .waiting .. | .offering _ | .ended _ => false

namespace User

/-- The number of requests that a user has started, and of the one that it may start without
handing over an outcome before. -/
def granted (u : User) : Nat := u.started + u.phase.isBetween.toNat

theorem started_le_granted (u : User) : u.started ≤ u.granted := Nat.le_add_right _ _

theorem granted_le_started (u : User) : u.granted ≤ u.started + 1 :=
  Nat.add_le_add_left (Bool.toNat_le _) _

theorem granted_stop_le (u : User) (error : Option RunError) : (u.stop error).granted ≤ u.granted :=
  Nat.add_le_add_left (Nat.zero_le _) _

variable {σ : Type} {sc : Scenario σ} {rank : Nat} {u v : User} {s t : Site σ}

/-- Only handing over an outcome grants another request. -/
theorem Moved.granted_le (h : Moved sc rank u s v t) :
    v.granted ≤ u.granted ∨
      (v.granted = u.granted + 1 ∧
        ∃ o, u.phase = .offering o ∧ s.channel.isOpen = true ∧ t.channel = s.channel.push o) := by
  cases h with
  | refused | turnedAway | finished | panicked => exact .inl (granted_stop_le u _)
  | launched hp _ => exact .inl (by simp [granted, hp, Phase.isBetween])
  | requested hp _ => exact .inl (by simp [granted, hp, Phase.isBetween])
  | unsent hp | redirected hp | answered hp =>
      exact .inl (by simp [User.answered, granted, hp, Phase.isBetween])
  | @accepted o hp ho _ => exact .inr ⟨by simp [granted, hp, Phase.isBetween], o, hp, ho, rfl⟩

end User

namespace Run

variable {σ δ : Type} {sc : Scenario σ} {capacity : Nat} {s t : Run σ δ}

/-- The number of requests that the user number `rank` has started. -/
def startedBy (s : Run σ δ) (rank : Nat) : Nat := (s.users[rank]?.getD {}).started

/-- The number of requests that are granted to the user number `rank`; one that is not there yet
will have its first. -/
def grantedTo (s : Run σ δ) (rank : Nat) : Nat := (s.users[rank]?.getD {}).granted

theorem grantedTo_of_getElem? {rank : Nat} {u : User} (h : s.users[rank]? = some u) :
    s.grantedTo rank = u.granted := congrArg User.granted (userOf_of_getElem? h)

theorem grantedTo_withUser {rank : Nat} {u v : User} (h : s.users[rank]? = some u) (i : Nat) :
    (s.withUser rank v).grantedTo i = if i = rank then v.granted else s.grantedTo i := by
  show ((s.withUser rank v).userOf i).granted = _
  rw [userOf_withUser h]
  split <;> rfl

theorem grantedTo_spawned (rank : Nat) : s.spawned.grantedTo rank = s.grantedTo rank :=
  congrArg User.granted (userOf_spawned rank)

theorem foldr_eq_sum (f : User → Nat) (l : List User) :
    l.foldr (fun u n => f u + n) 0 = ∑ rank ∈ Finset.range l.length, f (l[rank]?.getD {}) := by
  induction l with
  | nil => rfl
  | cons u rest ih =>
      rw [List.foldr_cons, ih, List.length_cons, Finset.sum_range_succ', Nat.add_comm]
      simp

/-- The requests that were started are those of the users. -/
theorem total_started (s : Run σ δ) :
    s.total User.started = ∑ rank ∈ Finset.range s.users.size, s.startedBy rank := by
  rw [total, foldr_eq_sum, Array.length_toList]
  simp [startedBy]

variable [Device δ]

/-- A step grants a user no request, or it hands over an outcome of the user. -/
theorem Stepped.grantedTo_le (h : Stepped sc s t) (ht : s.Tallied sc) (rank : Nat) :
    t.grantedTo rank ≤ s.grantedTo rank ∨
      (t.grantedTo rank = s.grantedTo rank + 1 ∧ s.site.channel.isOpen = true ∧
        ∃ o, o.rank = rank ∧ t.site.channel.sent = s.site.channel.sent ++ [o]) := by
  cases h with
  | spawned => exact .inl (Nat.le_of_eq (grantedTo_spawned rank))
  | released | took | wrote | failed | closed | joined | concluded => exact .inl (Nat.le_refl _)
  | @cancelled i u hu _ _ =>
      rw [grantedTo_withUser (s := { s with site := s.site.release }) hu]
      split
      · rename_i heq
        rw [heq, grantedTo_of_getElem? hu]
        exact .inl (u.granted_stop_le _)
      · exact .inl (Nat.le_refl _)
  | @moved i u v site hu hm =>
      rw [grantedTo_withUser (s := { s with site }) hu]
      split
      · rename_i heq
        rw [heq, grantedTo_of_getElem? hu]
        rcases hm.granted_le with hle | ⟨hgranted, o, hp, ho, hc⟩
        · exact .inl hle
        · obtain ⟨n, pending, hi⟩ := ht i
          have hst := hi.stands
          rw [phaseOf_of_getElem? hu, hp] at hst
          have hrank : o.rank = i := hi.mine o (by rw [hst.2.2]; exact List.mem_cons_self)
          refine .inr ⟨hgranted, ho, o, hrank, ?_⟩
          show site.channel.sent = _
          rw [hc, Channel.sent_push]
      · exact .inl (Nat.le_refl _)

/-! ### The requests of all users -/

section reachable
variable {service : σ} {out : δ}

/-- A user is granted one request more than it has handed over outcomes. -/
theorem Reachable.grantedTo_le (h : Reachable sc capacity service out s) (rank : Nat) :
    s.grantedTo rank ≤ (ofUser rank s.site.channel.sent).length + 1 := by
  refine h.induction
    (P := fun s => s.grantedTo rank ≤ (ofUser rank s.site.channel.sent).length + 1) ?_
    fun {s t} hr hs ih => ?_
  · simp [grantedTo, Run.start, User.granted, Phase.isBetween]
  · rcases hs.grantedTo_le hr.tallied rank with hle | ⟨heq, _, o, ho, hsent⟩
    · have hlen := (hs.sent_prefix.filter fun o => o.rank = rank).length_le
      exact (hle.trans ih).trans (Nat.add_le_add_right hlen 1)
    · rw [heq, hsent, ofUser_append, ofUser_self ho, List.length_append]
      exact Nat.add_le_add_right ih 1

/-- The requests of all users are no more than the outcomes that were handed over and one of each
user. -/
theorem Reachable.total_started_le (h : Reachable sc capacity service out s) :
    s.total User.started ≤ s.site.channel.sent.length + sc.config.users := by
  have hsent := sum_ofUser (fun _ => 1) fun o ho => h.rank_lt (o := o) ho
  simp only [List.map_const', List.sum_replicate, smul_eq_mul, mul_one] at hsent
  calc s.total User.started
      = ∑ rank ∈ Finset.range s.users.size, s.startedBy rank := total_started s
    _ ≤ ∑ rank ∈ Finset.range sc.config.users, s.startedBy rank :=
        Finset.sum_le_sum_of_subset (Finset.range_mono h.sound.size_le)
    _ ≤ ∑ rank ∈ Finset.range sc.config.users,
          ((ofUser rank s.site.channel.sent).length + 1) :=
        Finset.sum_le_sum fun rank _ => (User.started_le_granted _).trans (h.grantedTo_le rank)
    _ = s.site.channel.sent.length + sc.config.users := by
        rw [Finset.sum_add_distrib, hsent]
        simp

/-! ### After the reporter has stopped -/

/-- Once the reporter is at its end it takes nothing, and no request is granted any more. -/
theorem Reachable.grantedTo_le_of_stopped (h : Reachable sc capacity service out s) {r : Reporter δ}
    {fault : Option WriteFault} (hd : s.desk = .stopped r fault) {labels : List Label}
    (hc : s.course? sc labels = some t) :
    t.site.channel.taken = s.site.channel.taken ∧
      ∀ rank, t.grantedTo rank ≤ s.grantedTo rank := by
  have hall : t.desk = .stopped r fault ∧ t.site.channel.taken = s.site.channel.taken ∧
      ∀ rank, t.grantedTo rank ≤ s.grantedTo rank := by
    refine h.course_induction
      (P := fun t => t.desk = .stopped r fault ∧ t.site.channel.taken = s.site.channel.taken ∧
        ∀ rank, t.grantedTo rank ≤ s.grantedTo rank)
      ⟨hd, rfl, fun _ => Nat.le_refl _⟩ (fun {v w} hv hs ih => ?_) hc
    obtain ⟨hdesk, htaken, hgranted⟩ := ih
    obtain ⟨hdesk', htaken'⟩ := hs.of_stopped hdesk
    refine ⟨hdesk', htaken'.trans htaken, fun rank => ?_⟩
    rcases hs.grantedTo_le hv.tallied rank with hle | ⟨_, hopen, _⟩
    · exact hle.trans (hgranted rank)
    · rw [hv.sound.isOpen_eq, hdesk] at hopen
      cases hopen
  exact hall.2

/-- In every state at most 100 outcomes are in the channel, no user has started more than one
request more than it has handed over outcomes, and the requests that were started are at most the
outcomes that the reporter has taken, and 100, and one for each user.  Once the reporter has failed
on an outcome, which is then the last that it took, no user starts more than one request more, and
the bound stays where it is to the end of the run. -/
theorem requests_bounded_by_taken (h : Reachable sc channelCapacity service out s) :
    s.site.channel.held ≤ 100 ∧
    (∀ rank, s.startedBy rank ≤ (ofUser rank s.site.channel.sent).length + 1) ∧
    s.total User.started ≤ s.site.channel.taken.length + 100 + sc.config.users ∧
    ∀ (r : Reporter δ) (f : WriteFault), s.desk = .stopped r (some f) →
      s.site.channel.taken.length = r.lines + 1 ∧
      ∀ (labels : List Label) (t : Run σ δ), s.course? sc labels = some t →
        t.site.channel.taken = s.site.channel.taken ∧
        (∀ rank, t.startedBy rank ≤ s.startedBy rank + 1) ∧
        t.total User.started ≤ s.site.channel.taken.length + 100 + sc.config.users := by
  have hbound : ∀ t : Run σ δ, Reachable sc channelCapacity service out t →
      t.site.channel.held ≤ 100 ∧
        t.total User.started ≤ t.site.channel.taken.length + 100 + sc.config.users := by
    intro t ht
    have hheld := ht.sound.held_le
    rw [ht.sound.capacity_eq] at hheld
    have htotal := ht.total_started_le
    rw [Channel.sent, List.length_append] at htotal
    unfold Channel.held channelCapacity at hheld
    unfold Channel.held
    omega
  refine ⟨(hbound s h).1, fun rank => ?_, (hbound s h).2, fun r f hd => ⟨?_, ?_⟩⟩
  · exact (User.started_le_granted _).trans (h.grantedTo_le rank)
  · have hwrote := h.wrote
    rw [hd] at hwrote
    obtain ⟨lines, o, htaken, hlines, _⟩ := hwrote
    rw [htaken, hlines, List.length_append]
    rfl
  · intro labels t hc
    obtain ⟨htaken, hgranted⟩ := h.grantedTo_le_of_stopped hd hc
    refine ⟨htaken, fun rank => ?_, htaken ▸ (hbound t (h.course hc)).2⟩
    calc t.startedBy rank ≤ t.grantedTo rank := User.started_le_granted _
      _ ≤ s.grantedTo rank := hgranted rank
      _ ≤ s.startedBy rank + 1 := User.granted_le_started _

end reachable

/-- Steps in which the reporter takes and writes the first outcome of the first user. -/
def recordFirst : List Label :=
  [.spawn, .release, .user 0 .launch, .user 0 .request, .user 0 .reply, .user 0 .offer, .take,
    .record]

/-- The reporter fails on its first outcome, and then the user starts the second request. -/
theorem oneUser_bounded : ∃ s t : Run Unit Sink,
    Reachable oneUser channelCapacity () ({ plan := { budget := some 0 } } : Sink) s ∧
      s.desk.isStopped = true ∧ s.course? oneUser [.user 0 .request] = some t ∧
      s.startedBy 0 = 1 ∧ t.startedBy 0 = 2 ∧ t.startedBy 0 ≤ s.startedBy 0 + 1 ∧
      t.total User.started ≤ s.site.channel.taken.length + 100 + 1 := by
  have hrun : ((start oneUser channelCapacity ()
      ({ plan := { budget := some 0 } } : Sink)).course? oneUser recordFirst).any
        (fun s => s.desk = .stopped { sink := s.desk.reporter.sink } (some (.failed "writer failed"))
          && s.startedBy 0 = 1 &&
          (s.course? oneUser [.user 0 .request]).any fun t => t.startedBy 0 = 2) = true := by
    decide +kernel
  obtain ⟨s, hs, hstate⟩ := (Option.any_eq_true _ _).mp hrun
  simp only [Bool.and_eq_true, decide_eq_true_eq] at hstate
  obtain ⟨⟨hdesk, hone⟩, hnext⟩ := hstate
  obtain ⟨t, ht, htwo⟩ := (Option.any_eq_true _ _).mp hnext
  have hreach : Reachable oneUser channelCapacity () ({ plan := { budget := some 0 } } : Sink) s :=
    reachable_iff_course.mpr ⟨_, hs⟩
  obtain ⟨_, _, _, hstopped⟩ := requests_bounded_by_taken hreach
  obtain ⟨_, hafter⟩ := hstopped _ _ hdesk
  obtain ⟨_, hmore, htotal⟩ := hafter _ t ht
  exact ⟨s, t, hreach, by rw [hdesk]; rfl, ht, hone, of_decide_eq_true htwo, hmore 0, htotal⟩

end Run
end LoginLoad
