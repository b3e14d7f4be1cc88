import LoginLoad.Proofs.Run.Verdict

/-! # Every run ends

`Run.work` counts the steps that are left at most, and every step lessens it (`Stepped.work_lt`).
At the start it is bounded by the numbers of users and requests (`work_start`).  So no order of
steps goes on for ever, whatever the device, the clients and the users do.

Nor does a run stop early, as long as every request that was started can return (`RequestsReturn`):
a user that may not go on offers an outcome to a full channel, and then the reporter has one to
take; where the reporter has none and no user may go on, no sender is left; and where the reporter
has stopped, the channel turns everyone away (`Sound.exists_stepped`).  Both together say that every
order of steps ends with a run that has returned (`run_terminates`). -/

namespace LoginLoad

/-! ### The work of a user -/

namespace User

variable {σ : Type} {sc : Scenario σ} {rank : Nat} {u v : User} {s t : Site σ}

@[simp] theorem work_stop (u : User) (error : Option RunError) (requests : Nat) :
    (u.stop error).work requests = 0 := rfl

theorem work_pos {requests : Nat} (h : u.isEnded = false) : 0 < u.work requests := by
  unfold isEnded at h
  unfold work
  cases hp : u.phase with
  | ended error => simp [hp] at h
  | waiting ite sentAt attempt => cases attempt <;> simp
  | _ => simp

theorem exchangesLeft_le (f : Flight) : f.exchangesLeft ≤ Flight.maxExchanges := Nat.sub_le _ _

/-- A move lessens the work of the user.  An outcome in the channel makes work for the reporter, but
handing it over takes more than that from the user. -/
theorem Moved.work_lt (h : Moved sc rank u s v t) :
    v.work sc.config.requestsPerUser + 2 * t.channel.held <
      u.work sc.config.requestsPerUser + 2 * s.channel.held := by
  have hpos : 0 < u.work sc.config.requestsPerUser := work_pos h.not_ended
  cases h with
  | refused | turnedAway | finished | panicked =>
      simp only [work_stop, Site.release, Site.tell, Channel.held, Channel.dropSender]
      omega
  | launched hp _ =>
      simp only [User.work, hp, Nat.sub_zero, Site.channel_tell]
      omega
  | @requested ite hp hi =>
      obtain ⟨k, hk⟩ : ∃ k, sc.config.requestsPerUser - ite = k + 1 :=
        Nat.exists_eq_add_one.mpr (Nat.sub_pos_of_lt hi)
      cases Flight.start sc.config.spec with
      | error fault =>
          simp only [User.work, hp, Site.tick, hk, Nat.add_sub_cancel, Nat.succ_mul k, requestWork]
          omega
      | ok f =>
          have := exchangesLeft_le f
          simp only [User.work, hp, Site.tick, hk, Nat.add_sub_cancel, Nat.succ_mul k, requestWork]
          omega
  | unsent hp =>
      simp only [User.answered, User.work, hp, Site.channel_tellAll, Site.tick]
      omega
  | redirected hp _ hf =>
      have := Flight.exchangesLeft_receive hf
      simp only [User.work, hp, Site.channel_tellAll]
      omega
  | answered hp =>
      simp only [User.answered, User.work, hp, Site.channel_tellAll, Site.tick]
      omega
  | @accepted o hp =>
      simp only [User.work, hp, Channel.held, Channel.push, List.length_append,
        List.length_singleton, Nat.sub_sub]
      omega

/-- A user that is not at its end may move, unless it waits for a reply that never comes or offers
an outcome to a channel that is full. -/
theorem exists_moved (hn : u.isEnded = false)
    (hreply : ∀ ite sentAt flight, u.phase = .waiting ite sentAt (.ok flight) →
      ∃ reply service, sc.service.reply s.service rank ite flight = some (reply, service) ∧
        flight.receive reply ≠ .endless)
    (hroom : s.channel.isOpen = true → s.channel.hasRoom = true) :
    ∃ v t, Moved sc rank u s v t := by
  cases hp : u.phase with
  | fresh =>
      cases hc : sc.clientFault rank with
      | some detail => exact ⟨_, _, .refused hp hc⟩
      | none => exact ⟨_, _, .launched hp hc⟩
  | ready ite =>
      by_cases hi : ite < sc.config.requestsPerUser
      · exact ⟨_, _, .requested hp hi⟩
      · exact ⟨_, _, .finished hp hi⟩
  | waiting ite sentAt attempt =>
      cases attempt with
      | error fault => exact ⟨_, _, .unsent hp⟩
      | ok flight =>
          obtain ⟨reply, service, hr, hf⟩ := hreply ite sentAt flight hp
          cases hg : flight.receive reply with
          | again next => exact ⟨_, _, .redirected hp hr hg⟩
          | done answer => exact ⟨_, _, .answered hp hr hg⟩
          | endless => exact absurd hg hf
  | offering o =>
      cases ho : s.channel.isOpen with
      | true => exact ⟨_, _, .accepted hp ho (hroom ho)⟩
      | false => exact ⟨_, _, .turnedAway hp ho⟩
  | ended error => simp [isEnded, hp] at hn

end User

namespace Run

variable {σ δ : Type} {sc : Scenario σ} {capacity : Nat} {s t : Run σ δ}

/-! ### The work of a run -/

theorem Sound.length_joined_le (h : s.Sound sc capacity) : s.joined.length ≤ s.users.size := by
  have := (List.subperm_of_subset h.joined_nodup h.joined_subset).length_le
  rwa [List.length_range] at this

/-- Where some user was not joined, fewer users were joined than there are. -/
theorem Sound.length_joined_lt (h : s.Sound sc capacity) {rank : Nat} (hr : rank < s.users.size)
    (hj : rank ∉ s.joined) : s.joined.length < s.users.size := by
  refine Nat.lt_of_le_of_ne h.length_joined_le fun heq => hj ?_
  exact (h.all_joined heq (Array.getElem?_eq_getElem hr)).1

theorem work_start [Device δ] (sc : Scenario σ) (capacity : Nat) (service : σ) (out : δ) :
    (start sc capacity service out).work sc =
      sc.config.users * (sc.config.requestsPerUser * User.requestWork + 4) + 3 := by
  simp [work, start, total, User.work, Channel.held, Desk.work]

/-- What lessens the work of one user, with that on the outcomes in the channel, lessens that of the
run. -/
theorem work_withUser_lt {rank : Nat} {u v : User} {site : Site σ} (hu : s.users[rank]? = some u)
    (hlt : v.work sc.config.requestsPerUser + 2 * site.channel.held <
      u.work sc.config.requestsPerUser + 2 * s.site.channel.held) :
    ({ s with site }.withUser rank v).work sc < s.work sc := by
  have htotal := total_withUser (s := { s with site }) (v := v)
    (f := User.work sc.config.requestsPerUser) hu
  have hsame : total (User.work sc.config.requestsPerUser) { s with site } =
      s.total (User.work sc.config.requestsPerUser) := rfl
  unfold work
  simp only [withUser, Array.size_setIfInBounds] at htotal ⊢
  omega

/-- Every step lessens the work that is left. -/
theorem Stepped.work_lt [Device δ] (h : Stepped sc s t) (hw : s.Sound sc capacity) :
    t.work sc < s.work sc := by
  cases h with
  | spawned hsp hlt =>
      obtain ⟨k, hk⟩ := Nat.exists_eq_add_of_lt hlt
      have hsize : s.spawned.users.size = s.users.size + 1 := by simp [Run.spawned]
      have hs : sc.config.users - s.users.size = k + 1 := by omega
      have ht : sc.config.users - s.spawned.users.size = k := by omega
      unfold work
      rw [hs, ht, hsize, total_spawned, Nat.succ_mul k]
      simp only [Run.spawned, Channel.held, Channel.addSender]
      omega
  | released hsp _ =>
      simp only [work, hsp, total, Site.release, Channel.held, Channel.dropSender, Bool.toNat_true,
        Bool.toNat_false]
      omega
  | moved hu hm => exact work_withUser_lt hu hm.work_lt
  | @cancelled rank u hu _ hn =>
      have hpos : 0 < u.work sc.config.requestsPerUser := User.work_pos hn
      refine work_withUser_lt hu ?_
      rw [User.work_stop]
      show 0 + 2 * s.site.channel.held < _
      omega
  | took hd ht =>
      obtain ⟨hq, _⟩ := Channel.take?_eq_some ht
      simp only [work, total, hd, Desk.work, Channel.held, hq, List.length_cons]
      omega
  | wrote hd _ | failed hd _ | closed hd _ =>
      simp only [work, total, hd, Run.stopped, Channel.close, Channel.held, Desk.work]
      omega
  | @joined rank u error _ hu _ hj =>
      have := hw.length_joined_lt (Array.getElem?_eq_some_iff.mp hu).1 hj
      simp only [work, total, List.length_append, List.length_singleton]
      omega
  | concluded hd _ _ hr =>
      simp only [work, channel_concluded]
      simp only [Run.concluded, total, hr, Option.isNone_some, Option.isNone_none,
        Bool.toNat_true, Bool.toNat_false]
      omega

/-- The steps of an order are paid for by the work that they take away. -/
theorem Reachable.length_course_le [Device δ] {service : σ} {out : δ} {labels : List Label}
    (h : Reachable sc capacity service out s) (hc : s.course? sc labels = some t) :
    labels.length + t.work sc ≤ s.work sc := by
  induction labels generalizing s with
  | nil =>
      cases hc
      simp
  | cons label labels ih =>
      obtain ⟨w, hw, hc⟩ := Option.bind_eq_some_iff.mp hc
      have hlt := (stepped_of_step? hw).work_lt h.sound
      have := ih (.step label h hw) hc
      rw [List.length_cons]
      omega

/-! ### No run is stuck -/

/-- Every user that waits for a reply gets one, and the body of the response ends. -/
def Answerable (sc : Scenario σ) (s : Run σ δ) : Prop :=
  ∀ (rank : Nat) (u : User) (ite : Nat) (sentAt : Int) (flight : Flight),
    s.users[rank]? = some u → u.phase = .waiting ite sentAt (.ok flight) →
      ∃ reply service, sc.service.reply s.site.service rank ite flight = some (reply, service) ∧
        flight.receive reply ≠ .endless

/-- Every request that was started can return. -/
def RequestsReturn [Device δ] (sc : Scenario σ) (capacity : Nat) (service : σ) (out : δ) : Prop :=
  ∀ s : Run σ δ, Reachable sc capacity service out s → s.Answerable sc

/-- A user that is not at its end can move, unless the channel is open and full. -/
theorem Answerable.stepped_or_all_ended [Device δ] (h : s.Answerable sc)
    (hroom : s.site.channel.isOpen = true → s.site.channel.hasRoom = true) :
    (∃ t, Stepped sc s t) ∨
      ∀ (rank : Nat) (u : User), s.users[rank]? = some u → u.isEnded = true := by
  by_cases hall : ∀ (rank : Nat) (u : User), s.users[rank]? = some u → u.isEnded = true
  · exact .inr hall
  · simp only [not_forall, Bool.not_eq_true] at hall
    obtain ⟨rank, u, hu, hn⟩ := hall
    obtain ⟨v, site, hm⟩ := User.exists_moved hn
      (fun ite sentAt flight hp => h rank u ite sentAt flight hu hp) hroom
    exact .inl ⟨_, .moved hu hm⟩

/-- A reporter that waits takes an outcome or ends, or a user moves. -/
theorem Sound.exists_stepped_waiting [Device δ] (h : s.Sound sc capacity) (hcap : 1 ≤ capacity)
    (hans : s.Answerable sc) (hsp : s.isSpawning = false) {r : Reporter δ}
    (hd : s.desk = .waiting r) : ∃ t, Stepped sc s t := by
  cases hq : s.site.channel.queue with
  | cons o rest =>
      exact ⟨_, .took hd (Channel.take?_of_queue_eq_cons hq)⟩
  | nil =>
      have hroom : s.site.channel.hasRoom = true :=
        Channel.hasRoom_of_queue_eq_nil hq (by rw [h.capacity_eq]; exact hcap)
      rcases hans.stepped_or_all_ended fun _ => hroom with hstep | hall
      · exact hstep
      · have htotal : s.total sendersOf = 0 :=
          total_eq_zero_iff.mpr fun rank u hu => by simp [sendersOf, hall rank u hu]
        have hs := h.senders_eq
        rw [hsp, htotal] at hs
        exact ⟨_, .closed hd ((Channel.isExhausted_iff _).mpr ⟨hq, hs⟩)⟩

/-- Where fewer users were joined than there are, one was not. -/
theorem Sound.exists_not_joined (h : s.Sound sc capacity) (hj : s.joined.length ≠ s.users.size) :
    ∃ rank < s.users.size, rank ∉ s.joined := by
  by_contra hnone
  simp only [not_exists, not_and, not_not] at hnone
  have hsub : List.range s.users.size ⊆ s.joined := fun rank hr =>
    hnone rank (List.mem_range.mp hr)
  have hge := (List.subperm_of_subset List.nodup_range hsub).length_le
  rw [List.length_range] at hge
  exact hj (Nat.le_antisymm h.length_joined_le hge)

/-- When the reporter is at its end a user is turned away or joined, or the driver returns. -/
theorem Sound.exists_stepped_stopped [Device δ] (h : s.Sound sc capacity) (hans : s.Answerable sc)
    (hsp : s.isSpawning = false) (hres : s.result = none) {r : Reporter δ}
    {fault : Option WriteFault} (hd : s.desk = .stopped r fault) : ∃ t, Stepped sc s t := by
  have hclosed : s.site.channel.isOpen = false := by
    rw [h.isOpen_eq, hd]
    rfl
  rcases hans.stepped_or_all_ended fun ho => absurd (ho.symm.trans hclosed) (by decide)
    with hstep | hall
  · exact hstep
  · by_cases hj : s.joined.length = s.users.size
    · exact ⟨_, .concluded hd hsp hj hres⟩
    · obtain ⟨rank, hlt, hr⟩ := h.exists_not_joined hj
      have hu := Array.getElem?_eq_getElem hlt
      have he := hall rank _ hu
      unfold User.isEnded at he
      cases hp : s.users[rank].phase with
      | ended error => exact ⟨_, .joined hsp hu hp hr⟩
      | _ => simp [hp] at he

/-- A run that has not returned can take a step. -/
theorem Sound.exists_stepped [Device δ] (h : s.Sound sc capacity) (hcap : 1 ≤ capacity)
    (hans : s.Answerable sc) (hres : s.result = none) : ∃ t, Stepped sc s t := by
  cases hsp : s.isSpawning with
  | true =>
      rcases Nat.lt_or_eq_of_le h.size_le with hlt | heq
      · exact ⟨_, .spawned hsp hlt⟩
      · exact ⟨_, .released hsp heq⟩
  | false =>
      cases hd : s.desk with
      | waiting r => exact h.exists_stepped_waiting hcap hans hsp hd
      | stopped r fault => exact h.exists_stepped_stopped hans hsp hres hd
      | holding r o =>
          cases hr : r.record o with
          | mk fault r' =>
              cases fault with
              | none => exact ⟨_, .wrote hd hr⟩
              | some f => exact ⟨_, .failed hd hr⟩

/-! ### Every run ends -/

section ends
variable [Device δ] {service : σ} {out : δ}

/-- A step can be taken as long as a run has not returned, and not after that. -/
theorem Reachable.result_eq_none_iff (h : Reachable sc capacity service out s) (hcap : 1 ≤ capacity)
    (hans : s.Answerable sc) : s.result = none ↔ ∃ label t, s.step? sc label = some t := by
  constructor
  · intro hres
    obtain ⟨t, ht⟩ := h.sound.exists_stepped hcap hans hres
    obtain ⟨label, hl⟩ := ht.exists_step?
    exact ⟨label, t, hl⟩
  · rintro ⟨label, t, hl⟩
    cases hres : s.result with
    | none => rfl
    | some res =>
        obtain ⟨r, fault, hr⟩ := h.returned hres
        exact absurd (stepped_of_step? hl) (hr.not_stepped h.sound hres)

/-- Where a run has returned, all users and the reporter are at their ends. -/
theorem Returned.all_ended {r : Reporter δ} {fault : Option WriteFault} {res : Except RunError Nat}
    (h : Reachable sc capacity service out s) (hret : s.Returned r fault res) :
    s.users.size = sc.config.users ∧
      (∀ (rank : Nat) (u : User), s.users[rank]? = some u → u.isEnded = true) ∧
      s.desk.isStopped = true := by
  refine ⟨h.sound.size_eq hret.isSpawning_eq, fun rank u hu => ?_, ?_⟩
  · exact (h.sound.all_joined hret.length_joined hu).2
  · rw [hret.desk_eq]
    rfl

/-- No order of steps goes on for ever. -/
theorem not_exists_endless (path : Nat → Run σ δ) (h0 : path 0 = start sc capacity service out) :
    ¬ ∀ n, ∃ label, (path n).step? sc label = some (path (n + 1)) := by
  intro hstep
  -- after `n` steps of the path at least `n` of the work at the start is done
  have hpath : ∀ n, Reachable sc capacity service out (path n) ∧
      (path n).work sc + n ≤ (path 0).work sc := by
    intro n
    induction n with
    | zero => exact ⟨h0 ▸ .start, Nat.le_refl _⟩
    | succ n ih =>
        obtain ⟨label, hl⟩ := hstep n
        have := (stepped_of_step? hl).work_lt ih.1.sound
        exact ⟨.step label ih.1 hl, by omega⟩
  have := (hpath ((path 0).work sc + 1)).2
  omega

end ends

/-- Where every exchange has a reply, and no body goes on for ever, every request can return. -/
theorem requestsReturn_of_replies [Device δ] {service : σ} {out : δ}
    (h : ∀ s rank ite f, ∃ reply next, sc.service.reply s rank ite f = some (reply, next) ∧
      ∀ code location took, reply ≠ .response code location took .endless) :
    RequestsReturn sc capacity service out := by
  intro s _ rank u ite sentAt flight _ _
  obtain ⟨reply, next, hr, hends⟩ := h s.site.service rank ite flight
  exact ⟨reply, next, hr, Flight.receive_ne_endless hends⟩

/-- Assume that the channel has room for an outcome and that every request that was started can
return.  Then a step can be taken in every state in which the run has not returned, and only there.
Every step lessens the work that is left, which at the start is bounded by the numbers of users and
requests.  So no order of steps is longer than that, none goes on for ever, and one that cannot be
continued ends with a run that has returned, with every user and the reporter at their ends. -/
theorem run_terminates [Device δ] {service : σ} {out : δ} (hcap : 1 ≤ capacity)
    (hret : RequestsReturn sc capacity service out) :
    (∀ s : Run σ δ, Reachable sc capacity service out s →
      (s.result = none ↔ ∃ label t, s.step? sc label = some t)) ∧
    (start sc capacity service out).work sc =
      sc.config.users * (sc.config.requestsPerUser * User.requestWork + 4) + 3 ∧
    (∀ (s t : Run σ δ) (label : Label), Reachable sc capacity service out s →
      s.step? sc label = some t → t.work sc < s.work sc) ∧
    (∀ (labels : List Label) (s : Run σ δ),
      (start sc capacity service out).course? sc labels = some s →
        labels.length ≤ sc.config.users * (sc.config.requestsPerUser * User.requestWork + 4) + 3 ∧
        ((∀ label, s.step? sc label = none) →
          s.result.isSome = true ∧ s.users.size = sc.config.users ∧
          (∀ (rank : Nat) (u : User), s.users[rank]? = some u → u.isEnded = true) ∧
          s.desk.isStopped = true)) ∧
    ¬ ∃ path : Nat → Run σ δ, path 0 = start sc capacity service out ∧
      ∀ n, ∃ label, (path n).step? sc label = some (path (n + 1)) := by
  refine ⟨fun s hs => hs.result_eq_none_iff hcap (hret s hs), work_start sc capacity service out,
    fun s t label hs hl => (stepped_of_step? hl).work_lt hs.sound, ?_, ?_⟩
  · intro labels s hc
    have hs : Reachable sc capacity service out s := Reachable.start.course hc
    have hlength := Reachable.start.length_course_le hc
    rw [work_start] at hlength
    refine ⟨by omega, fun hmax => ?_⟩
    cases hres : s.result with
    | none =>
        obtain ⟨label, t, hl⟩ := (hs.result_eq_none_iff hcap (hret s hs)).mp hres
        rw [hmax label] at hl
        cases hl
    | some res =>
        obtain ⟨r, fault, hr⟩ := hs.returned hres
        exact ⟨rfl, hr.all_ended hs⟩
  · rintro ⟨path, h0, hstep⟩
    exact not_exists_endless path h0 hstep

/-- One user of two requests takes at most 37 steps. -/
theorem oneUser_terminates :
    1 ≤ channelCapacity ∧ RequestsReturn oneUser channelCapacity () ({} : Sink) ∧
      (start oneUser channelCapacity () ({} : Sink)).work oneUser = 37 ∧
      ∃ label t, (start oneUser channelCapacity () ({} : Sink)).step? oneUser label = some t := by
  have hcap : 1 ≤ channelCapacity := by decide
  have hret : RequestsReturn oneUser channelCapacity () ({} : Sink) :=
    requestsReturn_of_replies fun _ _ _ _ => ⟨_, _, rfl, nofun⟩
  obtain ⟨hprogress, hwork, _⟩ := run_terminates hcap hret
  exact ⟨hcap, hret, hwork, (hprogress _ .start).mp rfl⟩

end Run
end LoginLoad
