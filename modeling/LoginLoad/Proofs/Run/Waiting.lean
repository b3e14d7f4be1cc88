import LoginLoad.Proofs.Run.Accounting
import LoginLoad.Proofs.Run.Termination

/-! # What a run waits for

The only step that a run cannot take of itself is the return of a request that is under way
(`Run.isReturn`): it is the server that brings it about.  All other steps are those of the same run
with servers that never reply (`Scenario.mute`, `step?_mute`).

A run is `Blocked` when nothing is left but such returns: the driver has spawned all users and
joined no error, every user that is not joined waits for a reply, and the reporter has nothing to
do.  A run that has neither returned nor is blocked can take a step of itself
(`Sound.exists_stepped_mute`), and so it can go on until it has returned or is blocked
(`Reachable.exists_course_mute`).

A run is `Doomed` when some user has ended in an error, or offers an outcome after the reporter has
stopped.  It stays so, and it is not blocked: the driver joins the error and aborts everyone. -/

namespace LoginLoad

/-- Whether a user waits for the reply to a request that was sent. -/
def User.isPending (u : User) : Bool :=
  match u.phase with
  | .waiting _ _ (.ok _) => true
  | _ => false

/-- The scenario with servers that never reply. -/
def Scenario.mute {σ : Type} (sc : Scenario σ) : Scenario σ :=
  { sc with service := { sc.service with reply := fun _ _ _ _ => none } }

namespace User

variable {σ : Type} {sc : Scenario σ} {rank : Nat} {u v : User} {s t : Site σ}

theorem isPending_iff :
    u.isPending = true ↔ ∃ ite sentAt flight, u.phase = .waiting ite sentAt (.ok flight) := by
  unfold isPending
  cases u.phase with
  | waiting ite sentAt attempt => cases attempt <;> simp
  | _ => simp

theorem not_isPending_of_isEnded (h : u.isEnded = true) : u.isPending = false := by
  obtain ⟨error, hp⟩ := isEnded_iff.mp h
  simp [isPending, hp]

/-- Where no server replies a user makes the moves that are not the return of its request. -/
theorem step?_mute (move : Move) :
    u.step? sc.mute rank move s =
      if move = .reply ∧ u.isPending = true then none else u.step? sc rank move s := by
  cases move with
  | reply =>
      cases hp : u.phase with
      | waiting ite sentAt attempt =>
          cases attempt with
          | error fault => simp [step?, isPending, hp, answered, Scenario.mute]
          | ok flight => simp [step?, isPending, hp, Scenario.mute]
      | _ => simp [step?, isPending, hp]
  | _ =>
      rw [if_neg (fun h => Move.noConfusion h.1)]
      unfold step?
      cases u.phase <;> rfl

end User

namespace Run

variable {σ δ : Type} {sc : Scenario σ} {capacity : Nat} {s t : Run σ δ}

/-- Whether a step is the return of a request that is under way, or of one exchange of it. -/
def isReturn (s : Run σ δ) : Label → Bool
  | .user rank .reply => s.users[rank]?.any User.isPending
  | _ => false

theorem isReturn_iff {label : Label} : s.isReturn label = true ↔
    ∃ (rank : Nat) (u : User), label = .user rank .reply ∧ s.users[rank]? = some u ∧
      u.isPending = true := by
  cases label with
  | user rank move => cases move <;> simp [isReturn, Option.any_eq_true]
  | _ => simp [isReturn]

/-- The steps of a run whose servers never reply are its steps that are no returns. -/
theorem step?_mute [Device δ] (s : Run σ δ) (label : Label) :
    s.step? sc.mute label = if s.isReturn label then none else s.step? sc label := by
  cases label with
  | user rank move =>
      cases hu : s.users[rank]? with
      | none => simp [step?, hu]
      | some u =>
          have hreturn : s.isReturn (.user rank move) = true ↔
              move = .reply ∧ u.isPending = true := by
            cases move <;> simp [isReturn, hu]
          simp only [step?, hu, Option.bind_eq_bind, Option.bind_some, User.step?_mute, hreturn]
          split <;> rfl
  | _ => rfl

theorem step?_mute_eq_some [Device δ] {label : Label} :
    s.step? sc.mute label = some t ↔ s.isReturn label = false ∧ s.step? sc label = some t := by
  rw [step?_mute]
  cases s.isReturn label <;> simp

/-- An order of steps without returns is an order of steps. -/
theorem course?_of_mute [Device δ] {labels : List Label} (h : s.course? sc.mute labels = some t) :
    s.course? sc labels = some t := by
  induction labels generalizing s with
  | nil => exact h
  | cons label labels ih =>
      obtain ⟨w, hw, hc⟩ := Option.bind_eq_some_iff.mp h
      rw [course?, (step?_mute_eq_some.mp hw).2]
      exact ih hc

theorem Sound.mute (h : s.Sound sc capacity) : s.Sound sc.mute capacity := { h with }

/-! ### What is left when nothing but returns is -/

/-- Nothing is left of a run but that requests return. -/
structure Blocked (s : Run σ δ) : Prop where
  isSpawning_eq : s.isSpawning = false
  firstError_eq : s.firstError = none
  waits : ∀ (rank : Nat) (u : User), s.users[rank]? = some u →
    rank ∈ s.joined ∨ u.isPending = true
  exists_pending : ∃ (rank : Nat) (u : User), s.users[rank]? = some u ∧ u.isPending = true
  reporter : s.desk.isStopped = true ∨ ∃ r, s.desk = .waiting r ∧ s.site.channel.queue = []

/-- A user that is neither at its end nor waits for a reply can move, unless the channel is open and
full. -/
theorem exists_moved_mute (sc : Scenario σ) (rank : Nat) {u : User} (hn : u.isEnded = false)
    (hp : u.isPending = false)
    (hroom : s.site.channel.isOpen = true → s.site.channel.hasRoom = true) :
    ∃ v site, u.Moved sc.mute rank s.site v site := by
  refine User.exists_moved hn (fun ite sentAt flight hphase => ?_) hroom
  rw [User.isPending_iff.mpr ⟨ite, sentAt, flight, hphase⟩] at hp
  cases hp

/-- A reporter that is not at its end does something, or it waits at an empty channel. -/
theorem exists_stepped_desk [Device δ] (sc : Scenario σ) (s : Run σ δ) :
    (∃ t, Stepped sc s t) ∨ s.desk.isStopped = true ∨
      ∃ r, s.desk = .waiting r ∧ s.site.channel.queue = [] := by
  cases hd : s.desk with
  | stopped r fault => exact .inr (.inl rfl)
  | holding r o =>
      cases hr : r.record o with
      | mk fault r' =>
          cases fault with
          | none => exact .inl ⟨_, .wrote hd hr⟩
          | some f => exact .inl ⟨_, .failed hd hr⟩
  | waiting r =>
      cases hq : s.site.channel.queue with
      | nil => exact .inr (.inr ⟨r, rfl, rfl⟩)
      | cons o rest =>
          exact .inl ⟨_, .took hd (Channel.take?_of_queue_eq_cons hq)⟩

/-- A reporter that is at its end or waits at an empty channel keeps nobody from offering. -/
theorem Sound.hasRoom_of_idle (h : s.Sound sc capacity) (hcap : 1 ≤ capacity)
    (hidle : s.desk.isStopped = true ∨ ∃ r, s.desk = .waiting r ∧ s.site.channel.queue = [])
    (hopen : s.site.channel.isOpen = true) : s.site.channel.hasRoom = true := by
  rcases hidle with hstopped | ⟨r, _, hq⟩
  · rw [h.isOpen_eq, hstopped] at hopen
    cases hopen
  · exact Channel.hasRoom_of_queue_eq_nil hq (by rw [h.capacity_eq]; exact hcap)

/-- A run that has not returned and is not blocked can take a step that is no return. -/
theorem Sound.exists_stepped_mute [Device δ] (h : s.Sound sc capacity) (hcap : 1 ≤ capacity)
    (hres : s.result = none) : (∃ t, Stepped sc.mute s t) ∨ s.Blocked := by
  by_cases hnone : ∀ (rank : Nat) (u : User), s.users[rank]? = some u → u.isPending = false
  · -- nobody waits for a reply, so it does not matter that none comes
    refine .inl (h.mute.exists_stepped hcap (fun rank u ite sentAt flight hu hp => ?_) hres)
    have := hnone rank u hu
    rw [User.isPending_iff.mpr ⟨ite, sentAt, flight, hp⟩] at this
    cases this
  · simp only [not_forall, Bool.not_eq_false] at hnone
    obtain ⟨rank, u, hu, hp⟩ := hnone
    cases hsp : s.isSpawning with
    | true =>
        rcases Nat.lt_or_eq_of_le h.size_le with hlt | heq
        · exact .inl ⟨_, .spawned hsp hlt⟩
        · exact .inl ⟨_, .released hsp heq⟩
    | false =>
        cases hf : s.firstError with
        | some e =>
            have hn : u.isEnded = false := by
              cases he : u.isEnded with
              | false => rfl
              | true => rw [User.not_isPending_of_isEnded he] at hp; cases hp
            exact .inl ⟨_, .cancelled hu (by rw [hf]; rfl) hn⟩
        | none =>
            rcases exists_stepped_desk sc.mute s with hstep | hidle
            · exact .inl hstep
            · by_cases hall : ∀ (rank : Nat) (u : User), s.users[rank]? = some u →
                  rank ∈ s.joined ∨ u.isPending = true
              · exact .inr ⟨hsp, hf, hall, ⟨rank, u, hu, hp⟩, hidle⟩
              · simp only [not_forall, not_or, Bool.not_eq_true] at hall
                obtain ⟨i, w, hw, hj, hwp⟩ := hall
                cases he : w.isEnded with
                | false =>
                    obtain ⟨v, site, hm⟩ :=
                      exists_moved_mute sc i he hwp (h.hasRoom_of_idle hcap hidle)
                    exact .inl ⟨_, .moved hw hm⟩
                | true =>
                    obtain ⟨error, hphase⟩ := User.isEnded_iff.mp he
                    exact .inl ⟨_, .joined hsp hw hphase hj⟩

/-- In a blocked state in which nobody panics only requests return. -/
theorem Blocked.not_stepped_mute [Device δ] (hb : s.Blocked) (h : s.Sound sc capacity)
    (hpanic : ∀ rank, sc.mayPanic rank = false) : ¬ Stepped sc.mute s t := by
  intro hs
  obtain ⟨i, w, hw, hwp⟩ := hb.exists_pending
  have hwn : w.isEnded ≠ true := fun he => by
    rw [User.not_isPending_of_isEnded he] at hwp
    cases hwp
  cases hs with
  | spawned hsp | released hsp => exact absurd (hsp.symm.trans hb.isSpawning_eq) (by decide)
  | @moved rank u v site hu hm =>
      rcases hb.waits rank u hu with hj | hp
      · obtain ⟨u', hu', he⟩ := h.joined_ended rank hj
        obtain rfl : u = u' := Option.some.inj (hu.symm.trans hu')
        exact absurd (hm.not_ended.symm.trans he) (by decide)
      · obtain ⟨ite, sentAt, flight, hphase⟩ := User.isPending_iff.mp hp
        cases hm with
        | redirected _ hr | answered _ hr => cases hr
        | panicked hmay => exact absurd ((hpanic rank).symm.trans hmay) (by decide)
        | _ hp' => exact absurd (hphase.symm.trans hp') (by simp)
  | cancelled _ hf =>
      rw [hb.firstError_eq] at hf
      cases hf
  | took hd ht =>
      rcases hb.reporter with hstopped | ⟨_, _, hq⟩
      · rw [hd] at hstopped
        cases hstopped
      · rw [(Channel.take?_eq_some ht).1] at hq
        cases hq
  | wrote hd | failed hd =>
      rcases hb.reporter with hstopped | ⟨_, hd', _⟩
      · rw [hd] at hstopped
        cases hstopped
      · rw [hd] at hd'
        cases hd'
  | closed _ hx => exact hwn ((h.ended_of_drained hx).2 i w hw)
  | @joined rank u error _ hu hp hj =>
      rcases hb.waits rank u hu with hj' | hp'
      · exact hj hj'
      · rw [User.not_isPending_of_isEnded (User.isEnded_iff.mpr ⟨error, hp⟩)] at hp'
        cases hp'
  | concluded _ _ hj => exact hwn (h.all_joined hj hw).2

section reachable
variable [Device δ] {service : σ} {out : δ}

/-- As long as no request returns a run can go on until it has returned or is blocked. -/
theorem Reachable.exists_course_mute (h : Reachable sc capacity service out s)
    (hcap : 1 ≤ capacity) : ∃ labels t, s.course? sc.mute labels = some t ∧
      (t.result.isSome = true ∨ t.Blocked) := by
  -- on the work that is left
  induction hw : s.work sc using Nat.strong_induction_on generalizing s with
  | _ n ih =>
      cases hres : s.result with
      | some res => exact ⟨[], s, rfl, .inl (by rw [hres]; rfl)⟩
      | none =>
          rcases h.sound.exists_stepped_mute hcap hres with ⟨w, hs⟩ | hb
          · obtain ⟨label, hl⟩ := hs.exists_step?
            have hl' := (step?_mute_eq_some.mp hl).2
            have hlt : w.work sc < n := hw ▸ (stepped_of_step? hl').work_lt h.sound
            obtain ⟨labels, t, hc, ht⟩ := ih _ hlt (.step label h hl') rfl
            exact ⟨label :: labels, t, by simp [course?, hl, hc], ht⟩
          · exact ⟨[], s, rfl, .inr hb⟩

end reachable

/-! ### Errors on their way to the driver -/

/-- Some user has ended in an error, or offers an outcome after the reporter has stopped. -/
def Doomed (s : Run σ δ) : Prop :=
  ∃ (rank : Nat) (u : User), s.users[rank]? = some u ∧
    (u.error?.isSome = true ∨ s.desk.isStopped = true ∧ ∃ o, u.phase = .offering o)

theorem isEnded_of_error? {u : User} (h : u.error?.isSome = true) : u.isEnded = true := by
  unfold User.error? at h
  unfold User.isEnded
  cases hp : u.phase with
  | ended error => rfl
  | _ => simp [hp] at h

theorem Doomed.withUser {i : Nat} {u v : User} {site : Site σ} (h : s.Doomed)
    (hu : s.users[i]? = some u) (hn : u.isEnded = false)
    (hv : s.desk.isStopped = true → ∀ o, u.phase = .offering o → v.error?.isSome = true) :
    ({ s with site }.withUser i v).Doomed := by
  obtain ⟨rank, w, hw, hcase⟩ := h
  by_cases hi : rank = i
  · subst hi
    obtain rfl : u = w := Option.some.inj (hu.symm.trans hw)
    refine ⟨rank, v, ?_, .inl ?_⟩
    · rw [getElem?_withUser (s := { s with site }) hu, if_pos rfl]
    · rcases hcase with he | ⟨hstopped, o, ho⟩
      · exact absurd (hn.symm.trans (isEnded_of_error? he)) (by decide)
      · exact hv hstopped o ho
  · refine ⟨rank, w, ?_, hcase⟩
    rw [getElem?_withUser (s := { s with site }) hu, if_neg hi]
    exact hw

/-- A doomed run stays doomed. -/
theorem Stepped.doomed [Device δ] (hs : Stepped sc s t) (hw : s.Sound sc capacity)
    (h : s.Doomed) : t.Doomed := by
  cases hs with
  | spawned =>
      obtain ⟨rank, u, hu, hcase⟩ := h
      refine ⟨rank, u, ?_, hcase⟩
      have hlt := (Array.getElem?_eq_some_iff.mp hu).1
      simp only [Run.spawned]
      rw [Array.getElem?_push_lt hlt, ← hu, Array.getElem?_eq_getElem hlt]
  | released | joined | concluded => exact h
  | took hd | wrote hd | failed hd | closed hd =>
      obtain ⟨rank, u, hu, he | ⟨hstopped, _⟩⟩ := h
      · exact ⟨rank, u, hu, .inl he⟩
      · rw [hd] at hstopped
        cases hstopped
  | cancelled hu _ hn => exact h.withUser hu hn fun _ _ _ => rfl
  | moved hu hm =>
      refine h.withUser hu hm.not_ended fun hstopped o ho => ?_
      cases hm with
      | turnedAway | panicked => rfl
      | accepted _ hopen =>
          rw [hw.isOpen_eq, hstopped] at hopen
          cases hopen
      | _ hp => exact absurd (ho.symm.trans hp) (by simp)

/-- A doomed run is not blocked. -/
theorem Doomed.not_blocked (h : s.Doomed) (he : s.Explained sc) (hw : s.Sound sc capacity) :
    ¬ s.Blocked := by
  intro hb
  obtain ⟨rank, u, hu, hcase⟩ := h
  rcases hcase with herror | ⟨_, o, ho⟩
  · rcases hb.waits rank u hu with hj | hp
    · -- its error was joined, but the driver keeps none
      have hnone := List.findSome?_eq_none_iff.mp (he.firstError_eq.symm.trans hb.firstError_eq)
      have := hnone rank hj
      rw [errorOf, hu] at this
      rw [show u.error? = none from this] at herror
      cases herror
    · rw [User.not_isPending_of_isEnded (isEnded_of_error? herror)] at hp
      cases hp
  · rcases hb.waits rank u hu with hj | hp
    · obtain ⟨w, hw, hend⟩ := hw.joined_ended rank hj
      obtain rfl : u = w := Option.some.inj (hu.symm.trans hw)
      simp [User.isEnded, ho] at hend
    · simp [User.isPending, ho] at hp

section reachable
variable [Device δ] {service : σ} {out : δ}

/-- A doomed run does not come to be blocked. -/
theorem Doomed.not_blocked_of_course (h : s.Doomed) (hs : Reachable sc capacity service out s)
    {labels : List Label} (hc : s.course? sc labels = some t) : ¬ t.Blocked := by
  have ht : t.Doomed := hs.course_induction h (fun hv hstep => hstep.doomed hv.sound) hc
  have hreach := hs.course hc
  exact ht.not_blocked hreach.explained hreach.sound

/-- Although no request returns, a doomed run goes on until it has returned. -/
theorem Doomed.exists_step (h : s.Doomed) (hs : Reachable sc capacity service out s)
    (hcap : 1 ≤ capacity) {labels : List Label} (hc : s.course? sc.mute labels = some t)
    (hres : t.result = none) :
    ∃ label w, t.isReturn label = false ∧ t.step? sc label = some w := by
  have hc := course?_of_mute hc
  rcases (hs.course hc).sound.exists_stepped_mute hcap hres with ⟨w, hw⟩ | hb
  · obtain ⟨label, hl⟩ := hw.exists_step?
    exact ⟨label, w, step?_mute_eq_some.mp hl⟩
  · exact absurd hb (h.not_blocked_of_course hs hc)

/-- Although no request returns, a doomed run can be carried to its result. -/
theorem Doomed.exists_course (h : s.Doomed) (hs : Reachable sc capacity service out s)
    (hcap : 1 ≤ capacity) :
    ∃ labels t, s.course? sc.mute labels = some t ∧ t.result.isSome = true := by
  obtain ⟨labels, t, hc, hres | hb⟩ := hs.exists_course_mute hcap
  · exact ⟨labels, t, hc, hres⟩
  · exact absurd hb (h.not_blocked_of_course hs (course?_of_mute hc))

end reachable

end Run
end LoginLoad
