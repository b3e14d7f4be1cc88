import Mathlib.Data.List.Perm.Subperm
import LoginLoad.Proofs.Run.Order

/-! # What a run comes to

A user ends in an error for one of four reasons (`Cause`): its client cannot be built, it panics, it
is turned away by the channel, or the abort reaches it.  Users are turned away only after the
reporter has failed, and aborted only after an error was joined.  So neither can be what a run comes
to: the result is the fault of the reporter if it has one, and otherwise the first error in the
order of the joins, which is then a client that could not be built or a panic
(`result_root_cause`). -/

namespace LoginLoad

/-- The error that a user ended in, if it is at its end and ended in one. -/
def User.error? (u : User) : Option RunError :=
  match u.phase with
  | .ended error => error
  | _ => none

theorem User.phase_of_error?_eq_none {u : User} (hu : u.isEnded = true) (hn : u.error? = none) :
    u.phase = .ended none := by
  obtain ⟨error, hp⟩ := isEnded_iff.mp hu
  rw [error?, hp] at hn
  exact hp.trans (congrArg Phase.ended hn)

namespace Run

variable {σ δ : Type}

/-- The error that the user number `rank` ended in. -/
def errorOf (s : Run σ δ) (rank : Nat) : Option RunError := s.users[rank]?.bind User.error?

/-- Why a user ended in an error. -/
def Cause (sc : Scenario σ) (s : Run σ δ) (rank : Nat) : RunError → Prop
  | .client detail => sc.clientFault rank = some detail
  | .join .panicked => sc.mayPanic rank = true
  | .join .cancelled => s.firstError.isSome = true
  | .reporterClosed => ∃ r f, s.desk = .stopped r (some f)
  | .io _ => False

theorem findSome?_congr {α β : Type} {f g : α → Option β} {l : List α}
    (h : ∀ a ∈ l, f a = g a) : l.findSome? f = l.findSome? g := by
  induction l with
  | nil => rfl
  | cons a rest ih =>
      simp only [List.findSome?_cons, h a List.mem_cons_self,
        ih fun b hb => h b (List.mem_cons_of_mem a hb)]

/-- The errors of the users have causes, and the driver keeps the first one that it joined. -/
structure Explained (sc : Scenario σ) (s : Run σ δ) : Prop where
  caused : ∀ rank e, s.errorOf rank = some e → Cause sc s rank e
  firstError_eq : s.firstError = s.joined.findSome? s.errorOf
  firstError_ne : s.firstError ≠ some (.join .cancelled)

variable {sc : Scenario σ} {capacity : Nat} {s t : Run σ δ}

/-- A cause stays one while an error that was joined and a reporter that failed stay so. -/
theorem Cause.mono {rank : Nat} {e : RunError} (h : Cause sc s rank e)
    (hf : s.firstError.isSome = true → t.firstError.isSome = true)
    (hd : ∀ r f, s.desk = .stopped r (some f) → ∃ r f, t.desk = .stopped r (some f)) :
    Cause sc t rank e := by
  cases e with
  | client detail => exact h
  | io detail => exact h
  | reporterClosed =>
      obtain ⟨r, f, hr⟩ := h
      exact hd r f hr
  | join fault =>
      cases fault with
      | panicked => exact h
      | cancelled => exact hf h

namespace Explained

/-- A user that was not at its end goes on, or ends for a reason. -/
theorem withUser {rank : Nat} {u v : User} {site : Site σ} (h : s.Explained sc)
    (hw : s.Sound sc capacity) (hu : s.users[rank]? = some u) (hn : u.isEnded = false)
    (hv : ∀ e, v.error? = some e → Cause sc s rank e) :
    ({ s with site }.withUser rank v).Explained sc := by
  have herror : ∀ i, ({ s with site }.withUser rank v).errorOf i =
      if i = rank then v.error? else s.errorOf i := by
    intro i
    unfold errorOf
    rw [getElem?_withUser (s := { s with site }) hu]
    split <;> rfl
  refine ⟨?_, ?_, h.firstError_ne⟩
  · intro i e he
    rw [herror] at he
    split at he
    · rename_i heq
      rw [heq]
      exact (hv e he).mono id fun r f hr => ⟨r, f, hr⟩
    · exact (h.caused i e he).mono id fun r f hr => ⟨r, f, hr⟩
  · refine h.firstError_eq.trans (findSome?_congr fun i hi => ?_)
    rw [herror, if_neg]
    rintro rfl
    obtain ⟨w, hw, he⟩ := hw.joined_ended i hi
    rw [hu] at hw
    cases hw
    rw [hn] at he
    cases he

theorem start {service : σ} {out : δ} : (Run.start sc capacity service out).Explained sc where
  caused rank e h := by simp [errorOf, Run.start] at h
  firstError_eq := rfl
  firstError_ne := by simp [Run.start]

/-- Every step keeps the errors explained. -/
theorem stepped [Device δ] (h : s.Explained sc) (hw : s.Sound sc capacity) (hs : Stepped sc s t) :
    t.Explained sc := by
  cases hs with
  | spawned hsp hlt =>
      refine ⟨?_, ?_, h.firstError_ne⟩
      · intro rank e he
        refine (h.caused rank e ?_).mono id fun r f hr => ⟨r, f, hr⟩
        simp only [errorOf, Run.spawned, Array.getElem?_push] at he ⊢
        split at he
        · cases he
        · exact he
      · show s.firstError = s.joined.findSome? _
        rw [h.firstError_eq, hw.joined_nil hsp]
        rfl
  | released =>
      exact { h with caused := fun rank e he =>
        (h.caused rank e he).mono id fun r f hr => ⟨r, f, hr⟩ }
  | @moved rank u v site hu hm =>
      refine h.withUser hw hu hm.not_ended ?_
      intro e he
      cases hm with
      | refused hp hc =>
          cases he
          exact hc
      | panicked hp =>
          cases he
          exact hp
      | turnedAway hp ho =>
          cases he
          have hopen := hw.isOpen_eq
          rw [ho] at hopen
          cases hd : s.desk with
          | stopped r fault =>
              cases fault with
              | some f => exact ⟨r, f, hd⟩
              | none =>
                  have := (hw.ended_of_drained (hw.drained r hd)).2 rank u hu
                  simp [User.isEnded, hp] at this
          | _ => simp [hd, Desk.isStopped] at hopen
      | _ => cases he
  | @cancelled rank u hu hf hn =>
      refine h.withUser hw hu hn ?_
      intro e he
      cases he
      exact hf
  | took hd | wrote hd | closed hd =>
      exact { h with caused := fun rank e he =>
        (h.caused rank e he).mono id fun r f hr => by rw [hd] at hr; cases hr }
  | failed =>
      exact { h with caused := fun rank e he =>
        (h.caused rank e he).mono id fun r f hr => ⟨_, _, rfl⟩ }
  | @joined rank u error hsp hu hp hj =>
      have hue : s.errorOf rank = error := by simp [errorOf, hu, User.error?, hp]
      refine ⟨?_, ?_, ?_⟩
      · intro i e he
        refine (h.caused i e he).mono (fun hf => ?_) fun r f hr => ⟨r, f, hr⟩
        show (s.firstError <|> error).isSome = true
        cases hs : s.firstError with
        | some e' => rfl
        | none =>
            rw [hs] at hf
            cases hf
      · show (s.firstError <|> error) = (s.joined ++ [rank]).findSome? s.errorOf
        rw [List.findSome?_append, ← h.firstError_eq]
        cases hf : s.firstError <;> simp [hue]
      · show (s.firstError <|> error) ≠ _
        cases hf : s.firstError with
        | some e' => simpa [hf] using h.firstError_ne
        | none =>
            rintro he
            have he : error = some (.join .cancelled) := he
            have hc : s.firstError.isSome = true := h.caused rank _ (hue.trans he)
            rw [hf] at hc
            cases hc
  | concluded =>
      exact { h with caused := fun rank e he =>
        (h.caused rank e he).mono id fun r f hr => ⟨r, f, hr⟩ }

end Explained

/-- The errors in every state of a run are explained. -/
theorem Reachable.explained [Device δ] {service : σ} {out : δ}
    (h : Reachable sc capacity service out s) : s.Explained sc :=
  h.induction .start fun hr hs ih => ih.stepped hr.sound hs

/-! ### The result -/

/-- Where as many users were joined as there are, each of them was, and is at its end. -/
theorem Sound.all_joined (h : s.Sound sc capacity) (hj : s.joined.length = s.users.size)
    {rank : Nat} {u : User} (hu : s.users[rank]? = some u) :
    rank ∈ s.joined ∧ u.isEnded = true := by
  have hperm := (List.subperm_of_subset h.joined_nodup h.joined_subset).perm_of_length_le
    (by simp [hj])
  have hmem : rank ∈ s.joined :=
    hperm.mem_iff.mpr (List.mem_range.mpr (Array.getElem?_eq_some_iff.mp hu).1)
  obtain ⟨w, hw, he⟩ := h.joined_ended rank hmem
  rw [hu] at hw
  cases hw
  exact ⟨hmem, he⟩

/-- How a run stands that has come to `res`. -/
structure Returned (s : Run σ δ) (r : Reporter δ) (fault : Option WriteFault)
    (res : Except RunError Nat) : Prop where
  desk_eq : s.desk = .stopped r fault
  isSpawning_eq : s.isSpawning = false
  length_joined : s.joined.length = s.users.size
  result_eq : res = outcome fault s.firstError r.lines

/-- A run that has come to a result takes no further step. -/
theorem Returned.not_stepped [Device δ] {r : Reporter δ} {fault : Option WriteFault}
    {res : Except RunError Nat} (h : s.Returned r fault res) (hw : s.Sound sc capacity)
    (hr : s.result = some res) : ¬ Stepped sc s t := by
  intro hs
  have hd := h.desk_eq
  cases hs with
  | spawned hsp | released hsp => exact absurd (hsp.symm.trans h.isSpawning_eq) (by decide)
  | moved hu hm =>
      have := (hw.all_joined h.length_joined hu).2
      rw [hm.not_ended] at this
      cases this
  | cancelled hu _ hn =>
      have := (hw.all_joined h.length_joined hu).2
      rw [hn] at this
      cases this
  | took hd' | wrote hd' | failed hd' | closed hd' =>
      rw [hd'] at hd
      cases hd
  | joined _ hu _ hj => exact hj (hw.all_joined h.length_joined hu).1
  | concluded _ _ _ hn =>
      rw [hr] at hn
      cases hn

theorem Reachable.returned [Device δ] {service : σ} {out : δ} {res : Except RunError Nat}
    (h : Reachable sc capacity service out s) (hr : s.result = some res) :
    ∃ r fault, s.Returned r fault res := by
  induction h generalizing res with
  | start => cases hr
  | @step s t label hs hl ih =>
      have hst := stepped_of_step? hl
      -- an earlier result would have left no step
      have hnone : s.result = none := by
        cases hn : s.result with
        | none => rfl
        | some res' =>
            obtain ⟨r, fault, hret⟩ := ih hn
            exact absurd hst (hret.not_stepped hs.sound hn)
      cases hst with
      | @concluded r fault hd hsp hj _ =>
          cases hr
          exact ⟨r, fault, hd, hsp, hj, rfl⟩
      | _ =>
          have hr : s.result = some res := hr
          rw [hnone] at hr
          cases hr

/-- The first error in the order of the joins, where the reporter did not fail: a client that could
not be built or a panic. -/
theorem Explained.root_cause (h : s.Explained sc) {r : Reporter δ} (hd : s.desk = .stopped r none)
    {e : RunError} (he : s.joined.findSome? s.errorOf = some e) :
    ∃ rank ∈ s.joined, (∃ detail, sc.clientFault rank = some detail ∧ e = .client detail) ∨
      (sc.mayPanic rank = true ∧ e = .join .panicked) := by
  obtain ⟨rank, hj, hr⟩ := List.exists_of_findSome?_eq_some he
  refine ⟨rank, hj, ?_⟩
  have hc := h.caused rank e hr
  cases e with
  | client detail => exact .inl ⟨detail, hc, rfl⟩
  | io detail => exact hc.elim
  | reporterClosed =>
      obtain ⟨r', f, hf⟩ := hc
      rw [hd] at hf
      cases hf
  | join fault =>
      cases fault with
      | panicked => exact .inr ⟨hc, rfl⟩
      | cancelled => exact absurd (h.firstError_eq.trans he) h.firstError_ne

/-- What decides the result of a run that has come to one. -/
theorem Returned.decided (h : s.Explained sc) {r : Reporter δ} {fault : Option WriteFault}
    {res : Except RunError Nat} (hret : s.Returned r fault res) :
    (∃ f, fault = some f ∧ res = .error f.toRunError) ∨
      (fault = none ∧ ∃ e, s.joined.findSome? s.errorOf = some e ∧ res = .error e) ∨
      (fault = none ∧ s.joined.findSome? s.errorOf = none ∧ res = .ok r.lines) := by
  have hres := hret.result_eq
  rw [h.firstError_eq] at hres
  cases fault with
  | some f => exact .inl ⟨f, rfl, hres⟩
  | none =>
      cases he : s.joined.findSome? s.errorOf with
      | some e =>
          rw [he] at hres
          exact .inr (.inl ⟨rfl, e, rfl, hres⟩)
      | none =>
          rw [he] at hres
          exact .inr (.inr ⟨rfl, rfl, hres⟩)

theorem toRunError_cases (f : WriteFault) :
    (∃ message, f.toRunError = .io message) ∨ f.toRunError = .join .panicked := by
  cases f with
  | failed message => exact .inl ⟨message, rfl⟩
  | stalled => exact .inl ⟨_, rfl⟩
  | panicked => exact .inr rfl

/-- A run does not come to what only follows from another error. -/
theorem Returned.not_secondary (h : s.Explained sc) {r : Reporter δ} {fault : Option WriteFault}
    {res : Except RunError Nat} (hret : s.Returned r fault res) :
    res ≠ .error .reporterClosed ∧ res ≠ .error (.join .cancelled) := by
  rcases hret.decided h with ⟨f, _, rfl⟩ | ⟨hf, e, he, rfl⟩ | ⟨_, _, rfl⟩
  · rcases toRunError_cases f with ⟨_, hf⟩ | hf <;> simp [hf]
  · have hdesk := hret.desk_eq
    rw [hf] at hdesk
    obtain ⟨_, _, ⟨_, _, rfl⟩ | ⟨_, rfl⟩⟩ := h.root_cause hdesk he <;> simp
  · simp

/-- One user of two requests. -/
def oneUser : Scenario Unit where
  config := { users := 1, requestsPerUser := 2 }
  service := .constant 200

/-- Steps in which the reporter takes and writes the first outcome of the user before the second is
offered. -/
def recordThenOffer : List Label :=
  [.spawn, .release, .user 0 .launch, .user 0 .request, .user 0 .reply, .user 0 .offer, .take,
    .record, .user 0 .request, .user 0 .reply, .user 0 .offer]

/-- A user may be turned away: the reporter has failed on its first outcome. -/
theorem exists_turnedAway : ∃ t : Run Unit Sink,
    Reachable oneUser channelCapacity () ({ plan := { budget := some 0 } } : Sink) t ∧
      t.errorOf 0 = some .reporterClosed := by
  have hrun : ((Run.start oneUser channelCapacity ()
      ({ plan := { budget := some 0 } } : Sink)).course? oneUser recordThenOffer).any
        (fun t => t.errorOf 0 = some .reporterClosed) = true := by decide +kernel
  obtain ⟨t, ht, he⟩ := (Option.any_eq_true _ _).mp hrun
  exact ⟨t, reachable_iff_course.mpr ⟨_, ht⟩, of_decide_eq_true he⟩

/-- When the driver returns it has joined every user.  An error of the reporter's device is then the
result, and so is a panic of the reporter.  Otherwise the result is the first error in the order of
the joins, which is a client that could not be built or a panic of a user, and where no user ended
in an error it is the number of lines.  So the result is never that a user was turned away or
aborted, although users are turned away in some runs. -/
theorem result_root_cause [Device δ] {service : σ} {out : δ} {res : Except RunError Nat}
    (h : Reachable sc capacity service out s) (hres : s.result = some res) :
    (∀ rank < sc.config.users, rank ∈ s.joined) ∧
    (∃ r fault, s.desk = .stopped r fault ∧
      (∀ f message, fault = some f → f.message? = some message → res = .error (.io message)) ∧
      (fault = some .panicked → res = .error (.join .panicked)) ∧
      (fault = none → ∀ e, s.joined.findSome? s.errorOf = some e → res = .error e ∧
        ∃ rank ∈ s.joined, (∃ detail, sc.clientFault rank = some detail ∧ e = .client detail) ∨
          (sc.mayPanic rank = true ∧ e = .join .panicked)) ∧
      (fault = none → s.joined.findSome? s.errorOf = none → res = .ok r.lines)) ∧
    res ≠ .error .reporterClosed ∧ res ≠ .error (.join .cancelled) ∧
    ∃ t : Run Unit Sink,
      Reachable oneUser channelCapacity () ({ plan := { budget := some 0 } } : Sink) t ∧
        t.errorOf 0 = some .reporterClosed := by
  obtain ⟨r, fault, hret⟩ := h.returned hres
  have hjoined : ∀ rank < sc.config.users, rank ∈ s.joined := by
    intro rank hrank
    rw [← h.sound.size_eq hret.isSpawning_eq] at hrank
    exact (h.sound.all_joined hret.length_joined (Array.getElem?_eq_getElem hrank)).1
  obtain ⟨hclosed, hcancelled⟩ := hret.not_secondary h.explained
  refine ⟨hjoined, ⟨r, fault, hret.desk_eq, ?_⟩, hclosed, hcancelled, exists_turnedAway⟩
  rcases hret.decided h.explained with ⟨f, rfl, hr⟩ | ⟨rfl, e, he, hr⟩ | ⟨rfl, he, hr⟩
  · refine ⟨?_, ?_, by simp, by simp⟩
    · rintro f' message hf hm
      cases hf
      rw [hr, WriteFault.toRunError, hm]
    · rintro hf
      cases hf
      exact hr
  · refine ⟨by simp, by simp, ?_, ?_⟩
    · intro _ e' he'
      obtain rfl : e = e' := Option.some.inj (he.symm.trans he')
      exact ⟨hr, h.explained.root_cause hret.desk_eq he⟩
    · intro _ hn
      rw [he] at hn
      cases hn
  · refine ⟨by simp, by simp, ?_, fun _ _ => hr⟩
    intro _ e he'
    rw [he] at he'
    cases he'

/-- Two users, the second of which has no client. -/
def halfBuilt : Scenario Unit where
  config := { users := 2, requestsPerUser := 2 }
  service := .constant 200
  clientFault rank := if rank = 1 then some "no certificates" else none

/-- The fault of a full sink decides the run although a user has no client. -/
theorem halfBuilt_root_cause :
    (complete halfBuilt () { budget := some 0 }).result = some (.error (.io "writer failed")) ∧
      (complete halfBuilt () { budget := some 0 }).errorOf 1 = some (.client "no certificates") ∧
      1 ∈ (complete halfBuilt () { budget := some 0 }).joined := by
  have hres : (complete halfBuilt () { budget := some 0 }).result =
      some (.error (.io "writer failed")) := by decide +kernel
  have herror : (complete halfBuilt () { budget := some 0 }).errorOf 1 =
      some (.client "no certificates") := by decide +kernel
  obtain ⟨hjoined, _⟩ := result_root_cause reachable_complete hres
  exact ⟨hres, herror, hjoined 1 (by decide)⟩

end Run
end LoginLoad
