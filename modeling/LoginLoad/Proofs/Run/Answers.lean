import LoginLoad.Proofs.Run.Exchanges
import LoginLoad.Proofs.Run.Order

/-! # What the requests of a run return

A request of a user returns in the step in which the user sees the reply that ends it
(`Run.returned`).  `Run.answers` lists what the requests of a user return in a course of steps.
Something may be shown of all courses together with these lists by induction over their steps
(`Run.course_answers_induction`), and what a step adds to them is known from what it makes of the
users (`Run.returned_eq`).

A run assigns statuses to its requests if no request returns any other status (`Run.Assigns`).  Then
the outcomes that its users offer have these statuses (`Run.Assigns.of_offering`).  Where the
exchanges leave no trace in the service the statuses are those that `Service.send` returns
(`Run.assigns_of_send`). -/

namespace LoginLoad
namespace Run

variable {σ δ : Type} {sc : Scenario σ} {s t : Run σ δ} {rank : Nat}

/-! ### Answers along a course -/

/-- What a request of the user number `rank` returns in a step. -/
def returned (sc : Scenario σ) (rank : Nat) (s : Run σ δ) : Label → List Answer
  | .user i move => if i = rank then (s.userOf rank).returned sc rank move s.site else []
  | _ => []

/-- What has been returned to the user number `rank` when a run has become another one. -/
def returnedTo (sc : Scenario σ) (rank : Nat) (s t : Run σ δ) : List Answer :=
  (s.userOf rank).returnedTo sc rank s.site (t.userOf rank)

theorem returnedTo_of_userOf_eq (h : t.userOf rank = s.userOf rank) :
    s.returnedTo sc rank t = [] := by
  unfold returnedTo
  exact User.returnedTo_of_phase_eq (congrArg User.phase h)

theorem returnedTo_of_isEnded (h : (t.userOf rank).isEnded = true) :
    s.returnedTo sc rank t = [] := by
  obtain ⟨error, hp⟩ := User.isEnded_iff.mp h
  unfold returnedTo User.returnedTo
  rw [hp]

variable [Device δ]

/-- What the requests of the user number `rank` return in a course of steps, in order. -/
def answers (sc : Scenario σ) (rank : Nat) (s : Run σ δ) : List Label → List Answer
  | [] => []
  | label :: rest =>
    s.returned sc rank label ++
      match s.step? sc label with
      | some t => t.answers sc rank rest
      | none => []

theorem answers_cons {label : Label} (h : s.step? sc label = some t) (rest : List Label) :
    s.answers sc rank (label :: rest) = s.returned sc rank label ++ t.answers sc rank rest := by
  rw [answers, h]

/-- The steps of the driver and of the reporter leave the users as they are or end them. -/
theorem userOf_of_step? (rank : Nat) {label : Label} (h : s.step? sc label = some t)
    (hl : ∀ i move, label ≠ .user i move) :
    t.userOf rank = s.userOf rank ∨ (t.userOf rank).isEnded = true := by
  cases label with
  | user i move => exact absurd rfl (hl i move)
  | cancel i =>
      simp only [step?, Option.bind_eq_bind, Option.bind_eq_some_iff] at h
      obtain ⟨u, hu, h⟩ := h
      split at h
      · cases h
        exact (userOf_cancelled hu rank).imp_right fun hp => User.isEnded_iff.mpr ⟨_, hp⟩
      · cases h
  | spawn =>
      simp only [step?] at h
      split at h
      · cases h
        exact .inl (userOf_spawned rank)
      · cases h
  | join i =>
      simp only [step?, Option.bind_eq_bind, Option.bind_eq_some_iff] at h
      obtain ⟨u, -, h⟩ := h
      repeat' split at h
      all_goals cases h
      exact .inl rfl
  | take =>
      simp only [step?] at h
      split at h
      · obtain ⟨-, -, rfl⟩ := Option.map_eq_some_iff.mp h
        exact .inl rfl
      · cases h
  | _ =>
      simp only [step?, recorded] at h
      repeat' split at h
      all_goals cases h
      all_goals exact .inl rfl

/-- What is returned in a step can be seen from what it makes of the users. -/
theorem returned_eq {label : Label} (h : s.step? sc label = some t) :
    s.returned sc rank label = s.returnedTo sc rank t := by
  cases label with
  | user i move =>
      simp only [step?, Option.bind_eq_bind, Option.bind_eq_some_iff] at h
      obtain ⟨u, hu, ⟨v, site⟩, hm, h⟩ := h
      cases h
      have hafter := userOf_withUser (s := { s with site }) (v := v) hu rank
      by_cases hi : i = rank
      · subst hi
        rw [if_pos rfl] at hafter
        rw [returned, if_pos rfl, returnedTo, hafter, userOf_of_getElem? hu]
        exact User.returned_eq hm
      · rw [if_neg (Ne.symm hi)] at hafter
        rw [returned, if_neg hi]
        exact (returnedTo_of_userOf_eq (s := s) hafter).symm
  | _ =>
      rcases userOf_of_step? rank h (fun _ _ => Label.noConfusion) with heq | hended
      · rw [returnedTo_of_userOf_eq heq]
        rfl
      · rw [returnedTo_of_isEnded hended]
        rfl

section courses
variable {capacity : Nat} {service : σ} {out : δ}

/-- What holds at the start, where nothing has returned, and is kept by every step with what returns
in it, holds wherever a course leads, with what has returned in it. -/
theorem course_answers_induction {P : Run σ δ → (Nat → List Answer) → Prop} {labels : List Label}
    (hstart : P (Run.start sc capacity service out) fun _ => [])
    (hstep : ∀ {s t answers}, Reachable sc capacity service out s → Stepped sc s t →
      P s answers → P t fun rank => answers rank ++ s.returnedTo sc rank t)
    (hc : (Run.start sc capacity service out).course? sc labels = some s) :
    P s fun rank => (Run.start sc capacity service out).answers sc rank labels := by
  -- from any state on, after what has returned before
  have hrest : ∀ {v : Run σ δ} {before : Nat → List Answer} {labels : List Label},
      Reachable sc capacity service out v → P v before → v.course? sc labels = some s →
      P s fun rank => before rank ++ v.answers sc rank labels := by
    intro v before labels hv hp hc
    induction labels generalizing v before with
    | nil =>
        cases hc
        simpa [answers] using hp
    | cons label rest ih =>
        obtain ⟨w, hw, hc⟩ := Option.bind_eq_some_iff.mp hc
        have hnext := ih (.step label hv hw) (hstep hv (stepped_of_step? hw) hp) hc
        simpa only [answers_cons hw, returned_eq hw, List.append_assoc] using hnext
  simpa using hrest .start hstart hc

/-! ### Assigned statuses -/

/-- No request returns another status than the one that is assigned to it. -/
def Assigns (sc : Scenario σ) (capacity : Nat) (service : σ) (out : δ)
    (status : Nat → Nat → Status) : Prop :=
  ∀ {s : Run σ δ} {rank ite : Nat} {sentAt : Int} {attempt : Except SendFault Flight} {a : Answer},
    Reachable sc capacity service out s →
    (s.userOf rank).phase = .waiting ite sentAt attempt →
    sc.service.answer? s.site.service rank ite attempt = some a → a.status = status rank ite

/-- A user that offers an outcome has offered it before the step, or the request has returned in it. -/
theorem Stepped.offering {o : Outcome} (h : Stepped sc s t)
    (ho : (t.userOf rank).phase = .offering o) :
    (s.userOf rank).phase = .offering o ∨
      o.rank = rank ∧ ∃ a sentAt attempt, (s.userOf rank).phase = .waiting o.ite sentAt attempt ∧
        sc.service.answer? s.site.service rank o.ite attempt = some a ∧ o.status = a.status := by
  cases h with
  | released | took | wrote | failed | closed | joined | concluded => exact .inl ho
  | spawned =>
      rw [userOf_spawned] at ho
      exact .inl ho
  | @cancelled i u hu =>
      rcases userOf_cancelled hu rank with heq | hended
      · rw [heq] at ho
        exact .inl ho
      · rw [hended] at ho
        cases ho
  | @moved i u v site hu hm =>
      rw [userOf_withUser (s := { s with site }) hu] at ho
      split at ho
      · rename_i hi
        subst hi
        obtain ⟨hrank, a, sentAt, attempt, hp, ha, hstatus⟩ := hm.answer?_of_offering ho
        rw [User.answer?_of_waiting hp] at ha
        rw [userOf_of_getElem? hu]
        exact .inr ⟨hrank, a, sentAt, attempt, hp, ha, hstatus⟩
      · exact .inl ho

/-- An outcome that is offered has the status that is assigned to its request. -/
theorem Assigns.of_offering {status : Nat → Nat → Status}
    (hf : Assigns sc capacity service out status) (h : Reachable sc capacity service out s)
    {o : Outcome} (ho : (s.userOf rank).phase = .offering o) : o.status = status rank o.ite := by
  refine h.induction (P := fun s => ∀ o, (s.userOf rank).phase = .offering o →
    o.status = status rank o.ite) ?_ (fun {s t} hr hs ih o ho => ?_) o ho
  · intro o ho
    simp [userOf, Run.start] at ho
  · rcases hs.offering ho with hbefore | ⟨-, a, sentAt, attempt, hp, ha, hstatus⟩
    · exact ih o hbefore
    · rw [hstatus]
      exact hf hr hp ha

end courses

/-- Only users that were spawned wait. -/
theorem Reachable.rank_lt_of_waiting {capacity : Nat} {service : σ} {out : δ}
    (h : Reachable sc capacity service out s) {ite : Nat} {sentAt : Int}
    {attempt : Except SendFault Flight} (hp : (s.userOf rank).phase = .waiting ite sentAt attempt) :
    rank < sc.config.users := by
  rcases Nat.lt_or_ge rank s.users.size with hlt | hge
  · exact Nat.lt_of_lt_of_le hlt h.sound.size_le
  · rw [userOf, Array.getElem?_eq_none hge] at hp
    cases hp

/-- Where the exchanges leave no trace in the service, the statuses that sending the requests one by
one returns are assigned to them. -/
theorem assigns_of_send {sc : Scenario Unit} {capacity : Nat} {out : δ}
    {status : Nat → Nat → Status}
    (hsend : ∀ rank < sc.config.users, ∀ ite < sc.config.requestsPerUser, ∀ a told next,
      sc.service.send () rank ite sc.config.spec = some (a, told, next) →
        a.status = status rank ite) :
    Assigns sc capacity () out status := by
  have hkeeps : sc.Keeps (fun _ => True)
      (fun rank ite attempt => rank < sc.config.users →
        sc.service.EndsIn rank ite (status rank ite) attempt)
      (fun _ => True) := by
    refine ⟨fun rank ite hi hrank => Service.endsIn_start (hsend rank hrank ite hi),
      fun _ hf hr => ?_⟩
    exact ⟨trivial, fun g hg hrank => (hf hrank).again hr hg, fun _ _ => trivial⟩
  intro s rank ite sentAt attempt a h hp ha
  exact ((h.kept hkeeps trivial).attempts hp (h.rank_lt_of_waiting hp)).status_eq ha

end Run
end LoginLoad
