import LoginLoad.Proofs.Moves
import LoginLoad.Run.Schedule

/-! # The steps of a run

`Run.Stepped` lists what one step of a run may make of it, with the guard of each step: these are the
steps of `Run.step?` (`stepped_of_step?`, `Stepped.exists_step?`).  What holds at the start and is
kept by every listed step holds of every state that some order of steps leads to
(`Reachable.induction`).

A step changes the state of one user at most, so a sum over the users changes by what the one user
contributes (`total_withUser`). -/

namespace LoginLoad
namespace Run

variable {σ δ : Type}

/-! ### The users after a step -/

section users
variable {s : Run σ δ} {f : User → Nat} {rank : Nat} {u v : User}

theorem foldr_set {l : List User} (h : l[rank]? = some u) :
    (l.set rank v).foldr (fun w n => f w + n) 0 + f u = l.foldr (fun w n => f w + n) 0 + f v := by
  induction l generalizing rank with
  | nil => cases h
  | cons w rest ih =>
      cases rank with
      | zero =>
          cases h
          simp only [List.set_cons_zero, List.foldr_cons]
          omega
      | succ n =>
          have := ih (by simpa using h)
          simp only [List.set_cons_succ, List.foldr_cons]
          omega

theorem foldr_push (l : List User) :
    (l ++ [v]).foldr (fun w n => f w + n) 0 = l.foldr (fun w n => f w + n) 0 + f v := by
  induction l with
  | nil => simp
  | cons w rest ih =>
      simp only [List.cons_append, List.foldr_cons, ih]
      omega

theorem getElem?_withUser (h : s.users[rank]? = some u) (i : Nat) :
    (s.withUser rank v).users[i]? = if i = rank then some v else s.users[i]? := by
  obtain ⟨hlt, _⟩ := Array.getElem?_eq_some_iff.mp h
  simp only [withUser, Array.getElem?_setIfInBounds]
  by_cases hi : i = rank
  · subst hi
    simp [hlt]
  · rw [if_neg (Ne.symm hi), if_neg hi]

/-- The user number `rank`; one that is not there yet is at its beginning. -/
def userOf (s : Run σ δ) (rank : Nat) : User := s.users[rank]?.getD {}

theorem userOf_of_getElem? (h : s.users[rank]? = some u) : s.userOf rank = u := by
  simp [userOf, h]

theorem userOf_withUser (h : s.users[rank]? = some u) (i : Nat) :
    (s.withUser rank v).userOf i = if i = rank then v else s.userOf i := by
  unfold userOf
  rw [getElem?_withUser h]
  split <;> rfl

/-- An abort ends one user and leaves the others as they are. -/
theorem userOf_cancelled (h : s.users[rank]? = some u) (i : Nat) :
    (({ s with site := s.site.release } : Run σ δ).withUser rank
        (u.stop (some (.join .cancelled)))).userOf i = s.userOf i ∨
      ((({ s with site := s.site.release } : Run σ δ).withUser rank
        (u.stop (some (.join .cancelled)))).userOf i).phase = .ended (some (.join .cancelled)) := by
  rw [userOf_withUser (s := { s with site := s.site.release }) h]
  split
  · exact .inr rfl
  · exact .inl rfl

theorem userOf_spawned (rank : Nat) : s.spawned.userOf rank = s.userOf rank := by
  unfold userOf
  simp only [spawned, Array.getElem?_push]
  split
  · rename_i heq
    simp [heq]
  · rfl

theorem total_withUser (h : s.users[rank]? = some u) :
    (s.withUser rank v).total f + f u = s.total f + f v := by
  unfold total withUser
  rw [Array.toList_setIfInBounds]
  exact foldr_set (by simpa using h)

theorem total_spawned : s.spawned.total f = s.total f + f {} := by
  unfold total spawned
  rw [Array.toList_push]
  exact foldr_push _

theorem total_eq_zero_iff :
    s.total f = 0 ↔ ∀ (rank : Nat) (u : User), s.users[rank]? = some u → f u = 0 := by
  have hfold : ∀ l : List User, l.foldr (fun w n => f w + n) 0 = 0 ↔ ∀ w ∈ l, f w = 0 := by
    intro l
    induction l with
    | nil => simp
    | cons w rest ih =>
        rw [List.foldr_cons, Nat.add_eq_zero_iff, ih]
        simp
  unfold total
  rw [hfold]
  constructor
  · intro h rank w hw
    exact h w (Array.mem_toList_iff.mpr (Array.mem_of_getElem? hw))
  · intro h w hw
    obtain ⟨rank, hr⟩ := Array.mem_iff_getElem?.mp (Array.mem_toList_iff.mp hw)
    exact h rank w hr

end users

/-! ### The steps -/

variable [Device δ]

/-- What one step may make of a run. -/
inductive Stepped (sc : Scenario σ) (s : Run σ δ) : Run σ δ → Prop
  | spawned : s.isSpawning = true → s.users.size < sc.config.users → Stepped sc s s.spawned
  | released : s.isSpawning = true → s.users.size = sc.config.users →
      Stepped sc s { s with isSpawning := false, site := s.site.release }
  | moved {rank : Nat} {u v : User} {site : Site σ} : s.users[rank]? = some u →
      u.Moved sc rank s.site v site → Stepped sc s ({ s with site }.withUser rank v)
  | cancelled {rank : Nat} {u : User} : s.users[rank]? = some u → s.firstError.isSome = true →
      u.isEnded = false →
      Stepped sc s
        ({ s with site := s.site.release }.withUser rank (u.stop (some (.join .cancelled))))
  | took {r : Reporter δ} {o : Outcome} {channel : Channel} : s.desk = .waiting r →
      s.site.channel.take? = some (o, channel) →
      Stepped sc s { s with site := { s.site with channel }, desk := .holding r o }
  | wrote {r t : Reporter δ} {o : Outcome} : s.desk = .holding r o → r.record o = (none, t) →
      Stepped sc s { s with desk := .waiting t }
  | failed {r t : Reporter δ} {o : Outcome} {fault : WriteFault} : s.desk = .holding r o →
      r.record o = (some fault, t) → Stepped sc s (s.stopped t (some fault))
  | closed {r : Reporter δ} : s.desk = .waiting r → s.site.channel.isExhausted = true →
      Stepped sc s (s.stopped r none)
  | joined {rank : Nat} {u : User} {error : Option RunError} : s.isSpawning = false →
      s.users[rank]? = some u → u.phase = .ended error → rank ∉ s.joined →
      Stepped sc s
        { s with joined := s.joined ++ [rank], firstError := s.firstError <|> error }
  | concluded {r : Reporter δ} {fault : Option WriteFault} : s.desk = .stopped r fault →
      s.isSpawning = false → s.joined.length = s.users.size → s.result = none →
      Stepped sc s (s.concluded r fault)

variable {sc : Scenario σ} {s t : Run σ δ}

theorem stepped_of_step? {label : Label} (h : s.step? sc label = some t) : Stepped sc s t := by
  cases label with
  | spawn =>
      simp only [step?] at h
      split at h
      · rename_i hg
        rw [Bool.and_eq_true, decide_eq_true_eq] at hg
        cases h
        exact .spawned hg.1 hg.2
      · cases h
  | release =>
      simp only [step?] at h
      split at h
      · rename_i hg
        rw [Bool.and_eq_true, decide_eq_true_eq] at hg
        cases h
        exact .released hg.1 hg.2
      · cases h
  | user rank move =>
      simp only [step?, Option.bind_eq_bind, Option.bind_eq_some_iff] at h
      obtain ⟨u, hu, ⟨v, site⟩, hm, h⟩ := h
      cases h
      exact .moved hu (User.moved_of_step? hm)
  | cancel rank =>
      simp only [step?, Option.bind_eq_bind, Option.bind_eq_some_iff] at h
      obtain ⟨u, hu, h⟩ := h
      split at h
      · rename_i hg
        rw [Bool.and_eq_true, Bool.not_eq_true'] at hg
        cases h
        exact .cancelled hu hg.1 hg.2
      · cases h
  | take =>
      cases hd : s.desk with
      | waiting r =>
          simp only [step?, hd, Option.map_eq_some_iff] at h
          obtain ⟨⟨o, channel⟩, ht, h⟩ := h
          cases h
          exact .took hd ht
      | _ => simp [step?, hd] at h
  | record =>
      cases hd : s.desk with
      | holding r o =>
          simp only [step?, hd, recorded, Option.some.injEq] at h
          cases hr : r.record o with
          | mk fault t =>
              rw [hr] at h
              cases fault with
              | none =>
                  cases h
                  exact .wrote hd hr
              | some fault =>
                  cases h
                  exact .failed hd hr
      | _ => simp [step?, hd] at h
  | close =>
      cases hd : s.desk with
      | waiting r =>
          simp only [step?, hd] at h
          split at h
          · cases h
            exact .closed hd ‹_›
          · cases h
      | _ => simp [step?, hd] at h
  | join rank =>
      simp only [step?, Option.bind_eq_bind, Option.bind_eq_some_iff] at h
      obtain ⟨u, hu, h⟩ := h
      cases hp : u.phase with
      | ended error =>
          simp only [hp] at h
          split at h
          · cases h
          · rename_i hg
            rw [Bool.or_eq_true, decide_eq_true_eq, not_or, Bool.not_eq_true] at hg
            cases h
            exact .joined hg.1 hu hp hg.2
      | _ => simp [hp] at h
  | conclude =>
      cases hd : s.desk with
      | stopped r fault =>
          simp only [step?, hd] at h
          split at h
          · rename_i hg
            simp only [Bool.and_eq_true, Bool.not_eq_true', decide_eq_true_eq,
              Option.isNone_iff_eq_none] at hg
            cases h
            exact .concluded hd hg.1.1 hg.1.2 hg.2
          · cases h
      | _ => simp [step?, hd] at h

theorem Stepped.exists_step? (h : Stepped sc s t) : ∃ label, s.step? sc label = some t := by
  cases h with
  | spawned hs hu => exact ⟨.spawn, by simp [step?, hs, hu]⟩
  | released hs hu => exact ⟨.release, by simp [step?, hs, hu]⟩
  | @moved rank u v site hu hm =>
      obtain ⟨move, hm⟩ := hm.exists_step?
      exact ⟨.user rank move, by simp [step?, hu, hm]⟩
  | @cancelled rank u hu he hn => exact ⟨.cancel rank, by simp [step?, hu, he, hn]⟩
  | took hd ht => exact ⟨.take, by simp [step?, hd, ht]⟩
  | wrote hd hr => exact ⟨.record, by simp [step?, hd, recorded, hr]⟩
  | failed hd hr => exact ⟨.record, by simp [step?, hd, recorded, hr]⟩
  | closed hd hx => exact ⟨.close, by simp [step?, hd, hx]⟩
  | @joined rank u error hs hu hp hj => exact ⟨.join rank, by simp [step?, hu, hp, hs, hj]⟩
  | concluded hd hs hj hr => exact ⟨.conclude, by simp [step?, hd, hs, hj, hr]⟩

/-- What holds at the start and is kept by every step holds of every reachable state. -/
theorem Reachable.induction {capacity : Nat} {service : σ} {out : δ} {P : Run σ δ → Prop}
    (hstart : P (Run.start sc capacity service out))
    (hstep : ∀ {s t}, Reachable sc capacity service out s → Stepped sc s t → P s → P t)
    (h : Reachable sc capacity service out s) : P s := by
  induction h with
  | start => exact hstart
  | step label hr hl ih => exact hstep hr (stepped_of_step? hl) ih

/-! ### Orders of steps -/

section courses
variable {capacity : Nat} {service : σ} {out : δ}

theorem course?_append (labels rest : List Label) (s : Run σ δ) :
    s.course? sc (labels ++ rest) = (s.course? sc labels).bind fun t => t.course? sc rest := by
  induction labels generalizing s with
  | nil => rfl
  | cons label labels ih =>
      simp only [List.cons_append, course?, Option.bind_assoc]
      congr 1
      funext t
      exact ih t

/-- What holds of a reachable state and is kept by every step holds wherever an order of steps leads
from it. -/
theorem Reachable.course_induction {P : Run σ δ → Prop} {labels : List Label}
    (h : Reachable sc capacity service out s) (hs : P s)
    (hstep : ∀ {v w}, Reachable sc capacity service out v → Stepped sc v w → P v → P w)
    (hc : s.course? sc labels = some t) : P t := by
  induction labels generalizing s with
  | nil =>
      cases hc
      exact hs
  | cons label labels ih =>
      obtain ⟨w, hw, hc⟩ := Option.bind_eq_some_iff.mp hc
      exact ih (.step label h hw) (hstep h (stepped_of_step? hw) hs) hc

theorem Reachable.course {labels : List Label} (h : Reachable sc capacity service out s)
    (hc : s.course? sc labels = some t) : Reachable sc capacity service out t := by
  refine h.course_induction h (fun {v w} hv hs _ => ?_) hc
  obtain ⟨label, hl⟩ := hs.exists_step?
  exact .step label hv hl

/-- The reachable states are those to which some order of steps leads from the start. -/
theorem reachable_iff_course : Reachable sc capacity service out s ↔
    ∃ labels, (start sc capacity service out).course? sc labels = some s := by
  constructor
  · intro h
    induction h with
    | start => exact ⟨[], rfl⟩
    | step label _ hl ih =>
        obtain ⟨labels, hc⟩ := ih
        exact ⟨labels ++ [label], by simp [course?_append, hc, course?, hl]⟩
  · rintro ⟨labels, hc⟩
    exact Reachable.start.course hc

theorem userMove?_step {ranks : List Nat} (h : s.userMove? sc ranks = some t) :
    ∃ label, s.step? sc label = some t := by
  induction ranks with
  | nil => cases h
  | cons rank rest ih =>
      rw [userMove?] at h
      split at h
      · rename_i w hw
        cases h
        obtain ⟨move, _, hm⟩ := List.exists_of_findSome?_eq_some hw
        exact ⟨_, hm⟩
      · exact ih h

/-- The scheduled step is a step. -/
theorem next?_step (h : s.next? sc = some t) : ∃ label, s.step? sc label = some t := by
  simp only [next?, Option.orElse_eq_orElse, Option.orElse_eq_or, Option.or_eq_some_iff] at h
  rcases h with h | ⟨_, h | ⟨_, h | ⟨_, h | ⟨_, h | ⟨_, h⟩⟩⟩⟩⟩
  · obtain ⟨label, _, hl⟩ := List.exists_of_findSome?_eq_some h
    exact ⟨label, hl⟩
  · split at h
    · obtain ⟨rank, _, hl⟩ := List.exists_of_findSome?_eq_some h
      exact ⟨_, hl⟩
    · cases h
  · exact userMove?_step h
  · obtain ⟨label, _, hl⟩ := List.exists_of_findSome?_eq_some h
    exact ⟨label, hl⟩
  · obtain ⟨rank, _, hl⟩ := List.exists_of_findSome?_eq_some h
    exact ⟨_, hl⟩
  · exact ⟨_, h⟩

theorem Reachable.driveFor (h : Reachable sc capacity service out s) (fuel : Nat) :
    Reachable sc capacity service out (s.driveFor sc fuel) := by
  induction fuel generalizing s with
  | zero => exact h
  | succ fuel ih =>
      rw [Run.driveFor]
      split
      · rename_i t ht
        obtain ⟨label, hl⟩ := next?_step ht
        exact ih (.step label h hl)
      · exact h

/-- A whole run in the scheduled order is one of the courses. -/
theorem reachable_complete {plan : SinkPlan} :
    Reachable sc channelCapacity service ({ plan } : Sink) (complete sc service plan) :=
  Reachable.start.driveFor _

end courses

end Run

/-- A service that answers every exchange at once with the same code. -/
def Service.constant (code : UInt16) : Service Unit where
  reply s _ _ _ := some (.response code none 0 .whole, s)

end LoginLoad
