import LoginLoad.Proofs.Run.Waiting

/-! # Runs in which a user fails

When the driver joins the first user that ended in an error it aborts all others.  The abort may
reach them anywhere: before they start, while they wait for a reply or for room in the channel, or
just after an outcome was accepted.  But it ends users only.  The reporter goes on until the channel
is empty, so what the channel has accepted by then is written, and the users have handed over the
first of their outcomes (`Reachable.exists_handed_over`).

So on a device that never fails the run comes to the first error that was joined, although the
requests of the other users may never return, and the output is the lines of all outcomes that were
accepted (`accepted_outcomes_survive`). -/

namespace LoginLoad

open Outcome (ofUser)

namespace Run

variable {σ δ : Type} {sc : Scenario σ} {capacity : Nat} {s t : Run σ δ} {service : σ} {out : δ}

/-! ### The output -/

/-- On a device that never fails the reporter does not fail. -/
theorem Reachable.fault_eq_none [Device δ] (h : Reachable sc capacity service out s)
    (hdev : Device.NeverFails out) {r : Reporter δ} {fault : Option WriteFault}
    (hd : s.desk = .stopped r fault) : fault = none := by
  have hwrote : s.desk.Accounts (fun r _ => Device.NeverFails r.sink) (fun _ _ _ _ => False)
      s.site.channel.taken := by
    refine h.accounts hdev (fun r r' lines o hr hrec => (hr.record hrec).2) ?_
    intro r r' f lines o hr hrec
    cases (hr.record hrec).1
  rw [hd] at hwrote
  cases fault with
  | none => rfl
  | some f =>
      obtain ⟨_, _, _, hfailed⟩ := hwrote
      exact hfailed.elim

/-- Where the reporter has ended by itself, everything that the channel accepted is written. -/
theorem Reachable.output_of_drained [Device δ] (h : Reachable sc capacity service out s)
    {r : Reporter δ} (hd : s.desk = .stopped r none) :
    s.site.channel.taken = s.site.channel.sent ∧
      s.output = Device.accepted out ++ s.site.channel.sent.flatMap Reporter.lineOf := by
  have hqueue := ((Channel.isExhausted_iff _).mp (h.sound.drained r hd)).1
  have hsent : s.site.channel.taken = s.site.channel.sent :=
    (Channel.sent_of_queue_eq_nil hqueue).symm
  have hwrote := h.wrote
  rw [hd] at hwrote
  refine ⟨hsent, ?_⟩
  rw [output, hd, ← hsent]
  exact hwrote.2

/-- In every state the outcomes that a user has handed over are those of its first requests, and
those of all of them if it is at its end without an error. -/
theorem Reachable.exists_handed_over [Device δ] (h : Reachable sc capacity service out s)
    (rank : Nat) : ∃ n ≤ sc.config.requestsPerUser,
      (ofUser rank s.site.channel.sent).map Outcome.ite = List.range n ∧
        (s.phaseOf rank = .ended none → n = sc.config.requestsPerUser) := by
  obtain ⟨n, pending, ht⟩ := h.tallied rank
  refine ⟨n, ht.stands.le, ht.ites, fun hended => ?_⟩
  have hst := ht.stands
  rw [hended] at hst
  exact hst.1

/-! ### The result -/

/-- When a doomed run returns, the driver has joined an error. -/
theorem Doomed.exists_first_error [Device δ] (hdoom : s.Doomed)
    (h : Reachable sc capacity service out s) {r : Reporter δ} {fault : Option WriteFault}
    {res : Except RunError Nat} (hret : s.Returned r fault res) :
    ∃ e, s.joined.findSome? s.errorOf = some e := by
  obtain ⟨rank, u, hu, hcase⟩ := hdoom
  obtain ⟨hj, hended⟩ := h.sound.all_joined hret.length_joined hu
  have herror : s.errorOf rank = u.error? := by rw [errorOf, hu]; rfl
  rcases hcase with he | ⟨_, o, ho⟩
  · refine Option.isSome_iff_exists.mp (List.findSome?_isSome_iff.mpr ⟨rank, hj, ?_⟩)
    rw [herror]
    exact he
  · simp [User.isEnded, ho] at hended

/-- Take a device that never fails and a state in which some user has ended in an error.  From there
no order of steps goes on for ever, and although no request returns, every order of steps can be
continued until the run has returned.  When it has, the result is the first error in the order of
the joins, which is a client that could not be built or a panic of a user.  The output is then the
lines of all outcomes that the channel has accepted, each of them whole, in the order in which they
were accepted; none that was accepted before is missing, and those of each user are the outcomes of
its first requests, or of all of them if it is at its end without an error. -/
theorem accepted_outcomes_survive [Device δ] (hcap : 1 ≤ capacity) (hdev : Device.NeverFails out)
    (h : Reachable sc capacity service out s) {rank : Nat} {e : RunError}
    (he : s.errorOf rank = some e) :
    (∀ labels t, s.course? sc labels = some t → labels.length ≤ s.work sc) ∧
    (∀ labels t, s.course? sc.mute labels = some t → t.result = none →
      ∃ label w, t.isReturn label = false ∧ t.step? sc label = some w) ∧
    ∀ (labels : List Label) (t : Run σ δ) (res : Except RunError Nat),
      s.course? sc labels = some t → t.result = some res →
        (∃ first, t.joined.findSome? t.errorOf = some first ∧ res = .error first ∧
          ∃ i ∈ t.joined, (∃ detail, sc.clientFault i = some detail ∧ first = .client detail) ∨
            (sc.mayPanic i = true ∧ first = .join .panicked)) ∧
        t.output = Device.accepted out ++ t.site.channel.sent.flatMap Reporter.lineOf ∧
        s.site.channel.sent <+: t.site.channel.sent ∧
        (∀ o ∈ t.site.channel.sent, o.rank < sc.config.users) ∧
        ∀ i, ∃ n ≤ sc.config.requestsPerUser,
          (ofUser i t.site.channel.sent).map Outcome.ite = List.range n ∧
            (t.phaseOf i = .ended none → n = sc.config.requestsPerUser) := by
  have hdoom : s.Doomed := by
    obtain ⟨u, hu, hue⟩ := Option.bind_eq_some_iff.mp he
    exact ⟨rank, u, hu, .inl (by rw [hue]; rfl)⟩
  refine ⟨fun labels t hc => ?_, fun labels t hc hres => hdoom.exists_step h hcap hc hres, ?_⟩
  · have := h.length_course_le hc
    omega
  · intro labels t res hc hres
    have ht := h.course hc
    have hdt : t.Doomed := h.course_induction hdoom (fun hv hs => hs.doomed hv.sound) hc
    have hsent : s.site.channel.sent <+: t.site.channel.sent :=
      h.course_induction (P := fun t => s.site.channel.sent <+: t.site.channel.sent)
        (List.prefix_refl _) (fun _ hs hv => hv.trans hs.sent_prefix) hc
    obtain ⟨r, fault, hret⟩ := ht.returned hres
    obtain rfl := ht.fault_eq_none hdev hret.desk_eq
    obtain ⟨first, hfirst⟩ := hdt.exists_first_error ht hret
    refine ⟨⟨first, hfirst, ?_, ht.explained.root_cause hret.desk_eq hfirst⟩,
      (ht.output_of_drained hret.desk_eq).2, hsent, fun o ho => ht.rank_lt ho,
      ht.exists_handed_over⟩
    rw [hret.result_eq, ht.explained.firstError_eq, hfirst]
    rfl

/-- Two users of two requests.  The second user has no client, and the second request of the first
one never returns. -/
def abortedUser : Scenario Unit where
  config := { users := 2, requestsPerUser := 2 }
  service := { reply := fun s _ ite _ =>
    if ite = 0 then some (.response 200 none 0 .whole, s) else none }
  clientFault rank := if rank = 1 then some "no certificates" else none

/-- The first user is aborted while it waits, and its first outcome is written. -/
theorem abortedUser_survives :
    (complete abortedUser () {}).result = some (.error (.client "no certificates")) ∧
      (complete abortedUser () {}).errorOf 0 = some (.join .cancelled) ∧
      (complete abortedUser () {}).output = Utf8.encode "user-0 -> 200\n".toList := by
  have hres : (complete abortedUser () {}).result =
      some (.error (.client "no certificates")) := by decide +kernel
  have herror : (complete abortedUser () {}).errorOf 0 = some (.join .cancelled) := by
    decide +kernel
  have hlines : (complete abortedUser () {}).site.channel.sent.flatMap Reporter.lineOf =
      Utf8.encode "user-0 -> 200\n".toList := by decide +kernel
  have hdev : Device.NeverFails ({} : Sink) := Sink.neverFails rfl (by simp) rfl
  obtain ⟨_, _, hreturns⟩ :=
    accepted_outcomes_survive (by decide) hdev reachable_complete herror
  obtain ⟨_, hout, _⟩ := hreturns [] _ _ rfl hres
  exact ⟨hres, herror, hout.trans hlines⟩

end Run
end LoginLoad
