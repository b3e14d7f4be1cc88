import LoginLoad.Proofs.Run.Waiting
import LoginLoad.World

/-! # Runs whose reporter has failed

The driver waits for the users before it waits for the reporter.  So when the reporter has failed
the driver learns of it from a user that is turned away, and a user is turned away only when it has
an outcome to offer.  As long as every user that is left waits for a reply, nothing happens
(`hungServer_blocked`).

But one reply is enough: the user that it comes to is turned away, the driver joins its error and
aborts the others, whether or not their requests ever return (`failed_reporter_ends_run`). -/

namespace LoginLoad

/-- Whether a user waits for the channel to accept an outcome. -/
def User.isOffering (u : User) : Bool :=
  match u.phase with
  | .offering _ => true
  | _ => false

theorem User.isOffering_iff {u : User} :
    u.isOffering = true ↔ ∃ outcome, u.phase = .offering outcome := by
  unfold isOffering
  cases u.phase <;> simp

namespace Run

variable {σ δ : Type} {sc : Scenario σ} {capacity : Nat} {s t : Run σ δ} {service : σ} {out : δ}

/-- After a failure of the reporter a run can only come to that failure. -/
theorem Reachable.result_of_failed [Device δ] (h : Reachable sc capacity service out s)
    {r : Reporter δ} {f : WriteFault} (hd : s.desk = .stopped r (some f)) {labels : List Label}
    (hc : s.course? sc labels = some t) (hres : t.result.isSome = true) :
    t.result = some (.error f.toRunError) := by
  obtain ⟨res, hres⟩ := Option.isSome_iff_exists.mp hres
  have hdesk : t.desk = .stopped r (some f) :=
    h.course_induction (P := fun t => t.desk = .stopped r (some f)) hd
      (fun _ hs hv => (hs.of_stopped hv).1) hc
  obtain ⟨r', fault, hret⟩ := (h.course hc).returned hres
  have hfault : fault = some f := by
    have := hret.desk_eq.symm.trans hdesk
    cases this
    rfl
  rw [hres, hret.result_eq, hfault]
  rfl

/-- A doomed run whose reporter has failed can be carried to that failure, although no request
returns. -/
theorem Doomed.exists_failure [Device δ] (hdoom : s.Doomed)
    (h : Reachable sc capacity service out s) (hcap : 1 ≤ capacity) {r : Reporter δ}
    {f : WriteFault} (hd : s.desk = .stopped r (some f)) :
    ∃ labels t, s.course? sc.mute labels = some t ∧ t.result = some (.error f.toRunError) := by
  obtain ⟨labels, t, hc, hres⟩ := hdoom.exists_course h hcap
  exact ⟨labels, t, hc, h.result_of_failed hd (course?_of_mute hc) hres⟩

/-- Take a state in which the reporter has failed and the run has not returned.  Some step other
than the return of a request can be taken, unless the run is blocked; and although no request
returns, the run can be carried to the failure of the reporter or to a blocked state.  Where a user
offers an outcome or has ended in an error, it can be carried to that failure, and on the way no
state is blocked.  In a blocked state in which nobody panics only requests return, and once one of
them has returned with an outcome the run can be carried to the failure of the reporter, although no
other request returns. -/
theorem failed_reporter_ends_run [Device δ] (hcap : 1 ≤ capacity)
    (h : Reachable sc capacity service out s) {r : Reporter δ} {f : WriteFault}
    (hd : s.desk = .stopped r (some f)) (hres : s.result = none) :
    (¬ s.Blocked → ∃ label t, s.isReturn label = false ∧ s.step? sc label = some t) ∧
    (∃ labels t, s.course? sc.mute labels = some t ∧
      (t.result = some (.error f.toRunError) ∨ t.Blocked)) ∧
    (∀ (rank : Nat) (u : User), s.users[rank]? = some u →
      (u.error?.isSome = true ∨ ∃ o, u.phase = .offering o) →
        (∃ labels t, s.course? sc.mute labels = some t ∧
          t.result = some (.error f.toRunError)) ∧
        ∀ labels t, s.course? sc.mute labels = some t → ¬ t.Blocked) ∧
    (s.Blocked →
      ((∀ rank, sc.mayPanic rank = false) → ∀ label t, s.step? sc label = some t →
        s.isReturn label = true) ∧
      ∀ (rank : Nat) (t : Run σ δ) (u : User) (o : Outcome),
        s.step? sc (.user rank .reply) = some t → t.users[rank]? = some u →
          u.phase = .offering o →
            ∃ labels w, t.course? sc.mute labels = some w ∧
              w.result = some (.error f.toRunError)) := by
  have hstopped : s.desk.isStopped = true := by
    rw [hd]
    rfl
  refine ⟨fun hb => ?_, ?_, fun rank u hu hcase => ?_, fun hb => ⟨fun hpanic label t hl => ?_, ?_⟩⟩
  · rcases h.sound.exists_stepped_mute hcap hres with ⟨t, hs⟩ | hb'
    · obtain ⟨label, hl⟩ := hs.exists_step?
      exact ⟨label, t, step?_mute_eq_some.mp hl⟩
    · exact absurd hb' hb
  · obtain ⟨labels, t, hc, hres | hb⟩ := h.exists_course_mute hcap
    · exact ⟨labels, t, hc, .inl (h.result_of_failed hd (course?_of_mute hc) hres)⟩
    · exact ⟨labels, t, hc, .inr hb⟩
  · have hdoom : s.Doomed := ⟨rank, u, hu, hcase.imp_right fun ho => ⟨hstopped, ho⟩⟩
    exact ⟨hdoom.exists_failure h hcap hd,
      fun labels t hc => hdoom.not_blocked_of_course h (course?_of_mute hc)⟩
  · cases hret : s.isReturn label with
    | true => rfl
    | false =>
        have hl' : s.step? sc.mute label = some t := step?_mute_eq_some.mpr ⟨hret, hl⟩
        exact absurd (stepped_of_step? hl') (hb.not_stepped_mute h.sound hpanic)
  · intro rank t u o hl hu ho
    have hdt := ((stepped_of_step? hl).of_stopped hd).1
    have hdoom : t.Doomed := ⟨rank, u, hu, .inr ⟨by rw [hdt]; rfl, o, ho⟩⟩
    exact hdoom.exists_failure (.step _ h hl) hcap hdt

/-- A reply without a body, after which the connection is kept. -/
def emptyReply : ScriptedReply where
  parts := [Utf8.encode "HTTP/1.1 200 OK\r\ncontent-length: 0\r\n\r\n".toList]
  closes := false

/-- A server that answers the first `n` requests and then keeps silent. -/
def silentAfter (n : Nat) : World where
  servers := [(8080, { replies := List.replicate n emptyReply ++ [{ closes := false }] })]

/-- Users of two requests without a time limit. -/
def patientUsers (users : Nat) : Scenario World where
  config :=
    { users, requestsPerUser := 2, timeout := none, spec := { url := "http://127.0.0.1:8080/" } }
  service := World.service

/-- A device that accepts nothing. -/
def fullSink : Sink where
  plan := { budget := some 0 }

/-- Steps in which the reporter fails on the first outcome of the first user while the user offers
its second one and the other waits for a reply. -/
def failWhileOffering : List Label :=
  [.spawn, .spawn, .release, .user 0 .launch, .user 0 .request, .user 0 .reply, .user 0 .offer,
    .user 0 .request, .user 0 .reply, .user 1 .launch, .user 1 .request, .take, .record]

/-- The run comes to its result although the second user never gets a reply. -/
theorem offeringUser_ends_run : ∃ s : Run World Sink,
    Reachable (patientUsers 2) channelCapacity (silentAfter 2) fullSink s ∧
      s.isReturn (.user 1 .reply) = true ∧ s.step? (patientUsers 2) (.user 1 .reply) = none ∧
      ∃ labels t, s.course? (patientUsers 2).mute labels = some t ∧
        t.result = some (.error (.io "writer failed")) := by
  have hrun : ((start (patientUsers 2) channelCapacity (silentAfter 2) fullSink).course?
      (patientUsers 2) failWhileOffering).any (fun s =>
        s.desk = .stopped s.desk.reporter (some (.failed "writer failed")) && s.result.isNone &&
          s.isReturn (.user 1 .reply) && (s.step? (patientUsers 2) (.user 1 .reply)).isNone &&
          s.users[0]?.any User.isOffering) = true := by
    decide +kernel
  obtain ⟨s, hs, hstate⟩ := (Option.any_eq_true _ _).mp hrun
  simp only [Bool.and_eq_true, decide_eq_true_eq, Option.isNone_iff_eq_none] at hstate
  obtain ⟨⟨⟨⟨hdesk, hres⟩, hpending⟩, hnever⟩, hoffers⟩ := hstate
  have hreach : Reachable (patientUsers 2) channelCapacity (silentAfter 2) fullSink s :=
    reachable_iff_course.mpr ⟨_, hs⟩
  obtain ⟨u, hu, ho⟩ := (Option.any_eq_true _ _).mp hoffers
  obtain ⟨_, _, hdoomed, _⟩ := failed_reporter_ends_run (by decide) hreach hdesk hres
  exact ⟨s, hreach, hpending, hnever, (hdoomed 0 u hu (.inr (User.isOffering_iff.mp ho))).1⟩

/-- Steps in which the reporter fails on the first outcome of a user while its second request is
under way. -/
def failWhileWaiting : List Label :=
  [.spawn, .release, .user 0 .launch, .user 0 .request, .user 0 .reply, .user 0 .offer,
    .user 0 .request, .take, .record]

/-- The reporter has failed and the run has not returned, but no step can be taken. -/
theorem hungServer_blocked : ∃ s : Run World Sink,
    Reachable (patientUsers 1) channelCapacity (silentAfter 1) fullSink s ∧
      s.desk = .stopped s.desk.reporter (some (.failed "writer failed")) ∧ s.result = none ∧
      ∀ label, s.step? (patientUsers 1) label = none := by
  have hrun : ((start (patientUsers 1) channelCapacity (silentAfter 1) fullSink).course?
      (patientUsers 1) failWhileWaiting).any (fun s =>
        s.desk = .stopped s.desk.reporter (some (.failed "writer failed")) && s.result.isNone &&
          !s.isSpawning && s.firstError.isNone && s.users.size = 1 &&
          s.isReturn (.user 0 .reply) &&
          (s.step? (patientUsers 1) (.user 0 .reply)).isNone) = true := by
    decide +kernel
  obtain ⟨s, hs, hstate⟩ := (Option.any_eq_true _ _).mp hrun
  simp only [Bool.and_eq_true, Bool.not_eq_true', decide_eq_true_eq, Option.isNone_iff_eq_none]
    at hstate
  obtain ⟨⟨⟨⟨⟨⟨hdesk, hres⟩, hsp⟩, hfirst⟩, hsize⟩, hpending⟩, hnever⟩ := hstate
  have hreach : Reachable (patientUsers 1) channelCapacity (silentAfter 1) fullSink s :=
    reachable_iff_course.mpr ⟨_, hs⟩
  have hone : ∀ (rank : Nat) (u : User), s.users[rank]? = some u → rank = 0 := by
    intro rank u hu
    have := (Array.getElem?_eq_some_iff.mp hu).1
    omega
  obtain ⟨u, hu, hwaits⟩ := (Option.any_eq_true _ _).mp hpending
  have hblocked : s.Blocked := by
    refine ⟨hsp, hfirst, fun rank w hw => .inr ?_, ⟨0, u, hu, hwaits⟩, .inl (by rw [hdesk]; rfl)⟩
    rw [hone rank w hw, hu] at hw
    cases hw
    exact hwaits
  refine ⟨s, hreach, hdesk, hres, fun label => ?_⟩
  cases hl : s.step? (patientUsers 1) label with
  | none => rfl
  | some t =>
      cases hret : s.isReturn label with
      | false =>
          have hl' := step?_mute_eq_some.mpr ⟨hret, hl⟩
          exact absurd (stepped_of_step? hl')
            (hblocked.not_stepped_mute hreach.sound fun _ => rfl)
      | true =>
          obtain ⟨rank, w, rfl, hw, _⟩ := isReturn_iff.mp hret
          rw [hone rank w hw, hnever] at hl
          cases hl

end Run
end LoginLoad
