import LoginLoad.Proofs.Run.Answers
import LoginLoad.Proofs.Run.Verdict
import LoginLoad.Proofs.Telling

/-! # Events and outcomes

In a run the moves of every user are a course of its own, which an abort may cut off, and the log is
merged from what the users told in their courses and from what the driver told (`Run.Merges`,
`Run.merges_of_course?`).  What the requests of the users return in their courses is what they return
in the steps of the run (`Run.answers`).  So in every user the answers of its requests, the events and
the outcomes are in step (`Run.events_follow_outcomes`).

The driver tells that the run has started before anything else, and when the run has come to a
number of lines it tells this number (`Run.driverEvents`).  Nothing else is told for those who only
want to know of whole runs (`Run.Merges.info_eq`). -/

namespace LoginLoad

open Event (own answersTo)
open Outcome (ofUser ofUser_append)
open User (Reported)

/-! ### What a run has told -/

section ranks
variable {rank other : Nat} {l : List Outcome}

theorem Outcome.ofUser_of_ranks (h : ∀ o ∈ l, o.rank = rank) : ofUser rank l = l :=
  List.filter_eq_self.mpr (by simpa using h)

theorem Outcome.ofUser_of_other (h : ∀ o ∈ l, o.rank = rank) (hne : other ≠ rank) :
    ofUser other l = [] :=
  List.filter_eq_nil_iff.mpr fun o ho => by simpa [h o ho] using Ne.symm hne

end ranks

namespace Event

/-- The events told in the moves of one user, or by the driver, of a log that has beside each event
the user in whose move it was told. -/
def toldBy (who : Option Nat) (log : List (Option Nat × Event)) : List Event :=
  (log.filter fun entry => entry.1 = who).map Prod.snd

theorem toldBy_append {who : Option Nat} (l m : List (Option Nat × Event)) :
    toldBy who (l ++ m) = toldBy who l ++ toldBy who m := by
  simp [toldBy]

theorem toldBy_map {who other : Option Nat} (es : List Event) :
    toldBy who (es.map (other, ·)) = if other = who then es else [] := by
  unfold toldBy
  rw [List.filter_map, List.map_map]
  split
  · rename_i h
    rw [List.filter_eq_self.mpr (by simp [h])]
    exact List.map_id _
  · rename_i h
    rw [List.filter_eq_nil_iff.mpr (by simp [h])]
    rfl

theorem mem_toldBy {who : Option Nat} {e : Event} {log : List (Option Nat × Event)} :
    e ∈ toldBy who log ↔ (who, e) ∈ log := by
  simp [toldBy]

end Event

open Outcome (ofUser_of_ranks ofUser_of_other)
open Event (toldBy toldBy_append toldBy_map mem_toldBy)

namespace Run
variable {σ δ : Type} {sc : Scenario σ} {s t : Run σ δ} {capacity : Nat} {service : σ} {out : δ}

/-- The events of the driver. -/
def driverEvents (sc : Scenario σ) (s : Run σ δ) : List Event :=
  openingEvent sc.config :: (s.result.map closingEvents).getD []

theorem level_driverEvents {e : Event} (he : e ∈ s.driverEvents sc) : e.level = .info := by
  unfold driverEvents at he
  match hres : s.result with
  | none | some (.error _) =>
      rw [hres] at he
      rw [List.mem_singleton.mp he]
      rfl
  | some (.ok n) =>
      rw [hres] at he
      rcases List.mem_pair.mp he with rfl | rfl <;> rfl

theorem runFinished_mem_driverEvents {lines : Nat} :
    .runFinished lines ∈ s.driverEvents sc ↔ s.result = some (.ok lines) := by
  unfold driverEvents
  match hres : s.result with
  | none | some (.error _) => simp [openingEvent, closingEvents]
  | some (.ok n) => simp [openingEvent, closingEvents, eq_comm]

/-- The moves of the user number `rank` are a course in which its requests returned the given answers
and it told the given events; an abort may have come after it. -/
def FollowsCourse (sc : Scenario σ) (s : Run σ δ) (rank : Nat) (answers : List Answer)
    (events : List Event) : Prop :=
  ∃ u, User.Course sc rank u answers events (ofUser rank s.site.channel.sent) ∧
    (s.userOf rank = u ∨ (s.userOf rank).phase = .ended (some (.join .cancelled)))

/-- The log of a run in which the requests of the users returned the given answers, with the user
beside each event in whose move it was told. -/
structure Merges (sc : Scenario σ) (s : Run σ δ) (answers : Nat → List Answer)
    (log : List (Option Nat × Event)) : Prop where
  log_eq : log.map Prod.snd = s.site.log
  driver : toldBy none log = s.driverEvents sc
  users : ∀ rank, s.FollowsCourse sc rank (answers rank) (toldBy (some rank) log)

namespace Merges
variable {answers : Nat → List Answer} {log : List (Option Nat × Event)}

theorem start : (Run.start sc capacity service out).Merges sc (fun _ => [])
    [(none, openingEvent sc.config)] where
  log_eq := rfl
  driver := rfl
  users _ := ⟨{}, .start, .inl (by simp [userOf, Run.start])⟩

/-- A step that tells nothing and leaves every user as it is, and the outcomes that were accepted of
it. -/
theorem quiet (h : s.Merges sc answers log) (huser : ∀ rank, t.userOf rank = s.userOf rank)
    (hlog : t.site.log = s.site.log) (hsent : t.site.channel.sent = s.site.channel.sent)
    (hresult : t.result = s.result) :
    t.Merges sc (fun rank => answers rank ++ s.returnedTo sc rank t) log where
  log_eq := by rw [h.log_eq, hlog]
  driver := by rw [h.driver, driverEvents, driverEvents, hresult]
  users rank := by
    rw [FollowsCourse, returnedTo_of_userOf_eq (huser rank), List.append_nil, huser, hsent]
    exact h.users rank

/-- A user that moves was not aborted, so it goes on in its course, and the others stay in theirs. -/
theorem moved {rank : Nat} {u v : User} {site : Site σ} (h : s.Merges sc answers log)
    (hu : s.users[rank]? = some u) (hm : u.Moved sc rank s.site v site) :
    ∃ es : List Event, ({ s with site }.withUser rank v).Merges sc
      (fun i => answers i ++ s.returnedTo sc i ({ s with site }.withUser rank v))
      (log ++ es.map (some rank, ·)) := by
  obtain ⟨es, os, hlog, hsent, htells⟩ := hm.tells
  obtain ⟨move, hstep⟩ := hm.exists_step?
  obtain ⟨w, hcourse, hw⟩ := h.users rank
  rw [userOf_of_getElem? hu] at hw
  -- an abort would have ended it
  have hwu : u = w := by
    refine hw.resolve_right fun hc => ?_
    have := hm.not_ended
    simp [User.isEnded, hc] at this
  subst hwu
  have hranks := htells.ranks hcourse.told
  refine ⟨es, ?_, ?_, fun i => ?_⟩
  · show _ = site.log
    rw [List.map_append, h.log_eq, hlog, List.map_map]
    exact congrArg _ (List.map_id _)
  · rw [toldBy_append, toldBy_map, if_neg (by simp), List.append_nil, h.driver]
    rfl
  · have hafter := userOf_withUser (s := { s with site }) (v := v) hu i
    show ∃ w, User.Course sc i w _ _ (ofUser i site.channel.sent) ∧ _
    rw [toldBy_append, toldBy_map, hafter, hsent, ofUser_append]
    by_cases hi : i = rank
    · subst hi
      have hreturned : s.returnedTo sc i ({ s with site }.withUser i v) =
          u.returned sc i move s.site := by
        rw [returnedTo, hafter, if_pos rfl, userOf_of_getElem? hu, User.returned_eq hstep]
      rw [if_pos rfl, if_pos rfl, ofUser_of_ranks hranks, hreturned]
      exact ⟨v, hcourse.move hstep hlog hsent, .inl rfl⟩
    · rw [if_neg hi] at hafter
      rw [if_neg (by simpa using Ne.symm hi), if_neg hi, List.append_nil,
        ofUser_of_other hranks hi, List.append_nil,
        returnedTo_of_userOf_eq (s := s) hafter, List.append_nil]
      exact h.users i

/-- The driver tells at its end that the run has finished, if it has. -/
theorem concluded {r : Reporter δ} {fault : Option WriteFault} (h : s.Merges sc answers log)
    (hr : s.result = none) :
    ∃ es : List Event, (s.concluded r fault).Merges sc
      (fun rank => answers rank ++ s.returnedTo sc rank (s.concluded r fault))
      (log ++ es.map (none, ·)) := by
  refine ⟨closingEvents (outcome fault s.firstError r.lines), ?_, ?_, fun rank => ?_⟩
  · show _ = (s.site.tellAll _).log
    rw [Site.log_tellAll, List.map_append, h.log_eq, List.map_map]
    exact congrArg _ (List.map_id _)
  · rw [toldBy_append, toldBy_map, if_pos rfl, h.driver, driverEvents, hr]
    rfl
  · have hsame : (s.concluded r fault).userOf rank = s.userOf rank := rfl
    rw [toldBy_append, toldBy_map, if_neg (by simp), List.append_nil, FollowsCourse,
      channel_concluded, returnedTo_of_userOf_eq hsame, List.append_nil]
    exact h.users rank

/-- Every step keeps the log merged from the courses of the users and the events of the driver. -/
theorem stepped [Device δ] (h : s.Merges sc answers log) (hs : Stepped sc s t) :
    ∃ rest, t.Merges sc (fun rank => answers rank ++ s.returnedTo sc rank t) (log ++ rest) := by
  -- a step that tells nothing
  have hquiet (ht : t.Merges sc (fun rank => answers rank ++ s.returnedTo sc rank t) log) :
      ∃ rest, t.Merges sc (fun rank => answers rank ++ s.returnedTo sc rank t) (log ++ rest) :=
    ⟨[], by rwa [List.append_nil]⟩
  cases hs with
  | spawned => exact hquiet (h.quiet userOf_spawned rfl rfl rfl)
  | released | wrote | failed | closed | joined =>
      exact hquiet (h.quiet (fun _ => rfl) rfl rfl rfl)
  | took _ ht => exact hquiet (h.quiet (fun _ => rfl) rfl (Channel.sent_take? ht) rfl)
  | moved hu hm =>
      obtain ⟨es, hes⟩ := h.moved hu hm
      exact ⟨_, hes⟩
  | @cancelled rank u hu =>
      refine hquiet ⟨h.log_eq, h.driver, fun i => ?_⟩
      obtain ⟨w, hcourse, hw⟩ := h.users i
      rcases userOf_cancelled hu i with heq | hended
      · rw [FollowsCourse, returnedTo_of_userOf_eq (s := s) heq, List.append_nil, heq]
        exact ⟨w, hcourse, hw⟩
      · rw [FollowsCourse, returnedTo_of_isEnded (User.isEnded_iff.mpr ⟨_, hended⟩),
          List.append_nil]
        exact ⟨w, hcourse, .inr hended⟩
  | concluded _ _ _ hr =>
      obtain ⟨es, hes⟩ := h.concluded hr
      exact ⟨_, hes⟩

end Merges

/-- Wherever a course leads, the log is merged from the courses of the users and from the events of
the driver, of which the first comes first. -/
theorem merges_of_course? [Device δ] {labels : List Label}
    (hc : (Run.start sc capacity service out).course? sc labels = some s) :
    ∃ rest, s.Merges sc (fun rank => (Run.start sc capacity service out).answers sc rank labels)
      ((none, openingEvent sc.config) :: rest) := by
  refine course_answers_induction
    (P := fun s answers => ∃ rest, s.Merges sc answers ((none, openingEvent sc.config) :: rest))
    ⟨[], .start⟩ (fun _ hs ⟨rest, ih⟩ => ?_) hc
  obtain ⟨more, hmore⟩ := ih.stepped hs
  exact ⟨rest ++ more, hmore⟩

/-- What the driver tells is all that is told for those who only want to know of whole runs. -/
theorem Merges.info_eq {answers : Nat → List Answer} {log : List (Option Nat × Event)}
    (h : s.Merges sc answers log) :
    s.site.log.filter (·.level = .info) = s.driverEvents sc := by
  have hdriver : ∀ entry ∈ log, entry.2.level = .info ↔ entry.1 = none := by
    rintro ⟨who, e⟩ he
    have hmem : e ∈ toldBy who log := mem_toldBy.mpr he
    cases who with
    | none =>
        rw [h.driver] at hmem
        simpa using level_driverEvents hmem
    | some rank =>
        obtain ⟨u, hcourse, -⟩ := h.users rank
        simpa using hcourse.level_ne hmem
  rw [← h.log_eq, ← h.driver, List.filter_map]
  unfold toldBy
  congr 1
  refine List.filter_congr fun entry he => ?_
  simpa using hdriver entry he

/-- A user that has come to its end without being aborted has told that it started with its number
of requests, then of the answers that its requests number 0, 1, .. returned, in this order, each by one
event that says the status of the answer, as its outcome does, and by one directly before if something
was wrong with the body of the response, and at last that it has finished, but this only if it ended
without an error.  All of this is told for those who debug.  There is one event for every accepted
outcome, and one more for the refused one if it was turned away.

Wherever a course of steps leads, the log is merged from what the users told in such courses, in which
their requests returned what they return in the steps, and from what the driver told.  It begins with
the opening of the run; apart from this the only event above the level of those who debug is that the
run finished with a number of lines, told if and only if it came to this number. -/
theorem events_follow_outcomes [Device δ] {labels : List Label}
    (hc : (start sc capacity service out).course? sc labels = some s) :
    (∀ (rank : Nat) (u : User) (answers : List Answer) (events : List Event)
      (accepted : List Outcome),
      User.Course sc rank u answers events accepted →
        (∀ e ∈ own events, e.level = .debug) ∧
        (.userFinished rank ∈ events ↔ u.phase = .ended none) ∧
        ∀ error, u.phase = .ended error →
          (error = none ∧ ∃ before, own events = before ++ [.userFinished rank] ∧
            Reported sc.config.requestsPerUser rank answers accepted before ∧
            accepted.length = sc.config.requestsPerUser ∧
            (answersTo rank events).length = accepted.length) ∨
          (error = some .reporterClosed ∧ ∃ refused,
            Reported sc.config.requestsPerUser rank answers (accepted ++ [refused])
              (own events) ∧
            accepted.length < sc.config.requestsPerUser ∧
            (answersTo rank events).length = accepted.length + 1) ∨
          (∃ detail, error = some (.client detail) ∧ sc.clientFault rank = some detail) ∨
          (error = some (.join .panicked) ∧ sc.mayPanic rank = true)) ∧
    (∃ log, log.map Prod.snd = s.site.log ∧ toldBy none log = s.driverEvents sc ∧
      ∀ rank, s.FollowsCourse sc rank ((start sc capacity service out).answers sc rank labels)
        (toldBy (some rank) log)) ∧
    s.site.log.head? = some (openingEvent sc.config) ∧
    s.site.log.filter (·.level = .info) = s.driverEvents sc ∧
    ∀ lines, .runFinished lines ∈ s.site.log ↔ s.result = some (.ok lines) := by
  obtain ⟨rest, hmerges⟩ := merges_of_course? hc
  refine ⟨fun rank u answers events accepted hu => ⟨hu.level_eq, hu.userFinished_mem_iff, ?_⟩,
    ⟨_, hmerges.log_eq, hmerges.driver, hmerges.users⟩, ?_, hmerges.info_eq, fun lines => ?_⟩
  · intro error hp
    rcases hu.error_cases hp with rfl | rfl | he | he
    · exact .inl ⟨rfl, hu.of_finished hp⟩
    · exact .inr (.inl ⟨rfl, hu.of_turnedAway hp⟩)
    · exact .inr (.inr (.inl he))
    · exact .inr (.inr (.inr he))
  · rw [← hmerges.log_eq]
    rfl
  · have hmem : Event.runFinished lines ∈ s.site.log ↔
        .runFinished lines ∈ s.site.log.filter (·.level = .info) := by
      simp [Event.level]
    rw [hmem, hmerges.info_eq, runFinished_mem_driverEvents]

/-- A user whose three requests come to a code whose response breaks off, to a failure, and to a
code. -/
def mixedAnswers : Scenario Unit where
  config := { users := 1, requestsPerUser := 3 }
  service := { reply := fun s _ ite _ =>
    match ite with
    | 0 => some (.response 200 none 0 (.broken .cutOff), s)
    | 1 => some (.fault .timedOut, s)
    | _ => some (.response 401 none 0 .whole, s) }

/-- The steps of its run, in which each outcome is written before the next request begins. -/
def mixedSteps : List Label :=
  [.spawn, .release, .user 0 .launch] ++
    (List.replicate 3 [.user 0 .request, .user 0 .reply, .user 0 .offer, .take, .record]).flatten ++
    [.user 0 .finish, .close, .join 0, .conclude]

/-- The run after these steps. -/
def mixedRun : Run Unit Sink :=
  let first := start mixedAnswers channelCapacity () ({} : Sink)
  (first.course? mixedAnswers mixedSteps).getD first

/-- It tells of all three answers, and of the first that its body was given up; the run tells of its
end. -/
theorem mixedAnswers_events :
    let first := start mixedAnswers channelCapacity () ({} : Sink)
    let late : RequestFault := .timeout
      "error sending request for url (http://localhost/auth/login): operation timed out"
    first.course? mixedAnswers mixedSteps = some mixedRun ∧
    first.answers mixedAnswers 0 mixedSteps =
      [{ status := .code 200, bodyFault := some .cutOff }, { status := .failed late },
        { status := .code 401 }] ∧
    (∃ log, log.map Prod.snd = mixedRun.site.log ∧
      own (toldBy (some 0) log) =
        [.userStarted 0 3, .bodyDiscarded 200 Http.BodyFault.cutOff.message, .responded 0 0 200 1,
          .requestFailed 0 1 late, .responded 0 2 401 1, .userFinished 0]) ∧
    mixedRun.site.log.filter (·.level = .info) =
      [openingEvent mixedAnswers.config, .runFinished 3] := by
  intro first late
  have hcourse : first.course? mixedAnswers mixedSteps = some mixedRun := by
    have hsome : (first.course? mixedAnswers mixedSteps).isSome = true := by decide +kernel
    obtain ⟨s, hs⟩ := Option.isSome_iff_exists.mp hsome
    show _ = some ((first.course? mixedAnswers mixedSteps).getD first)
    rw [hs, Option.getD_some]
  have hanswers : first.answers mixedAnswers 0 mixedSteps =
      [{ status := .code 200, bodyFault := some .cutOff }, { status := .failed late },
        { status := .code 401 }] := by decide +kernel
  obtain ⟨hcourses, ⟨log, hlog, -, husers⟩, -, hinfo, -⟩ := events_follow_outcomes hcourse
  refine ⟨hcourse, hanswers, ⟨log, hlog, ?_⟩, ?_⟩
  · have hphase : (mixedRun.userOf 0).phase = .ended none :=
      User.phase_of_error?_eq_none (by decide +kernel) (by decide +kernel)
    obtain ⟨u, hu, heq⟩ := husers 0
    obtain rfl := heq.resolve_right (by rw [hphase]; simp)
    obtain ⟨-, -, hended⟩ := hcourses 0 _ _ _ _ hu
    obtain ⟨-, before, hown, hrep, -⟩ := (hended none hphase).resolve_right (by simp)
    rw [hown, hrep.events_eq, hanswers]
    decide +kernel
  · have hres : mixedRun.result = some (.ok 3) := by decide +kernel
    rw [hinfo, driverEvents, hres]
    rfl

end Run
end LoginLoad
