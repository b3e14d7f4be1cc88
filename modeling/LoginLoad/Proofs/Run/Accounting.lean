import Mathlib
import LoginLoad.Proofs.Reporting
import LoginLoad.Proofs.Run.Events

/-! # The account of a run

The reporter writes the outcomes that it takes from the channel in the order in which it takes them,
and what it has written is accounted for by what it has taken (`Reachable.accounts`).  When a run
ends with a number of lines every user came to its end without an error, so by its tally it handed
over the outcomes of all its requests, and nothing is left in the channel (`Returned.complete`).

So the output of such a run is that of the users' requests, each line whole and each user's lines in
the order of its requests (`result_ok_accounting`). -/

namespace LoginLoad

open Outcome (ofUser ofUser_append mem_ofUser)
open Event (answersTo)

/-! ### Lines and outcomes -/

namespace Reporter

/-- The bytes of the line that reports a status to a user. -/
def lineFor (rank : Nat) (status : Status) : List UInt8 :=
  Utf8.encode ("user-" ++ toString rank ++ " -> " ++ status.message ++ "\n").toList

theorem lineOf_eq (o : Outcome) : lineOf o = lineFor o.rank o.status := rfl

end Reporter

/-- The outcomes are those of the first `n` requests of a user, in order, with the statuses that are
assigned to these. -/
def Outcome.AreFirst (status : Nat → Status) (n : Nat) (l : List Outcome) : Prop :=
  l.map (fun o => (o.ite, o.status)) = (List.range n).map fun ite => (ite, status ite)

section lists
variable {rank n users : Nat} {status : Nat → Nat → Status} {l : List Outcome}

theorem areFirst_of_assigned (hites : (ofUser rank l).map Outcome.ite = List.range n)
    (hstatus : ∀ o ∈ l, o.status = status o.rank o.ite) :
    Outcome.AreFirst (status rank) n (ofUser rank l) := by
  unfold Outcome.AreFirst
  rw [← hites, List.map_map]
  refine List.map_congr_left fun o ho => ?_
  obtain ⟨ho, hrank⟩ := mem_ofUser.mp ho
  rw [hstatus o ho, hrank]
  rfl

/-- The lines of a user's first outcomes are those that a loop over its requests would print. -/
theorem Outcome.AreFirst.lines (h : AreFirst (status rank) n (ofUser rank l)) :
    (ofUser rank l).flatMap Reporter.lineOf =
      (List.range n).flatMap fun ite => Reporter.lineFor rank (status rank ite) := by
  have hline : (ofUser rank l).flatMap Reporter.lineOf =
      ((ofUser rank l).map fun o => (o.ite, o.status)).flatMap fun p =>
        Reporter.lineFor rank p.2 := by
    rw [List.flatMap_map]
    refine List.flatMap_congr fun o ho => ?_
    rw [Reporter.lineOf_eq, (mem_ofUser.mp ho).2]
  rw [hline, h, List.flatMap_map]

theorem sum_map_range (f : Nat → Nat) (n : Nat) :
    ((List.range n).map f).sum = ∑ i ∈ Finset.range n, f i := by
  induction n with
  | zero => rfl
  | succ n ih =>
      rw [List.range_succ, List.map_append, List.sum_append, ih, Finset.sum_range_succ]
      rfl

/-- A sum over outcomes is the sum of those of the users. -/
theorem sum_ofUser (weight : Outcome → Nat) (h : ∀ o ∈ l, o.rank < users) :
    (l.map weight).sum = ∑ rank ∈ Finset.range users, ((ofUser rank l).map weight).sum := by
  induction l with
  | nil => simp [ofUser]
  | cons o rest ih =>
      have hone : ∀ rank, ((ofUser rank (o :: rest)).map weight).sum =
          (if rank = o.rank then weight o else 0) + ((ofUser rank rest).map weight).sum := by
        intro rank
        by_cases hr : rank = o.rank
        · rw [if_pos hr]
          simp [ofUser, hr]
        · rw [if_neg hr, Nat.zero_add]
          simp [ofUser, Ne.symm hr]
      have hmem : o.rank ∈ Finset.range users := Finset.mem_range.mpr (h o List.mem_cons_self)
      rw [List.map_cons, List.sum_cons, ih fun p hp => h p (List.mem_cons_of_mem o hp)]
      simp only [hone]
      rw [Finset.sum_add_distrib, Finset.sum_ite_eq', if_pos hmem]

/-- Where every user has the same number of outcomes in a list, its length is a product. -/
theorem length_of_ofUser (h : ∀ o ∈ l, o.rank < users)
    (hlen : ∀ rank < users, (ofUser rank l).length = n) : l.length = users * n := by
  have hsum := sum_ofUser (fun _ => 1) h
  have hcount : ∀ rank ∈ Finset.range users, ((ofUser rank l).map fun _ => 1).sum = n := by
    intro rank hr
    rw [← hlen rank (Finset.mem_range.mp hr)]
    simp
  rw [Finset.sum_congr rfl hcount] at hsum
  simpa using hsum

end lists

/-! ### What the reporter has written -/

/-- What the reporter did with the outcomes that it took: it `wrote` them all, or it holds the last
one, or it `failed` on the last one. -/
def Desk.Accounts {δ : Type} (wrote : Reporter δ → List Outcome → Prop)
    (failed : Reporter δ → WriteFault → List Outcome → Outcome → Prop) (taken : List Outcome) :
    Desk δ → Prop
  | waiting r | stopped r none => wrote r taken
  | holding r o => ∃ lines, taken = lines ++ [o] ∧ wrote r lines
  | stopped r (some f) => ∃ lines o, taken = lines ++ [o] ∧ failed r f lines o

/-- The reporter has counted the outcomes and written their lines, each of them whole. -/
def Reporter.Wrote {δ : Type} [Device δ] (out : δ) (r : Reporter δ) (lines : List Outcome) : Prop :=
  r.lines = lines.length ∧
    Device.accepted r.sink = Device.accepted out ++ lines.flatMap Reporter.lineOf

theorem Reporter.Wrote.record {δ : Type} [Device δ] {out : δ} {r r' : Reporter δ}
    {lines : List Outcome} {o : Outcome} (h : r.Wrote out lines) (hr : r.record o = (none, r')) :
    r'.Wrote out (lines ++ [o]) := by
  obtain ⟨hcount, hwrote⟩ := Reporter.record_none hr
  refine ⟨?_, ?_⟩
  · rw [hcount, h.1, List.length_append]
    rfl
  · rw [hwrote, h.2, List.flatMap_append, List.append_assoc]
    simp

namespace Run

variable {σ δ : Type} {sc : Scenario σ} {capacity : Nat} {s t : Run σ δ} {service : σ} {out : δ}

theorem taken_of_moved {rank : Nat} {u v : User} {site : Site σ}
    (h : u.Moved sc rank s.site v site) :
    site.channel.taken = s.site.channel.taken := by
  rcases h.channel with ⟨_, hc⟩ | ⟨_, o, _, _, _, _, hc⟩ | ⟨_, hc⟩ <;> rw [hc] <;> rfl

/-- A reporter at its end stays there and takes nothing any more. -/
theorem Stepped.of_stopped [Device δ] (h : Stepped sc s t) {r : Reporter δ}
    {fault : Option WriteFault} (hd : s.desk = .stopped r fault) :
    t.desk = .stopped r fault ∧ t.site.channel.taken = s.site.channel.taken := by
  cases h with
  | spawned | released | cancelled | joined => exact ⟨hd, rfl⟩
  | moved _ hm => exact ⟨hd, taken_of_moved hm⟩
  | concluded => exact ⟨hd, by rw [channel_concluded]⟩
  | took hd' | wrote hd' | failed hd' | closed hd' =>
      rw [hd] at hd'
      cases hd'

/-- What the channel has accepted stays accepted. -/
theorem Stepped.sent_prefix [Device δ] (h : Stepped sc s t) :
    s.site.channel.sent <+: t.site.channel.sent := by
  cases h with
  | spawned | released | cancelled | wrote | failed | closed | joined => exact List.prefix_refl _
  | took _ ht => rw [Channel.sent_take? ht]
  | concluded => rw [channel_concluded]
  | @moved rank u v site hu hm =>
      show _ <+: site.channel.sent
      rcases hm.channel with ⟨_, hc⟩ | ⟨_, o, _, _, _, _, hc⟩ | ⟨_, hc⟩ <;> rw [hc]
      · rw [Channel.sent_push]
        exact List.prefix_append _ _
      · rw [Channel.sent_dropSender]

/-- The reporter accounts for what it took in every state of a run, if it does so for nothing at the
start and for one outcome more whenever it writes one. -/
theorem Reachable.accounts [Device δ] {wrote : Reporter δ → List Outcome → Prop}
    {failed : Reporter δ → WriteFault → List Outcome → Outcome → Prop}
    (hstart : wrote { sink := out } [])
    (hwrote : ∀ (r r' : Reporter δ) (lines : List Outcome) (o : Outcome),
      wrote r lines → r.record o = (none, r') → wrote r' (lines ++ [o]))
    (hfailed : ∀ (r r' : Reporter δ) (f : WriteFault) (lines : List Outcome) (o : Outcome),
      wrote r lines → r.record o = (some f, r') → failed r' f lines o)
    (h : Reachable sc capacity service out s) :
    s.desk.Accounts wrote failed s.site.channel.taken := by
  refine h.induction (P := fun s => s.desk.Accounts wrote failed s.site.channel.taken) hstart
    fun {s t} _ hs ih => ?_
  cases hs with
  | spawned | released | cancelled | joined => exact ih
  | @moved rank u v site _ hm =>
      show s.desk.Accounts wrote failed site.channel.taken
      rw [taken_of_moved hm]
      exact ih
  | took hd ht =>
      rw [hd] at ih
      exact ⟨_, Channel.taken_take? ht, ih⟩
  | wrote hd hr =>
      rw [hd] at ih
      obtain ⟨lines, htaken, hw⟩ := ih
      show wrote _ s.site.channel.taken
      rw [htaken]
      exact hwrote _ _ _ _ hw hr
  | failed hd hr =>
      rw [hd] at ih
      obtain ⟨lines, htaken, hw⟩ := ih
      exact ⟨lines, _, htaken, hfailed _ _ _ _ _ hw hr⟩
  | closed hd =>
      rw [hd] at ih
      exact ih
  | @concluded r fault =>
      rw [channel_concluded]
      exact ih

/-- Whatever the device does, the lines of all outcomes but the last are whole, and of the last one
a beginning was written. -/
theorem Reachable.wrote [Device δ] (h : Reachable sc capacity service out s) :
    s.desk.Accounts (Reporter.Wrote out)
      (fun r _ lines o => r.lines = lines.length ∧ ∃ torn, torn <+: Reporter.lineOf o ∧
        Device.accepted r.sink = Device.accepted out ++ lines.flatMap Reporter.lineOf ++ torn)
      s.site.channel.taken := by
  refine h.accounts ⟨rfl, by simp⟩ (fun r r' lines o hw hr => hw.record hr) ?_
  intro r r' f lines o hw hr
  obtain ⟨hcount, torn, hp, hadd⟩ := Reporter.record_some hr
  exact ⟨by rw [hcount, hw.1], torn, hp, by rw [hadd, hw.2]⟩

/-! ### Whose outcomes they are -/

/-- An outcome that was handed over is that of a user of the run. -/
theorem Reachable.rank_lt [Device δ] (h : Reachable sc capacity service out s) {o : Outcome}
    (ho : o ∈ s.site.channel.sent) : o.rank < sc.config.users := by
  rcases Nat.lt_or_ge o.rank sc.config.users with hlt | hge
  · exact hlt
  · -- a user that is not there has handed over nothing
    obtain ⟨n, pending, ht⟩ := h.tallied o.rank
    have hnone : s.users[o.rank]? = none :=
      Array.getElem?_eq_none (Nat.le_trans h.sound.size_le hge)
    have hst := ht.stands
    rw [phaseOf, hnone] at hst
    have hites := ht.ites
    rw [hst.1, List.range_zero, List.map_eq_nil_iff] at hites
    have := mem_ofUser.mpr ⟨ho, rfl⟩
    rw [hites] at this
    cases this

/-- An outcome that was handed over has the status that is assigned to its request. -/
theorem Assigns.of_mem_sent [Device δ] {status : Nat → Nat → Status}
    (hf : Assigns sc capacity service out status) (h : Reachable sc capacity service out s) :
    ∀ o ∈ s.site.channel.sent, o.status = status o.rank o.ite := by
  refine h.induction (P := fun s => ∀ o ∈ s.site.channel.sent, o.status = status o.rank o.ite)
    (fun o ho => nomatch ho) fun {s t} hr hs ih => ?_
  cases hs with
  | spawned | released | cancelled | joined | wrote | failed | closed => exact ih
  | took _ ht =>
      rw [Channel.sent_take? ht]
      exact ih
  | concluded =>
      rw [channel_concluded]
      exact ih
  | @moved rank u v site hu hm =>
      show ∀ o ∈ site.channel.sent, _
      rcases hm.channel with ⟨_, hc⟩ | ⟨_, o, hp, _, _, _, hc⟩ | ⟨_, hc⟩
      · rw [hc]
        exact ih
      · rw [hc, Channel.sent_push]
        obtain ⟨n, pending, ht⟩ := hr.tallied rank
        have hst := ht.stands
        rw [phaseOf_of_getElem? hu, hp] at hst
        have hrank : o.rank = rank := ht.mine o (by rw [hst.2.2]; exact List.mem_cons_self)
        intro p hmem
        rcases List.mem_append.mp hmem with hmem | hmem
        · exact ih p hmem
        · rw [List.mem_singleton.mp hmem, hrank]
          exact hf.of_offering hr (by rw [userOf_of_getElem? hu]; exact hp)
      · rw [hc]
        exact ih

/-! ### A run that ends with a number of lines -/

/-- Where a user ended without an error, the outcomes that it handed over say what its requests
returned. -/
theorem Merges.statuses {answers : Nat → List Answer} {log : List (Option Nat × Event)} {rank : Nat}
    (h : s.Merges sc answers log) (hp : s.phaseOf rank = .ended none) :
    (ofUser rank s.site.channel.sent).map Outcome.status = (answers rank).map Answer.status := by
  replace hp : (s.userOf rank).phase = .ended none := hp
  obtain ⟨u, hcourse, hu⟩ := h.users rank
  obtain rfl := hu.resolve_right (by rw [hp]; simp)
  obtain ⟨before, -, hreported, -⟩ := hcourse.of_finished hp
  exact hreported.statuses

/-- What comes of a run in which all outcomes of all users were handed over, taken and written. -/
structure Complete (sc : Scenario σ) (s : Run σ δ) : Prop where
  sent_eq : s.site.channel.sent = s.site.channel.taken
  rank_lt : ∀ o ∈ s.site.channel.taken, o.rank < sc.config.users
  ites : ∀ rank < sc.config.users, (ofUser rank s.site.channel.taken).map Outcome.ite =
    List.range sc.config.requestsPerUser
  told : ∀ rank < sc.config.users, (ofUser rank s.site.channel.taken).map Outcome.event =
    answersTo rank s.site.log

theorem Complete.length_taken (h : s.Complete sc) :
    s.site.channel.taken.length = sc.config.users * sc.config.requestsPerUser := by
  refine length_of_ofUser h.rank_lt fun rank hr => ?_
  have := congrArg List.length (h.ites rank hr)
  rwa [List.length_map, List.length_range] at this

theorem Complete.areFirst [Device δ] {status : Nat → Nat → Status} (h : s.Complete sc)
    (hs : Reachable sc capacity service out s) (hf : Assigns sc capacity service out status) :
    ∀ rank < sc.config.users,
      Outcome.AreFirst (status rank) sc.config.requestsPerUser
        (ofUser rank s.site.channel.taken) := by
  intro rank hr
  refine areFirst_of_assigned (h.ites rank hr) ?_
  rw [← h.sent_eq]
  exact hf.of_mem_sent hs

/-- Where a run has come to a result and no error was joined, every user ended without one. -/
theorem Returned.phaseOf_eq [Device δ] (h : Reachable sc capacity service out s) {r : Reporter δ}
    {fault : Option WriteFault} {res : Except RunError Nat} (hret : s.Returned r fault res)
    (hnone : s.firstError = none) {rank : Nat} (hrank : rank < sc.config.users) :
    s.phaseOf rank = .ended none := by
  rw [← h.sound.size_eq hret.isSpawning_eq] at hrank
  have hu := Array.getElem?_eq_getElem hrank
  obtain ⟨hj, he⟩ := h.sound.all_joined hret.length_joined hu
  have herror : s.errorOf rank = none :=
    List.findSome?_eq_none_iff.mp (h.explained.firstError_eq.symm.trans hnone) rank hj
  rw [errorOf, hu] at herror
  rw [phaseOf_of_getElem? hu]
  exact User.phase_of_error?_eq_none he herror

/-- A run is complete if it has come to a result, the reporter did not fail and no user ended in an
error. -/
theorem Returned.complete [Device δ] (h : Reachable sc capacity service out s) {r : Reporter δ}
    {res : Except RunError Nat} (hret : s.Returned r none res) (hnone : s.firstError = none) :
    s.Complete sc := by
  have hqueue := ((Channel.isExhausted_iff _).mp (h.sound.drained r hret.desk_eq)).1
  have hsent : s.site.channel.sent = s.site.channel.taken := Channel.sent_of_queue_eq_nil hqueue
  have htally : ∀ rank < sc.config.users,
      Tally sc.config.requestsPerUser rank s.site (.ended none) sc.config.requestsPerUser [] := by
    intro rank hrank
    obtain ⟨n, pending, ht⟩ := h.tallied rank
    rw [hret.phaseOf_eq h hnone hrank] at ht
    obtain ⟨rfl, rfl⟩ := ht.stands
    exact ht
  refine ⟨hsent, fun o ho => h.rank_lt (hsent ▸ ho), fun rank hr => ?_, fun rank hr => ?_⟩
  · rw [← hsent]
    exact (htally rank hr).ites
  · rw [← hsent, (htally rank hr).told, List.append_nil]

/-- A number of lines comes only of a reporter that did not fail and of users without errors. -/
theorem Returned.of_ok {r : Reporter δ} {fault : Option WriteFault} {lines : Nat}
    (h : s.Returned r fault (.ok lines)) :
    fault = none ∧ s.firstError = none ∧ lines = r.lines := by
  have hr := h.result_eq
  cases fault with
  | some f => cases hr
  | none =>
      cases hf : s.firstError with
      | some e =>
          rw [hf] at hr
          cases hr
      | none =>
          rw [hf] at hr
          exact ⟨rfl, rfl, Except.ok.inj hr⟩

/-- When the driver returns a number of lines it is that of all requests of the run.  What was added
to the output is the lines of a list of so many outcomes of the users.  Those of each user are the
outcomes of its requests number 0, 1, .., in that order; they are the ones that were told of as its
answers, and in whatever order the steps were taken they have the statuses that its requests
returned.  So if the requests return the statuses that are assigned to them the lines of the user are
those that a loop over its requests would print. -/
theorem result_ok_accounting [Device δ] {lines : Nat} (h : Reachable sc capacity service out s)
    (hres : s.result = some (.ok lines))
    (hfits : sc.config.users * sc.config.requestsPerUser < 2 ^ 64) :
    lines = sc.config.users * sc.config.requestsPerUser ∧ lines = sc.config.totalRequests ∧
    ∃ outcomes : List Outcome,
      outcomes.length = sc.config.users * sc.config.requestsPerUser ∧
      (∀ o ∈ outcomes, o.rank < sc.config.users) ∧
      s.output = Device.accepted out ++ outcomes.flatMap Reporter.lineOf ∧
      ∀ rank < sc.config.users,
        (ofUser rank outcomes).map Outcome.ite = List.range sc.config.requestsPerUser ∧
        (ofUser rank outcomes).map Outcome.event = answersTo rank s.site.log ∧
        (∀ labels, (start sc capacity service out).course? sc labels = some s →
          (ofUser rank outcomes).map Outcome.status =
            ((start sc capacity service out).answers sc rank labels).map Answer.status) ∧
        ∀ status : Nat → Nat → Status, Assigns sc capacity service out status →
          Outcome.AreFirst (status rank) sc.config.requestsPerUser (ofUser rank outcomes) ∧
          (ofUser rank outcomes).flatMap Reporter.lineOf =
            (List.range sc.config.requestsPerUser).flatMap fun ite =>
              Reporter.lineFor rank (status rank ite) := by
  obtain ⟨r, fault, hret⟩ := h.returned hres
  obtain ⟨rfl, hfirst, rfl⟩ := hret.of_ok
  have hcomplete := hret.complete h hfirst
  have hlength := hcomplete.length_taken
  have hwrote := h.wrote
  rw [hret.desk_eq] at hwrote
  obtain ⟨hcount, hbytes⟩ := hwrote
  rw [hcount, hlength]
  refine ⟨rfl, ?_, s.site.channel.taken, hlength, hcomplete.rank_lt, ?_, ?_⟩
  · unfold Config.totalRequests wordMax
    omega
  · rw [output, hret.desk_eq]
    exact hbytes
  · intro rank hr
    refine ⟨hcomplete.ites rank hr, hcomplete.told rank hr, fun labels hc => ?_, fun status hf => ?_⟩
    · obtain ⟨rest, hmerges⟩ := merges_of_course? hc
      rw [← hcomplete.sent_eq]
      exact hmerges.statuses (hret.phaseOf_eq h hfirst hr)
    · have hfirsts := hcomplete.areFirst h hf rank hr
      exact ⟨hfirsts, hfirsts.lines⟩

/-- Two users of two requests.  The first gets a response and then none; the second gets a response
that breaks off and then a whole one. -/
def twoUsers : Scenario Unit where
  config := { users := 2, requestsPerUser := 2 }
  service := { reply := fun s rank ite _ =>
    match rank, ite with
    | 0, 0 => some (.response 200 none 0 .whole, s)
    | 0, _ => some (.fault .closed, s)
    | _, 0 => some (.response 503 none 0 (.broken .cutOff), s)
    | _, _ => some (.response 401 none 0 .whole, s) }

/-- The statuses that their requests return. -/
def twoUsersStatus (rank ite : Nat) : Status :=
  match rank, ite with
  | 0, 0 => .code 200
  | 0, _ => .failed (.request ("error sending request for url (http://localhost/auth/login): " ++
    "connection closed before message completed"))
  | _, 0 => .code 503
  | _, _ => .code 401

theorem twoUsers_assigns {out : Sink} : Assigns twoUsers channelCapacity () out twoUsersStatus := by
  refine assigns_of_send fun rank hrank ite hi a told next hsend => ?_
  have hall : ∀ rank < 2, ∀ ite < 2,
      (twoUsers.service.send () rank ite twoUsers.config.spec).map (fun p => p.1.status) =
        some (twoUsersStatus rank ite) := by decide +kernel
  have hone := hall rank hrank ite hi
  rw [hsend] at hone
  exact Option.some.inj hone

/-- They print four lines, each of them those of its own answers. -/
theorem twoUsers_accounting :
    (complete twoUsers () {}).result = some (.ok 4) ∧ 2 * 2 < 2 ^ 64 ∧
      ∃ outcomes : List Outcome, outcomes.length = 4 ∧
        (complete twoUsers () {}).output = outcomes.flatMap Reporter.lineOf ∧
        (ofUser 0 outcomes).flatMap Reporter.lineOf =
          Utf8.encode ("user-0 -> 200\nuser-0 -> error: request: error sending request for url " ++
            "(http://localhost/auth/login): connection closed before message completed\n").toList ∧
        (ofUser 1 outcomes).flatMap Reporter.lineOf =
          Utf8.encode "user-1 -> 503\nuser-1 -> 401\n".toList := by
  have hres : (complete twoUsers () {}).result = some (.ok 4) := by decide +kernel
  obtain ⟨_, _, outcomes, hlength, _, hout, hall⟩ :=
    result_ok_accounting reachable_complete hres (by decide)
  obtain ⟨_, _, _, hzero⟩ := hall 0 (by decide)
  obtain ⟨_, _, _, hone⟩ := hall 1 (by decide)
  refine ⟨hres, by decide, outcomes, hlength, hout, ?_, ?_⟩
  · rw [(hzero _ twoUsers_assigns).2]
    decide +kernel
  · rw [(hone _ twoUsers_assigns).2]
    decide +kernel

end Run
end LoginLoad
