import Mathlib
import LoginLoad.Proofs.Metering
import LoginLoad.Proofs.Run.Accounting
import LoginLoad.Proofs.Run.Termination

/-! # Runs into a device that runs full

Which outcomes are written first depends on the order of the steps, and so does what a device that
runs full has accepted of them.  But what is written is the first outcomes of each user
(`Reachable.firstOutcomes`), so it is never longer than the lines of all requests together, and it
is that long only if it is all of them.  A device with room for all lines never fails, and then no
user is turned away and none is aborted; one with less room is filled to the last byte and fails.

So neither the verdict nor the number of bytes depends on the order of the steps
(`verdict_of_budget`). -/

namespace LoginLoad

open Outcome (ofUser mem_ofUser)

namespace Run

variable {σ δ : Type} {sc : Scenario σ} {capacity : Nat} {s t : Run σ δ} {service : σ} {out : δ}

/-! ### The first outcomes of the users -/

/-- The number of bytes of the lines of all requests. -/
def outputLength (sc : Scenario σ) (status : Nat → Nat → Status) : Nat :=
  ∑ rank ∈ Finset.range sc.config.users, ∑ ite ∈ Finset.range sc.config.requestsPerUser,
    (Reporter.lineFor rank (status rank ite)).length

/-- The outcomes of each user in a list are its first ones, in the order of its requests. -/
def FirstOutcomes (sc : Scenario σ) (status : Nat → Nat → Status) (l : List Outcome) : Prop :=
  (∀ o ∈ l, o.rank < sc.config.users) ∧ ∀ rank < sc.config.users,
    ∃ n ≤ sc.config.requestsPerUser, Outcome.AreFirst (status rank) n (ofUser rank l)

theorem length_lines (l : List Outcome) : (l.flatMap Reporter.lineOf).length =
    (l.map fun o => (Reporter.lineOf o).length).sum := List.length_flatMap ..

/-- The number of bytes of a user's first lines. -/
theorem length_of_areFirst {rank n : Nat} {status : Nat → Nat → Status} {l : List Outcome}
    (h : Outcome.AreFirst (status rank) n (ofUser rank l)) :
    ((ofUser rank l).map fun o => (Reporter.lineOf o).length).sum =
      ∑ ite ∈ Finset.range n, (Reporter.lineFor rank (status rank ite)).length := by
  rw [← length_lines, h.lines, List.length_flatMap, sum_map_range]

/-- First outcomes make no more bytes than all of them. -/
theorem FirstOutcomes.length_le {status : Nat → Nat → Status} {l : List Outcome}
    (h : FirstOutcomes sc status l) :
    (l.flatMap Reporter.lineOf).length ≤ outputLength sc status := by
  rw [length_lines, sum_ofUser _ h.1]
  refine Finset.sum_le_sum fun rank hr => ?_
  obtain ⟨n, hn, hfirst⟩ := h.2 rank (Finset.mem_range.mp hr)
  rw [length_of_areFirst hfirst]
  exact Finset.sum_le_sum_of_subset (Finset.range_mono hn)

/-- The outcomes of all requests make all bytes. -/
theorem length_of_all {status : Nat → Nat → Status} {l : List Outcome}
    (hrank : ∀ o ∈ l, o.rank < sc.config.users)
    (hall : ∀ rank < sc.config.users,
      Outcome.AreFirst (status rank) sc.config.requestsPerUser (ofUser rank l)) :
    (l.flatMap Reporter.lineOf).length = outputLength sc status := by
  rw [length_lines, sum_ofUser _ hrank]
  refine Finset.sum_congr rfl fun rank hr => ?_
  exact length_of_areFirst (hall rank (Finset.mem_range.mp hr))

theorem eq_range_of_prefix {l : List Nat} {n : Nat} (h : l <+: List.range n) :
    l = List.range l.length ∧ l.length ≤ n := by
  have hle := h.length_le
  rw [List.length_range] at hle
  refine ⟨?_, hle⟩
  have := List.prefix_iff_eq_take.mp h
  rwa [List.take_range, Nat.min_eq_left hle] at this

/-- Whatever beginning is taken of what was handed over, it is the first outcomes of the users. -/
theorem Reachable.firstOutcomes [Device δ] {status : Nat → Nat → Status}
    (h : Reachable sc capacity service out s) (hf : Assigns sc capacity service out status)
    {l : List Outcome} (hl : l <+: s.site.channel.sent) : FirstOutcomes sc status l := by
  refine ⟨fun o ho => h.rank_lt (hl.subset ho), fun rank _ => ?_⟩
  obtain ⟨n, pending, ht⟩ := h.tallied rank
  have hprefix : (ofUser rank l).map Outcome.ite <+: List.range n := by
    rw [← ht.ites]
    exact (hl.filter _).map _
  obtain ⟨hites, hle⟩ := eq_range_of_prefix hprefix
  exact ⟨_, Nat.le_trans hle ht.stands.le,
    areFirst_of_assigned hites fun o ho => hf.of_mem_sent h o (hl.subset ho)⟩

/-! ### The device -/

/-- The reporter has written whole lines, and there is room left on its device. -/
def Metered [Device δ] {fault : WriteFault} (m : Meter δ fault) (out : δ) (budget : Nat)
    (r : Reporter δ) (lines : List Outcome) : Prop :=
  r.Wrote out lines ∧
    ∃ rest, m.holds r.sink rest ∧ budget = (lines.flatMap Reporter.lineOf).length + rest

/-- The reporter has filled its device with whole lines and a torn one. -/
def Torn [Device δ] (out : δ) (budget : Nat) (r : Reporter δ) (lines : List Outcome) (o : Outcome) :
    Prop :=
  ∃ torn, torn <+: Reporter.lineOf o ∧ torn.length < (Reporter.lineOf o).length ∧
    Device.accepted r.sink = Device.accepted out ++ (lines.flatMap Reporter.lineOf ++ torn) ∧
    (lines.flatMap Reporter.lineOf ++ torn).length = budget

theorem Reachable.metered [Device δ] {fault : WriteFault} {m : Meter δ fault} {budget : Nat}
    (hout : m.holds out budget) (h : Reachable sc capacity service out s) :
    s.desk.Accounts (Metered m out budget)
      (fun r f lines o => f = fault ∧ Torn out budget r lines o) s.site.channel.taken := by
  refine h.accounts ⟨⟨rfl, by simp⟩, budget, hout, by simp⟩ ?_ ?_
  · intro r r' lines o hw hr
    obtain ⟨hwrote, rest, hrest, hbudget⟩ := hw
    obtain ⟨last, hlast, hholds⟩ := m.record_none hrest hr
    refine ⟨hwrote.record hr, last, hholds, ?_⟩
    simp only [List.flatMap_append, List.flatMap_singleton, List.length_append]
    omega
  · intro r r' f lines o hw hr
    obtain ⟨hwrote, rest, hrest, hbudget⟩ := hw
    obtain ⟨hf, hlt, torn, hp, hlen, hadd⟩ := m.record_some hrest hr
    refine ⟨hf, torn, hp, by omega, ?_, ?_⟩
    · rw [hadd, hwrote.2, List.append_assoc]
    · rw [List.length_append]
      omega

/-! ### The verdict -/

/-- Where every client is built, no user panics and the reporter did not fail, no error was
joined. -/
theorem Returned.firstError_eq_none [Device δ] (h : Reachable sc capacity service out s)
    {r : Reporter δ} {res : Except RunError Nat} (hret : s.Returned r none res)
    (hclient : ∀ rank < sc.config.users, sc.clientFault rank = none)
    (hpanic : ∀ rank < sc.config.users, sc.mayPanic rank = false) : s.firstError = none := by
  cases hf : s.firstError with
  | none => rfl
  | some e =>
      obtain ⟨rank, hj, hcause⟩ :=
        h.explained.root_cause hret.desk_eq (h.explained.firstError_eq.symm.trans hf)
      obtain ⟨u, hu, _⟩ := h.sound.joined_ended rank hj
      have hrank : rank < sc.config.users :=
        Nat.lt_of_lt_of_le (Array.getElem?_eq_some_iff.mp hu).1 h.sound.size_le
      rcases hcause with ⟨detail, hc, _⟩ | ⟨hp, _⟩
      · rw [hclient rank hrank] at hc
        cases hc
      · rw [hpanic rank hrank] at hp
        cases hp

/-- Where the reporter did not fail, all lines were written and did fit. -/
theorem Returned.fits [Device δ] {fault : WriteFault} {m : Meter δ fault} {budget : Nat}
    {status : Nat → Nat → Status} (h : Reachable sc capacity service out s)
    (hout : m.holds out budget) (hf : Assigns sc capacity service out status) {r : Reporter δ}
    {res : Except RunError Nat} (hret : s.Returned r none res) (hfirst : s.firstError = none) :
    res = .ok (sc.config.users * sc.config.requestsPerUser) ∧ outputLength sc status ≤ budget ∧
      ∃ added, s.output = Device.accepted out ++ added ∧ added.length = outputLength sc status := by
  have hmetered := h.metered hout
  rw [hret.desk_eq] at hmetered
  obtain ⟨⟨hcount, hwrote⟩, rest, _, hbudget⟩ := hmetered
  have hcomplete := hret.complete h hfirst
  have hbytes : (s.site.channel.taken.flatMap Reporter.lineOf).length = outputLength sc status :=
    length_of_all hcomplete.rank_lt (hcomplete.areFirst h hf)
  refine ⟨?_, by omega, _, ?_, hbytes⟩
  · rw [hret.result_eq, hfirst, hcount, hcomplete.length_taken]
    rfl
  · rw [output, hret.desk_eq]
    exact hwrote

/-- Where the reporter failed, not all lines did fit, and one of them is torn. -/
theorem Returned.torn [Device δ] {fault f : WriteFault} {m : Meter δ fault} {budget : Nat}
    {status : Nat → Nat → Status} (h : Reachable sc capacity service out s)
    (hout : m.holds out budget) (hf : Assigns sc capacity service out status) {r : Reporter δ}
    {res : Except RunError Nat} (hret : s.Returned r (some f) res) :
    res = .error fault.toRunError ∧ budget < outputLength sc status ∧
      ∃ lines o torn,
        s.output = Device.accepted out ++ (lines.flatMap Reporter.lineOf ++ torn) ∧
        (lines.flatMap Reporter.lineOf ++ torn).length = budget ∧
        torn <+: Reporter.lineOf o ∧ torn.length < (Reporter.lineOf o).length ∧
        FirstOutcomes sc status lines ∧ FirstOutcomes sc status (lines ++ [o]) := by
  have hmetered := h.metered hout
  rw [hret.desk_eq] at hmetered
  obtain ⟨lines, o, htaken, rfl, torn, hp, hlt, hadd, hbudget⟩ := hmetered
  have hprefix : lines ++ [o] <+: s.site.channel.sent := by
    rw [← htaken]
    exact List.prefix_append _ _
  have hfirst := h.firstOutcomes hf hprefix
  have hle := hfirst.length_le
  rw [List.flatMap_append, List.flatMap_singleton, List.length_append] at hle
  have hbytes := hbudget
  rw [List.length_append] at hbytes
  refine ⟨hret.result_eq, by omega, lines, o, torn, ?_, hbudget, hp, hlt, ?_, hfirst⟩
  · rw [output, hret.desk_eq]
    exact hadd
  · exact h.firstOutcomes hf ((List.prefix_append _ _).trans hprefix)

/-- Let every request return, with the status that is assigned to it, and take a device that accepts
`budget` bytes more and then fails; let every client be built and no user panic.  Then every order of steps
comes to a result.  If the lines of all requests fit into the budget it is their number, and if they
do not it is the fault of the device.  In every order the device has then accepted as many bytes as
there are, up to the budget.  If they do not fit they are whole lines and a beginning of one line
more, and for each user these are the lines of its first outcomes. -/
theorem verdict_of_budget [Device δ] {fault : WriteFault} (m : Meter δ fault) {budget : Nat}
    {status : Nat → Nat → Status} (hout : m.holds out budget) (hcap : 1 ≤ capacity)
    (hclient : ∀ rank < sc.config.users, sc.clientFault rank = none)
    (hpanic : ∀ rank < sc.config.users, sc.mayPanic rank = false)
    (hreturn : RequestsReturn sc capacity service out)
    (hassign : Assigns sc capacity service out status) :
    (∀ (labels : List Label) (s : Run σ δ),
      (start sc capacity service out).course? sc labels = some s →
        labels.length ≤ (start sc capacity service out).work sc ∧
        (s.result = none → ∃ label t, s.step? sc label = some t)) ∧
    ∀ (s : Run σ δ) (res : Except RunError Nat), Reachable sc capacity service out s →
      s.result = some res →
        (outputLength sc status ≤ budget →
          res = .ok (sc.config.users * sc.config.requestsPerUser)) ∧
        (budget < outputLength sc status →
          (∀ message, fault.message? = some message → res = .error (.io message)) ∧
          (fault = .panicked → res = .error (.join .panicked))) ∧
        ∃ added, s.output = Device.accepted out ++ added ∧
          added.length = min budget (outputLength sc status) ∧
          (budget < outputLength sc status → ∃ lines o torn,
            added = lines.flatMap Reporter.lineOf ++ torn ∧
            torn <+: Reporter.lineOf o ∧ torn.length < (Reporter.lineOf o).length ∧
            FirstOutcomes sc status lines ∧ FirstOutcomes sc status (lines ++ [o])) := by
  constructor
  · intro labels s hc
    refine ⟨?_, fun hres => ?_⟩
    · have := Reachable.start.length_course_le hc
      omega
    · have hs : Reachable sc capacity service out s := Reachable.start.course hc
      exact (hs.result_eq_none_iff hcap (hreturn s hs)).mp hres
  · intro s res h hres
    obtain ⟨r, fault', hret⟩ := h.returned hres
    cases fault' with
    | none =>
        have hfirst := hret.firstError_eq_none h hclient hpanic
        obtain ⟨hok, hle, added, hadd, hlen⟩ := hret.fits h hout hassign hfirst
        exact ⟨fun _ => hok, fun hlt => absurd hle (Nat.not_le_of_lt hlt), added, hadd,
          by rw [hlen, Nat.min_eq_right hle], fun hlt => absurd hle (Nat.not_le_of_lt hlt)⟩
    | some f =>
        obtain ⟨herr, hlt, lines, o, torn, hadd, hlen, hp, htorn, hlines, hlast⟩ :=
          hret.torn h hout hassign
        refine ⟨fun hle => absurd hle (Nat.not_le_of_lt hlt), fun _ => ⟨?_, ?_⟩, _, hadd, ?_,
          fun _ => ⟨lines, o, torn, rfl, hp, htorn, hlines, hlast⟩⟩
        · intro message hm
          rw [herr, WriteFault.toRunError, hm]
        · rintro rfl
          exact herr
        · rw [hlen, Nat.min_eq_left (Nat.le_of_lt hlt)]

/-- A sink that takes three bytes at a time, interrupts every other call and is full after
twenty. -/
def smallSink : Sink where
  plan := { budget := some 20, maxChunk := some 3, interruptEvery := some ⟨2, Nat.le_refl 2⟩ }

/-- The run of two users into it, in the scheduled order. -/
def smallRun : Run Unit Sink := (start twoUsers channelCapacity () smallSink).drive twoUsers

/-- Of the four lines, which have 172 bytes, twenty bytes are written. -/
theorem twoUsers_smallSink :
    smallRun.result = some (.error (.io "writer failed")) ∧
      outputLength twoUsers twoUsersStatus = 172 ∧ smallRun.output.length = 20 := by
  have hres : smallRun.result = some (.error (.io "writer failed")) := by decide +kernel
  have hlength : outputLength twoUsers twoUsersStatus = 172 := by decide +kernel
  have hout : (Sink.meter (.failed "writer failed")).holds smallSink 20 :=
    ⟨rfl, by decide, rfl, rfl⟩
  have hcap : 1 ≤ channelCapacity := by decide
  have hreturn : RequestsReturn twoUsers channelCapacity () smallSink := by
    refine requestsReturn_of_replies fun s rank ite f => ?_
    obtain ⟨reply, hreply, hends⟩ : ∃ reply, twoUsers.service.reply s rank ite f = some (reply, s) ∧
        ∀ code location took, reply ≠ .response code location took .endless := by
      simp only [twoUsers]
      split <;> exact ⟨_, rfl, nofun⟩
    exact ⟨reply, s, hreply, hends⟩
  have hreach : Reachable twoUsers channelCapacity () smallSink smallRun :=
    Reachable.start.driveFor _
  obtain ⟨_, hverdict⟩ := verdict_of_budget (Sink.meter _) hout hcap (fun _ _ => rfl)
    (fun _ _ => rfl) hreturn twoUsers_assigns
  obtain ⟨_, _, added, hadd, hlen, _⟩ := hverdict smallRun _ hreach hres
  refine ⟨hres, hlength, ?_⟩
  rw [hadd, List.length_append, hlen, hlength]
  rfl

end Run
end LoginLoad
