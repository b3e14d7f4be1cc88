import Mathlib.Data.Nat.Find
import LoginLoad.Proofs.Metering

/-! # Reporting on a sink within its limits

A new sink has a budget and flush calls that fail, and it takes the bytes in portions and interrupts
as its plan says.  How the reporting of a list of outcomes ends on it is known in closed form
(`drain_closed_form`).  Let `n` be the number of the first outcomes whose lines fit into the budget
together (`fitting`), and let `f` be the first flush call that fails.  The reporting ends with the
failed flush if `f < n`; else it ends where the sink is full, if not all lines fit; else all lines
are reported.  The portions and the interruptions do not matter.

Up to the point where it ends, every line fits and every flush succeeds (`drain_of_fits`); what
happens there is the fate of one more outcome (`record_of_fits`, `record_of_full`). -/

namespace LoginLoad
namespace Reporter

/-! ### How many lines fit -/

/-- Whether bytes fit into a budget; `none` is no limit. -/
def fits (budget : Option Nat) (bytes : List UInt8) : Bool := budget.all (bytes.length ≤ ·)

theorem fits_iff {budget : Option Nat} {bytes : List UInt8} :
    fits budget bytes = true ↔ ∀ b ∈ budget, bytes.length ≤ b := by
  cases budget <;> simp [fits]

/-- The number of the first outcomes whose lines fit into a budget together. -/
def fitting (budget : Option Nat) (os : List Outcome) : Nat :=
  Nat.findGreatest (fun n => fits budget ((os.take n).flatMap lineOf)) os.length

section fitting
variable {budget : Option Nat} {os : List Outcome}

theorem fitting_le : fitting budget os ≤ os.length := Nat.findGreatest_le _

/-- The lines of fewer outcomes have fewer bytes. -/
theorem length_lines_take_le {m n : Nat} (h : m ≤ n) :
    ((os.take m).flatMap lineOf).length ≤ ((os.take n).flatMap lineOf).length := by
  have hprefix : os.take m <+: os.take n := List.take_prefix_take_left h
  obtain ⟨rest, hrest⟩ := hprefix
  rw [← hrest, List.flatMap_append, List.length_append]
  exact Nat.le_add_right _ _

theorem fits_of_le_fitting {n : Nat} (h : n ≤ fitting budget os) :
    ∀ b ∈ budget, ((os.take n).flatMap lineOf).length ≤ b := by
  have hzero : fits budget ((os.take 0).flatMap lineOf) = true := by
    cases budget <;> simp [fits]
  have hgreatest : fits budget ((os.take (fitting budget os)).flatMap lineOf) = true :=
    Nat.findGreatest_spec (P := fun n => fits budget ((os.take n).flatMap lineOf))
      (Nat.zero_le _) hzero
  intro b hb
  exact Nat.le_trans (length_lines_take_le h) (fits_iff.mp hgreatest b hb)

/-- The line after those that fit does not fit. -/
theorem exists_budget_of_fitting_lt (h : fitting budget os < os.length) :
    ∃ b, budget = some b ∧ b < ((os.take (fitting budget os + 1)).flatMap lineOf).length := by
  have hnot : ¬ fits budget ((os.take (fitting budget os + 1)).flatMap lineOf) = true :=
    Nat.findGreatest_is_greatest (Nat.lt_succ_self _) h
  cases hb : budget with
  | none =>
      rw [hb] at hnot
      exact absurd rfl hnot
  | some b =>
      rw [hb] at hnot
      refine ⟨b, rfl, ?_⟩
      simpa [fits] using hnot

end fitting

/-! ### One outcome, and many -/

section sinks
variable {plan : SinkPlan} {left : Option Nat} {r : Reporter} {o : Outcome}

/-- A line that fits is written, and the flush call after it decides. -/
theorem record_of_fits (hchunk : plan.maxChunk ≠ some 0)
    (h : r.sink.plan = { plan with budget := left }) (hfits : ∀ b ∈ left, (lineOf o).length ≤ b) :
    ∃ t : Sink, t.plan = { plan with budget := left.map (· - (lineOf o).length) } ∧
      t.accepted = r.sink.accepted ++ lineOf o ∧ t.flushes = r.sink.flushes + 1 ∧
      r.record o =
        if r.sink.flushes ∈ plan.failingFlushes then (some (.failed plan.message), ⟨t, r.lines⟩)
        else (none, ⟨t, r.lines + 1⟩) := by
  have hreads : (Sink.gauge plan hchunk).reads r.sink left := h
  cases hw : Device.writePieces r.sink (piecesOf o) with
  | mk fault d =>
      cases fault with
      | some f =>
          obtain ⟨_, b, hb, hlt, _⟩ := (Sink.gauge plan hchunk).writePieces_some hreads hw
          rw [flatten_piecesOf] at hlt
          exact absurd (hfits b hb) (Nat.not_le_of_lt hlt)
      | none =>
          obtain ⟨_, hrest⟩ := (Sink.gauge plan hchunk).writePieces_none hreads hw
          have hplan : d.plan = { plan with budget := left.map (· - (lineOf o).length) } := by
            rw [← flatten_piecesOf]
            exact hrest
          have hbytes := Device.writePieces_none hw
          rw [flatten_piecesOf] at hbytes
          have hcount : d.flushes = r.sink.flushes := Device.flushes_writePieces hw
          refine ⟨{ d with flushes := d.flushes + 1 }, hplan, hbytes, ?_, ?_⟩
          · show d.flushes + 1 = _
            rw [hcount]
          · have hflush : Device.flush d = (if r.sink.flushes ∈ plan.failingFlushes then
                some (.failed plan.message) else none, { d with flushes := d.flushes + 1 }) := by
              show d.flush = _
              unfold Sink.flush
              rw [hplan, hcount]
            unfold record
            rw [hw]
            simp only [hflush]
            by_cases hfail : r.sink.flushes ∈ plan.failingFlushes
            · rw [if_pos hfail, if_pos hfail]
            · rw [if_neg hfail, if_neg hfail]

/-- A line that does not fit is torn where the sink is full. -/
theorem record_of_full (hchunk : plan.maxChunk ≠ some 0) {b : Nat}
    (h : r.sink.plan = { plan with budget := some b }) (hfull : b < (lineOf o).length) :
    ∃ t : Sink, r.record o = (some (Sink.fullFault { plan }), ⟨t, r.lines⟩) ∧
      t.accepted = r.sink.accepted ++ (lineOf o).take b ∧ t.flushes = r.sink.flushes := by
  have hreads : (Sink.gauge plan hchunk).reads r.sink (some b) := h
  cases hw : Device.writePieces r.sink (piecesOf o) with
  | mk fault d =>
      cases fault with
      | none =>
          obtain ⟨hfits, _⟩ := (Sink.gauge plan hchunk).writePieces_none hreads hw
          have hle := hfits b rfl
          rw [flatten_piecesOf] at hle
          exact absurd hle (Nat.not_le_of_lt hfull)
      | some f =>
          obtain ⟨rfl, c, hc, _, hbytes⟩ := (Sink.gauge plan hchunk).writePieces_some hreads hw
          obtain rfl : b = c := Option.some.inj hc
          rw [flatten_piecesOf] at hbytes
          refine ⟨d, ?_, hbytes, Device.flushes_writePieces hw⟩
          unfold record
          rw [hw]

/-- Lines that fit together are all reported, unless a flush call fails. -/
theorem drain_of_fits (hchunk : plan.maxChunk ≠ some 0) {os : List Outcome}
    (h : r.sink.plan = { plan with budget := left })
    (hfits : ∀ b ∈ left, (os.flatMap lineOf).length ≤ b)
    (hflush : ∀ f ∈ plan.failingFlushes, r.sink.flushes ≤ f → r.sink.flushes + os.length ≤ f) :
    ∃ t : Reporter, r.drain os = (none, t) ∧
      t.sink.plan = { plan with budget := left.map (· - (os.flatMap lineOf).length) } ∧
      t.sink.flushes = r.sink.flushes + os.length := by
  induction os generalizing r left with
  | nil => exact ⟨r, rfl, by simpa using h, rfl⟩
  | cons o os ih =>
      rw [List.flatMap_cons, List.length_append] at hfits
      have hone : ∀ b ∈ left, (lineOf o).length ≤ b := by
        intro b hb
        have := hfits b hb
        omega
      have hok : r.sink.flushes ∉ plan.failingFlushes := by
        intro hmem
        have := hflush _ hmem (Nat.le_refl _)
        rw [List.length_cons] at this
        omega
      obtain ⟨s, hplan, _, hcount, hrecord⟩ := record_of_fits hchunk h hone
      rw [if_neg hok] at hrecord
      have hrest : ∀ b ∈ left.map (· - (lineOf o).length), (os.flatMap lineOf).length ≤ b := by
        intro c hc
        obtain ⟨b, hb, rfl⟩ := Option.map_eq_some_iff.mp hc
        have := hfits b hb
        omega
      have hlater : ∀ f ∈ plan.failingFlushes, s.flushes ≤ f → s.flushes + os.length ≤ f := by
        intro f hf hle
        have := hflush f hf (by omega)
        rw [List.length_cons] at this
        omega
      obtain ⟨t, hdrain, hleft, hflushes⟩ := ih (r := ⟨s, r.lines + 1⟩) hplan hrest hlater
      refine ⟨t, ?_, ?_, ?_⟩
      · rw [drain, hrecord]
        exact hdrain
      · rw [hleft, Gauge.map_sub_sub, List.flatMap_cons, List.length_append]
      · rw [hflushes, List.length_cons]
        show s.flushes + os.length = _
        omega

end sinks

/-! ### The end of the reporting -/

/-- What is left behind when outcomes were reported on a sink. -/
structure Ending where
  fault : Option WriteFault
  accepted : List UInt8
  flushes : Nat
  lines : Nat
deriving DecidableEq, Repr

/-- The end of the reporting of outcomes on a new sink under a plan. -/
def ending (plan : SinkPlan) (os : List Outcome) : Ending :=
  let (fault, t) := drain ({ sink := { plan } } : Reporter) os
  ⟨fault, t.sink.accepted, t.sink.flushes, t.lines⟩

section ending
variable {plan : SinkPlan} {os : List Outcome}

/-- The first `n` outcomes are reported if their lines fit and no flush call after them fails; the
others follow. -/
theorem drain_take {n : Nat} (hchunk : plan.maxChunk ≠ some 0) (hn : n ≤ fitting plan.budget os)
    (hflush : ∀ f ∈ plan.failingFlushes, n ≤ f) :
    ∃ t : Reporter, drain ({ sink := { plan } } : Reporter) os = t.drain (os.drop n) ∧
      t.sink.plan = { plan with
        budget := plan.budget.map (· - ((os.take n).flatMap lineOf).length) } ∧
      t.sink.accepted = (os.take n).flatMap lineOf ∧ t.sink.flushes = n ∧ t.lines = n := by
  have hlength : (os.take n).length = n :=
    List.length_take_of_le (Nat.le_trans hn fitting_le)
  have hlater : ∀ f ∈ plan.failingFlushes, 0 ≤ f → 0 + (os.take n).length ≤ f := by
    intro f hf _
    rw [hlength, Nat.zero_add]
    exact hflush f hf
  obtain ⟨t, hdrain, hleft, hflushes⟩ :=
    drain_of_fits (r := { sink := { plan } }) hchunk rfl (fits_of_le_fitting hn) hlater
  obtain ⟨hlines, haccepted⟩ := drain_none hdrain
  refine ⟨t, ?_, hleft, haccepted, ?_, ?_⟩
  · have := drain_append hdrain (os.drop n)
    rwa [List.take_append_drop] at this
  · rw [hflushes, hlength]
    exact Nat.zero_add n
  · rw [hlines, hlength]
    exact Nat.zero_add n

theorem lines_take_succ {n : Nat} (h : n < os.length) :
    (os.take (n + 1)).flatMap lineOf = (os.take n).flatMap lineOf ++ lineOf os[n] := by
  rw [List.take_succ_eq_append_getElem h, List.flatMap_append, List.flatMap_singleton]

/-- A flush call fails before the sink is full. -/
theorem ending_of_flush {f : Nat} (hchunk : plan.maxChunk ≠ some 0)
    (hf : f ∈ plan.failingFlushes) (hleast : ∀ g ∈ plan.failingFlushes, f ≤ g)
    (hlt : f < fitting plan.budget os) :
    ending plan os =
      ⟨some (.failed plan.message), (os.take (f + 1)).flatMap lineOf, f + 1, f⟩ := by
  have hindex : f < os.length := Nat.lt_of_lt_of_le hlt fitting_le
  obtain ⟨t, hdrain, hplan, haccepted, hflushes, hlines⟩ :=
    drain_take hchunk (Nat.le_of_lt hlt) hleast
  have hnext := lines_take_succ hindex
  have hfits : ∀ b ∈ plan.budget.map (· - ((os.take f).flatMap lineOf).length),
      (lineOf os[f]).length ≤ b := by
    intro c hc
    obtain ⟨b, hb, rfl⟩ := Option.map_eq_some_iff.mp hc
    have hle := fits_of_le_fitting hlt b hb
    rw [hnext, List.length_append] at hle
    omega
  obtain ⟨s, _, hbytes, hcount, hrecord⟩ := record_of_fits hchunk hplan hfits
  rw [if_pos (by rw [hflushes]; exact hf)] at hrecord
  unfold ending
  rw [hdrain, List.drop_eq_getElem_cons hindex, drain, hrecord]
  show (⟨_, s.accepted, s.flushes, t.lines⟩ : Ending) = _
  rw [hbytes, haccepted, hcount, hflushes, hlines, hnext]

/-- The sink is full before a flush call fails and before everything is reported. -/
theorem ending_of_full (hchunk : plan.maxChunk ≠ some 0)
    (hflush : ∀ f ∈ plan.failingFlushes, fitting plan.budget os ≤ f)
    (hlt : fitting plan.budget os < os.length) :
    ∃ b, plan.budget = some b ∧ ending plan os =
      ⟨some (Sink.fullFault { plan }), (os.flatMap lineOf).take b, fitting plan.budget os,
        fitting plan.budget os⟩ := by
  obtain ⟨b, hb, hfull⟩ := exists_budget_of_fitting_lt hlt
  obtain ⟨t, hdrain, hplan, haccepted, hflushes, hlines⟩ :=
    drain_take hchunk (Nat.le_refl _) hflush
  have hfits := fits_of_le_fitting (Nat.le_refl (fitting plan.budget os)) b hb
  rw [lines_take_succ hlt, List.length_append] at hfull
  have htorn : b - ((os.take (fitting plan.budget os)).flatMap lineOf).length <
      (lineOf os[fitting plan.budget os]).length := by omega
  have hleft : plan.budget.map (· - ((os.take (fitting plan.budget os)).flatMap lineOf).length) =
      some (b - ((os.take (fitting plan.budget os)).flatMap lineOf).length) :=
    Option.map_eq_some_iff.mpr ⟨b, hb, rfl⟩
  rw [hleft] at hplan
  obtain ⟨s, hrecord, hbytes, hcount⟩ := record_of_full hchunk hplan htorn
  refine ⟨b, hb, ?_⟩
  -- the lines are those that fit, the one that is torn, and those behind it
  have htaken : (os.flatMap lineOf).take b = (os.take (fitting plan.budget os)).flatMap lineOf ++
      (lineOf os[fitting plan.budget os]).take
        (b - ((os.take (fitting plan.budget os)).flatMap lineOf).length) := by
    have hsplit : os.flatMap lineOf = (os.take (fitting plan.budget os)).flatMap lineOf ++
        (lineOf os[fitting plan.budget os] ++
          (os.drop (fitting plan.budget os + 1)).flatMap lineOf) := by
      rw [← List.flatMap_cons, ← List.drop_eq_getElem_cons hlt, ← List.flatMap_append,
        List.take_append_drop]
    rw [hsplit, List.take_append, List.take_of_length_le hfits,
      List.take_append_of_le_length (by omega)]
  unfold ending
  rw [hdrain, List.drop_eq_getElem_cons hlt, drain, hrecord]
  show (⟨_, s.accepted, s.flushes, t.lines⟩ : Ending) = _
  rw [hbytes, haccepted, hcount, hflushes, hlines, htaken]

/-- Everything is reported. -/
theorem ending_of_all (hchunk : plan.maxChunk ≠ some 0)
    (hflush : ∀ f ∈ plan.failingFlushes, fitting plan.budget os ≤ f)
    (hall : fitting plan.budget os = os.length) :
    ending plan os = ⟨none, os.flatMap lineOf, os.length, os.length⟩ := by
  obtain ⟨t, hdrain, _, haccepted, hflushes, hlines⟩ :=
    drain_take hchunk (Nat.le_refl _) hflush
  unfold ending
  rw [hdrain, hall, List.drop_length, drain]
  show (⟨_, t.sink.accepted, t.sink.flushes, t.lines⟩ : Ending) = _
  rw [haccepted, hflushes, hlines, hall, List.take_length]

/-- A flush call fails before the sink is full, or the sink is full before everything is reported,
or everything is reported. -/
theorem ending_cases (plan : SinkPlan) (os : List Outcome) :
    (∃ f ∈ plan.failingFlushes, (∀ g ∈ plan.failingFlushes, f ≤ g) ∧
        f < fitting plan.budget os) ∨
      (∀ f ∈ plan.failingFlushes, fitting plan.budget os ≤ f) ∧
        (fitting plan.budget os < os.length ∨ fitting plan.budget os = os.length) := by
  cases hmin : plan.failingFlushes.min? with
  | none =>
      right
      have hnil : plan.failingFlushes = [] := List.min?_eq_none_iff.mp hmin
      refine ⟨?_, Nat.lt_or_eq_of_le fitting_le⟩
      intro f hf
      rw [hnil] at hf
      cases hf
  | some f =>
      obtain ⟨hmem, hleast⟩ := List.min?_eq_some_iff.mp hmin
      rcases Nat.lt_or_ge f (fitting plan.budget os) with hlt | hge
      · exact .inl ⟨f, hmem, hleast, hlt⟩
      · exact .inr ⟨fun g hg => Nat.le_trans hge (hleast g hg), Nat.lt_or_eq_of_le fitting_le⟩

/-- Neither the portions in which a sink takes the bytes nor its interruptions change how the reporting
ends: what decides between the three endings is the same. -/
theorem ending_of_portions (hchunk : plan.maxChunk ≠ some 0) {portions : Option Nat}
    (hportions : portions ≠ some 0) (interrupts : Option { k : Nat // 2 ≤ k }) :
    ending { plan with maxChunk := portions, interruptEvery := interrupts } os =
      ending plan os := by
  let other : SinkPlan := { plan with maxChunk := portions, interruptEvery := interrupts }
  have hother : other.maxChunk ≠ some 0 := hportions
  show ending other os = ending plan os
  rcases ending_cases plan os with ⟨f, hf, hleast, hlt⟩ | ⟨hflush, hlt | hall⟩
  · rw [ending_of_flush hchunk hf hleast hlt]
    exact ending_of_flush hother hf hleast hlt
  · obtain ⟨b, hb, hending⟩ := ending_of_full hchunk hflush hlt
    obtain ⟨c, hc, hending'⟩ := ending_of_full hother hflush hlt
    obtain rfl : b = c := Option.some.inj (hb.symm.trans hc)
    rw [hending]
    exact hending'
  · rw [ending_of_all hchunk hflush hall]
    exact ending_of_all hother hflush hall

end ending

/-- A bound below the least item of a list is one below all items. -/
theorem le_of_forall_min? {l : List Nat} {n : Nat} (h : ∀ m, l.min? = some m → n ≤ m) :
    ∀ m ∈ l, n ≤ m := by
  intro m hm
  cases hmin : l.min? with
  | none =>
      rw [List.min?_eq_none_iff.mp hmin] at hm
      cases hm
  | some least => exact Nat.le_trans (h least hmin) ((List.min?_eq_some_iff.mp hmin).2 m hm)

/-- Take any outcomes and a new sink under any plan whose portions are of at least one byte.  Let `n`
be the number of the first outcomes whose lines fit into the budget together.

* If a flush call fails, and the first that does is `f < n`, the reporting ends with its error after
  the first `f + 1` lines were accepted whole, in as many flush calls.
* Otherwise, if `n` is less than the number of outcomes, it ends with the fault of the full sink
  after `n` flush calls, and the sink has accepted as many bytes of the lines as its budget allows.
* Otherwise it succeeds, and all lines were accepted, flushed and counted.

A full sink that reports an error gives its text to the fault, and one that accepts nothing is
reported as a failure to write the whole buffer.  Other portions and other interruptions would change
nothing of this. -/
theorem drain_closed_form (plan : SinkPlan) (os : List Outcome) (hchunk : plan.maxChunk ≠ some 0) :
    let n := fitting plan.budget os
    let full := Sink.fullFault { plan }
    (∀ f, plan.failingFlushes.min? = some f → f < n →
      ending plan os =
        ⟨some (.failed plan.message), (os.take (f + 1)).flatMap lineOf, f + 1, f⟩) ∧
    ((∀ f, plan.failingFlushes.min? = some f → n ≤ f) → n < os.length →
      ∃ b, plan.budget = some b ∧
        ending plan os = ⟨some full, (os.flatMap lineOf).take b, n, n⟩) ∧
    ((∀ f, plan.failingFlushes.min? = some f → n ≤ f) → n = os.length →
      ending plan os = ⟨none, os.flatMap lineOf, os.length, os.length⟩) ∧
    (plan.whenFull = .fail → full.message? = some plan.message) ∧
    (plan.whenFull = .stall → full.message? = some "failed to write whole buffer") ∧
    ∀ (portions : Option Nat) (interrupts : Option { k : Nat // 2 ≤ k }), portions ≠ some 0 →
      ending { plan with maxChunk := portions, interruptEvery := interrupts } os =
        ending plan os := by
  intro n full
  refine ⟨?_, ?_, ?_, ?_, ?_, ?_⟩
  · intro f hmin hlt
    obtain ⟨hmem, hleast⟩ := List.min?_eq_some_iff.mp hmin
    exact ending_of_flush hchunk hmem hleast hlt
  · intro h hlt
    exact ending_of_full hchunk (le_of_forall_min? h) hlt
  · intro h hall
    exact ending_of_all hchunk (le_of_forall_min? h) hall
  · intro hfail
    simp only [full, Sink.fullFault, hfail, WriteFault.message?]
  · intro hstall
    simp only [full, Sink.fullFault, hstall, WriteFault.message?]
  · intro portions interrupts hportions
    exact ending_of_portions hchunk hportions interrupts

/-- A sink that takes two bytes at a time, interrupts every third call, and is full after the first
of the two bytes of the last letter in the second line of `threeOutcomes`. -/
def narrowPlan : SinkPlan where
  budget := some 41
  maxChunk := some 2
  interruptEvery := some ⟨3, by decide⟩
  whenFull := .stall
  failingFlushes := [7, 1]

/-- Three outcomes, the second of which has a detail that is not ASCII. -/
def threeOutcomes : List Outcome :=
  [⟨0, 0, .code 200, 0, 0⟩, ⟨1, 0, .failed (.connect "é"), 0, 0⟩, ⟨0, 1, .code 401, 0, 0⟩]

/-- The first line alone fits, so the flush call that would fail is never made, and the second line
is torn within a letter. -/
theorem narrowPlan_ending : narrowPlan.maxChunk ≠ some 0 ∧
    fitting narrowPlan.budget threeOutcomes = 1 ∧
    ending narrowPlan threeOutcomes =
      ⟨some .stalled, (threeOutcomes.flatMap lineOf).take 41, 1, 1⟩ := by
  have hchunk : narrowPlan.maxChunk ≠ some 0 := by decide
  have hfitting : fitting narrowPlan.budget threeOutcomes = 1 := by decide +kernel
  obtain ⟨_, hfull, _⟩ := drain_closed_form narrowPlan threeOutcomes hchunk
  have hflush : ∀ f, narrowPlan.failingFlushes.min? = some f →
      fitting narrowPlan.budget threeOutcomes ≤ f := by
    intro f hf
    obtain rfl : 1 = f := Option.some.inj hf
    exact Nat.le_of_eq hfitting
  have hlt : fitting narrowPlan.budget threeOutcomes < threeOutcomes.length := by
    rw [hfitting]
    decide
  obtain ⟨b, hb, hending⟩ := hfull hflush hlt
  obtain rfl : 41 = b := Option.some.inj hb
  rw [hfitting] at hending
  exact ⟨hchunk, hfitting, hending⟩

end Reporter
end LoginLoad
