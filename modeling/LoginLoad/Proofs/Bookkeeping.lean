import LoginLoad.Proofs.Reporting

/-! # The books of a reporter

A reporter may be called again after a call has failed, and in between its device may come to behave
in any other way.  An `Entry` is one call of `Reporter.record` with the reporter before it and after
it; `Session` is any sequence of calls, with changes of the device between them that leave alone
what the device has accepted and how often it was flushed.

What one call does is `Entry.IsBooked`: it adds a prefix of its line to the device, the whole line
if it succeeds; it flushes the device once if the whole line was accepted, and not at all otherwise;
and it counts the line exactly if it succeeds.  Over a session these entries add up, and a run of the
reporter is such a session as well (`Session.drain`).  So what the device has accepted, the flushes
and the count of lines stay in step over every mixture of successes, torn lines and failed flushes
(`books_balance`). -/

namespace LoginLoad

open FlushCount (flushes)

/-! ### One call -/

namespace Reporter

/-- One call of `Reporter.record`: the reporter before it, its outcome, how it ended, and the
reporter after it. -/
structure Entry (δ : Type) [Device δ] where
  before : Reporter δ
  outcome : Outcome
  fault : Option WriteFault
  after : Reporter δ
  record_eq : before.record outcome = (fault, after)

namespace Entry
variable {δ : Type} [Device δ] (e : Entry δ)

/-- What the call added to the device. -/
def added : List UInt8 :=
  (Device.accepted e.after.sink).drop (Device.accepted e.before.sink).length

/-- Whether the whole line was accepted. -/
def isWhole : Bool := e.added = lineOf e.outcome

/-- Whether the call succeeded. -/
def isSuccess : Bool := e.fault.isNone

theorem added_eq {e : Entry δ} {bytes : List UInt8}
    (h : Device.accepted e.after.sink = Device.accepted e.before.sink ++ bytes) :
    e.added = bytes := by
  rw [added, h, List.drop_left]

/-- What one call of a reporter may do. -/
structure IsBooked [FlushCount δ] : Prop where
  accepted_after : Device.accepted e.after.sink = Device.accepted e.before.sink ++ e.added
  added_prefix : e.added <+: lineOf e.outcome
  added_of_success : e.fault = none → e.added = lineOf e.outcome
  /-- The device is flushed once if it accepted the whole line, and not at all otherwise. -/
  flushes_after : flushes e.after.sink =
    flushes e.before.sink + if e.added = lineOf e.outcome then 1 else 0
  /-- A call that fails although the whole line was accepted failed in the flush. -/
  failed_in_flush : ∀ f, e.fault = some f → e.added = lineOf e.outcome →
    ∃ d, Device.writePieces e.before.sink (piecesOf e.outcome) = (none, d) ∧
      Device.flush d = (some f, e.after.sink)
  lines_after : e.after.lines = e.before.lines + if e.fault = none then 1 else 0

theorem isBooked [FlushCount δ] : e.IsBooked := by
  have hrecord := e.record_eq
  cases hfault : e.fault with
  | none =>
      rw [hfault] at hrecord
      obtain ⟨hlines, haccepted⟩ := record_none hrecord
      have hadded := added_eq haccepted
      exact {
        accepted_after := by rw [hadded, haccepted]
        added_prefix := ⟨[], by rw [hadded, List.append_nil]⟩
        added_of_success := fun _ => hadded
        flushes_after := by rw [flushes_record_none hrecord, if_pos hadded]
        failed_in_flush := fun f hf => by rw [hfault] at hf; cases hf
        lines_after := by rw [hlines, if_pos hfault] }
  | some f =>
      rw [hfault] at hrecord
      obtain ⟨hlines, _⟩ := record_some hrecord
      have hnone : ¬ e.fault = none := by rw [hfault]; exact Option.some_ne_none f
      have hlinesAfter : e.after.lines = e.before.lines + if e.fault = none then 1 else 0 := by
        rw [hlines, if_neg hnone, Nat.add_zero]
      rcases record_some_cases hrecord with ⟨torn, hp, hlt, haccepted, hflushes⟩ |
        ⟨hflush, haccepted, hflushes⟩
      · have hadded := added_eq haccepted
        have hne : ¬ e.added = lineOf e.outcome := by
          intro heq
          rw [← hadded, heq] at hlt
          exact Nat.lt_irrefl _ hlt
        exact {
          accepted_after := by rw [hadded, haccepted]
          added_prefix := by rw [hadded]; exact hp
          added_of_success := fun h => absurd h hnone
          flushes_after := by rw [hflushes, if_neg hne, Nat.add_zero]
          failed_in_flush := fun _ _ heq => absurd heq hne
          lines_after := hlinesAfter }
      · have hadded := added_eq haccepted
        exact {
          accepted_after := by rw [hadded, haccepted]
          added_prefix := ⟨[], by rw [hadded, List.append_nil]⟩
          added_of_success := fun _ => hadded
          flushes_after := by rw [hflushes, if_pos hadded]
          failed_in_flush := fun g hg _ => by
            obtain rfl := Option.some.inj (hfault.symm.trans hg)
            exact hflush
          lines_after := hlinesAfter }

end Entry

/-! ### A session -/

/-- The outcome that is reported in a call. -/
def Call.outcome? : Call → Option Outcome
  | .record o => some o
  | .replan _ => none

/-- The reporter after the given calls, whether or not they fail. -/
def calls (r : Reporter) (cs : List Call) : Reporter := cs.foldl (fun r c => (r.call c).2) r

/-- The calls made on a reporter since it was `s`, in order, and what it is now.  Between two calls
its device may become any other one that has accepted the same bytes and counts the same flushes. -/
inductive Session {δ : Type} [Device δ] [FlushCount δ] (s : Reporter δ) :
    List (Entry δ) → Reporter δ → Prop
  | start : Session s [] s
  | record {entries : List (Entry δ)} (e : Entry δ) : Session s entries e.before →
      Session s (entries ++ [e]) e.after
  | change {entries : List (Entry δ)} {r : Reporter δ} (d : δ) : Session s entries r →
      Device.accepted d = Device.accepted r.sink → flushes d = flushes r.sink →
      Session s entries { r with sink := d }

namespace Session
variable {δ : Type} [Device δ] [FlushCount δ] {s r t : Reporter δ} {entries : List (Entry δ)}

/-- The device has accepted what the calls added, in order. -/
theorem accepted_eq (h : Session s entries r) :
    Device.accepted r.sink = Device.accepted s.sink ++ entries.flatMap Entry.added := by
  induction h with
  | start => simp
  | record e _ ih =>
      rw [e.isBooked.accepted_after, ih, List.flatMap_append, List.flatMap_singleton,
        List.append_assoc]
  | change d _ hd _ ih => rw [← ih]; exact hd

/-- There was one flush call for each whole line. -/
theorem flushes_eq (h : Session s entries r) :
    flushes r.sink = flushes s.sink + entries.countP Entry.isWhole := by
  induction h with
  | start => rfl
  | record e _ ih =>
      rw [e.isBooked.flushes_after, ih, List.countP_append, List.countP_singleton, Nat.add_assoc]
      simp [Entry.isWhole]
  | change d _ _ hd ih => rw [← ih]; exact hd

/-- One line was counted for each success. -/
theorem lines_eq (h : Session s entries r) :
    r.lines = s.lines + entries.countP Entry.isSuccess := by
  induction h with
  | start => rfl
  | record e _ ih =>
      rw [e.isBooked.lines_after, ih, List.countP_append, List.countP_singleton, Nat.add_assoc]
      simp [Entry.isSuccess]
  | change d _ _ _ ih => exact ih

/-- A run of the reporter goes on with the session: it makes calls for the first of its outcomes, and
for all of them if it does not fail. -/
theorem drain {os : List Outcome} {fault : Option WriteFault} (h : Session s entries r)
    (hd : r.drain os = (fault, t)) :
    ∃ more : List (Entry δ), Session s (entries ++ more) t ∧ more.map Entry.outcome <+: os ∧
      (fault = none → more.map Entry.outcome = os ∧ ∀ e ∈ more, e.fault = none) := by
  induction os generalizing r entries with
  | nil =>
      cases hd
      exact ⟨[], by simpa using h, List.prefix_refl _, fun _ => ⟨rfl, by simp⟩⟩
  | cons o rest ih =>
      rw [Reporter.drain] at hd
      cases hr : r.record o with
      | mk f r' =>
          let e : Entry δ := ⟨r, o, f, r', hr⟩
          have hone : Session s (entries ++ [e]) r' := .record e h
          rw [hr] at hd
          cases f with
          | some f =>
              cases hd
              refine ⟨[e], hone, ?_, fun hf => absurd hf (Option.some_ne_none f)⟩
              exact List.cons_prefix_cons.mpr ⟨rfl, List.nil_prefix⟩
          | none =>
              obtain ⟨more, hmore, hp, hall⟩ := ih hone hd
              refine ⟨e :: more, by simpa using hmore, ?_, fun hf => ?_⟩
              · exact List.cons_prefix_cons.mpr ⟨rfl, hp⟩
              · obtain ⟨heq, hnone⟩ := hall hf
                refine ⟨by rw [List.map_cons, heq], ?_⟩
                intro p hmem
                rcases List.mem_cons.mp hmem with rfl | hmem
                · rfl
                · exact hnone p hmem

/-- Reporting an outcome is a call, and giving the sink another plan is none. -/
theorem call {s r : Reporter} {entries : List (Entry Sink)} (h : Session s entries r) (c : Call) :
    ∃ more : List (Entry Sink), Session s (entries ++ more) (r.call c).2 ∧
      more.map Entry.outcome = c.outcome?.toList := by
  cases c with
  | record o =>
      let e : Entry Sink := ⟨r, o, (r.record o).1, (r.record o).2, rfl⟩
      exact ⟨[e], .record e h, rfl⟩
  | replan plan =>
      refine ⟨[], ?_, rfl⟩
      rw [List.append_nil]
      exact .change _ h rfl rfl

/-- Whatever is called on a reporter with a sink is a session, with one entry for each outcome. -/
theorem calls {s r : Reporter} {entries : List (Entry Sink)} (h : Session s entries r)
    (cs : List Call) : ∃ more : List (Entry Sink), Session s (entries ++ more) (r.calls cs) ∧
      more.map Entry.outcome = cs.filterMap Call.outcome? := by
  induction cs generalizing r entries with
  | nil => exact ⟨[], by simpa [Reporter.calls] using h, rfl⟩
  | cons c rest ih =>
      obtain ⟨one, hone, houtcome⟩ := h.call c
      obtain ⟨more, hmore, houtcomes⟩ := ih hone
      refine ⟨one ++ more, by simpa [Reporter.calls] using hmore, ?_⟩
      rw [List.map_append, houtcome, houtcomes, List.filterMap_cons]
      cases c.outcome? <;> rfl

end Session

/-- Take any session of a new reporter on any device that counts its flush calls.  Every call did
what `Entry.IsBooked` says.  The device has accepted what the calls added to it, in their order; it
was flushed once for each line that it accepted whole; and the lines that were counted are as many as
the calls that succeeded.  A run of the reporter over any outcomes goes on in the same way, with
calls for the first of them; if it succeeds the count of lines is that of the successes before it and
of all its outcomes. -/
theorem books_balance {δ : Type} [Device δ] [FlushCount δ] {out : δ} {entries : List (Entry δ)}
    {r : Reporter δ} (h : Session { sink := out } entries r) :
    (∀ e ∈ entries, e.IsBooked) ∧
    Device.accepted r.sink = Device.accepted out ++ entries.flatMap Entry.added ∧
    flushes r.sink = flushes out + entries.countP Entry.isWhole ∧
    r.lines = entries.countP Entry.isSuccess ∧
    ∀ (os : List Outcome) (fault : Option WriteFault) (t : Reporter δ),
      r.drain os = (fault, t) →
        (fault = none → t.lines = entries.countP Entry.isSuccess + os.length) ∧
        ∃ more : List (Entry δ), Session { sink := out } (entries ++ more) t ∧
          more.map Entry.outcome <+: os ∧ (∀ e ∈ more, e.IsBooked) ∧
          Device.accepted t.sink =
            Device.accepted out ++ (entries ++ more).flatMap Entry.added ∧
          flushes t.sink = flushes out + (entries ++ more).countP Entry.isWhole := by
  have hlines : r.lines = entries.countP Entry.isSuccess := by
    rw [h.lines_eq, Nat.zero_add]
  refine ⟨fun e _ => e.isBooked, h.accepted_eq, h.flushes_eq, hlines, ?_⟩
  intro os fault t hd
  constructor
  · intro hfault
    subst hfault
    rw [(drain_none hd).1, hlines]
  · obtain ⟨more, hmore, hp, _⟩ := h.drain hd
    exact ⟨more, hmore, hp, fun e _ => e.isBooked, hmore.accepted_eq, hmore.flushes_eq⟩

/-- A line that is torn, then one whose flush fails, then one that is reported. -/
def unluckyCalls : List Call :=
  [.record ⟨0, 0, .code 200, 0, 0⟩, .replan { failingFlushes := [0] },
    .record ⟨1, 0, .code 401, 0, 0⟩, .record ⟨0, 1, .failed (.connect "refused"), 0, 0⟩]

/-- A sink that takes six bytes. -/
def shortSink : Sink where
  plan := { budget := some 6 }

/-- A reporter on this sink, after these calls. -/
def unlucky : Reporter := ({ sink := shortSink } : Reporter).calls unluckyCalls

/-- Of three calls one was counted and two wrote their line whole, and a run over one more outcome
makes it two lines. -/
theorem unlucky_books : ∃ entries : List (Entry Sink),
    Session { sink := shortSink } entries unlucky ∧ entries.length = 3 ∧
      entries.flatMap Entry.added =
        Utf8.encode "user-0user-1 -> 401\nuser-0 -> error: connect: refused\n".toList ∧
      entries.countP Entry.isWhole = 2 ∧ entries.countP Entry.isSuccess = 1 ∧
      (unlucky.drain [⟨1, 1, .code 200, 0, 0⟩]).2.lines = 2 := by
  obtain ⟨entries, hcalls, houtcomes⟩ :=
    (Session.start (s := ({ sink := shortSink } : Reporter))).calls unluckyCalls
  have hsession : Session { sink := shortSink } entries unlucky := hcalls
  have hlength : entries.length = 3 := by
    have := congrArg List.length houtcomes
    rwa [List.length_map] at this
  obtain ⟨_, haccepted, hflushes, hlines, hrun⟩ := books_balance hsession
  have hbytes : Device.accepted unlucky.sink =
      Utf8.encode "user-0user-1 -> 401\nuser-0 -> error: connect: refused\n".toList := by
    decide +kernel
  have htwo : flushes unlucky.sink = 2 := by decide +kernel
  have hone : unlucky.lines = 1 := by decide +kernel
  have hdrain : (unlucky.drain [⟨1, 1, .code 200, 0, 0⟩]).1 = none := by decide +kernel
  refine ⟨entries, hsession, hlength, ?_, ?_, ?_, ?_⟩
  · rw [← hbytes]
    exact haccepted.symm
  · have hnew : flushes shortSink = 0 := rfl
    omega
  · rw [← hlines, hone]
  · rw [(hrun _ _ _ rfl).1 hdrain, ← hlines, hone]
    rfl

end Reporter
end LoginLoad
