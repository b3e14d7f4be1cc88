import LoginLoad.Device

/-! # Sinks

A sink is a device that keeps the bytes that it accepts.  How it answers the calls made on it is
written down in its plan: how many bytes it still takes, how many of them in one call, which calls
it interrupts, which flushes fail, and what it does when it is full.  A plan never interrupts two
calls in a row. -/

namespace LoginLoad

/-- What a full sink does. -/
inductive WhenFull where
  | fail
  | stall
  | panic
deriving DecidableEq, Repr

/-- How a sink answers. -/
structure SinkPlan where
  /-- The number of bytes that it still accepts; `none` is no limit. -/
  budget : Option Nat := none
  whenFull : WhenFull := .fail
  /-- The most bytes that it accepts in one call; `none` is no limit. -/
  maxChunk : Option Nat := none
  /-- With `k`, every `k`-th write call is interrupted. -/
  interruptEvery : Option { k : Nat // 2 ≤ k } := none
  /-- The numbers of the flush calls that fail, counted from 0 over the life of the sink. -/
  failingFlushes : List Nat := []
  /-- The text of its errors. -/
  message : String := "writer failed"
deriving DecidableEq, Repr

/-- A sink and what was done to it. -/
structure Sink where
  plan : SinkPlan := {}
  /-- The pieces that it has accepted, the latest first. -/
  kept : List (List UInt8) := []
  /-- The number of write calls made so far. -/
  calls : Nat := 0
  /-- The number of flush calls made so far. -/
  flushes : Nat := 0
deriving DecidableEq, Repr

namespace Sink

/-- The bytes that a sink has accepted. -/
def accepted (s : Sink) : List UInt8 := s.kept.reverse.flatten

/-- Whether the next write call is interrupted. -/
def interruptDue (s : Sink) : Bool :=
  match s.plan.interruptEvery with
  | some k => (s.calls + 1) % k.val = 0
  | none => false

/-- The number of bytes that the next call accepts of `n` offered ones. -/
def room (s : Sink) (n : Nat) : Nat :=
  min (s.plan.budget.getD n) (min (s.plan.maxChunk.getD n) n)

/-- The fault of a full sink. -/
def fullFault (s : Sink) : WriteFault :=
  match s.plan.whenFull with
  | .fail => .failed s.plan.message
  | .stall => .stalled
  | .panic => .panicked

/-- Takes the first `n` of the offered bytes. -/
def take (s : Sink) (n : Nat) (bytes : List UInt8) : Sink :=
  { s with
    plan := { s.plan with budget := s.plan.budget.map (· - n) }
    kept := bytes.take n :: s.kept }

@[simp] theorem accepted_take (s : Sink) (n : Nat) (bytes : List UInt8) :
    (s.take n bytes).accepted = s.accepted ++ bytes.take n := by
  simp [accepted, take]

/-- One write call. -/
def write (s : Sink) (bytes : List UInt8) : WriteCall × Sink :=
  let counted := { s with calls := s.calls + 1 }
  if s.interruptDue then (.interrupted, counted)
  else if s.plan.budget = some 0 then (.fault s.fullFault, counted)
  else
    let n := s.room bytes.length
    (.took n, counted.take n bytes)

/-- One flush call. -/
def flush (s : Sink) : Option WriteFault × Sink :=
  let fault := if s.flushes ∈ s.plan.failingFlushes then some (.failed s.plan.message) else none
  (fault, { s with flushes := s.flushes + 1 })

/-- The sink under another plan; the calls that it interrupts are counted anew. -/
def replan (s : Sink) (plan : SinkPlan) : Sink := { s with plan, calls := 0 }

theorem room_le (s : Sink) (n : Nat) : s.room n ≤ n :=
  Nat.le_trans (Nat.min_le_right _ _) (Nat.min_le_right _ _)

theorem not_interruptDue_of_interrupted {s t : Sink} {bytes : List UInt8}
    (h : s.write bytes = (.interrupted, t)) : s.interruptDue = true ∧ t.interruptDue = false := by
  unfold write at h
  by_cases hd : s.interruptDue
  · refine ⟨hd, ?_⟩
    simp only [hd, if_true, Prod.mk.injEq, true_and] at h
    subst h
    revert hd
    unfold interruptDue
    cases s.plan.interruptEvery with
    | none => simp
    | some k =>
      obtain ⟨k, hk⟩ := k
      simp only [decide_eq_true_eq, decide_eq_false_iff_not]
      intro h1 h2
      have h1 := Nat.dvd_of_mod_eq_zero h1
      have h2 := Nat.dvd_of_mod_eq_zero h2
      have := (Nat.dvd_add_right h1).1 h2
      exact absurd (Nat.le_of_dvd (by decide) this) (by omega)
  · simp only [hd, Bool.false_eq_true, if_false] at h
    split at h <;> simp at h

/-- What one write call may come to. -/
theorem write_cases (s : Sink) (bytes : List UInt8) :
    (s.write bytes = (.interrupted, { s with calls := s.calls + 1 }) ∧ s.interruptDue = true) ∨
      (s.write bytes = (.fault s.fullFault, { s with calls := s.calls + 1 }) ∧
        s.plan.budget = some 0) ∨
      (s.write bytes =
          (.took (s.room bytes.length),
            ({ s with calls := s.calls + 1 } : Sink).take (s.room bytes.length) bytes) ∧
        s.plan.budget ≠ some 0) := by
  unfold write
  by_cases hd : s.interruptDue
  · exact .inl (by simp [hd])
  · by_cases hb : s.plan.budget = some 0
    · exact .inr (.inl (by simp [hd, hb]))
    · exact .inr (.inr (by simp [hd, hb]))

theorem accepted_write {s t : Sink} {bytes : List UInt8} {call : WriteCall}
    (h : s.write bytes = (call, t)) : t.accepted = s.accepted ++ bytes.take call.accepted := by
  rcases s.write_cases bytes with ⟨hw, _⟩ | ⟨hw, _⟩ | ⟨hw, _⟩ <;> rw [hw] at h <;> cases h
  · simp [WriteCall.accepted, accepted]
  · simp [WriteCall.accepted, accepted]
  · rw [accepted_take]
    rfl

instance : Device Sink where
  accepted := accepted
  write := write
  flush := flush
  patience s := if s.interruptDue then 1 else 0
  accepted_le {s t bytes call} h := by
    rcases s.write_cases bytes with ⟨hw, _⟩ | ⟨hw, _⟩ | ⟨hw, _⟩ <;> rw [hw] at h <;> cases h
    · exact Nat.zero_le _
    · exact Nat.zero_le _
    · exact s.room_le _
  accepted_write := accepted_write
  accepted_flush h := by
    cases h
    rfl
  patience_lt h := by
    obtain ⟨h1, h2⟩ := not_interruptDue_of_interrupted h
    simp [h1, h2]

end Sink
end LoginLoad
