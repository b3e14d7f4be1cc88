import LoginLoad.Proofs.Reporting

/-! # Devices that run full

A device that accepts a known number of bytes in all and then fails.  It may take them in portions
of any size, and it may interrupt; as long as it has room every call that it does not interrupt
takes something.

A `Gauge` of a device says how many bytes it still accepts, if there is a limit.  What is written to
a device with a gauge is accepted whole if it fits; if not, the device is filled to the last byte and
the write fails with the fault of the gauge (`Gauge.writePieces_none`, `Gauge.writePieces_some`).  A
`Meter` is a gauge with a limit of devices whose flushes succeed.  So a line that does not fit is
torn where the device is full (`Meter.record_some`).

Every plan with a budget and portions of at least one byte gives a meter of its sink
(`Sink.meter`). -/

namespace LoginLoad

/-- A gauge of devices that fail with `fault` when they are full. -/
structure Gauge (δ : Type) [Device δ] (fault : WriteFault) where
  /-- The device accepts `left` bytes more; with `none` there is no limit. -/
  reads : δ → (left : Option Nat) → Prop
  took {d e : δ} {bytes : List UInt8} {left : Option Nat} {n : Nat} : reads d left →
    Device.write d bytes = (.took n, e) → (∀ b ∈ left, n ≤ b) ∧ reads e (left.map (· - n)) ∧
      (n = 0 → bytes ≠ [] → left = some 0 ∧ fault = .stalled)
  interrupted {d e : δ} {bytes : List UInt8} {left : Option Nat} : reads d left →
    Device.write d bytes = (.interrupted, e) → reads e left
  failed {d e : δ} {bytes : List UInt8} {left : Option Nat} {f : WriteFault} : reads d left →
    Device.write d bytes = (.fault f, e) → left = some 0 ∧ f = fault

namespace Gauge

variable {δ : Type} [Device δ] {fault : WriteFault} (g : Gauge δ fault) {d e : δ}
  {left : Option Nat}

theorem offer_ok {bytes : List UInt8} {n : Nat} (h : g.reads d left)
    (ho : Device.offer d bytes = (.ok n, e)) :
    (∀ b ∈ left, n ≤ b) ∧ g.reads e (left.map (· - n)) ∧
      (n = 0 → bytes ≠ [] → left = some 0 ∧ fault = .stalled) := by
  fun_induction Device.offer d bytes with
  | case1 d c hw ih => exact ih (g.interrupted h hw) ho
  | case2 d f c hw => cases ho
  | case3 d k c hw =>
      cases ho
      exact g.took h hw

theorem offer_error {bytes : List UInt8} {f : WriteFault} (h : g.reads d left)
    (ho : Device.offer d bytes = (.error f, e)) : left = some 0 ∧ f = fault := by
  fun_induction Device.offer d bytes with
  | case1 d c hw ih => exact ih (g.interrupted h hw) ho
  | case2 d f' c hw =>
      cases ho
      exact g.failed h hw
  | case3 d k c hw => cases ho

theorem map_sub_sub (left : Option Nat) (m n : Nat) :
    (left.map (· - m)).map (· - n) = left.map (· - (m + n)) := by
  rw [Option.map_map]
  congr 1
  funext b
  exact Nat.sub_sub b m n

theorem mem_map_sub {b n : Nat} (h : b ∈ left) : b - n ∈ left.map (· - n) :=
  Option.mem_map_of_mem _ h

/-- What was written whole did fit. -/
theorem writeAll_none {bytes : List UInt8} (h : g.reads d left)
    (hw : Device.writeAll d bytes = (none, e)) :
    (∀ b ∈ left, bytes.length ≤ b) ∧ g.reads e (left.map (· - bytes.length)) := by
  fun_induction Device.writeAll d bytes generalizing left with
  | case1 d bytes hb =>
      cases hw
      rw [List.isEmpty_iff.mp hb]
      exact ⟨fun b _ => Nat.zero_le b, by simpa using h⟩
  | case2 d bytes hb f c ho => cases hw
  | case3 d bytes hb c ho => cases hw
  | case4 d bytes hb n c ho hn ih =>
      obtain ⟨hfits, hreads, _⟩ := g.offer_ok h ho
      obtain ⟨hrest, hlast⟩ := ih hreads hw
      have hle := (Device.offer_ok ho).1
      rw [List.length_drop] at hrest hlast
      rw [map_sub_sub, Nat.add_sub_cancel' hle] at hlast
      refine ⟨?_, hlast⟩
      intro b hb
      have h1 := hfits b hb
      have h2 := hrest (b - n) (mem_map_sub hb)
      omega

/-- What did not fit has filled the device to the last byte. -/
theorem writeAll_some {bytes : List UInt8} {f : WriteFault} (h : g.reads d left)
    (hw : Device.writeAll d bytes = (some f, e)) :
    f = fault ∧ ∃ b, left = some b ∧ b < bytes.length ∧
      Device.accepted e = Device.accepted d ++ bytes.take b := by
  fun_induction Device.writeAll d bytes generalizing left with
  | case1 d bytes hb => cases hw
  | case2 d bytes hb f' c ho =>
      cases hw
      obtain ⟨hleft, hf⟩ := g.offer_error h ho
      have hne : bytes ≠ [] := by simpa using hb
      exact ⟨hf, 0, hleft, List.length_pos_iff.mpr hne, by simp [Device.offer_error ho]⟩
  | case3 d bytes hb c ho =>
      cases hw
      have hne : bytes ≠ [] := by simpa using hb
      obtain ⟨_, _, hfull⟩ := g.offer_ok h ho
      obtain ⟨hleft, hf⟩ := hfull rfl hne
      exact ⟨hf.symm, 0, hleft, List.length_pos_iff.mpr hne, by simpa using (Device.offer_ok ho).2⟩
  | case4 d bytes hb n c ho hn ih =>
      obtain ⟨hfits, hreads, _⟩ := g.offer_ok h ho
      obtain ⟨hf, rest, hrest, hlt, he⟩ := ih hreads hw
      obtain ⟨b, hb, hsub⟩ := Option.map_eq_some_iff.mp hrest
      have hnb : n ≤ b := hfits b hb
      obtain ⟨hle, hadd⟩ := Device.offer_ok ho
      rw [List.length_drop] at hlt
      refine ⟨hf, b, hb, by omega, ?_⟩
      -- the first `n` bytes and as many of the others as are left make the first `b`
      have htake : bytes.take b = bytes.take n ++ (bytes.drop n).take rest := by
        rw [← hsub, ← List.take_add, Nat.add_sub_cancel' hnb]
      rw [he, hadd, htake, List.append_assoc]

theorem writePieces_none {pieces : List (List UInt8)} (h : g.reads d left)
    (hw : Device.writePieces d pieces = (none, e)) :
    (∀ b ∈ left, pieces.flatten.length ≤ b) ∧ g.reads e (left.map (· - pieces.flatten.length)) := by
  induction pieces generalizing d left with
  | nil =>
      cases hw
      exact ⟨fun b _ => Nat.zero_le b, by simpa using h⟩
  | cons piece pieces ih =>
      rcases Device.writePieces_cons hw with ⟨f, hf, _⟩ | ⟨c, hp, hc⟩
      · cases hf
      · obtain ⟨hfits, hreads⟩ := g.writeAll_none h hp
        obtain ⟨hrest, hlast⟩ := ih hreads hc
        rw [List.flatten_cons, List.length_append]
        rw [map_sub_sub] at hlast
        refine ⟨?_, hlast⟩
        intro b hb
        have h1 := hfits b hb
        have h2 := hrest _ (mem_map_sub hb)
        omega

theorem writePieces_some {pieces : List (List UInt8)} {f : WriteFault} (h : g.reads d left)
    (hw : Device.writePieces d pieces = (some f, e)) :
    f = fault ∧ ∃ b, left = some b ∧ b < pieces.flatten.length ∧
      Device.accepted e = Device.accepted d ++ pieces.flatten.take b := by
  induction pieces generalizing d left with
  | nil => cases hw
  | cons piece pieces ih =>
      rw [List.flatten_cons, List.length_append]
      rcases Device.writePieces_cons hw with ⟨f', hf, hp⟩ | ⟨c, hp, hc⟩
      · cases hf
        obtain ⟨hf, b, hb, hlt, he⟩ := g.writeAll_some h hp
        refine ⟨hf, b, hb, by omega, ?_⟩
        rw [he, List.take_append_of_le_length (Nat.le_of_lt hlt)]
      · obtain ⟨hfits, hreads⟩ := g.writeAll_none h hp
        obtain ⟨hf, rest, hrest, hlt, he⟩ := ih hreads hc
        obtain ⟨b, hb, hsub⟩ := Option.map_eq_some_iff.mp hrest
        have hle : piece.length ≤ b := hfits b hb
        refine ⟨hf, b, hb, by omega, ?_⟩
        rw [he, Device.writeAll_none hp, List.append_assoc, List.take_append, hsub,
          List.take_of_length_le hle]

end Gauge

/-- A meter of devices that fail with `fault` when they are full. -/
structure Meter (δ : Type) [Device δ] (fault : WriteFault) where
  /-- The device accepts `left` bytes more. -/
  holds : δ → (left : Nat) → Prop
  took {d e : δ} {bytes : List UInt8} {left n : Nat} : holds d left →
    Device.write d bytes = (.took n, e) →
      ∃ rest, left = n + rest ∧ holds e rest ∧ (n = 0 → bytes ≠ [] → left = 0 ∧ fault = .stalled)
  interrupted {d e : δ} {bytes : List UInt8} {left : Nat} : holds d left →
    Device.write d bytes = (.interrupted, e) → holds e left
  failed {d e : δ} {bytes : List UInt8} {left : Nat} {f : WriteFault} : holds d left →
    Device.write d bytes = (.fault f, e) → left = 0 ∧ f = fault
  flushed {d e : δ} {left : Nat} {f : Option WriteFault} : holds d left →
    Device.flush d = (f, e) → f = none ∧ holds e left

namespace Meter

variable {δ : Type} [Device δ] {fault : WriteFault} (m : Meter δ fault)

/-- The gauge that reads what is left. -/
def gauge : Gauge δ fault where
  reads d left := ∃ n, left = some n ∧ m.holds d n
  took {d e bytes left n} h hw := by
    obtain ⟨k, rfl, hk⟩ := h
    obtain ⟨rest, hsum, hrest, hfull⟩ := m.took hk hw
    refine ⟨?_, ⟨rest, ?_, hrest⟩, ?_⟩
    · intro b hb
      cases hb
      omega
    · rw [Option.map_some, hsum, Nat.add_sub_cancel_left]
    · intro hn hne
      obtain ⟨hzero, hf⟩ := hfull hn hne
      exact ⟨by rw [hzero], hf⟩
  interrupted {d e bytes left} h hw := by
    obtain ⟨k, hleft, hk⟩ := h
    exact ⟨k, hleft, m.interrupted hk hw⟩
  failed {d e bytes left f} h hw := by
    obtain ⟨k, rfl, hk⟩ := h
    obtain ⟨hzero, hf⟩ := m.failed hk hw
    exact ⟨by rw [hzero], hf⟩

theorem writePieces_none {d e : δ} {pieces : List (List UInt8)} {left : Nat} (h : m.holds d left)
    (hw : Device.writePieces d pieces = (none, e)) :
    ∃ rest, left = pieces.flatten.length + rest ∧ m.holds e rest := by
  obtain ⟨hfits, rest, hrest, hholds⟩ := m.gauge.writePieces_none ⟨left, rfl, h⟩ hw
  have hle := hfits left rfl
  have hsub : left - pieces.flatten.length = rest := Option.some.inj hrest
  exact ⟨rest, by omega, hholds⟩

theorem writePieces_some {d e : δ} {pieces : List (List UInt8)} {left : Nat} {f : WriteFault}
    (h : m.holds d left) (hw : Device.writePieces d pieces = (some f, e)) :
    f = fault ∧ left < pieces.flatten.length ∧
      ∃ written, written <+: pieces.flatten ∧ written.length = left ∧
        Device.accepted e = Device.accepted d ++ written := by
  obtain ⟨hf, b, hb, hlt, he⟩ := m.gauge.writePieces_some ⟨left, rfl, h⟩ hw
  obtain rfl : left = b := Option.some.inj hb
  exact ⟨hf, hlt, _, List.take_prefix _ _, List.length_take_of_le (Nat.le_of_lt hlt), he⟩

/-- A line that was reported did fit. -/
theorem record_none {r t : Reporter δ} {o : Outcome} {left : Nat} (h : m.holds r.sink left)
    (hr : r.record o = (none, t)) :
    ∃ rest, left = (Reporter.lineOf o).length + rest ∧ m.holds t.sink rest := by
  obtain ⟨_, d, hw, hf⟩ := Reporter.record_eq_none hr
  obtain ⟨rest, hleft, hrest⟩ := m.writePieces_none h hw
  rw [Reporter.flatten_piecesOf] at hleft
  exact ⟨rest, hleft, (m.flushed hrest hf).2⟩

/-- A line that was not reported did not fit, and is torn where the device is full. -/
theorem record_some {r t : Reporter δ} {o : Outcome} {left : Nat} {f : WriteFault}
    (h : m.holds r.sink left) (hr : r.record o = (some f, t)) :
    f = fault ∧ left < (Reporter.lineOf o).length ∧
      ∃ torn, torn <+: Reporter.lineOf o ∧ torn.length = left ∧
        Device.accepted t.sink = Device.accepted r.sink ++ torn := by
  obtain ⟨_, hw | ⟨d, hw, hf⟩⟩ := Reporter.record_eq_some hr
  · rw [← Reporter.flatten_piecesOf]
    exact m.writePieces_some h hw
  · obtain ⟨rest, _, hrest⟩ := m.writePieces_none h hw
    cases (m.flushed hrest hf).1

end Meter

namespace Sink

variable {s t : Sink} {bytes : List UInt8} {left : Nat} {fault : WriteFault}

/-- The sink accepts `left` bytes more, at least one in a call that is not interrupted, and then
fails with `fault`; its flushes succeed. -/
structure HasRoom (fault : WriteFault) (s : Sink) (left : Nat) : Prop where
  budget_eq : s.plan.budget = some left
  maxChunk_ne : s.plan.maxChunk ≠ some 0
  failingFlushes_eq : s.plan.failingFlushes = []
  fullFault_eq : s.fullFault = fault

/-- A sink takes something of what it is offered, unless it is full. -/
theorem room_pos (hchunk : s.plan.maxChunk ≠ some 0) (hbudget : s.plan.budget ≠ some 0) {n : Nat}
    (hn : 0 < n) : 0 < s.room n := by
  have hleft : 0 < s.plan.budget.getD n := by
    cases hb : s.plan.budget with
    | none => exact hn
    | some b =>
        have hpos : b ≠ 0 := by
          intro h0
          exact hbudget (by rw [hb, h0])
        exact Nat.pos_of_ne_zero hpos
  have hportion : 0 < s.plan.maxChunk.getD n := by
    cases hc : s.plan.maxChunk with
    | none => exact hn
    | some c =>
        have hpos : c ≠ 0 := by
          intro h0
          exact hchunk (by rw [hc, h0])
        exact Nat.pos_of_ne_zero hpos
  unfold room
  omega

/-- What a sink takes is within its budget, and it is nothing only if nothing was offered. -/
theorem of_took {n : Nat} (hchunk : s.plan.maxChunk ≠ some 0) (hw : s.write bytes = (.took n, t)) :
    (∀ b ∈ s.plan.budget, n ≤ b) ∧
      t.plan = { s.plan with budget := s.plan.budget.map (· - n) } ∧ (n = 0 → bytes = []) := by
  rcases s.write_cases bytes with ⟨hc, _⟩ | ⟨hc, _⟩ | ⟨hc, hne⟩ <;> cases hc.symm.trans hw
  refine ⟨?_, rfl, ?_⟩
  · intro b hb
    have hb : s.plan.budget = some b := hb
    unfold room
    rw [hb]
    exact Nat.min_le_left _ _
  · intro hzero
    by_cases hbytes : bytes = []
    · exact hbytes
    · have := room_pos hchunk hne (List.length_pos_iff.mpr hbytes)
      omega

theorem HasRoom.took {n : Nat} (h : HasRoom fault s left) (hw : s.write bytes = (.took n, t)) :
    ∃ rest, left = n + rest ∧ HasRoom fault t rest ∧
      (n = 0 → bytes ≠ [] → left = 0 ∧ fault = .stalled) := by
  obtain ⟨hfits, hplan, hempty⟩ := of_took h.maxChunk_ne hw
  have hle := hfits left h.budget_eq
  refine ⟨left - n, by omega, ⟨?_, ?_, ?_, ?_⟩, fun hzero hbytes => absurd (hempty hzero) hbytes⟩
  · rw [hplan, h.budget_eq, Option.map_some]
  · rw [hplan]
    exact h.maxChunk_ne
  · rw [hplan]
    exact h.failingFlushes_eq
  · rw [← h.fullFault_eq]
    unfold fullFault
    rw [hplan]

theorem HasRoom.interrupted (h : HasRoom fault s left) (hw : s.write bytes = (.interrupted, t)) :
    HasRoom fault t left := by
  rcases s.write_cases bytes with ⟨hc, _⟩ | ⟨hc, _⟩ | ⟨hc, _⟩ <;> cases hc.symm.trans hw
  exact ⟨h.budget_eq, h.maxChunk_ne, h.failingFlushes_eq, h.fullFault_eq⟩

theorem HasRoom.failed {f : WriteFault} (h : HasRoom fault s left)
    (hw : s.write bytes = (.fault f, t)) : left = 0 ∧ f = fault := by
  rcases s.write_cases bytes with ⟨hc, _⟩ | ⟨hc, h0⟩ | ⟨hc, _⟩ <;> cases hc.symm.trans hw
  exact ⟨Option.some.inj (h.budget_eq.symm.trans h0), h.fullFault_eq⟩

theorem HasRoom.flushed {f : Option WriteFault} (h : HasRoom fault s left)
    (hf : s.flush = (f, t)) : f = none ∧ HasRoom fault t left := by
  cases hf
  refine ⟨?_, h.budget_eq, h.maxChunk_ne, h.failingFlushes_eq, h.fullFault_eq⟩
  rw [h.failingFlushes_eq]
  rfl

/-- The gauge of the sinks under a plan: what is left of its budget. -/
def gauge (plan : SinkPlan) (hchunk : plan.maxChunk ≠ some 0) :
    Gauge Sink (fullFault { plan }) where
  reads s left := s.plan = { plan with budget := left }
  took {s t bytes left n} h hw := by
    have hportion : s.plan.maxChunk ≠ some 0 := by rw [h]; exact hchunk
    obtain ⟨hfits, hplan, hempty⟩ := of_took hportion hw
    rw [h] at hfits hplan
    exact ⟨hfits, hplan, fun hzero hbytes => absurd (hempty hzero) hbytes⟩
  interrupted {s t bytes left} h hw := by
    rcases s.write_cases bytes with ⟨hc, _⟩ | ⟨hc, _⟩ | ⟨hc, _⟩ <;> cases hc.symm.trans hw
    exact h
  failed {s t bytes left f} h hw := by
    rcases s.write_cases bytes with ⟨hc, _⟩ | ⟨hc, hfull⟩ | ⟨hc, _⟩ <;> cases hc.symm.trans hw
    rw [h] at hfull
    refine ⟨hfull, ?_⟩
    unfold fullFault
    rw [h]

/-- The meter of the sinks with a budget: what is left of it. -/
def meter (fault : WriteFault) : Meter Sink fault where
  holds := HasRoom fault
  took := HasRoom.took
  interrupted := HasRoom.interrupted
  failed := HasRoom.failed
  flushed := HasRoom.flushed

end Sink
end LoginLoad
