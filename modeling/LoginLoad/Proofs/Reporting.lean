import LoginLoad.Reporter

/-! # What reporting adds to a device

A device that is offered bytes accepts a prefix of them.  So `Reporter.record` adds the whole line
of an outcome and counts it (`record_none`), or it fails, adds a prefix of the line and counts
nothing (`record_some`).  Nothing is assumed of the device: it may take the bytes in any portions,
interrupt, stall, fail or panic at any call.

Writing makes no flush calls (`Device.flushes_writePieces`), so on a device that counts them
(`FlushCount`) it can be told whether a call failed in the write or in the flush
(`Reporter.record_some_cases`).

On a device that never fails (`Device.NeverFails`) every outcome is reported
(`Device.NeverFails.record`). -/

namespace LoginLoad

variable {δ : Type} [Device δ]

namespace Device

theorem offer_ok {d e : δ} {bytes : List UInt8} {n : Nat} (h : offer d bytes = (.ok n, e)) :
    n ≤ bytes.length ∧ accepted e = accepted d ++ bytes.take n := by
  fun_induction offer d bytes with
  | case1 d c hw ih =>
      have h0 := accepted_write hw
      simp only [WriteCall.accepted, List.take_zero, List.append_nil] at h0
      rw [← h0]
      exact ih h
  | case2 d f c hw => cases h
  | case3 d k c hw =>
      cases h
      exact ⟨accepted_le hw, accepted_write hw⟩

theorem offer_error {d e : δ} {bytes : List UInt8} {f : WriteFault}
    (h : offer d bytes = (.error f, e)) : accepted e = accepted d := by
  fun_induction offer d bytes with
  | case1 d c hw ih =>
      rw [ih h]
      simpa [WriteCall.accepted] using accepted_write hw
  | case2 d f' c hw =>
      cases h
      simpa [WriteCall.accepted] using accepted_write hw
  | case3 d k c hw => cases h

theorem writeAll_none {d e : δ} {bytes : List UInt8} (h : writeAll d bytes = (none, e)) :
    accepted e = accepted d ++ bytes := by
  fun_induction writeAll d bytes with
  | case1 d bytes hb =>
      cases h
      simp [List.isEmpty_iff.mp hb]
  | case2 d bytes hb f c ho => cases h
  | case3 d bytes hb c ho => cases h
  | case4 d bytes hb n c ho hn ih =>
      rw [ih h, (offer_ok ho).2, List.append_assoc, List.take_append_drop]

/-- A write that fails has left out the end of the bytes. -/
theorem writeAll_some {d e : δ} {bytes : List UInt8} {f : WriteFault}
    (h : writeAll d bytes = (some f, e)) :
    ∃ written, written <+: bytes ∧ written.length < bytes.length ∧
      accepted e = accepted d ++ written := by
  fun_induction writeAll d bytes with
  | case1 d bytes hb => cases h
  | case2 d bytes hb f' c ho =>
      cases h
      have hne : bytes ≠ [] := by simpa using hb
      exact ⟨[], List.nil_prefix, List.length_pos_iff.mpr hne, by simp [offer_error ho]⟩
  | case3 d bytes hb c ho =>
      cases h
      have hne : bytes ≠ [] := by simpa using hb
      exact ⟨[], List.nil_prefix, List.length_pos_iff.mpr hne, by simpa using (offer_ok ho).2⟩
  | case4 d bytes hb n c ho hn ih =>
      obtain ⟨written, hp, hlt, he⟩ := ih h
      obtain ⟨hle, hadd⟩ := offer_ok ho
      rw [List.length_drop] at hlt
      refine ⟨bytes.take n ++ written, ?_, ?_, ?_⟩
      · have := (List.prefix_append_right_inj (bytes.take n)).mpr hp
        rwa [List.take_append_drop] at this
      · rw [List.length_append, List.length_take]
        omega
      · rw [he, hadd, List.append_assoc]

/-- Several pieces are written when the first is and then the others are. -/
theorem writePieces_cons {d e : δ} {piece : List UInt8} {rest : List (List UInt8)}
    {fault : Option WriteFault} (h : writePieces d (piece :: rest) = (fault, e)) :
    (∃ f, fault = some f ∧ writeAll d piece = (some f, e)) ∨
      ∃ c, writeAll d piece = (none, c) ∧ writePieces c rest = (fault, e) := by
  rw [writePieces] at h
  cases hw : writeAll d piece with
  | mk x c =>
      rw [hw] at h
      cases x with
      | some f =>
          cases h
          exact .inl ⟨f, rfl, rfl⟩
      | none => exact .inr ⟨c, rfl, h⟩

theorem writePieces_none {d e : δ} {pieces : List (List UInt8)}
    (h : writePieces d pieces = (none, e)) : accepted e = accepted d ++ pieces.flatten := by
  induction pieces generalizing d with
  | nil =>
      cases h
      simp
  | cons piece rest ih =>
      rcases writePieces_cons h with ⟨f, hf, _⟩ | ⟨c, hw, hc⟩
      · cases hf
      · rw [ih hc, writeAll_none hw, List.flatten_cons, List.append_assoc]

theorem writePieces_some {d e : δ} {pieces : List (List UInt8)} {f : WriteFault}
    (h : writePieces d pieces = (some f, e)) :
    ∃ written, written <+: pieces.flatten ∧ written.length < pieces.flatten.length ∧
      accepted e = accepted d ++ written := by
  induction pieces generalizing d with
  | nil => cases h
  | cons piece rest ih =>
      rw [List.flatten_cons, List.length_append]
      rcases writePieces_cons h with ⟨f', hf, hw⟩ | ⟨c, hw, hc⟩
      · cases hf
        obtain ⟨written, hp, hlt, he⟩ := writeAll_some hw
        exact ⟨written, hp.trans (List.prefix_append _ _), by omega, he⟩
      · obtain ⟨written, hp, hlt, he⟩ := ih hc
        refine ⟨piece ++ written, (List.prefix_append_right_inj piece).mpr hp, ?_, ?_⟩
        · rw [List.length_append]
          omega
        · rw [he, writeAll_none hw, List.append_assoc]

end Device

namespace Reporter

/-- An outcome is reported when its line is written and the device is flushed. -/
theorem record_eq_none {r t : Reporter δ} {o : Outcome} (h : r.record o = (none, t)) :
    t.lines = r.lines + 1 ∧ ∃ d, Device.writePieces r.sink (piecesOf o) = (none, d) ∧
      Device.flush d = (none, t.sink) := by
  unfold record at h
  cases hw : Device.writePieces r.sink (piecesOf o) with
  | mk fault d =>
      rw [hw] at h
      cases fault with
      | some f => cases h
      | none =>
          cases hf : Device.flush d with
          | mk fault e =>
              simp only [hf] at h
              cases fault with
              | some f => cases h
              | none =>
                  cases h
                  exact ⟨rfl, d, rfl, hf⟩

/-- An outcome is not reported when the write or the flush fails. -/
theorem record_eq_some {r t : Reporter δ} {o : Outcome} {f : WriteFault}
    (h : r.record o = (some f, t)) :
    t.lines = r.lines ∧ (Device.writePieces r.sink (piecesOf o) = (some f, t.sink) ∨
      ∃ d, Device.writePieces r.sink (piecesOf o) = (none, d) ∧
        Device.flush d = (some f, t.sink)) := by
  unfold record at h
  cases hw : Device.writePieces r.sink (piecesOf o) with
  | mk fault d =>
      rw [hw] at h
      cases fault with
      | some f' =>
          cases h
          exact ⟨rfl, .inl rfl⟩
      | none =>
          cases hf : Device.flush d with
          | mk fault e =>
              simp only [hf] at h
              cases fault with
              | none => cases h
              | some f' =>
                  cases h
                  exact ⟨rfl, .inr ⟨d, rfl, hf⟩⟩

theorem record_none {r t : Reporter δ} {o : Outcome} (h : r.record o = (none, t)) :
    t.lines = r.lines + 1 ∧
      Device.accepted t.sink = Device.accepted r.sink ++ lineOf o := by
  obtain ⟨hlines, d, hw, hf⟩ := record_eq_none h
  rw [Device.accepted_flush hf, Device.writePieces_none hw, flatten_piecesOf]
  exact ⟨hlines, rfl⟩

theorem record_some {r t : Reporter δ} {o : Outcome} {f : WriteFault}
    (h : r.record o = (some f, t)) :
    t.lines = r.lines ∧ ∃ written, written <+: lineOf o ∧
      Device.accepted t.sink = Device.accepted r.sink ++ written := by
  obtain ⟨hlines, hw | ⟨d, hw, hf⟩⟩ := record_eq_some h
  · rw [← flatten_piecesOf]
    obtain ⟨written, hp, _, he⟩ := Device.writePieces_some hw
    exact ⟨hlines, written, hp, he⟩
  · refine ⟨hlines, lineOf o, List.prefix_refl _, ?_⟩
    rw [Device.accepted_flush hf, Device.writePieces_none hw, flatten_piecesOf]

theorem drain_none {r t : Reporter δ} {os : List Outcome} (h : r.drain os = (none, t)) :
    t.lines = r.lines + os.length ∧
      Device.accepted t.sink = Device.accepted r.sink ++ os.flatMap lineOf := by
  induction os generalizing r with
  | nil =>
      cases h
      simp
  | cons o rest ih =>
      rw [drain] at h
      cases hr : r.record o with
      | mk fault r' =>
          rw [hr] at h
          cases fault with
          | some f => cases h
          | none =>
              obtain ⟨hlines, haccepted⟩ := record_none hr
              obtain ⟨hrest, hall⟩ := ih h
              refine ⟨?_, ?_⟩
              · rw [hrest, hlines, List.length_cons]
                omega
              · rw [hall, haccepted, List.flatMap_cons, List.append_assoc]

/-- Outcomes that are reported in two turns are reported in turn. -/
theorem drain_append {r t : Reporter δ} {os : List Outcome} (h : r.drain os = (none, t))
    (rest : List Outcome) : r.drain (os ++ rest) = t.drain rest := by
  induction os generalizing r with
  | nil =>
      cases h
      rfl
  | cons o os ih =>
      rw [drain] at h
      rw [List.cons_append, drain]
      cases hr : r.record o with
      | mk fault r' =>
          rw [hr] at h
          cases fault with
          | some f => cases h
          | none => exact ih h

end Reporter

/-! ### Counting flush calls -/

/-- Devices that count the flush calls made on them. -/
class FlushCount (δ : Type) [Device δ] where
  flushes : δ → Nat
  flushes_write {d e : δ} {bytes : List UInt8} {call : WriteCall} :
    Device.write d bytes = (call, e) → flushes e = flushes d
  flushes_flush {d e : δ} {fault : Option WriteFault} :
    Device.flush d = (fault, e) → flushes e = flushes d + 1

open FlushCount (flushes flushes_write flushes_flush)

instance : FlushCount Sink where
  flushes := Sink.flushes
  flushes_write {s t bytes call} h := by
    have h : s.write bytes = (call, t) := h
    rcases s.write_cases bytes with ⟨hw, _⟩ | ⟨hw, _⟩ | ⟨hw, _⟩ <;> rw [hw] at h <;> cases h <;> rfl
  flushes_flush h := by
    cases h
    rfl

section counted
variable {δ : Type} [Device δ] [FlushCount δ] {d e : δ}

namespace Device

theorem flushes_offer {bytes : List UInt8} {res : Except WriteFault Nat}
    (h : offer d bytes = (res, e)) : flushes e = flushes d := by
  fun_induction offer d bytes with
  | case1 d c hw ih => exact (ih h).trans (flushes_write hw)
  | case2 d f c hw =>
      cases h
      exact flushes_write hw
  | case3 d n c hw =>
      cases h
      exact flushes_write hw

theorem flushes_writeAll {bytes : List UInt8} {fault : Option WriteFault}
    (h : writeAll d bytes = (fault, e)) : flushes e = flushes d := by
  fun_induction writeAll d bytes with
  | case1 d bytes hb =>
      cases h
      rfl
  | case2 d bytes hb f c ho =>
      cases h
      exact flushes_offer ho
  | case3 d bytes hb c ho =>
      cases h
      exact flushes_offer ho
  | case4 d bytes hb n c ho hn ih => exact (ih h).trans (flushes_offer ho)

/-- Writing makes no flush calls. -/
theorem flushes_writePieces {pieces : List (List UInt8)} {fault : Option WriteFault}
    (h : writePieces d pieces = (fault, e)) : flushes e = flushes d := by
  induction pieces generalizing d with
  | nil =>
      cases h
      rfl
  | cons piece rest ih =>
      rcases writePieces_cons h with ⟨f, _, hw⟩ | ⟨c, hw, hc⟩
      · exact flushes_writeAll hw
      · exact (ih hc).trans (flushes_writeAll hw)

end Device

namespace Reporter
variable {r t : Reporter δ} {o : Outcome}

theorem flushes_record_none (h : r.record o = (none, t)) :
    flushes t.sink = flushes r.sink + 1 := by
  obtain ⟨_, c, hw, hf⟩ := record_eq_none h
  rw [flushes_flush hf, Device.flushes_writePieces hw]

/-- A call that fails has torn its line and made no flush call, or it failed in the flush after it
had written the whole line. -/
theorem record_some_cases {f : WriteFault} (h : r.record o = (some f, t)) :
    (∃ torn, torn <+: lineOf o ∧ torn.length < (lineOf o).length ∧
      Device.accepted t.sink = Device.accepted r.sink ++ torn ∧
      flushes t.sink = flushes r.sink) ∨
    ((∃ c, Device.writePieces r.sink (piecesOf o) = (none, c) ∧
        Device.flush c = (some f, t.sink)) ∧
      Device.accepted t.sink = Device.accepted r.sink ++ lineOf o ∧
      flushes t.sink = flushes r.sink + 1) := by
  obtain ⟨_, hw | ⟨c, hw, hf⟩⟩ := record_eq_some h
  · left
    obtain ⟨torn, hp, hlt, he⟩ := Device.writePieces_some hw
    rw [flatten_piecesOf] at hp hlt
    exact ⟨torn, hp, hlt, he, Device.flushes_writePieces hw⟩
  · right
    refine ⟨⟨c, hw, hf⟩, ?_, ?_⟩
    · rw [Device.accepted_flush hf, Device.writePieces_none hw, flatten_piecesOf]
    · rw [flushes_flush hf, Device.flushes_writePieces hw]

end Reporter
end counted

/-! ### Devices that never fail -/

namespace Device

/-- What calls may make of a device. -/
inductive Becomes (d : δ) : δ → Prop
  | refl : Becomes d d
  | wrote {c e : δ} {bytes : List UInt8} {call : WriteCall} :
      Becomes d c → write c bytes = (call, e) → Becomes d e
  | flushed {c e : δ} {fault : Option WriteFault} :
      Becomes d c → flush c = (fault, e) → Becomes d e

/-- A device that never fails, whatever calls are made on it: no call reports a fault, and where one
that is not interrupted accepts nothing, nothing was offered. -/
structure NeverFails (d : δ) : Prop where
  write {c e : δ} {bytes : List UInt8} {call : WriteCall} : Becomes d c →
    Device.write c bytes = (call, e) → (∀ f, call ≠ .fault f) ∧ (call = .took 0 → bytes = [])
  flush {c e : δ} {fault : Option WriteFault} : Becomes d c →
    Device.flush c = (fault, e) → fault = none

theorem Becomes.trans {c d e : δ} (hcd : Becomes c d) (hde : Becomes d e) : Becomes c e := by
  induction hde with
  | refl => exact hcd
  | wrote _ hw ih => exact .wrote ih hw
  | flushed _ hf ih => exact .flushed ih hf

namespace NeverFails

theorem of_becomes {d e : δ} (h : NeverFails d) (he : Becomes d e) : NeverFails e :=
  ⟨fun hc => h.write (he.trans hc), fun hc => h.flush (he.trans hc)⟩

theorem wrote {d e : δ} {bytes : List UInt8} {call : WriteCall} (h : NeverFails d)
    (hw : Device.write d bytes = (call, e)) : NeverFails e :=
  h.of_becomes (.wrote .refl hw)

theorem offer {d e : δ} {bytes : List UInt8} {res : Except WriteFault Nat} (h : NeverFails d)
    (ho : Device.offer d bytes = (res, e)) :
    NeverFails e ∧ ∃ n, res = .ok n ∧ (n = 0 → bytes = []) := by
  fun_induction Device.offer d bytes with
  | case1 d c hw ih => exact ih (h.wrote hw) ho
  | case2 d f c hw => exact absurd rfl ((h.write .refl hw).1 f)
  | case3 d n c hw =>
      cases ho
      refine ⟨h.wrote hw, n, rfl, fun hn => (h.write .refl hw).2 ?_⟩
      rw [hn]

theorem writeAll {d e : δ} {bytes : List UInt8} {fault : Option WriteFault} (h : NeverFails d)
    (hw : Device.writeAll d bytes = (fault, e)) : fault = none ∧ NeverFails e := by
  fun_induction Device.writeAll d bytes with
  | case1 d bytes hb =>
      cases hw
      exact ⟨rfl, h⟩
  | case2 d bytes hb f c ho =>
      obtain ⟨_, n, hn, _⟩ := h.offer ho
      cases hn
  | case3 d bytes hb c ho =>
      obtain ⟨_, n, hn, hempty⟩ := h.offer ho
      cases hn
      exact absurd (List.isEmpty_iff.mpr (hempty rfl)) hb
  | case4 d bytes hb n c ho hn ih => exact ih (h.offer ho).1 hw

theorem writePieces {d e : δ} {pieces : List (List UInt8)} {fault : Option WriteFault}
    (h : NeverFails d) (hw : Device.writePieces d pieces = (fault, e)) :
    fault = none ∧ NeverFails e := by
  induction pieces generalizing d with
  | nil =>
      cases hw
      exact ⟨rfl, h⟩
  | cons piece rest ih =>
      rcases writePieces_cons hw with ⟨f, _, hf⟩ | ⟨c, hc, hrest⟩
      · cases (h.writeAll hf).1
      · exact ih (h.writeAll hc).2 hrest

/-- A device that never fails takes every outcome. -/
theorem record {r t : Reporter δ} {o : Outcome} {fault : Option WriteFault}
    (h : NeverFails r.sink) (hr : r.record o = (fault, t)) :
    fault = none ∧ NeverFails t.sink := by
  cases fault with
  | none =>
      obtain ⟨_, d, hw, hf⟩ := Reporter.record_eq_none hr
      exact ⟨rfl, (h.writePieces hw).2.of_becomes (.flushed .refl hf)⟩
  | some f =>
      obtain ⟨_, hw | ⟨d, hw, hf⟩⟩ := Reporter.record_eq_some hr
      · cases (h.writePieces hw).1
      · cases (h.writePieces hw).2.flush .refl hf

/-- A device that never fails takes any number of outcomes. -/
theorem drain {r : Reporter δ} (h : NeverFails r.sink) (os : List Outcome) :
    ∃ t, r.drain os = (none, t) := by
  induction os generalizing r with
  | nil => exact ⟨r, rfl⟩
  | cons o rest ih =>
      cases hr : r.record o with
      | mk fault r' =>
          obtain ⟨rfl, hr'⟩ := h.record hr
          obtain ⟨t, ht⟩ := ih hr'
          exact ⟨t, by rw [Reporter.drain, hr]; exact ht⟩

end NeverFails
end Device

/-- A sink without a budget whose flushes succeed never fails, if it takes at least one byte at a
time. -/
theorem Sink.neverFails {s : Sink} (hbudget : s.plan.budget = none)
    (hchunk : ∀ n, s.plan.maxChunk = some n → 0 < n) (hflush : s.plan.failingFlushes = []) :
    Device.NeverFails s := by
  have hplan : ∀ t : Sink, Device.Becomes s t → t.plan = s.plan := by
    intro t ht
    induction ht with
    | refl => rfl
    | @wrote c e bytes call _ hw ih =>
        rcases c.write_cases bytes with ⟨hc, _⟩ | ⟨hc, _⟩ | ⟨hc, _⟩ <;> cases hw.symm.trans hc
        · exact ih
        · exact ih
        · -- only a budget changes when bytes are taken, and there is none
          have hb : c.plan.budget = none := by rw [ih, hbudget]
          rw [← ih]
          simp only [Sink.take, hb, Option.map_none]
          rw [← hb]
    | flushed _ hf ih =>
        cases hf
        exact ih
  refine ⟨fun {c e bytes call} hc hw => ?_, fun {c e fault} hc hf => ?_⟩
  · have hp := hplan c hc
    rcases c.write_cases bytes with ⟨hcall, _⟩ | ⟨_, hfull⟩ | ⟨hcall, _⟩
    · cases hw.symm.trans hcall
      exact ⟨fun _ => by simp, by simp⟩
    · rw [hp, hbudget] at hfull
      cases hfull
    · cases hw.symm.trans hcall
      refine ⟨fun _ => by simp, fun hnone => ?_⟩
      have hroom : c.room bytes.length = 0 := WriteCall.took.inj hnone
      rw [Sink.room, hp, hbudget] at hroom
      cases hm : s.plan.maxChunk with
      | none =>
          rw [hm] at hroom
          exact List.length_eq_zero_iff.mp (by simpa using hroom)
      | some n =>
          have := hchunk n hm
          rw [hm] at hroom
          simp only [Option.getD_none, Option.getD_some] at hroom
          exact List.length_eq_zero_iff.mp (by omega)
  · have hp := hplan c hc
    have hf : (if c.flushes ∈ c.plan.failingFlushes then
        some (.failed c.plan.message) else none : Option WriteFault) = fault := congrArg Prod.fst hf
    rw [hp, hflush] at hf
    simpa using hf.symm

end LoginLoad
