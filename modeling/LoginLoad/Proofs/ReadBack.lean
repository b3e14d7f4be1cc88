import Mathlib.Data.List.TakeDrop
import LoginLoad.Outcome.Reader
import LoginLoad.Proofs.Encoding
import LoginLoad.Proofs.Reporting

/-! # What is printed can be read back

A line is unambiguous from the left.  The number of the user ends at the first character that is no
digit, the arrow ends where it is found for the first time, a code begins with a digit and a fault
does not, and the kind of a fault ends at its first colon.  So the detail of a fault, which comes
last, may hold anything: the kind of another fault, the line of another user, a bare code
(`Outcome.readLine?_line`).

Lines end at line feeds.  Where no detail has one, the lines that a reporter writes, put one behind
the other, are read as the users and the statuses that they were written for
(`lines_read_back`). -/

namespace LoginLoad

/-! ### One line -/

theorem RequestFault.read?_message (f : RequestFault) : read? f.message.toList = some f := by
  cases f <;> simp [read?, message, kind, detail, Text.after?]

/-- The text of a fault determines its kind and its cause. -/
theorem RequestFault.message_injective {f g : RequestFault} (h : f.message = g.message) : f = g := by
  have hf := f.read?_message
  rw [h, g.read?_message] at hf
  exact (Option.some.inj hf).symm

theorem Status.read?_message (s : Status) : read? s.message.toList = some s := by
  cases s with
  | failed f =>
      have hafter : Text.after? "error: ".toList (message (failed f)).toList =
          some f.message.toList := by
        rw [Text.after?_eq_some_iff, message, String.toList_append]
      simp only [read?, hafter, f.read?_message, Option.map_some]
  | code c =>
      have hlt : c.toNat < 65536 := c.toNat_lt
      have htext : (message (code c)).toList = Decimal.digits c.toNat :=
        Decimal.toList_toString c.toNat
      -- a code begins with a digit
      have hafter : Text.after? "error: ".toList (Decimal.digits c.toNat) = none := by
        rw [Option.eq_none_iff_forall_ne_some]
        intro rest h
        have hmem : 'e' ∈ Decimal.digits c.toNat := by
          rw [Text.after?_eq_some_iff.mp h]
          simp
        exact absurd (Decimal.isDigit_of_mem_digits hmem) (by decide)
      have hword : c.toNat ≤ wordMax := by
        rw [wordMax]
        omega
      simp only [read?, htext, hafter, Decimal.read_digits hword, if_pos hlt, UInt16.ofNat_toNat]

namespace Outcome

/-- A line is read as the user and the status that it was written for. -/
theorem readLine?_line {o : Outcome} (h : o.rank ≤ wordMax) :
    readLine? o.line.toList = some (o.rank, o.status) := by
  have htext : o.line.toList = "user-".toList ++
      (Decimal.digits o.rank ++ (" -> ".toList ++ o.status.message.toList)) := by
    simp only [line, String.toList_append, Decimal.toList_toString, List.append_assoc]
  have hdigits : ∀ d ∈ Decimal.digits o.rank, d.isDigit = true :=
    fun _ => Decimal.isDigit_of_mem_digits
  -- the number ends where the blank before the arrow begins
  have hspan : List.span Char.isDigit
      (Decimal.digits o.rank ++ (" -> ".toList ++ o.status.message.toList)) =
      (Decimal.digits o.rank, " -> ".toList ++ o.status.message.toList) := by
    have harrow : " -> ".toList = ' ' :: "-> ".toList := rfl
    rw [List.span_eq_takeWhile_dropWhile, List.takeWhile_append_of_pos hdigits,
      List.dropWhile_append_of_pos hdigits, harrow, List.cons_append,
      List.takeWhile_cons_of_neg (by decide), List.dropWhile_cons_of_neg (by decide),
      List.append_nil]
  have huser := Text.after?_eq_some_iff.mpr htext
  have hrest : Text.after? " -> ".toList (" -> ".toList ++ o.status.message.toList) =
      some o.status.message.toList := Text.after?_eq_some_iff.mpr rfl
  simp only [readLine?, huser, Option.bind_eq_bind, Option.bind_some, hspan, hrest,
    Decimal.read_digits h, Except.toOption, o.status.read?_message, Option.pure_def]

/-- Two lines are the same only if they report the same status to the same user. -/
theorem line_inj {o p : Outcome} (ho : o.rank ≤ wordMax) (hp : p.rank ≤ wordMax) :
    o.line = p.line ↔ (o.rank, o.status) = (p.rank, p.status) := by
  constructor
  · intro h
    have hread := readLine?_line ho
    rw [h, readLine?_line hp] at hread
    exact (Option.some.inj hread).symm
  · intro h
    obtain ⟨hrank, hstatus⟩ := Prod.mk.inj h
    rw [line, line, hrank, hstatus]

/-! ### Many lines -/

/-- Whether the line of an outcome can be told from those around it: the number of its user fits in
a word, and where it reports a fault the detail has no line feed. -/
structure IsReadable (o : Outcome) : Prop where
  rank_le : o.rank ≤ wordMax
  detail : ∀ fault, o.status = .failed fault → '\n' ∉ fault.detail.toList

theorem IsReadable.newline_not_mem {o : Outcome} (h : o.IsReadable) : '\n' ∉ o.line.toList := by
  have hdigits (n : Nat) : '\n' ∉ Decimal.digits n := fun hn =>
    absurd (Decimal.isDigit_of_mem_digits hn) (by decide)
  have hstatus : '\n' ∉ o.status.message.toList := by
    cases hs : o.status with
    | code c =>
        rw [Status.message, Decimal.toList_toString]
        exact hdigits _
    | failed fault =>
        have hdetail := h.detail fault hs
        cases fault <;> simpa [Status.message, RequestFault.message, RequestFault.kind] using hdetail
  simp only [line, String.toList_append, Decimal.toList_toString, List.mem_append, not_or]
  exact ⟨⟨⟨by decide, hdigits _⟩, by decide⟩, hstatus⟩

/-- A line without line feeds in it is split off at its end. -/
theorem lines?_append {l : List Char} (h : '\n' ∉ l) (rest : List Char) :
    lines? (l ++ '\n' :: rest) = (lines? rest).map (l :: ·) := by
  induction l with
  | nil => rfl
  | cons c l ih =>
      have hc : c ≠ '\n' := fun e => h (e ▸ List.mem_cons_self)
      have hl : '\n' ∉ l := fun m => h (List.mem_cons_of_mem _ m)
      rw [List.cons_append, lines?, if_neg hc, ih hl]
      cases lines? rest <;> rfl

/-- Lines that were put one behind the other are split again. -/
theorem lines?_flatMap {os : List Outcome} (h : ∀ o ∈ os, o.IsReadable) :
    lines? (os.flatMap fun o => o.line.toList ++ ['\n']) = some (os.map fun o => o.line.toList) := by
  induction os with
  | nil => rfl
  | cons o rest ih =>
      rw [List.flatMap_cons, List.append_assoc, List.singleton_append,
        lines?_append (h o List.mem_cons_self).newline_not_mem,
        ih fun p hp => h p (List.mem_cons_of_mem _ hp)]
      rfl

/-- What was printed is read line by line. -/
theorem readLines?_flatMap {os : List Outcome} (h : ∀ o ∈ os, o.IsReadable) :
    readLines? (os.flatMap fun o => o.line.toList ++ ['\n']) =
      some (os.map fun o => (o.rank, o.status)) := by
  rw [readLines?, lines?_flatMap h, Option.bind_eq_bind, Option.bind_some]
  induction os with
  | nil => rfl
  | cons o rest ih =>
      rw [List.map_cons, List.mapM_cons, readLine?_line (h o List.mem_cons_self).rank_le,
        ih fun p hp => h p (List.mem_cons_of_mem _ hp)]
      rfl

end Outcome

/-! ### The output of a reporter -/

namespace Reporter

open Outcome (readOutput?)

theorem lineOf_injective {o p : Outcome} (h : lineOf o = lineOf p) : o.line = p.line := by
  have htext := Utf8.encode_injective h
  rw [String.toList_append, String.toList_append] at htext
  exact String.toList_injective (List.append_cancel_right htext)

theorem flatMap_lineOf (os : List Outcome) :
    os.flatMap lineOf = Utf8.encode (os.flatMap fun o => o.line.toList ++ ['\n']) := by
  rw [Utf8.encode, List.flatMap_assoc]
  congr 1
  funext o
  rw [lineOf, String.toList_append]
  rfl

theorem count_lineOf {o : Outcome} (h : o.IsReadable) : (lineOf o).count 0x0A = 1 := by
  have hline : o.line.toList.countP (·.toNat = UInt8.toNat 0x0A) = 0 := by
    rw [List.countP_eq_zero]
    intro c hc hn
    have hc' : c = '\n' := by
      rw [← Char.ofNat_toNat c, of_decide_eq_true hn]
      rfl
    exact h.newline_not_mem (hc' ▸ hc)
  rw [lineOf, Utf8.count_encode (by decide), String.toList_append, List.countP_append, hline]
  rfl

/-- Each line has one line feed. -/
theorem count_flatMap_lineOf {os : List Outcome} (h : ∀ o ∈ os, o.IsReadable) :
    (os.flatMap lineOf).count 0x0A = os.length := by
  induction os with
  | nil => rfl
  | cons o rest ih =>
      rw [List.flatMap_cons, List.count_append, count_lineOf (h o List.mem_cons_self),
        ih fun p hp => h p (List.mem_cons_of_mem _ hp), List.length_cons, Nat.add_comm]

/-- The lines that a reporter writes for outcomes are read back as the users and the statuses of
these outcomes, in order, and there are as many line feeds as outcomes.  No detail is to have a line
feed; otherwise the users, codes and details are any.  Whatever the device, a reporter that reports
all of the outcomes adds these lines to it and nothing else, and on a device that never fails it
does report them all.  Two lines are the same only if users and statuses are, and the texts of two
faults only if the faults are. -/
theorem lines_read_back {δ : Type} [Device δ] (r : Reporter δ) {os : List Outcome}
    (h : ∀ o ∈ os, o.IsReadable) :
    readOutput? (os.flatMap lineOf) = some (os.map fun o => (o.rank, o.status)) ∧
      (os.flatMap lineOf).count 0x0A = os.length ∧
      (∀ t, r.drain os = (none, t) →
        Device.accepted t.sink = Device.accepted r.sink ++ os.flatMap lineOf) ∧
      (Device.NeverFails r.sink → ∃ t, r.drain os = (none, t)) ∧
      (∀ o p : Outcome, o.rank ≤ wordMax → p.rank ≤ wordMax →
        (lineOf o = lineOf p ↔ (o.rank, o.status) = (p.rank, p.status))) ∧
      ∀ f g : RequestFault, f.message = g.message ↔ f = g := by
  refine ⟨?_, count_flatMap_lineOf h, fun t ht => (drain_none ht).2, fun hr => hr.drain os, ?_,
    fun f g => ⟨RequestFault.message_injective, congrArg _⟩⟩
  · rw [readOutput?, flatMap_lineOf, Utf8.decode?_encode]
    exact Outcome.readLines?_flatMap h
  · intro o p ho hp
    rw [← Outcome.line_inj ho hp]
    exact ⟨lineOf_injective, fun hline => by rw [lineOf, lineOf, hline]⟩

/-- Outcomes whose details look like other lines, other kinds, codes or nothing. -/
def misleadingOutcomes : List Outcome :=
  [⟨wordMax, 0, .failed (.request "user-0 -> 200"), 0, 0⟩,
    ⟨0, 0, .failed (.connect "error: timeout: "), 0, 0⟩,
    ⟨0, 1, .failed (.timeout ""), 0, 0⟩,
    ⟨1, 0, .failed (.request " -> 404 \u2028 😀"), 0, 0⟩,
    ⟨20, 0, .code 65535, 0, 0⟩]

/-- They are read back all the same. -/
theorem misleadingOutcomes_read_back :
    (∀ o ∈ misleadingOutcomes, o.IsReadable) ∧
      readOutput? (misleadingOutcomes.flatMap lineOf) =
        some (misleadingOutcomes.map fun o => (o.rank, o.status)) := by
  have h : ∀ o ∈ misleadingOutcomes, o.IsReadable := by
    intro o ho
    simp only [misleadingOutcomes, List.mem_cons, List.not_mem_nil, or_false] at ho
    rcases ho with rfl | rfl | rfl | rfl | rfl
    all_goals refine ⟨by decide, fun _ hs => ?_⟩
    all_goals cases hs
    all_goals decide
  exact ⟨h, (lines_read_back ({ sink := {} } : Reporter) h).1⟩

end Reporter
end LoginLoad
