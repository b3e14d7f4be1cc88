import LoginLoad.World

/-! # What a client sees of a scripted reply

A client reads the parts of a reply that arrive within its limit, and nothing more of it
(`watch_state`).  Once these hold a final head the client sees a response of that head, however its
body fares (`ScriptedReply.seen?_of_head`); before that it sees a fault or waits for ever
(`ScriptedReply.seen?_of_no_head`).

The code of a final head has three digits, and it is no informational one
(`ResponseState.code_of_head`). -/

namespace LoginLoad
namespace Http

/-! ### The code of a head -/

namespace HeadState

/-- The code that has been read so far has no more than three digits. -/
def HasShortCode : HeadState → Prop
  | code _ digits acc =>
    digits = 0 ∧ acc = 0 ∨ digits = 1 ∧ acc < 10 ∨ digits = 2 ∧ acc < 100
  | codeEnd _ c | reason _ c | lineReturn _ c => c < 1000
  | lineStart _ c _ | name _ c _ _ | valueStart _ c _ _ | value _ c _ _ _ => c < 1000
  | valueReturn _ c _ _ _ | endReturn _ c _ => c < 1000
  | complete h => 100 ≤ h.code ∧ h.code < 1000
  | _ => True

variable {s : HeadState}

theorem hasShortCode_finish {v : Version} {c : Nat} {done : List Header} (h : c < 1000) :
    (finish v c done).HasShortCode := by
  unfold finish
  split
  · trivial
  · next hc => exact ⟨Nat.le_of_not_lt hc, h⟩

theorem hasShortCode_beginLine {v : Version} {c : Nat} {done : List Header} {b : UInt8}
    (h : c < 1000) : (beginLine v c done b).HasShortCode := by
  unfold beginLine
  repeat' split
  · exact h
  · exact hasShortCode_finish h
  · trivial
  · exact h
  · trivial

theorem hasShortCode_readVersion {ahead : List UInt8} {b : UInt8} :
    (readVersion ahead b).HasShortCode := by
  unfold readVersion
  repeat' split
  all_goals trivial

/-- A digit makes the code longer by one, and after the third one it is read to its end. -/
theorem hasShortCode_digit {v : Version} {digits acc : Nat} {b : UInt8}
    (h : (code v digits acc).HasShortCode) (hb : b ≤ 0x39) :
    (if digits = 2 then codeEnd v (10 * acc + (b.toNat - 0x30))
      else code v (digits + 1) (10 * acc + (b.toNat - 0x30))).HasShortCode := by
  have hdigit : b.toNat ≤ 57 := by simpa using UInt8.le_iff_toNat_le.mp hb
  rcases h with ⟨rfl, rfl⟩ | ⟨rfl, hacc⟩ | ⟨rfl, hacc⟩
  · exact .inr (.inl ⟨rfl, by omega⟩)
  · exact .inr (.inr ⟨rfl, by omega⟩)
  · show 10 * acc + (b.toNat - 0x30) < 1000
    omega

theorem hasShortCode_step (b : UInt8) (h : s.HasShortCode) : (s.step b).HasShortCode := by
  cases s with
  | blank =>
      simp only [step]
      repeat' split
      · trivial
      · trivial
      · exact hasShortCode_readVersion
  | version ahead => exact hasShortCode_readVersion
  | code v digits acc =>
      simp only [step]
      split
      · next hb => exact hasShortCode_digit h hb.2
      · trivial
  | lineStart v c done => exact hasShortCode_beginLine h
  | endReturn v c done =>
      simp only [step]
      split
      · exact hasShortCode_finish h
      · trivial
  | versionEnd v =>
      simp only [step]
      split
      · exact .inl ⟨rfl, rfl⟩
      · trivial
  | complete head => exact h
  | _ =>
      simp only [step]
      repeat' split
      all_goals trivial

end HeadState

namespace ResponseState

/-- What is known of a code: while the head is read it is short, and a final head is a final one. -/
def HasFinalCode : ResponseState → Prop
  | head s _ => s.HasShortCode
  | body h _ _ => 100 ≤ h.code ∧ h.code < 1000 ∧ isInformational h.code = false
  | _ => True

variable {s : ResponseState}

theorem hasFinalCode_ofHead {s : HeadState} {bytes : Nat} (h : s.HasShortCode) :
    (ofHead bytes s).HasFinalCode := by
  unfold ofHead
  split
  · split
    · trivial
    · next hfinal =>
        split
        · exact ⟨h.1, h.2, by simpa using hfinal⟩
        · trivial
  · trivial
  · split
    · trivial
    · exact h

theorem hasFinalCode_step (b : UInt8) (h : s.HasFinalCode) : (s.step b).HasFinalCode := by
  cases s with
  | head s bytes => exact hasFinalCode_ofHead (HeadState.hasShortCode_step b h)
  | _ => exact h

theorem hasFinalCode_feed (bytes : List UInt8) (h : s.HasFinalCode) :
    (s.feed bytes).HasFinalCode := by
  induction bytes generalizing s with
  | nil => exact h
  | cons b rest ih => exact ih (hasFinalCode_step b h)

/-- The code of a final head has three digits and is no informational one. -/
theorem code_of_head {bytes : List UInt8} {h : ResponseHead}
    (hh : (start.feed bytes).head? = some h) :
    100 ≤ h.code ∧ h.code < 1000 ∧ isInformational h.code = false := by
  have hcode : (start.feed bytes).HasFinalCode := hasFinalCode_feed bytes trivial
  unfold head? at hh
  split at hh
  · next heq =>
      cases hh
      rw [heq] at hcode
      exact hcode
  · cases hh

/-- Whether the body of a response is at its end or broken. -/
def isOver : ResponseState → Bool
  | body _ .complete _ | body _ (.broken _) _ => true
  | _ => false

end ResponseState

/-! ### The reply that was seen -/

theorem bodyTail_eq_endless {limited : Bool} {s : BodyState} :
    bodyTail limited s = .endless ↔
      limited = false ∧ s ≠ .complete ∧ ∀ fault, s ≠ .broken fault := by
  cases limited <;> cases s <;> simp [bodyTail]

theorem BodyState.atEnd_cases (s : BodyState) : s.atEnd = .complete ∨ ∃ f, s.atEnd = .broken f := by
  cases s <;> simp [BodyState.atEnd]

namespace Sight

variable {s : Sight} {limited : Bool}

/-- Whoever has seen a final head has seen a response of it, unless the body goes on for ever; and
so it does only without a limit on a connection that stays. -/
theorem reply?_of_head (closes : Bool) {h : ResponseHead} (hh : s.state.head? = some h)
    (hlate : s.late = true → limited = true) :
    ∃ tail, s.reply? limited closes = some (.ofHead h s.headAt tail) ∧
      (tail = .endless ↔ limited = false ∧ closes = false ∧ s.state.isOver = false) := by
  obtain ⟨body, extra, hs⟩ : ∃ body extra, s.state = .body h body extra := by
    unfold ResponseState.head? at hh
    split at hh
    · next heq => cases hh; exact ⟨_, _, heq⟩
    · cases hh
  cases hend : (closes && !s.late) with
  | true =>
      refine ⟨bodyTail limited body.atEnd, by simp [reply?, hend, hs, ResponseState.atEnd], ?_⟩
      have hcloses : closes = true := (Bool.and_eq_true _ _ ▸ hend).1
      rw [bodyTail_eq_endless]
      rcases body.atEnd_cases with hb | ⟨f, hb⟩ <;> simp [hb, hcloses]
  | false =>
      refine ⟨bodyTail limited body, by simp [reply?, hend, hs], ?_⟩
      rw [bodyTail_eq_endless, hs]
      cases limited with
      | true => simp
      | false =>
          have hcloses : closes = false := by
            cases hl : s.late with
            | true => exact absurd (hlate hl) (by decide)
            | false => simpa [hl] using hend
          cases body <;> simp [hcloses, ResponseState.isOver]

/-- Whoever has seen no final head has seen no response. -/
theorem reply?_of_no_head {closes : Bool} {r : Reply} (hh : s.state.head? = none)
    (hr : s.reply? limited closes = some r) : ∃ fault, r = .fault fault := by
  have hend : (if closes && !s.late then s.state.atEnd else s.state).head? = none := by
    split
    · cases hs : s.state <;> simp_all [ResponseState.head?, ResponseState.atEnd]
    · exact hh
  unfold reply? at hr
  split at hr
  · cases hr; exact ⟨_, rfl⟩
  · cases hr; exact ⟨_, rfl⟩
  · split at hr
    · cases hr; exact ⟨_, rfl⟩
    · cases hr
  · next heq =>
      rw [heq] at hend
      cases hend

end Sight
end Http

open Http (Reply ResponseHead ResponseState Sight)

/-! ### The parts that arrive in time -/

/-- The parts of a reply that arrive within a limit. -/
def ScriptedReply.inTime (r : ScriptedReply) : Option Nat → List (List UInt8)
  | none => r.parts
  | some n => r.parts.take ((n + partInterval - 1) / partInterval)

/-- With a limit nothing but the parts that arrive within it is read. -/
theorem watch_some_state (n now : Nat) (s : Sight) (parts : List (List UInt8)) :
    (watch (some n) now s parts).state =
      s.state.feed (parts.take ((n - now + partInterval - 1) / partInterval)).flatten := by
  induction parts generalizing now s with
  | nil => simp [watch, ResponseState.feed]
  | cons part rest ih =>
      rw [watch]
      by_cases hnow : n ≤ now
      · have hzero : (n - now + partInterval - 1) / partInterval = 0 := by
          simp only [partInterval]
          omega
        rw [if_pos (by simpa using hnow), hzero]
        rfl
      · have hsucc : (n - now + partInterval - 1) / partInterval =
            (n - (now + partInterval) + partInterval - 1) / partInterval + 1 := by
          simp only [partInterval]
          omega
        rw [if_neg (by simpa using hnow), ih, hsucc, List.take_succ_cons, List.flatten_cons,
          ResponseState.feed_append]
        rfl

theorem watch_none_state (now : Nat) (s : Sight) (parts : List (List UInt8)) :
    (watch none now s parts).state = s.state.feed parts.flatten := by
  induction parts generalizing now s with
  | nil => rfl
  | cons part rest ih =>
      rw [watch, if_neg (by simp), ih, List.flatten_cons, ResponseState.feed_append]
      rfl

/-- How far a client reads a response whose bytes are the parts of a reply that arrive within its
limit. -/
def ScriptedReply.readWithin (r : ScriptedReply) (limit : Option Nat) : ResponseState :=
  ResponseState.start.feed (r.inTime limit).flatten

/-- A client reads the parts of a reply that arrive within its limit. -/
theorem watch_state (limit : Option Nat) (r : ScriptedReply) :
    (watch limit 0 {} r.parts).state = r.readWithin limit := by
  cases limit with
  | none => exact watch_none_state 0 {} r.parts
  | some n => exact watch_some_state n 0 {} r.parts

/-- Only where there is a limit can it run out. -/
theorem watch_late {limit : Option Nat} {now : Nat} {s : Sight} {parts : List (List UInt8)}
    (hs : s.late = true → limit.isSome = true) (h : (watch limit now s parts).late = true) :
    limit.isSome = true := by
  induction parts generalizing now s with
  | nil => exact hs h
  | cons part rest ih =>
      rw [watch] at h
      split at h
      · next hlate =>
          obtain ⟨n, hn, _⟩ := (Option.any_eq_true _ _).mp hlate
          simp [hn]
      · exact ih (s := s.see now part) hs h

namespace ScriptedReply

variable {r : ScriptedReply} {limit : Option Nat}

/-- What a client sees of a reply within its limit; with `none` it waits for ever. -/
def seen? (r : ScriptedReply) (limit : Option Nat) : Option Reply :=
  (watch limit 0 {} r.parts).reply? limit.isSome r.closes

/-- A client that has read a final head sees a response of it.  The body comes to an end, unless
there is no limit, the connection stays and more is still to come. -/
theorem seen?_of_head {h : ResponseHead} (hh : (r.readWithin limit).head? = some h) :
    ∃ took tail, r.seen? limit = some (.ofHead h took tail) ∧
      (tail ≠ .endless ↔
        limit.isSome = true ∨ r.closes = true ∨ (r.readWithin limit).isOver = true) := by
  have hlate : (watch limit 0 {} r.parts).late = true → limit.isSome = true :=
    watch_late (fun h => nomatch h)
  rw [← watch_state] at hh ⊢
  obtain ⟨tail, hseen, hendless⟩ := Sight.reply?_of_head r.closes hh hlate
  refine ⟨_, tail, hseen, ?_⟩
  rw [ne_eq, hendless]
  cases limit.isSome <;> cases r.closes <;> simp

/-- A client that has read no final head sees no response. -/
theorem seen?_of_no_head {reply : Reply} (hh : (r.readWithin limit).head? = none)
    (hr : r.seen? limit = some reply) : ∃ fault, reply = .fault fault := by
  rw [← watch_state] at hh
  exact Sight.reply?_of_no_head hh hr

end ScriptedReply
end LoginLoad
