import LoginLoad.Outcome

/-! # The channel

The channel through which the users hand their outcomes to the reporter.  It holds no more outcomes
than its capacity, and once it is closed it accepts nothing more.  It counts its senders: when none
is left and it is empty, nothing more can come through it.

`Channel.sent` is everything that it ever accepted, in order, and `Channel.taken` what was taken of
it.  Accepting an outcome puts it at the end of the first (`sent_push`), taking one leaves the first
as it is (`sent_take?`) and puts it at the end of the second (`taken_take?`). -/

namespace LoginLoad

/-- A channel for outcomes. -/
structure Channel where
  capacity : Nat
  /-- The outcomes that it holds, the oldest first. -/
  queue : List Outcome := []
  /-- The outcomes that were taken, the latest first. -/
  past : List Outcome := []
  isOpen : Bool := true
  /-- The number of its senders. -/
  senders : Nat := 1
deriving DecidableEq, Repr

namespace Channel

/-- The outcomes that were taken, in order. -/
def taken (c : Channel) : List Outcome := c.past.reverse

/-- All outcomes that were accepted, in order. -/
def sent (c : Channel) : List Outcome := c.taken ++ c.queue

/-- The number of outcomes that the channel holds. -/
def held (c : Channel) : Nat := c.queue.length

/-- Whether there is room for another outcome. -/
def hasRoom (c : Channel) : Bool := c.held < c.capacity

/-- Whether nothing more can come through it. -/
def isExhausted (c : Channel) : Bool := c.held = 0 && c.senders = 0

/-- Accepts an outcome. -/
def push (c : Channel) (o : Outcome) : Channel := { c with queue := c.queue ++ [o] }

/-- Takes the oldest outcome that the channel holds. -/
def take? (c : Channel) : Option (Outcome × Channel) :=
  match c.queue with
  | [] => none
  | o :: rest => some (o, { c with queue := rest, past := o :: c.past })

/-- Closes the channel on the side where outcomes are taken. -/
def close (c : Channel) : Channel := { c with isOpen := false }

/-- Makes another sender. -/
def addSender (c : Channel) : Channel := { c with senders := c.senders + 1 }

/-- Lets a sender go. -/
def dropSender (c : Channel) : Channel := { c with senders := c.senders - 1 }

theorem sent_push (c : Channel) (o : Outcome) : (c.push o).sent = c.sent ++ [o] := by
  simp [sent, taken, push]

@[simp] theorem sent_addSender (c : Channel) : c.addSender.sent = c.sent := rfl

@[simp] theorem sent_dropSender (c : Channel) : c.dropSender.sent = c.sent := rfl

@[simp] theorem sent_close (c : Channel) : c.close.sent = c.sent := rfl

/-- Taking an outcome moves the oldest one to those that were taken. -/
theorem take?_eq_some {c d : Channel} {o : Outcome} (h : c.take? = some (o, d)) :
    c.queue = o :: d.queue ∧ d = { c with queue := d.queue, past := o :: c.past } := by
  unfold take? at h
  cases hq : c.queue with
  | nil => rw [hq] at h; cases h
  | cons p rest =>
    rw [hq] at h
    cases h
    exact ⟨rfl, rfl⟩

theorem sent_take? {c d : Channel} {o : Outcome} (h : c.take? = some (o, d)) :
    d.sent = c.sent := by
  obtain ⟨hq, hd⟩ := take?_eq_some h
  rw [hd]
  simp [sent, taken, hq]

theorem taken_take? {c d : Channel} {o : Outcome} (h : c.take? = some (o, d)) :
    d.taken = c.taken ++ [o] := by
  rw [(take?_eq_some h).2]
  simp [taken]

/-! What was accepted was taken or is held still. -/

theorem length_sent (c : Channel) : c.sent.length = c.taken.length + c.held := List.length_append

theorem taken_prefix_sent (c : Channel) : c.taken <+: c.sent := List.prefix_append _ _

theorem sent_of_queue_eq_nil {c : Channel} (h : c.queue = []) : c.sent = c.taken := by
  rw [sent, h, List.append_nil]

/-! What a channel holds decides whether it gives or accepts. -/

theorem take?_of_queue_eq_cons {c : Channel} {o : Outcome} {rest : List Outcome}
    (h : c.queue = o :: rest) :
    c.take? = some (o, { c with queue := rest, past := o :: c.past }) := by
  simp only [take?, h]

theorem held_push (c : Channel) (o : Outcome) : (c.push o).held = c.held + 1 := by
  simp [held, push]

theorem hasRoom_iff (c : Channel) : c.hasRoom = true ↔ c.held < c.capacity := by
  simp [hasRoom]

theorem hasRoom_of_queue_eq_nil {c : Channel} (h : c.queue = []) (hcap : 1 ≤ c.capacity) :
    c.hasRoom = true := by
  rw [hasRoom_iff, held, h]
  exact hcap

theorem isExhausted_iff (c : Channel) : c.isExhausted = true ↔ c.queue = [] ∧ c.senders = 0 := by
  simp [isExhausted, held]

end Channel
end LoginLoad
