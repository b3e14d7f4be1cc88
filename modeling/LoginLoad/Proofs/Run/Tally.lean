import LoginLoad.Proofs.Run.Order

/-! # What each user has handed over

The outcomes that the channel has accepted of one user are those of its first requests, in order and
each once: how many they are can be read off where the user stands (`Phase.Stands`).  What was told
of its answers are these outcomes and the one that it still offers, if there is one.

`Tally` is this fact about one user.  A move of the user keeps its own tally and does not touch
those of the others (`User.Moved.tally`), so `Reachable.tallied` has it of every user in every
state. -/

namespace LoginLoad

/-! ### The part of one user -/

namespace Outcome

variable {rank other : Nat}

/-- The outcomes of one user, in order. -/
def ofUser (rank : Nat) (l : List Outcome) : List Outcome := l.filter fun o => o.rank = rank

theorem ofUser_append (l m : List Outcome) :
    ofUser rank (l ++ m) = ofUser rank l ++ ofUser rank m :=
  List.filter_append ..

theorem ofUser_self {o : Outcome} (h : o.rank = rank) : ofUser rank [o] = [o] := by
  simp [ofUser, h]

theorem ofUser_other {o : Outcome} (h : o.rank = other) (hne : rank ≠ other) :
    ofUser rank [o] = [] := by
  simp [ofUser, h, Ne.symm hne]

theorem mem_ofUser {o : Outcome} {l : List Outcome} :
    o ∈ ofUser rank l ↔ o ∈ l ∧ o.rank = rank := by
  simp [ofUser]

end Outcome

namespace Event

variable {rank other : Nat}

/-- Whether an event tells of an answer to the user number `rank`. -/
def isAnswerTo (rank : Nat) : Event → Bool
  | responded r .. | requestFailed r .. => r = rank
  | _ => false

/-- The events that tell of the answers to one user, in order. -/
def answersTo (rank : Nat) (log : List Event) : List Event := log.filter (isAnswerTo rank)

theorem answersTo_append (l m : List Event) :
    answersTo rank (l ++ m) = answersTo rank l ++ answersTo rank m :=
  List.filter_append ..

theorem answersTo_self {o : Outcome} (h : o.rank = rank) :
    answersTo rank [o.event] = [o.event] := by
  unfold Outcome.event
  cases o.status <;> simp [answersTo, isAnswerTo, h]

theorem answersTo_other {o : Outcome} (h : o.rank = other) (hne : rank ≠ other) :
    answersTo rank [o.event] = [] := by
  unfold Outcome.event
  cases o.status <;> simp [answersTo, isAnswerTo, h, Ne.symm hne]

theorem answersTo_bodyEvents (a : Answer) : answersTo rank a.bodyEvents = [] := by
  unfold Answer.bodyEvents
  split <;> rfl

theorem answersTo_connection (l : List Notice) : answersTo rank (l.map connection) = [] := by
  induction l with
  | nil => rfl
  | cons notice rest ih => exact ih

theorem answersTo_closingEvents (res : Except RunError Nat) :
    answersTo rank (Run.closingEvents res) = [] := by
  cases res <;> rfl

end Event

open Outcome (ofUser ofUser_append ofUser_self ofUser_other)
open Event (answersTo answersTo_append answersTo_self answersTo_other answersTo_bodyEvents
  answersTo_connection answersTo_closingEvents)

/-! ### The tally of one user -/

/-- Where a user stands that has handed over `n` outcomes and has others pending.  Of a user that
ended in an error it is only known that they are not too many. -/
def Phase.Stands (requests n : Nat) (pending : List Outcome) : Phase → Prop
  | .fresh => n = 0 ∧ pending = []
  | .ready ite => n = ite ∧ ite ≤ requests ∧ pending = []
  | .waiting ite _ _ => n = ite ∧ ite < requests ∧ pending = []
  | .offering o => n = o.ite ∧ o.ite < requests ∧ pending = [o]
  | .ended none => n = requests ∧ pending = []
  | .ended (some _) => n ≤ requests

theorem Phase.Stands.le {requests n : Nat} {pending : List Outcome} {p : Phase}
    (h : p.Stands requests n pending) : n ≤ requests := by
  cases p with
  | fresh => simp [h.1]
  | ready ite => rw [h.1]; exact h.2.1
  | waiting ite sentAt attempt => rw [h.1]; exact Nat.le_of_lt h.2.1
  | offering o => rw [h.1]; exact Nat.le_of_lt h.2.1
  | ended error =>
      cases error with
      | none => exact Nat.le_of_eq h.1
      | some e => exact h

/-- The user number `rank` stands at `phase` and has handed over the outcomes of its first `n`
requests. -/
structure Tally {σ : Type} (requests rank : Nat) (site : Site σ) (phase : Phase) (n : Nat)
    (pending : List Outcome) : Prop where
  stands : phase.Stands requests n pending
  mine : ∀ o ∈ pending, o.rank = rank
  ites : (ofUser rank site.channel.sent).map Outcome.ite = List.range n
  told : answersTo rank site.log = (ofUser rank site.channel.sent ++ pending).map Outcome.event

section moves
variable {σ : Type} {sc : Scenario σ} {requests rank n : Nat} {u v : User} {s t : Site σ}
  {phase next : Phase} {pending : List Outcome}

/-- A user may come to stand elsewhere without an outcome being handed over or told. -/
theorem Tally.quiet (h : Tally requests rank s phase n pending)
    (hs : next.Stands requests n pending)
    (hsent : ofUser rank t.channel.sent = ofUser rank s.channel.sent)
    (hlog : answersTo rank t.log = answersTo rank s.log) :
    Tally requests rank t next n pending where
  stands := hs
  mine := h.mine
  ites := by rw [hsent, h.ites]
  told := by rw [hlog, hsent, h.told]

/-- An answer arrives. -/
theorem Tally.answered {ite : Nat} {sentAt : Int} {attempt : Except SendFault Flight} {a : Answer}
    (h : Tally requests rank s (.waiting ite sentAt attempt) n pending)
    (hsent : t.channel.sent = s.channel.sent) (hlog : answersTo rank t.log = answersTo rank s.log) :
    ∃ o, Tally requests rank (User.answered sc rank ite sentAt a u t).2
      (User.answered sc rank ite sentAt a u t).1.phase n [o] := by
  obtain ⟨rfl, hlt, rfl⟩ := h.stands
  obtain ⟨o, hrank, hite, -, hphase, hlog', hchannel⟩ :=
    User.exists_answered sc rank n sentAt a u t
  have htold := h.told
  rw [List.append_nil] at htold
  refine ⟨o, ?_, ?_, ?_, ?_⟩
  · rw [hphase]
    exact ⟨hite.symm, hite ▸ hlt, rfl⟩
  · intro p hp
    rw [List.mem_singleton.mp hp, hrank]
  · rw [hchannel, hsent, h.ites]
  · rw [hlog', hchannel, hsent, answersTo_append, answersTo_append, answersTo_bodyEvents,
      answersTo_self hrank, hlog, htold, List.map_append]
    rfl

/-- The events of an answer are about the user that it is for. -/
theorem answersTo_answered {ite other : Nat} {sentAt : Int} {a : Answer} (hne : other ≠ rank) :
    answersTo other (User.answered sc rank ite sentAt a u t).2.log = answersTo other t.log := by
  obtain ⟨o, hrank, -, -, -, hlog, -⟩ := User.exists_answered sc rank ite sentAt a u t
  rw [hlog, answersTo_append, answersTo_append, answersTo_bodyEvents, answersTo_other hrank hne]
  simp

theorem answersTo_tell {e : Event} (h : e.isAnswerTo rank = false) :
    answersTo rank (s.tell e).log = answersTo rank s.log := by
  rw [Site.log_tell, answersTo_append]
  simp [answersTo, h]

/-- What is told with a reply is about the connection. -/
theorem answersTo_told {other : Nat} (l : List Notice) (service : σ) :
    answersTo other ({ s.tellAll (l.map .connection) with service } : Site σ).log =
      answersTo other s.log := by
  have hlog : ({ s.tellAll (l.map .connection) with service } : Site σ).log =
      s.log ++ l.map .connection := Site.log_tellAll _ _
  rw [hlog, answersTo_append, answersTo_connection, List.append_nil]

theorem sent_told (l : List Notice) (service : σ) :
    ({ s.tellAll (l.map .connection) with service } : Site σ).channel.sent = s.channel.sent :=
  congrArg Channel.sent (Site.channel_tellAll _ _)

/-- A move keeps the tally of the user that makes it. -/
theorem User.Moved.tally (h : Moved sc rank u s v t)
    (ht : Tally sc.config.requestsPerUser rank s u.phase n pending) :
    ∃ m rest, Tally sc.config.requestsPerUser rank t v.phase m rest := by
  have hst := ht.stands
  cases h with
  | refused | turnedAway | panicked => exact ⟨n, pending, ht.quiet hst.le rfl rfl⟩
  | launched hp _ =>
      rw [hp] at hst
      exact ⟨n, pending, ht.quiet ⟨hst.1, Nat.zero_le _, hst.2⟩ rfl (answersTo_tell rfl)⟩
  | requested hp hi =>
      rw [hp] at hst
      exact ⟨n, pending, ht.quiet ⟨hst.1, hi, hst.2.2⟩ rfl rfl⟩
  | unsent hp =>
      rw [hp] at ht
      obtain ⟨o, ho⟩ := ht.answered rfl rfl
      exact ⟨n, [o], ho⟩
  | redirected hp =>
      rw [hp] at hst
      exact ⟨n, pending, ht.quiet hst (by rw [sent_told]) (answersTo_told _ _)⟩
  | answered hp =>
      rw [hp] at ht
      obtain ⟨o, ho⟩ := ht.answered (sent_told _ _) (answersTo_told _ _)
      exact ⟨n, [o], ho⟩
  | @accepted o hp =>
      rw [hp] at hst
      obtain ⟨rfl, hlt, rfl⟩ := hst
      have hsent : ofUser rank (s.channel.push o).sent = ofUser rank s.channel.sent ++ [o] := by
        rw [Channel.sent_push, ofUser_append, ofUser_self (ht.mine o List.mem_cons_self)]
      refine ⟨o.ite + 1, [], ⟨rfl, hlt, rfl⟩, by simp, ?_, ?_⟩
      · rw [hsent, List.map_append, ht.ites, List.range_succ]
        rfl
      · rw [hsent, List.append_nil]
        exact ht.told
  | finished hp hi =>
      rw [hp] at hst
      obtain ⟨rfl, hle, rfl⟩ := hst
      have hend : n = sc.config.requestsPerUser := Nat.le_antisymm hle (Nat.not_lt.mp hi)
      exact ⟨n, [], ht.quiet ⟨hend, rfl⟩ rfl (answersTo_tell rfl)⟩

/-- A move does not touch what the other users handed over, nor what was told of them. -/
theorem User.Moved.other (h : Moved sc rank u s v t)
    (ht : Tally sc.config.requestsPerUser rank s u.phase n pending) {other : Nat}
    (hne : other ≠ rank) :
    ofUser other t.channel.sent = ofUser other s.channel.sent ∧
      answersTo other t.log = answersTo other s.log := by
  cases h with
  | refused | turnedAway | panicked | requested => exact ⟨rfl, rfl⟩
  | launched | finished => exact ⟨rfl, answersTo_tell rfl⟩
  | unsent => exact ⟨by simp [User.answered, Site.tick], answersTo_answered hne⟩
  | redirected => exact ⟨by rw [sent_told], answersTo_told _ _⟩
  | answered =>
      refine ⟨by simp [User.answered, Site.tick], ?_⟩
      rw [answersTo_answered hne, answersTo_told]
  | @accepted o hp =>
      have hst := ht.stands
      rw [hp] at hst
      obtain ⟨_, _, rfl⟩ := hst
      refine ⟨?_, rfl⟩
      rw [Channel.sent_push, ofUser_append, ofUser_other (ht.mine o List.mem_cons_self) hne,
        List.append_nil]

end moves

/-! ### The tallies of all users -/

namespace Run

variable {σ δ : Type}

/-- Where the user number `rank` stands; one that is not there yet stands at its beginning. -/
def phaseOf (s : Run σ δ) (rank : Nat) : Phase := (s.users[rank]?.getD {}).phase

/-- Every user has its tally. -/
def Tallied (sc : Scenario σ) (s : Run σ δ) : Prop :=
  ∀ rank, ∃ n pending, Tally sc.config.requestsPerUser rank s.site (s.phaseOf rank) n pending

variable {sc : Scenario σ} {s t : Run σ δ}

theorem phaseOf_of_getElem? {rank : Nat} {u : User} (h : s.users[rank]? = some u) :
    s.phaseOf rank = u.phase := congrArg User.phase (userOf_of_getElem? h)

theorem phaseOf_withUser {rank : Nat} {u v : User} (h : s.users[rank]? = some u) (i : Nat) :
    (s.withUser rank v).phaseOf i = if i = rank then v.phase else s.phaseOf i := by
  show ((s.withUser rank v).userOf i).phase = _
  rw [userOf_withUser h]
  split <;> rfl

theorem phaseOf_spawned (rank : Nat) : s.spawned.phaseOf rank = s.phaseOf rank :=
  congrArg User.phase (userOf_spawned rank)

/-- A step that neither moves a user nor tells of an answer nor hands anything over. -/
theorem Tallied.quiet (h : s.Tallied sc) (hphase : ∀ rank, t.phaseOf rank = s.phaseOf rank)
    (hsent : t.site.channel.sent = s.site.channel.sent)
    (hlog : ∀ rank, answersTo rank t.site.log = answersTo rank s.site.log) : t.Tallied sc := by
  intro rank
  obtain ⟨n, pending, ht⟩ := h rank
  refine ⟨n, pending, ?_⟩
  rw [hphase]
  exact ht.quiet ht.stands (by rw [hsent]) (hlog rank)

theorem Tallied.start {capacity : Nat} {service : σ} {out : δ} :
    (Run.start sc capacity service out).Tallied sc := by
  intro rank
  refine ⟨0, [], ?_, by simp, rfl, rfl⟩
  simp [phaseOf, Run.start, Phase.Stands]

/-- Every step keeps the tallies. -/
theorem Tallied.stepped [Device δ] (h : s.Tallied sc) (hs : Stepped sc s t) : t.Tallied sc := by
  cases hs with
  | spawned => exact h.quiet phaseOf_spawned rfl fun _ => rfl
  | released | wrote | failed | closed | joined => exact h.quiet (fun _ => rfl) rfl fun _ => rfl
  | took _ ht => exact h.quiet (fun _ => rfl) (Channel.sent_take? ht) fun _ => rfl
  | @concluded r fault =>
      refine h.quiet (fun _ => rfl) (by rw [channel_concluded]) fun rank => ?_
      show answersTo rank (s.site.tellAll _).log = _
      rw [Site.log_tellAll, answersTo_append, answersTo_closingEvents, List.append_nil]
  | @moved rank u v site hu hm =>
      obtain ⟨n, pending, ht⟩ := h rank
      rw [phaseOf_of_getElem? hu] at ht
      intro i
      rw [phaseOf_withUser (s := { s with site }) hu]
      by_cases hi : i = rank
      · rw [if_pos hi, hi]
        exact hm.tally ht
      · rw [if_neg hi]
        obtain ⟨k, rest, hk⟩ := h i
        obtain ⟨hsent, hlog⟩ := hm.other ht hi
        exact ⟨k, rest, hk.quiet hk.stands hsent hlog⟩
  | @cancelled rank u hu =>
      obtain ⟨n, pending, ht⟩ := h rank
      intro i
      rw [phaseOf_withUser (s := { s with site := s.site.release }) hu]
      by_cases hi : i = rank
      · rw [if_pos hi, hi]
        exact ⟨n, pending, ht.quiet ht.stands.le rfl rfl⟩
      · rw [if_neg hi]
        obtain ⟨k, rest, hk⟩ := h i
        exact ⟨k, rest, hk.quiet hk.stands rfl rfl⟩

/-- Every user has its tally in every state of a run. -/
theorem Reachable.tallied [Device δ] {capacity : Nat} {service : σ} {out : δ}
    (h : Reachable sc capacity service out s) : s.Tallied sc :=
  h.induction .start fun _ hs ih => ih.stepped hs

/-! ### One user among the others -/

/-- What holds of each user at its beginning, and is kept by the moves of the user, by its end in an
abort, by the moves of the other users, and by the steps of the driver and the reporter, which
neither hand over an outcome nor tell of an answer, holds of each user in every state. -/
theorem Reachable.user_induction [Device δ] {capacity : Nat} {service : σ} {out : δ}
    {P : Nat → User → Site σ → Prop}
    (hstart : ∀ rank, P rank {} (Run.start sc capacity service out).site)
    (hmoved : ∀ {rank : Nat} {u v : User} {site next : Site σ} {n : Nat} {pending : List Outcome},
      Tally sc.config.requestsPerUser rank site u.phase n pending →
      u.Moved sc rank site v next → P rank u site → P rank v next)
    (hother : ∀ {rank other : Nat} {u v w : User} {site next : Site σ} {n : Nat}
      {pending : List Outcome},
      Tally sc.config.requestsPerUser rank site u.phase n pending → other ≠ rank →
      u.Moved sc rank site v next → P other w site → P other w next)
    (hstop : ∀ {rank : Nat} {u : User} {site : Site σ} (error : Option RunError),
      P rank u site → P rank (u.stop error) site)
    (hquiet : ∀ {rank : Nat} {u : User} {site next : Site σ}, P rank u site →
      next.service = site.service → next.readings = site.readings →
      next.channel.sent = site.channel.sent →
      answersTo rank next.log = answersTo rank site.log → P rank u next)
    (h : Reachable sc capacity service out s) (rank : Nat) : P rank (s.userOf rank) s.site := by
  refine h.induction (P := fun s => ∀ rank, P rank (s.userOf rank) s.site) ?_
    (fun {s t} hr hs ih => ?_) rank
  · intro rank
    have hnobody : (Run.start sc capacity service out).userOf rank = {} := by
      simp [userOf, Run.start]
    rw [hnobody]
    exact hstart rank
  · cases hs with
    | spawned =>
        intro rank
        rw [userOf_spawned]
        exact hquiet (ih rank) rfl rfl rfl rfl
    | released | wrote | failed | closed | joined =>
        intro rank
        exact hquiet (ih rank) rfl rfl rfl rfl
    | took _ ht =>
        intro rank
        exact hquiet (ih rank) rfl rfl (Channel.sent_take? ht) rfl
    | @concluded r fault =>
        intro rank
        refine hquiet (ih rank) ?_ ?_ ?_ ?_
        · exact Site.service_tellAll _ _
        · exact Site.readings_tellAll _ _
        · exact congrArg Channel.sent (Site.channel_tellAll _ _)
        · show answersTo rank (s.site.tellAll _).log = _
          rw [Site.log_tellAll, answersTo_append, answersTo_closingEvents, List.append_nil]
    | @moved i u v site hu hm =>
        obtain ⟨n, pending, ht⟩ := hr.tallied i
        rw [phaseOf_of_getElem? hu] at ht
        intro rank
        rw [userOf_withUser (s := { s with site }) hu]
        by_cases hi : rank = i
        · rw [if_pos hi, hi]
          have hself := ih i
          rw [userOf_of_getElem? hu] at hself
          exact hmoved ht hm hself
        · rw [if_neg hi]
          exact hother ht hi hm (ih rank)
    | @cancelled i u hu =>
        intro rank
        rw [userOf_withUser (s := { s with site := s.site.release }) hu]
        by_cases hi : rank = i
        · rw [if_pos hi, hi]
          have hself := ih i
          rw [userOf_of_getElem? hu] at hself
          exact hstop _ (hquiet hself rfl rfl rfl rfl)
        · rw [if_neg hi]
          exact hquiet (ih rank) rfl rfl rfl rfl

end Run
end LoginLoad
