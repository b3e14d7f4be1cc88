import Mathlib.Data.List.Forall2
import LoginLoad.Proofs.Run.Tally

/-! # What a user tells

What a user tells follows what its requests return.  It tells that it has started, then of each
answer in turn, and at last that it has finished, if it ends without an error (`Phase.Told`).  An
answer is told of once, by an event that says its status, like the outcome that is made of it; where
something was wrong with the body of a response, and only there, this is told directly before
(`Outcome.ToldBy`).

This holds whatever the others do.  In a `User.Course` the moves are those of one user, and what it
shares with the others may become anything between two of them: requests may return anything, and
the channel may be full, empty or closed at any time. -/

namespace LoginLoad

/-! ### What a move tells -/

namespace Event

/-- The events of a run itself among those that were told. -/
def own (l : List Event) : List Event := l.filter isOwn

theorem own_append (l m : List Event) : own (l ++ m) = own l ++ own m := List.filter_append ..

theorem own_connection (l : List Notice) : own (l.map connection) = [] := by
  induction l with
  | nil => rfl
  | cons notice rest ih => exact ih

theorem mem_own {e : Event} {l : List Event} : e ∈ own l ↔ e ∈ l ∧ e.isOwn = true :=
  List.mem_filter

/-- The answers to a user are told by the run itself. -/
theorem answersTo_own (rank : Nat) (l : List Event) : answersTo rank (own l) = answersTo rank l := by
  unfold answersTo own
  rw [List.filter_filter]
  congr 1
  funext e
  cases e <;> simp [isAnswerTo, isOwn]

/-- Notices about connections weigh less than what is told of a whole run. -/
theorem level_connection_ne (notice : Notice) : (connection notice).level ≠ .info := by
  cases notice <;> simp [level, Notice.level]

end Event

open Event (own own_append own_connection mem_own answersTo answersTo_append answersTo_own)
open Outcome (ofUser ofUser_append ofUser_self)

/-- How it is told that a request has returned an answer, which its outcome agrees with: by one event,
and if something was wrong with the body of a response, by one that says so directly before. -/
inductive Outcome.ToldBy (o : Outcome) : Answer → List Event → Prop
  | response {code : UInt16} : o.status = .code code →
      ToldBy o { status := .code code } [.responded o.rank o.ite code o.elapsed]
  | discarded {code : UInt16} (fault : Http.BodyFault) : o.status = .code code →
      ToldBy o { status := .code code, bodyFault := some fault }
        [.bodyDiscarded code fault.message, .responded o.rank o.ite code o.elapsed]
  | failure {fault : RequestFault} (bodyFault : Option Http.BodyFault) :
      o.status = .failed fault →
      ToldBy o { status := .failed fault, bodyFault } [.requestFailed o.rank o.ite fault]

theorem Outcome.ToldBy.of_answer {o : Outcome} {a : Answer} (h : o.status = a.status) :
    o.ToldBy a (own (a.bodyEvents ++ [o.event])) := by
  obtain ⟨status, bodyFault⟩ := a
  unfold Answer.bodyEvents Outcome.event
  rw [h]
  cases status with
  | failed fault => exact .failure bodyFault h
  | code code =>
      cases bodyFault with
      | none => exact .response h
      | some fault => exact .discarded fault h

theorem Outcome.ToldBy.block_eq {o : Outcome} {a : Answer} {block : List Event}
    (h : o.ToldBy a block) : block = a.bodyEvents ++ [o.event] := by
  cases h with
  | response hs | discarded _ hs | failure _ hs => simp [Answer.bodyEvents, Outcome.event, hs]

theorem Outcome.ToldBy.status_eq {o : Outcome} {a : Answer} {block : List Event}
    (h : o.ToldBy a block) : o.status = a.status := by
  cases h with
  | response hs | discarded _ hs | failure _ hs => exact hs

theorem Outcome.ToldBy.answersTo {o : Outcome} {a : Answer} {block : List Event} {rank : Nat}
    (h : o.ToldBy a block) (hrank : o.rank = rank) : answersTo rank block = [o.event] := by
  cases h with
  | response hs | discarded _ hs | failure _ hs =>
      simp [Event.answersTo, Event.isAnswerTo, Outcome.event, hs, hrank]

namespace User

/-- What is returned to a user, what it tells of itself, and what it hands over, when it comes from
one phase to another. -/
inductive Tells {σ : Type} (sc : Scenario σ) (rank : Nat) :
    Phase → Phase → List Answer → List Event → List Outcome → Prop
  | refused {detail : String} : sc.clientFault rank = some detail →
      Tells sc rank .fresh (.ended (some (.client detail))) [] [] []
  | launched : Tells sc rank .fresh (.ready 0) [] [.userStarted rank sc.config.requestsPerUser] []
  | requested {ite : Nat} {sentAt : Int} {attempt : Except SendFault Flight} :
      ite < sc.config.requestsPerUser →
      Tells sc rank (.ready ite) (.waiting ite sentAt attempt) [] [] []
  | redirected {ite : Nat} {sentAt : Int} {attempt next : Except SendFault Flight} :
      Tells sc rank (.waiting ite sentAt attempt) (.waiting ite sentAt next) [] [] []
  | answered {sentAt : Int} {attempt : Except SendFault Flight} {o : Outcome} {a : Answer}
      {block : List Event} : o.rank = rank → o.ToldBy a block →
      Tells sc rank (.waiting o.ite sentAt attempt) (.offering o) [a] block []
  | turnedAway {o : Outcome} : Tells sc rank (.offering o) (.ended (some .reporterClosed)) [] [] []
  | accepted {o : Outcome} : Tells sc rank (.offering o) (.ready (o.ite + 1)) [] [] [o]
  | finished {ite : Nat} : ¬ ite < sc.config.requestsPerUser →
      Tells sc rank (.ready ite) (.ended none) [] [.userFinished rank] []
  | panicked {p : Phase} : sc.mayPanic rank = true → (∀ error, p ≠ .ended error) →
      Tells sc rank p (.ended (some (.join .panicked))) [] [] []

section moves
variable {σ : Type} {sc : Scenario σ} {rank : Nat} {u v : User} {s t : Site σ}

theorem Tells.level_eq {p q : Phase} {as : List Answer} {es : List Event} {os : List Outcome}
    (h : Tells sc rank p q as es os) : ∀ e ∈ es, e.level = .debug := by
  cases h with
  | launched | finished => simp [Event.level]
  | answered _ hb => cases hb <;> simp [Event.level]
  | _ => simp

/-- An answer arrives, perhaps after notices about its connection. -/
theorem tells_answered {ite : Nat} {sentAt : Int} (attempt : Except SendFault Flight) {a : Answer}
    (ha : u.answer? sc rank s = some a) (notices : List Notice)
    (hlog : t.log = s.log ++ notices.map .connection) (hsent : t.channel.sent = s.channel.sent) :
    ∃ es os, (answered sc rank ite sentAt a u t).2.log = s.log ++ es ∧
      (answered sc rank ite sentAt a u t).2.channel.sent = s.channel.sent ++ os ∧
      Tells sc rank (.waiting ite sentAt attempt)
        (answered sc rank ite sentAt a u t).1.phase
        (u.returnedTo sc rank s (answered sc rank ite sentAt a u t).1) (own es) os := by
  obtain ⟨o, hrank, hite, hstatus, hphase, htold, hchannel⟩ :=
    exists_answered sc rank ite sentAt a u t
  have hreturned : u.returnedTo sc rank s (answered sc rank ite sentAt a u t).1 = [a] := by
    unfold returnedTo
    rw [hphase, ha]
    rfl
  refine ⟨notices.map .connection ++ (a.bodyEvents ++ [o.event]), [], ?_, ?_, ?_⟩
  · rw [htold, hlog, List.append_assoc]
  · rw [hchannel, hsent, List.append_nil]
  · -- what was told of the connection is not told by the run itself
    rw [hreturned, hphase, own_append, own_connection, List.nil_append, ← hite]
    exact .answered hrank (.of_answer hstatus)

/-- What a move adds to what was returned, to what was told and to what was handed over. -/
theorem Moved.tells (h : Moved sc rank u s v t) :
    ∃ es os, t.log = s.log ++ es ∧ t.channel.sent = s.channel.sent ++ os ∧
      Tells sc rank u.phase v.phase (u.returnedTo sc rank s v) (own es) os := by
  -- a move that leaves the log and the channel alone
  have hquiet {p : Phase} (hlog : t.log = s.log) (hsent : t.channel.sent = s.channel.sent)
      (htells : Tells sc rank u.phase p [] [] []) :
      ∃ es os, t.log = s.log ++ es ∧ t.channel.sent = s.channel.sent ++ os ∧
        Tells sc rank u.phase p [] (own es) os :=
    ⟨[], [], by simpa using hlog, by simpa using hsent, htells⟩
  cases h with
  | refused hp hc => exact hquiet rfl rfl (hp ▸ .refused hc)
  | launched hp => exact ⟨[_], [], Site.log_tell _ _, by simp, hp ▸ .launched⟩
  | requested hp hi => exact hquiet rfl rfl (hp ▸ .requested hi)
  | unsent hp =>
      rw [hp]
      exact tells_answered _ (answer?_of_waiting hp) [] (by simp) rfl
  | redirected hp =>
      rw [hp]
      exact ⟨_, [], Site.log_tellAll _ _, by simp, by rw [own_connection]; exact .redirected⟩
  | answered hp hr ha =>
      have hanswer := (answer?_of_waiting hp).trans
        (Service.answer?_ok_eq_some.mpr ⟨_, _, hr, ha⟩)
      rw [hp]
      exact tells_answered _ hanswer _ (Site.log_tellAll _ _) (by simp)
  | turnedAway hp => exact hquiet rfl rfl (hp ▸ .turnedAway)
  | accepted hp => exact ⟨[], [_], by simp [Site.log], Channel.sent_push _ _, hp ▸ .accepted⟩
  | finished hp hi => exact ⟨[_], [], Site.log_tell _ _, by simp [Site.release], hp ▸ .finished hi⟩
  | panicked hm hu =>
      exact hquiet rfl rfl (.panicked hm fun error hp => by simp [isEnded, hp] at hu)

end moves
end User

/-! ### What one user has told -/

/-- A user that started and to which its requests so far returned the given answers has made these
outcomes of them and told these events: that it started, and then of each answer in turn. -/
structure User.Reported (requests rank : Nat) (answers : List Answer) (outcomes : List Outcome)
    (events : List Event) : Prop where
  ranks : ∀ o ∈ outcomes, o.rank = rank
  ites : outcomes.map Outcome.ite = List.range outcomes.length
  told : ∃ told : List (Answer × List Event), told.map Prod.fst = answers ∧
    List.Forall₂ (fun o entry => o.ToldBy entry.1 entry.2) outcomes told ∧
    events = .userStarted rank requests :: told.flatMap Prod.snd

namespace User.Reported
variable {requests rank : Nat} {answers : List Answer} {outcomes : List Outcome}
  {events : List Event}

theorem nil : Reported requests rank [] [] [.userStarted rank requests] :=
  ⟨by simp, rfl, [], rfl, .nil, rfl⟩

theorem snoc {a : Answer} {o : Outcome} {block : List Event}
    (h : Reported requests rank answers outcomes events) (hrank : o.rank = rank)
    (hite : o.ite = outcomes.length) (hb : o.ToldBy a block) :
    Reported requests rank (answers ++ [a]) (outcomes ++ [o]) (events ++ block) := by
  obtain ⟨hranks, hites, told, hanswers, htold, hevents⟩ := h
  refine ⟨?_, ?_, told ++ [(a, block)], ?_, ?_, ?_⟩
  · intro p hp
    rcases List.mem_append.mp hp with hp | hp
    · exact hranks p hp
    · rw [List.mem_singleton.mp hp, hrank]
  · rw [List.map_append, hites, List.length_append, List.length_singleton, List.range_succ]
    simp [hite]
  · rw [List.map_append, hanswers]
    rfl
  · exact List.rel_append htold (.cons hb .nil)
  · rw [hevents]
    simp

/-- The outcomes say what was returned. -/
theorem statuses (h : Reported requests rank answers outcomes events) :
    outcomes.map Outcome.status = answers.map Answer.status := by
  obtain ⟨-, -, told, rfl, htold, -⟩ := h
  clear events
  induction htold with
  | nil => rfl
  | cons hb _ ih => rw [List.map_cons, List.map_cons, List.map_cons, ih, hb.status_eq]

/-- The answers and their outcomes determine what was told. -/
theorem events_eq (h : Reported requests rank answers outcomes events) :
    events = .userStarted rank requests ::
      (List.zipWith (fun a o => a.bodyEvents ++ [o.event]) answers outcomes).flatten := by
  obtain ⟨-, -, told, rfl, htold, rfl⟩ := h
  congr 1
  induction htold with
  | nil => rfl
  | cons hb _ ih =>
      rw [List.flatMap_cons, List.map_cons, List.zipWith_cons_cons, List.flatten_cons, ih,
        hb.block_eq]

theorem answersTo (h : Reported requests rank answers outcomes events) :
    answersTo rank events = outcomes.map Outcome.event := by
  obtain ⟨hranks, -, told, -, htold, rfl⟩ := h
  show Event.answersTo rank (told.flatMap Prod.snd) = _
  induction htold with
  | nil => rfl
  | @cons o entry outcomes told hb _ ih =>
      rw [List.flatMap_cons, answersTo_append, hb.answersTo (hranks o List.mem_cons_self),
        ih fun p hp => hranks p (List.mem_cons_of_mem o hp)]
      rfl

/-- It has not told that it has finished. -/
theorem userFinished_notMem (h : Reported requests rank answers outcomes events) :
    .userFinished rank ∉ events := by
  obtain ⟨-, -, told, -, htold, rfl⟩ := h
  induction htold with
  | nil => simp
  | @cons o entry _ _ hb _ ih =>
      obtain ⟨a, block⟩ := entry
      rw [List.flatMap_cons]
      change o.ToldBy a block at hb
      cases hb <;> simpa using ih

end User.Reported

open User (Reported)

/-- What a user at a phase has told of itself, when its requests returned the given answers and the
given outcomes of it were accepted.  An outcome that is still offered, or that was refused, has been
told of like the others. -/
def Phase.Told {σ : Type} (sc : Scenario σ) (rank : Nat) (answers : List Answer)
    (events : List Event) (accepted : List Outcome) : Phase → Prop
  | .fresh => answers = [] ∧ events = [] ∧ accepted = []
  | .ready ite =>
    Reported sc.config.requestsPerUser rank answers accepted events ∧
      accepted.length = ite ∧ ite ≤ sc.config.requestsPerUser
  | .waiting ite _ _ =>
    Reported sc.config.requestsPerUser rank answers accepted events ∧
      accepted.length = ite ∧ ite < sc.config.requestsPerUser
  | .offering o =>
    Reported sc.config.requestsPerUser rank answers (accepted ++ [o]) events ∧
      accepted.length = o.ite ∧ o.ite < sc.config.requestsPerUser
  | .ended none =>
    ∃ before, events = before ++ [.userFinished rank] ∧
      Reported sc.config.requestsPerUser rank answers accepted before ∧
      accepted.length = sc.config.requestsPerUser
  | .ended (some .reporterClosed) =>
    ∃ refused, Reported sc.config.requestsPerUser rank answers (accepted ++ [refused]) events ∧
      accepted.length < sc.config.requestsPerUser
  | .ended (some (.client detail)) =>
    sc.clientFault rank = some detail ∧ answers = [] ∧ events = [] ∧ accepted = []
  | .ended (some (.join .panicked)) =>
    sc.mayPanic rank = true ∧ (answers = [] ∧ events = [] ∧ accepted = [] ∨
      ∃ pending : List Outcome, pending.length ≤ 1 ∧
        Reported sc.config.requestsPerUser rank answers (accepted ++ pending) events)
  | .ended (some _) => False

section told
variable {σ : Type} {sc : Scenario σ} {rank : Nat} {p q : Phase} {answers as : List Answer}
  {events es : List Event} {accepted os : List Outcome}

/-- Of a user that has not ended nothing is told but its beginning, the accepted outcomes, and at
most one more. -/
theorem Phase.Told.pending (h : p.Told sc rank answers events accepted)
    (hp : ∀ error, p ≠ .ended error) :
    answers = [] ∧ events = [] ∧ accepted = [] ∨ ∃ pending : List Outcome, pending.length ≤ 1 ∧
      Reported sc.config.requestsPerUser rank answers (accepted ++ pending) events := by
  cases p with
  | fresh => exact .inl h
  | ready ite => exact .inr ⟨[], by simp, by simpa using h.1⟩
  | waiting ite sentAt attempt => exact .inr ⟨[], by simp, by simpa using h.1⟩
  | offering o => exact .inr ⟨[o], by simp, h.1⟩
  | ended error => exact absurd rfl (hp error)

theorem Phase.Told.userFinished_mem_iff (h : p.Told sc rank answers events accepted) :
    .userFinished rank ∈ events ↔ p = .ended none := by
  have hnot {before : List Event} {outcomes : List Outcome}
      (hb : Reported sc.config.requestsPerUser rank answers outcomes before) :
      .userFinished rank ∈ before ↔ False :=
    iff_false_intro hb.userFinished_notMem
  match p, h with
  | .fresh, h => simp [h.2.1]
  | .ready _, h | .waiting .., h | .offering _, h => simp [hnot h.1]
  | .ended none, ⟨before, hevents, _⟩ => simp [hevents]
  | .ended (some .reporterClosed), ⟨_, hrep, _⟩ => simp [hnot hrep]
  | .ended (some (.client _)), h => simp [h.2.2.1]
  | .ended (some (.join .panicked)), ⟨_, h⟩ =>
      rcases h with ⟨_, rfl, _⟩ | ⟨_, _, hrep⟩
      · simp
      · simp [hnot hrep]

/-- A user hands over what it made itself. -/
theorem User.Tells.ranks (h : Tells sc rank p q as es os)
    (ht : p.Told sc rank answers events accepted) : ∀ o ∈ os, o.rank = rank := by
  cases h with
  | accepted =>
      intro o ho
      rw [List.mem_singleton] at ho
      exact ht.1.ranks o (by simp [ho])
  | _ => simp

/-- Every move keeps what was returned, what was told and what was accepted in step. -/
theorem User.Tells.told (h : Tells sc rank p q as es os)
    (ht : p.Told sc rank answers events accepted) :
    q.Told sc rank (answers ++ as) (events ++ es) (accepted ++ os) := by
  cases h with
  | refused hc =>
      obtain ⟨rfl, rfl, rfl⟩ := ht
      exact ⟨hc, rfl, rfl, rfl⟩
  | launched =>
      obtain ⟨rfl, rfl, rfl⟩ := ht
      exact ⟨.nil, rfl, Nat.zero_le _⟩
  | requested hi =>
      obtain ⟨hrep, hlen, _⟩ := ht
      simpa using ⟨hrep, hlen, hi⟩
  | redirected =>
      obtain ⟨hrep, hlen, hi⟩ := ht
      simpa using ⟨hrep, hlen, hi⟩
  | answered hrank hb =>
      -- so many outcomes were accepted before, so this one has the next number
      obtain ⟨hrep, hlen, hi⟩ := ht
      rw [List.append_nil]
      exact ⟨hrep.snoc hrank hlen.symm hb, hlen, hi⟩
  | turnedAway =>
      obtain ⟨hrep, hlen, hi⟩ := ht
      rw [List.append_nil, List.append_nil, List.append_nil]
      exact ⟨_, hrep, by omega⟩
  | accepted =>
      obtain ⟨hrep, hlen, hi⟩ := ht
      rw [List.append_nil, List.append_nil]
      exact ⟨hrep, by simp [hlen], hi⟩
  | finished hi =>
      obtain ⟨hrep, hlen, hle⟩ := ht
      rw [List.append_nil, List.append_nil]
      exact ⟨events, rfl, hrep, by omega⟩
  | panicked hm hp =>
      rw [List.append_nil, List.append_nil, List.append_nil]
      exact ⟨hm, ht.pending hp⟩

end told

namespace User

/-- The moves of one user from its beginning, whatever becomes of what it shares with the others
between two of them: how it stands, what its requests returned, what was told in its moves, and the
outcomes that the channel accepted of it. -/
inductive Course {σ : Type} (sc : Scenario σ) (rank : Nat) :
    User → List Answer → List Event → List Outcome → Prop
  | start : Course sc rank {} [] [] []
  | move {u v : User} {s t : Site σ} {move : Move} {answers : List Answer} {told es : List Event}
      {accepted os : List Outcome} : Course sc rank u answers told accepted →
      u.step? sc rank move s = some (v, t) → t.log = s.log ++ es →
      t.channel.sent = s.channel.sent ++ os →
      Course sc rank v (answers ++ u.returned sc rank move s) (told ++ es) (accepted ++ os)

namespace Course
variable {σ : Type} {sc : Scenario σ} {rank : Nat} {u v : User} {s t : Site σ}
  {answers : List Answer} {events es : List Event} {accepted os : List Outcome}
  {error : Option RunError}

/-- What is returned in a move, what is told in it, and what is handed over, is what its phases
say. -/
theorem tells_of_step? {move : Move} (h : u.step? sc rank move s = some (v, t))
    (hlog : t.log = s.log ++ es) (hsent : t.channel.sent = s.channel.sent ++ os) :
    Tells sc rank u.phase v.phase (u.returned sc rank move s) (own es) os := by
  obtain ⟨es', os', hlog', hsent', htells⟩ := (moved_of_step? h).tells
  rw [List.append_cancel_left (hlog.symm.trans hlog'),
    List.append_cancel_left (hsent.symm.trans hsent'), returned_eq h]
  exact htells

/-- What a user has told is known from where it stands, from what its requests returned and from its
accepted outcomes. -/
theorem told (h : Course sc rank u answers events accepted) :
    u.phase.Told sc rank answers (own events) accepted := by
  induction h with
  | start => exact ⟨rfl, rfl, rfl⟩
  | move _ hm hlog hsent ih =>
      rw [own_append]
      exact (tells_of_step? hm hlog hsent).told ih

/-- A user tells of itself for those who debug. -/
theorem level_eq (h : Course sc rank u answers events accepted) :
    ∀ e ∈ own events, e.level = .debug := by
  induction h with
  | start => simp [own]
  | move _ hm hlog hsent ih =>
      rw [own_append]
      intro e he
      rcases List.mem_append.mp he with he | he
      · exact ih e he
      · exact (tells_of_step? hm hlog hsent).level_eq e he

/-- Nothing in its moves is told for those who only want to know of whole runs. -/
theorem level_ne (h : Course sc rank u answers events accepted) {e : Event} (he : e ∈ events) :
    e.level ≠ .info := by
  match hown : e with
  | .connection notice => exact Event.level_connection_ne notice
  | .runStarted .. | .userStarted .. | .bodyDiscarded .. | .responded .. | .requestFailed ..
  | .userFinished .. | .runFinished .. =>
      rw [h.level_eq _ (mem_own.mpr ⟨he, rfl⟩)]
      decide

/-- A user that was not aborted ended after its last request, or was turned away, or could not build
its client, or panicked. -/
theorem error_cases (h : Course sc rank u answers events accepted) (hp : u.phase = .ended error) :
    error = none ∨ error = some .reporterClosed ∨
      (∃ detail, error = some (.client detail) ∧ sc.clientFault rank = some detail) ∨
      error = some (.join .panicked) ∧ sc.mayPanic rank = true := by
  have ht := h.told
  rw [hp] at ht
  match error, ht with
  | none, _ => exact .inl rfl
  | some .reporterClosed, _ => exact .inr (.inl rfl)
  | some (.client detail), ht => exact .inr (.inr (.inl ⟨detail, rfl, ht.1⟩))
  | some (.join .panicked), ht => exact .inr (.inr (.inr ⟨rfl, ht.1⟩))

/-- Of a user that ended without an error: it told of every answer and handed over its outcome, and
at last it told that it has finished. -/
theorem of_finished (h : Course sc rank u answers events accepted) (hp : u.phase = .ended none) :
    ∃ before, own events = before ++ [.userFinished rank] ∧
      Reported sc.config.requestsPerUser rank answers accepted before ∧
      accepted.length = sc.config.requestsPerUser ∧
      (answersTo rank events).length = accepted.length := by
  have ht := h.told
  rw [hp] at ht
  obtain ⟨before, hown, hrep, hlen⟩ := ht
  refine ⟨before, hown, hrep, hlen, ?_⟩
  rw [← answersTo_own, hown, answersTo_append, hrep.answersTo]
  simp [answersTo, Event.isAnswerTo]

/-- Of a user that was turned away: it told of every answer, the last of which made the outcome that
was refused. -/
theorem of_turnedAway (h : Course sc rank u answers events accepted)
    (hp : u.phase = .ended (some .reporterClosed)) :
    ∃ refused, Reported sc.config.requestsPerUser rank answers (accepted ++ [refused]) (own events) ∧
      accepted.length < sc.config.requestsPerUser ∧
      (answersTo rank events).length = accepted.length + 1 := by
  have ht := h.told
  rw [hp] at ht
  obtain ⟨refused, hrep, hlt⟩ := ht
  refine ⟨refused, hrep, hlt, ?_⟩
  rw [← answersTo_own, hrep.answersTo]
  simp

/-- A user tells that it has finished when it ends without an error, and only then. -/
theorem userFinished_mem_iff (h : Course sc rank u answers events accepted) :
    .userFinished rank ∈ events ↔ u.phase = .ended none := by
  rw [← h.told.userFinished_mem_iff, mem_own]
  simp [Event.isOwn]

end Course
end User

end LoginLoad
