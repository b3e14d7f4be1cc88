import LoginLoad.Proofs.Flights
import LoginLoad.User

/-! # The moves of a user

`User.Moved` lists what one move of a user may do to it and to what it shares with the others, with
the guard of each move.  It says neither more nor less than `User.step?` (`moved_of_step?`,
`Moved.exists_step?`), so what a move preserves is shown by one case a constructor and `User.step?`
need not be opened again.

What a request returns is up to the service (`User.answer?`).  In a move of its user it returns just
when the user comes from waiting for it to offering an outcome (`User.returned_eq`). -/

namespace LoginLoad
namespace User

variable {σ : Type}

/-- What one move may make of the user number `rank` and of what the users share. -/
inductive Moved (sc : Scenario σ) (rank : Nat) (u : User) (s : Site σ) : User → Site σ → Prop
  | refused {detail : String} : u.phase = .fresh → sc.clientFault rank = some detail →
      Moved sc rank u s (u.stop (some (.client detail))) s.release
  | launched : u.phase = .fresh → sc.clientFault rank = none →
      Moved sc rank u s { u with phase := .ready 0 }
        (s.tell (.userStarted rank sc.config.requestsPerUser))
  | requested {ite : Nat} : u.phase = .ready ite → ite < sc.config.requestsPerUser →
      Moved sc rank u s
        ⟨.waiting ite (sc.clock s.readings) (Flight.start sc.config.spec), u.started + 1⟩ s.tick
  | unsent {ite : Nat} {sentAt : Int} {fault : SendFault} :
      u.phase = .waiting ite sentAt (.error fault) →
      Moved sc rank u s
        (answered sc rank ite sentAt { status := .failed fault.toRequestFault } u s).1
        (answered sc rank ite sentAt { status := .failed fault.toRequestFault } u s).2
  | redirected {ite : Nat} {sentAt : Int} {flight next : Flight} {reply : Http.Reply}
      {service : σ} :
      u.phase = .waiting ite sentAt (.ok flight) →
      sc.service.reply s.service rank ite flight = some (reply, service) →
      flight.receive reply = .again next →
      Moved sc rank u s { u with phase := .waiting ite sentAt (.ok next) }
        { s.tellAll ((sc.service.notices s.service rank flight).map .connection) with service }
  | answered {ite : Nat} {sentAt : Int} {flight : Flight} {a : Answer} {reply : Http.Reply}
      {service : σ} :
      u.phase = .waiting ite sentAt (.ok flight) →
      sc.service.reply s.service rank ite flight = some (reply, service) →
      flight.receive reply = .done a →
      Moved sc rank u s
        (answered sc rank ite sentAt a u
          { s.tellAll ((sc.service.notices s.service rank flight).map .connection) with service }).1
        (answered sc rank ite sentAt a u
          { s.tellAll ((sc.service.notices s.service rank flight).map .connection) with service }).2
  | turnedAway {o : Outcome} : u.phase = .offering o → s.channel.isOpen = false →
      Moved sc rank u s (u.stop (some .reporterClosed)) s.release
  | accepted {o : Outcome} : u.phase = .offering o → s.channel.isOpen = true →
      s.channel.hasRoom = true →
      Moved sc rank u s { u with phase := .ready (o.ite + 1) }
        { s with channel := s.channel.push o }
  | finished {ite : Nat} : u.phase = .ready ite → ¬ ite < sc.config.requestsPerUser →
      Moved sc rank u s (u.stop none) (s.tell (.userFinished rank)).release
  | panicked : sc.mayPanic rank = true → u.isEnded = false →
      Moved sc rank u s (u.stop (some (.join .panicked))) s.release

variable {sc : Scenario σ} {rank : Nat} {u v : User} {s t : Site σ}

theorem moved_of_step? {move : Move} (h : u.step? sc rank move s = some (v, t)) :
    Moved sc rank u s v t := by
  cases move with
  | launch =>
      cases hp : u.phase with
      | fresh =>
          simp only [step?, hp] at h
          cases hc : sc.clientFault rank with
          | some detail =>
              rw [hc] at h
              cases h
              exact .refused hp hc
          | none =>
              rw [hc] at h
              cases h
              exact .launched hp hc
      | _ => simp [step?, hp] at h
  | request =>
      cases hp : u.phase with
      | ready ite =>
          simp only [step?, hp] at h
          split at h
          · cases h
            exact .requested hp ‹_›
          · cases h
      | _ => simp [step?, hp] at h
  | reply =>
      cases hp : u.phase with
      | waiting ite sentAt attempt =>
          cases attempt with
          | error fault =>
              simp only [step?, hp] at h
              cases h
              exact .unsent hp
          | ok flight =>
              simp only [step?, hp] at h
              cases hr : sc.service.reply s.service rank ite flight with
              | none => simp [hr] at h
              | some p =>
                  obtain ⟨reply, service⟩ := p
                  simp only [hr] at h
                  cases hf : flight.receive reply with
                  | again next =>
                      simp only [hf] at h
                      cases h
                      exact .redirected hp hr hf
                  | done a =>
                      simp only [hf] at h
                      cases h
                      exact .answered hp hr hf
                  | endless => simp [hf] at h
      | _ => simp [step?, hp] at h
  | offer =>
      cases hp : u.phase with
      | offering o =>
          simp only [step?, hp] at h
          by_cases ho : s.channel.isOpen
          · rw [ho, Bool.not_true, if_neg Bool.false_ne_true] at h
            split at h
            · cases h
              exact .accepted hp ho ‹_›
            · cases h
          · rw [Bool.not_eq_true] at ho
            rw [ho, Bool.not_false, if_pos rfl] at h
            cases h
            exact .turnedAway hp ho
      | _ => simp [step?, hp] at h
  | finish =>
      cases hp : u.phase with
      | ready ite =>
          simp only [step?, hp] at h
          split at h
          · cases h
          · cases h
            exact .finished hp ‹_›
      | _ => simp [step?, hp] at h
  | panic =>
      simp only [step?] at h
      split at h
      · rename_i hg
        rw [Bool.and_eq_true, Bool.not_eq_true'] at hg
        cases h
        exact .panicked hg.1 hg.2
      · cases h

theorem Moved.exists_step? (h : Moved sc rank u s v t) :
    ∃ move, u.step? sc rank move s = some (v, t) := by
  cases h with
  | refused hp hc => exact ⟨.launch, by simp [step?, hp, hc]⟩
  | launched hp hc => exact ⟨.launch, by simp [step?, hp, hc]⟩
  | requested hp hi => exact ⟨.request, by simp [step?, hp, hi]⟩
  | unsent hp => exact ⟨.reply, by simp [step?, hp]⟩
  | redirected hp hr hf => exact ⟨.reply, by simp [step?, hp, hr, hf]⟩
  | answered hp hr hf => exact ⟨.reply, by simp [step?, hp, hr, hf]⟩
  | turnedAway hp ho => exact ⟨.offer, by simp [step?, hp, ho]⟩
  | accepted hp ho hr => exact ⟨.offer, by simp [step?, hp, ho, hr]⟩
  | finished hp hi => exact ⟨.finish, by simp [step?, hp, hi]⟩
  | panicked hm hu => exact ⟨.panic, by simp [step?, hm, hu]⟩

/-- What an answer makes of a user and of what it shares with the others: the user offers the outcome
of its request, and this was told, after what was wrong with the body if anything was. -/
theorem exists_answered (sc : Scenario σ) (rank ite : Nat) (sentAt : Int) (a : Answer) (u : User)
    (s : Site σ) :
    ∃ o : Outcome, o.rank = rank ∧ o.ite = ite ∧ o.status = a.status ∧
      (answered sc rank ite sentAt a u s).1.phase = .offering o ∧
      (answered sc rank ite sentAt a u s).2.log = s.log ++ (a.bodyEvents ++ [o.event]) ∧
      (answered sc rank ite sentAt a u s).2.channel = s.channel :=
  ⟨⟨rank, ite, a.status, sentAt, sc.clock s.readings⟩, rfl, rfl, rfl, rfl, Site.log_tellAll _ _,
    Site.channel_tellAll _ _⟩

theorem isEnded_iff : u.isEnded = true ↔ ∃ error, u.phase = .ended error := by
  unfold isEnded
  cases u.phase <;> simp

theorem Moved.not_ended (h : Moved sc rank u s v t) : u.isEnded = false := by
  cases h with
  | panicked _ hu => exact hu
  | _ => simp [isEnded, *]

/-- A user that goes on leaves the channel as it is or hands it the outcome that it offered; a user
that ends lets its sender go. -/
theorem Moved.channel (h : Moved sc rank u s v t) :
    (v.isEnded = false ∧ t.channel = s.channel) ∨
      (v.isEnded = false ∧ ∃ o, u.phase = .offering o ∧ v.phase = .ready (o.ite + 1) ∧
        s.channel.isOpen = true ∧ s.channel.hasRoom = true ∧ t.channel = s.channel.push o) ∨
      (v.isEnded = true ∧ t.channel = s.channel.dropSender) := by
  cases h with
  | refused | turnedAway | finished | panicked => exact .inr (.inr ⟨rfl, rfl⟩)
  | accepted hp ho hr => exact .inr (.inl ⟨rfl, _, hp, rfl, ho, hr, rfl⟩)
  | launched | requested => exact .inl ⟨rfl, rfl⟩
  | unsent | redirected | answered => exact .inl ⟨rfl, by simp [User.answered, Site.tick]⟩

/-! ### What a request returns -/

/-- What the request that a user waits for returns, if the next exchange ends it. -/
def answer? (sc : Scenario σ) (rank : Nat) (u : User) (s : Site σ) : Option Answer :=
  match u.phase with
  | .waiting ite _ attempt => sc.service.answer? s.service rank ite attempt
  | _ => none

/-- What a request of a user returns in one of its moves. -/
def returned (sc : Scenario σ) (rank : Nat) (move : Move) (u : User) (s : Site σ) : List Answer :=
  match move with
  | .reply => (u.answer? sc rank s).toList
  | _ => []

/-- What has been returned when a user has become another one. -/
def returnedTo (sc : Scenario σ) (rank : Nat) (u : User) (s : Site σ) (v : User) : List Answer :=
  match v.phase with
  | .offering _ => (u.answer? sc rank s).toList
  | _ => []

theorem answer?_of_waiting {ite : Nat} {sentAt : Int} {attempt : Except SendFault Flight}
    (h : u.phase = .waiting ite sentAt attempt) :
    u.answer? sc rank s = sc.service.answer? s.service rank ite attempt := by
  rw [answer?, h]

/-- A user that stays where it is has nothing returned to it. -/
theorem returnedTo_of_phase_eq (h : v.phase = u.phase) : u.returnedTo sc rank s v = [] := by
  unfold returnedTo answer?
  rw [h]
  cases u.phase <;> rfl

/-- A reply ends the request of a user, or the user goes on waiting. -/
theorem returned_reply {ite : Nat} {sentAt : Int} {attempt : Except SendFault Flight}
    (h : u.step? sc rank .reply s = some (v, t)) (hu : u.phase = .waiting ite sentAt attempt) :
    u.returned sc rank .reply s = u.returnedTo sc rank s v := by
  unfold returned returnedTo
  rw [answer?_of_waiting hu]
  cases attempt with
  | error fault =>
      simp only [step?, hu] at h
      cases h
      rfl
  | ok f =>
      simp only [step?, hu] at h
      cases hr : sc.service.reply s.service rank ite f with
      | none => simp [hr] at h
      | some p =>
          obtain ⟨reply, next⟩ := p
          simp only [hr] at h
          simp only [Service.answer?, hr, Option.bind_some]
          cases hf : f.receive reply with
          | done a =>
              simp only [hf] at h
              cases h
              rfl
          | again g =>
              simp only [hf] at h
              cases h
              rfl
          | endless => simp [hf] at h

/-- Nothing but a reply brings a user from waiting to offering. -/
theorem eq_reply_of_offering {move : Move} {ite : Nat} {sentAt : Int}
    {attempt : Except SendFault Flight} {o : Outcome} (h : u.step? sc rank move s = some (v, t))
    (hu : u.phase = .waiting ite sentAt attempt) (hv : v.phase = .offering o) : move = .reply := by
  cases move with
  | reply => rfl
  | panic =>
      simp only [step?] at h
      split at h
      · cases h
        cases hv
      · cases h
  | _ => simp [step?, hu] at h

/-- What is returned in a move can be seen from what it makes of the user. -/
theorem returned_eq {move : Move} (h : u.step? sc rank move s = some (v, t)) :
    u.returned sc rank move s = u.returnedTo sc rank s v := by
  cases hu : u.phase with
  | waiting ite sentAt attempt =>
      by_cases hmove : move = .reply
      · subst hmove
        exact returned_reply h hu
      · have hnone : u.returned sc rank move s = [] := by
          cases move with
          | reply => exact absurd rfl hmove
          | _ => rfl
        rw [hnone, returnedTo]
        split
        · rename_i o hv
          exact absurd (eq_reply_of_offering h hu hv) hmove
        · rfl
  | _ =>
      -- nothing is waited for
      unfold returned returnedTo answer?
      simp only [hu]
      cases move <;> cases v.phase <;> rfl

/-- A user that comes to offer an outcome waited for the request that it is of, and the outcome says
what this returned. -/
theorem Moved.answer?_of_offering (h : Moved sc rank u s v t) {o : Outcome}
    (hv : v.phase = .offering o) :
    o.rank = rank ∧ ∃ a sentAt attempt, u.phase = .waiting o.ite sentAt attempt ∧
      u.answer? sc rank s = some a ∧ o.status = a.status := by
  cases h with
  | refused | launched | requested | redirected | turnedAway | accepted | finished | panicked =>
      cases hv
  | unsent hp =>
      cases hv
      exact ⟨rfl, _, _, _, hp, answer?_of_waiting hp, rfl⟩
  | answered hp hr ha =>
      cases hv
      refine ⟨rfl, _, _, _, hp, ?_, rfl⟩
      rw [answer?_of_waiting hp]
      exact Service.answer?_ok_eq_some.mpr ⟨_, _, hr, ha⟩

end User
end LoginLoad
