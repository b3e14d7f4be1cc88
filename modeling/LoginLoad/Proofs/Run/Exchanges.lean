import LoginLoad.Proofs.Run.Steps

/-! # What holds of the exchanges of a run

Something may hold of the states of a service, of the requests under way and of what is told of
their connections, and be kept by every exchange (`Scenario.Keeps`).  Then it holds in every state
of a run, whatever the users do between two exchanges (`Run.Reachable.kept`). -/

namespace LoginLoad

open Http (Reply)

/-! ### One move -/

namespace User
variable {σ : Type} {sc : Scenario σ} {rank ite : Nat} {sentAt : Int} {u v : User} {s t : Site σ}
  {notice : Notice}

/-- Nothing is told about connections when an answer arrives. -/
theorem connection_mem_answered {a : Answer}
    (h : .connection notice ∈ (answered sc rank ite sentAt a u s).2.log) :
    .connection notice ∈ s.log := by
  obtain ⟨o, -, -, -, -, hlog, -⟩ := exists_answered sc rank ite sentAt a u s
  rw [hlog, List.mem_append, List.mem_append, List.mem_singleton] at h
  rcases h with h | h | h
  · exact h
  · unfold Answer.bodyEvents at h
    split at h <;> simp at h
  · unfold Outcome.event at h
    split at h <;> cases h

theorem connection_mem_told {notices : List Notice} {service : σ}
    (h : .connection notice ∈
      ({ s.tellAll (notices.map .connection) with service } : Site σ).log) :
    .connection notice ∈ s.log ∨ notice ∈ notices := by
  replace h : .connection notice ∈ (s.tellAll (notices.map .connection)).log := h
  rw [Site.log_tellAll, List.mem_append] at h
  exact h.imp_right fun h => by simpa using h

theorem service_answered (sc : Scenario σ) (rank ite : Nat) (sentAt : Int) (a : Answer) (u : User)
    (s : Site σ) : (answered sc rank ite sentAt a u s).2.service = s.service :=
  Site.service_tellAll _ _

theorem answered_ne_waiting {a : Answer} {next : Nat} {sentAt' : Int}
    {attempt : Except SendFault Flight} :
    (answered sc rank ite sentAt a u s).1.phase ≠ .waiting next sentAt' attempt := Phase.noConfusion

/-- A user that moves without an exchange starts a request at most, and nothing is told of
connections.  Otherwise there is an exchange of the request that it waits for, and it goes on waiting
only if the reply sends the request on. -/
theorem Moved.exchange (h : Moved sc rank u s v t) :
    (t.service = s.service ∧ (∀ notice, .connection notice ∈ t.log → .connection notice ∈ s.log) ∧
      ∀ ite sentAt attempt, v.phase = .waiting ite sentAt attempt →
        ite < sc.config.requestsPerUser ∧ attempt = Flight.start sc.config.spec) ∨
    ∃ ite sentAt f r, u.phase = .waiting ite sentAt (.ok f) ∧
      sc.service.reply s.service rank ite f = some (r, t.service) ∧
      (∀ notice, .connection notice ∈ t.log →
        .connection notice ∈ s.log ∨ notice ∈ sc.service.notices s.service rank f) ∧
      ∀ next sentAt' attempt, v.phase = .waiting next sentAt' attempt →
        next = ite ∧ ∃ g, attempt = .ok g ∧ f.receive r = .again g := by
  cases h with
  | refused | turnedAway | accepted | panicked => exact .inl ⟨rfl, fun _ h => h, fun _ _ _ hv => nomatch hv⟩
  | launched | finished =>
      refine .inl ⟨rfl, fun notice h => ?_, fun _ _ _ hv => nomatch hv⟩
      replace h : .connection notice ∈ (s.tell _).log := h
      simpa using h
  | requested _ hi =>
      refine .inl ⟨rfl, fun _ h => h, fun ite sentAt attempt hv => ?_⟩
      cases hv
      exact ⟨hi, rfl⟩
  | unsent =>
      exact .inl ⟨service_answered .., fun _ => connection_mem_answered,
        fun _ _ _ hv => absurd hv answered_ne_waiting⟩
  | redirected hp hr hg =>
      refine .inr ⟨_, _, _, _, hp, hr, fun _ => connection_mem_told, ?_⟩
      intro next sentAt attempt hv
      cases hv
      exact ⟨rfl, _, rfl, hg⟩
  | @answered _ _ _ _ reply _ hp hr =>
      refine .inr ⟨_, _, _, reply, hp, ?_, ?_, fun _ _ _ hv => absurd hv answered_ne_waiting⟩
      · rw [service_answered, hr]
      · exact fun _ h => connection_mem_told (connection_mem_answered h)

end User

/-! ### Whole runs -/

/-- What holds of the first attempt at every request, of the states of the service and of what is
told of connections, and is kept by every exchange. -/
structure Scenario.Keeps {σ : Type} (sc : Scenario σ) (state : σ → Prop)
    (attempt : Nat → Nat → Except SendFault Flight → Prop) (notice : Notice → Prop) : Prop where
  sent : ∀ rank, ∀ ite < sc.config.requestsPerUser,
    attempt rank ite (Flight.start sc.config.spec)
  replied : ∀ {s next : σ} {rank ite : Nat} {f : Flight} {r : Reply}, state s →
    attempt rank ite (.ok f) → sc.service.reply s rank ite f = some (r, next) →
    state next ∧ (∀ g, f.receive r = .again g → attempt rank ite (.ok g)) ∧
      ∀ told ∈ sc.service.notices s rank f, notice told

namespace Run
variable {σ δ : Type} {sc : Scenario σ} {state : σ → Prop}
  {attempt : Nat → Nat → Except SendFault Flight → Prop} {notice : Notice → Prop} {s t : Run σ δ}

/-- It holds of the service, of the requests under way and of all that was told of connections. -/
structure Kept (state : σ → Prop) (attempt : Nat → Nat → Except SendFault Flight → Prop)
    (notice : Notice → Prop) (s : Run σ δ) : Prop where
  service : state s.site.service
  attempts : ∀ {rank ite : Nat} {sentAt : Int} {tried : Except SendFault Flight},
    (s.userOf rank).phase = .waiting ite sentAt tried → attempt rank ite tried
  notices : ∀ told, .connection told ∈ s.site.log → notice told

namespace Kept

/-- A step without an exchange, in which no request is started. -/
theorem quiet (h : s.Kept state attempt notice) (hservice : t.site.service = s.site.service)
    (husers : ∀ rank, t.userOf rank = s.userOf rank ∨ (t.userOf rank).isEnded = true)
    (hlog : ∀ told, .connection told ∈ t.site.log → .connection told ∈ s.site.log) :
    t.Kept state attempt notice where
  service := hservice ▸ h.service
  attempts {rank ite sentAt tried} ht := by
    rcases husers rank with heq | hended
    · rw [heq] at ht
      exact h.attempts ht
    · simp [User.isEnded, ht] at hended
  notices told ht := h.notices told (hlog told ht)

theorem moved (h : s.Kept state attempt notice) (hk : sc.Keeps state attempt notice) {rank : Nat}
    {u v : User} {site : Site σ} (hu : s.users[rank]? = some u)
    (hm : u.Moved sc rank s.site v site) :
    ({ s with site }.withUser rank v).Kept state attempt notice := by
  -- what is to be shown of the user that moves; the others stay as they are
  have hothers (hservice : state site.service)
      (hself : ∀ ite sentAt tried, v.phase = .waiting ite sentAt tried → attempt rank ite tried)
      (hlog : ∀ told, .connection told ∈ site.log → notice told) :
      ({ s with site }.withUser rank v).Kept state attempt notice := by
    refine ⟨hservice, fun {i ite sentAt tried} hi => ?_, hlog⟩
    rw [userOf_withUser (s := { s with site }) hu] at hi
    split at hi
    · rename_i heq
      exact heq ▸ hself ite sentAt tried hi
    · exact h.attempts hi
  rcases hm.exchange with ⟨hservice, hlog, hnext⟩ | ⟨ite, sentAt, f, r, hp, hr, hlog, hnext⟩
  · refine hothers (hservice ▸ h.service) ?_ fun told ht => h.notices told (hlog told ht)
    intro ite sentAt tried hv
    obtain ⟨hi, rfl⟩ := hnext ite sentAt tried hv
    exact hk.sent rank ite hi
  · rw [← userOf_of_getElem? hu] at hp
    obtain ⟨hstate, hagain, htold⟩ := hk.replied h.service (h.attempts hp) hr
    refine hothers hstate ?_ fun told ht => (hlog told ht).elim (h.notices told) (htold told)
    intro next sentAt' tried hv
    obtain ⟨rfl, g, rfl, hg⟩ := hnext next sentAt' tried hv
    exact hagain g hg

/-- Every step keeps it. -/
theorem stepped [Device δ] (h : s.Kept state attempt notice) (hk : sc.Keeps state attempt notice)
    (hs : Stepped sc s t) : t.Kept state attempt notice := by
  cases hs with
  | spawned => exact h.quiet rfl (fun rank => .inl (userOf_spawned rank)) fun _ ht => ht
  | released | took | wrote | failed | closed | joined =>
      exact h.quiet rfl (fun _ => .inl rfl) fun _ ht => ht
  | moved hu hm => exact h.moved hk hu hm
  | @cancelled rank u hu =>
      refine h.quiet rfl (fun i => ?_) fun _ ht => ht
      exact (userOf_cancelled hu i).imp_right fun hp => User.isEnded_iff.mpr ⟨_, hp⟩
  | @concluded r fault =>
      refine h.quiet (Site.service_tellAll _ _) (fun _ => .inl rfl) fun told ht => ?_
      replace ht : .connection told ∈ (s.site.tellAll _).log := ht
      rw [Site.log_tellAll, List.mem_append] at ht
      refine ht.resolve_right fun hclosing => ?_
      unfold closingEvents at hclosing
      split at hclosing <;> simp at hclosing

end Kept

/-- What holds at the start and is kept by every exchange holds in every state of a run. -/
theorem Reachable.kept [Device δ] {capacity : Nat} {service : σ} {out : δ}
    (hk : sc.Keeps state attempt notice) (hservice : state service)
    (h : Reachable sc capacity service out s) : s.Kept state attempt notice := by
  refine h.induction ⟨hservice, fun {rank _ _ _} hp => ?_, fun told ht => ?_⟩
    fun _ hs ih => ih.stepped hk hs
  · simp [userOf, Run.start] at hp
  · simp [Run.start, Site.log, openingEvent] at ht

end Run
end LoginLoad
