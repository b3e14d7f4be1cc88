import LoginLoad.Proofs.Run.Steps

/-! # Who is gone when

The senders of the channel are those of the users that are not at their ends, and the driver's own
as long as it spawns.  So the reporter ends without a fault only when every user is gone
(`Sound.ended_of_drained`), and the channel is open exactly as long as the reporter is there.  Only
users at their ends are joined, each once, and none before all are spawned.

`Sound` collects these facts, and `Reachable.sound` says that every state of a run has them. -/

namespace LoginLoad
namespace Run

variable {σ δ : Type}

/-- The share of a user in the senders of the channel. -/
def sendersOf (u : User) : Nat := if u.isEnded then 0 else 1

/-- What the channel, the reporter, the users and the driver know of each other. -/
structure Sound (sc : Scenario σ) (capacity : Nat) (s : Run σ δ) : Prop where
  capacity_eq : s.site.channel.capacity = capacity
  held_le : s.site.channel.held ≤ s.site.channel.capacity
  size_le : s.users.size ≤ sc.config.users
  size_eq : s.isSpawning = false → s.users.size = sc.config.users
  senders_eq : s.site.channel.senders = (if s.isSpawning then 1 else 0) + s.total sendersOf
  isOpen_eq : s.site.channel.isOpen = !s.desk.isStopped
  drained : ∀ r, s.desk = .stopped r none → s.site.channel.isExhausted = true
  joined_nodup : s.joined.Nodup
  joined_ended : ∀ rank ∈ s.joined, ∃ u, s.users[rank]? = some u ∧ u.isEnded = true
  joined_nil : s.isSpawning = true → s.joined = []

variable {sc : Scenario σ} {capacity : Nat} {s t : Run σ δ}

namespace Sound

/-- Where no sender is left the driver has let its own go and every user is at its end. -/
theorem ended_of_drained (h : s.Sound sc capacity) (hx : s.site.channel.isExhausted = true) :
    s.isSpawning = false ∧
      ∀ (rank : Nat) (u : User), s.users[rank]? = some u → u.isEnded = true := by
  have hs := h.senders_eq
  rw [((Channel.isExhausted_iff _).mp hx).2] at hs
  refine ⟨?_, ?_⟩
  · cases hsp : s.isSpawning with
    | false => rfl
    | true =>
        rw [hsp] at hs
        simp only [if_true] at hs
        omega
  · intro rank u hu
    have h0 : s.total sendersOf = 0 := by omega
    have hu0 : sendersOf u = 0 := total_eq_zero_iff.mp h0 rank u hu
    cases he : u.isEnded with
    | true => rfl
    | false => simp [sendersOf, he] at hu0

/-- The reporter does not end by itself as long as the driver spawns. -/
theorem not_drained (h : s.Sound sc capacity) (hsp : s.isSpawning = true) {r : Reporter δ} :
    s.desk ≠ .stopped r none := by
  intro hd
  have := (h.ended_of_drained (h.drained r hd)).1
  rw [hsp] at this
  cases this

theorem joined_subset (h : s.Sound sc capacity) : s.joined ⊆ List.range s.users.size := by
  intro rank hr
  obtain ⟨u, hu, _⟩ := h.joined_ended rank hr
  exact List.mem_range.mpr (Array.getElem?_eq_some_iff.mp hu).1

theorem start {service : σ} {out : δ} :
    (Run.start sc capacity service out).Sound sc capacity where
  capacity_eq := rfl
  held_le := Nat.zero_le _
  size_le := Nat.zero_le _
  size_eq h := by cases h
  senders_eq := rfl
  isOpen_eq := rfl
  drained r h := by cases h
  joined_nodup := List.nodup_nil
  joined_ended rank h := by cases h
  joined_nil _ := rfl

/-- A move of a user, or the abort of one, that was not at its end. -/
theorem withUser {rank : Nat} {u v : User} {site : Site σ} (h : s.Sound sc capacity)
    (hu : s.users[rank]? = some u) (hn : u.isEnded = false)
    (hc : (v.isEnded = false ∧ site.channel = s.site.channel) ∨
      (v.isEnded = false ∧ ∃ o, s.site.channel.hasRoom = true ∧
        site.channel = s.site.channel.push o) ∨
      (v.isEnded = true ∧ site.channel = s.site.channel.dropSender)) :
    ({ s with site }.withUser rank v).Sound sc capacity := by
  have htotal : ({ s with site }.withUser rank v).total sendersOf + 1 =
      s.total sendersOf + sendersOf v := by
    have := total_withUser (s := { s with site }) (v := v) (f := sendersOf) hu
    rwa [show sendersOf u = 1 by simp [sendersOf, hn]] at this
  have hsize : ({ s with site }.withUser rank v).users.size = s.users.size := by
    simp [Run.withUser]
  have hundrained : s.site.channel.isExhausted ≠ true := by
    intro hx
    rw [(h.ended_of_drained hx).2 rank u hu] at hn
    cases hn
  refine {
    capacity_eq := ?_
    held_le := ?_
    size_le := hsize ▸ h.size_le
    size_eq := fun hsp => hsize ▸ h.size_eq hsp
    senders_eq := ?_
    isOpen_eq := ?_
    drained := fun r hd => absurd (h.drained r hd) hundrained
    joined_nodup := h.joined_nodup
    joined_ended := ?_
    joined_nil := h.joined_nil }
  · show site.channel.capacity = capacity
    rcases hc with ⟨_, hc⟩ | ⟨_, o, _, hc⟩ | ⟨_, hc⟩ <;> rw [hc] <;> exact h.capacity_eq
  · show site.channel.held ≤ site.channel.capacity
    rcases hc with ⟨_, hc⟩ | ⟨_, o, hr, hc⟩ | ⟨_, hc⟩ <;> rw [hc]
    · exact h.held_le
    · rw [Channel.held_push]
      exact (Channel.hasRoom_iff _).mp hr
    · exact h.held_le
  · show site.channel.senders = (if s.isSpawning then 1 else 0) + _
    have hs := h.senders_eq
    rcases hc with ⟨hv, hc⟩ | ⟨hv, o, _, hc⟩ | ⟨hv, hc⟩ <;>
      simp only [sendersOf, hv, hc, Channel.push, Channel.dropSender, Bool.false_eq_true, if_false,
        if_true] at htotal ⊢ <;> omega
  · show site.channel.isOpen = !s.desk.isStopped
    rcases hc with ⟨_, hc⟩ | ⟨_, o, _, hc⟩ | ⟨_, hc⟩ <;> rw [hc] <;> exact h.isOpen_eq
  · intro i hi
    obtain ⟨w, hw, he⟩ := h.joined_ended i hi
    refine ⟨w, ?_, he⟩
    rw [getElem?_withUser (s := { s with site }) hu]
    split
    · rename_i heq
      rw [heq, hu] at hw
      cases hw
      rw [hn] at he
      cases he
    · exact hw

variable [Device δ]

/-- Every step keeps these facts. -/
theorem stepped (h : s.Sound sc capacity) (hs : Stepped sc s t) : t.Sound sc capacity := by
  cases hs with
  | spawned hsp hlt =>
      refine { h with
        size_le := ?_
        size_eq := fun hf => absurd (hsp.symm.trans hf) (by decide)
        senders_eq := ?_
        drained := ?_
        joined_ended := ?_ }
      · simpa [Run.spawned, Nat.succ_le_iff] using hlt
      · show s.site.channel.senders + 1 = (if s.isSpawning then 1 else 0) + _
        rw [total_spawned, h.senders_eq]
        simp only [sendersOf, User.isEnded, Bool.false_eq_true, if_false]
        omega
      · exact fun r hd => absurd hd (h.not_drained hsp)
      · intro rank hr
        have hr : rank ∈ s.joined := hr
        rw [h.joined_nil hsp] at hr
        cases hr
  | released hsp heq =>
      refine { h with
        size_eq := fun _ => heq
        senders_eq := ?_
        drained := ?_
        joined_nil := fun hf => by cases hf }
      · show s.site.channel.senders - 1 = 0 + s.total sendersOf
        rw [h.senders_eq, hsp, if_pos rfl]
        omega
      · exact fun r hd => absurd hd (h.not_drained hsp)
  | moved hu hm =>
      refine h.withUser hu hm.not_ended ?_
      rcases hm.channel with hc | ⟨hv, o, _, _, _, hr, hc⟩ | hc
      · exact .inl hc
      · exact .inr (.inl ⟨hv, o, hr, hc⟩)
      · exact .inr (.inr hc)
  | cancelled hu _ hn => exact h.withUser hu hn (.inr (.inr ⟨rfl, rfl⟩))
  | took hd ht =>
      obtain ⟨hq, hc⟩ := Channel.take?_eq_some ht
      have hopen := h.isOpen_eq
      have hheld := h.held_le
      rw [hd] at hopen
      simp only [Channel.held, hq, List.length_cons] at hheld
      refine { h with
        capacity_eq := ?_
        held_le := ?_
        senders_eq := ?_
        isOpen_eq := ?_
        drained := fun r hr => by cases hr }
      · rw [hc]
        exact h.capacity_eq
      · rw [hc]
        simp only [Channel.held]
        omega
      · rw [hc]
        exact h.senders_eq
      · rw [hc]
        exact hopen
  | wrote hd hr =>
      have hopen := h.isOpen_eq
      rw [hd] at hopen
      exact { h with isOpen_eq := hopen, drained := fun r hr => by cases hr }
  | failed hd hr =>
      exact { h with isOpen_eq := rfl, drained := fun r hr => by cases hr }
  | closed hd hx => exact { h with isOpen_eq := rfl, drained := fun r hr => hx }
  | @joined rank u error hsp hu hp hj =>
      refine { h with
        joined_nodup := ?_
        joined_ended := ?_
        joined_nil := fun hf => absurd (hf.symm.trans hsp) (by decide) }
      · exact List.nodup_append.mpr ⟨h.joined_nodup, by simp, by
          intro a ha b hb hab
          rw [hab, List.mem_singleton.mp hb] at ha
          exact hj ha⟩
      · intro i hi
        rcases List.mem_append.mp hi with hi | hi
        · exact h.joined_ended i hi
        · rw [List.mem_singleton.mp hi]
          exact ⟨u, hu, by simp [User.isEnded, hp]⟩
  | @concluded r fault hd hsp hj hr =>
      have hc := s.channel_concluded r fault
      exact { h with
        capacity_eq := hc ▸ h.capacity_eq
        held_le := hc ▸ h.held_le
        senders_eq := hc ▸ h.senders_eq
        isOpen_eq := hc ▸ h.isOpen_eq
        drained := fun r hd => hc ▸ h.drained r hd }

end Sound

/-- Every state of a run is sound. -/
theorem Reachable.sound [Device δ] {service : σ} {out : δ}
    (h : Reachable sc capacity service out s) : s.Sound sc capacity :=
  h.induction .start fun _ hs ih => ih.stepped hs

end Run
end LoginLoad
