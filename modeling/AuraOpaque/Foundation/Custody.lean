import AuraOpaque.Foundation.Interleaving

/-!
# Who holds which flag

The invariant of all interleavings of calls with outlines: a flag that is set
has one holder, what is held is live, a slot points to an object of its own, and
a call that has returned holds nothing.
-/

namespace AuraOpaque.Foundation

variable {κ δ ρ ι : Type}

/-! ## The invariant -/

variable [DecidableEq ι]

theorem Pool.status_set (pool : Pool ι κ δ ρ) (i j : ι) (status : Status κ δ ρ)
    (shared : Shared κ δ) :
    (pool.set i status shared).status j = if j = i then status else pool.status j := by
  simp [Pool.set, Function.update_apply]

theorem Pool.set_set {pool : Pool ι κ δ ρ} {i : ι} {status status' : Status κ δ ρ}
    {s s' : Shared κ δ} : (pool.set i status s).set i status' s' = pool.set i status' s' := by
  unfold Pool.set
  rw [Function.update_idem]

theorem Pool.set_self {pool : Pool ι κ δ ρ} {i : ι} {status : Status κ δ ρ} {s : Shared κ δ}
    (hi : pool.status i = status) (hs : pool.shared = s) : pool.set i status s = pool := by
  unfold Pool.set
  rw [← hi, ← hs, Function.update_eq_self]

theorem Pool.running_set {pool : Pool ι κ δ ρ} {i j : ι} {r r' : Running κ δ ρ}
    {shared : Shared κ δ} (h : (pool.set i (.running r) shared).status j = .running r') :
    (j = i ∧ r = r') ∨ (j ≠ i ∧ pool.status j = .running r') := by
  rw [Pool.status_set] at h
  by_cases hji : j = i
  · rw [if_pos hji] at h
    cases h
    exact .inl ⟨hji, rfl⟩
  · rw [if_neg hji] at h
    exact .inr ⟨hji, h⟩

def handlesOf (f : Event κ ρ → Option (Handle κ)) (history : List (Label ι κ δ ρ)) (i : ι) :
    List (Handle κ) :=
  history.filterMap fun l => if l.call = i then f l.event else none

omit [DecidableEq ι] in
/-- A step of another call adds nothing to what is known of the steps of one call. -/
theorem own_snoc {j : ι} {R : Label ι κ δ ρ → Prop} (h : ∀ l' ∈ history, l'.call = j → R l')
    (hl : l.call ≠ j) : ∀ l' ∈ history ++ [l], l'.call = j → R l' := by
  intro l' hl' hcall
  rcases mem_snoc.mp hl' with hl' | rfl
  · exact h l' hl' hcall
  · exact absurd hcall hl

theorem handlesOf_snoc (f : Event κ ρ → Option (Handle κ)) (history : List (Label ι κ δ ρ))
    (l : Label ι κ δ ρ) (i : ι) :
    handlesOf f (history ++ [l]) i =
      handlesOf f history i ++ if l.call = i then (f l.event).toList else [] := by
  unfold handlesOf
  rw [List.filterMap_append]
  by_cases hi : l.call = i
  · cases hf : f l.event <;> simp [hi, hf]
  · simp [hi]

def Claim.freed? : Claim κ → Option (Handle κ)
  | .freed h => some h
  | _ => Option.none

variable [DecidableEq κ]

def Status.holds : Status κ δ ρ → Handle κ → ℕ
  | .running r, h => r.holds h
  | _, _ => 0

variable {calls : Calls ι κ δ ρ} {Q : ι → ρ → Ghost κ → Prop} {pool pool' start : Pool ι κ δ ρ}
  {history : List (Label ι κ δ ρ)} {l : Label ι κ δ ρ}

/-- The outline of a running call, and its past. -/
structure Outlined (calls : Calls ι κ δ ρ) (Q : ι → ρ → Ghost κ → Prop)
    (history : List (Label ι κ δ ρ)) (i : ι) (r : Running κ δ ρ) (s : Shared κ δ)
    (g : Ghost κ) : Prop where
  outline : Outline (calls.slot i) (Q i) r.program g
  fits : g.Fits (calls.slot i) r s
  records : ∀ l ∈ history, l.call = i → g.Records l.before l.after
  freed : handlesOf Event.freed? history i = r.claim.freed?.toList

structure Returned (calls : Calls ι κ δ ρ) (Q : ι → ρ → Ghost κ → Prop)
    (history : List (Label ι κ δ ρ)) (i : ι) (code : ρ) (s : Shared κ δ) (g : Ghost κ) :
    Prop where
  post : Q i code g
  content : g.content = s.content (calls.slot i)
  records : ∀ l ∈ history, l.call = i → g.Records l.before l.after
  freed : handlesOf Event.freed? history i = g.claim.freed?.toList

/-- What every step keeps. -/
structure Orderly (calls : Calls ι κ δ ρ) (Q : ι → ρ → Ghost κ → Prop)
    (history : List (Label ι κ δ ρ)) (pool : Pool ι κ δ ρ) : Prop where
  apart : ∀ i j r r' k, pool.status i = .running r → pool.status j = .running r' →
    calls.slot i = some k → calls.slot j = some k → i = j
  pending : ∀ i, pool.status i = .pending → ∀ l ∈ history, l.call ≠ i
  outlined : ∀ i r, pool.status i = .running r →
    ∃ g, Outlined calls Q history i r pool.shared g
  single : ∀ i h, (pool.status i).holds h ≤ 1
  exclusive : ∀ i j h, 0 < (pool.status i).holds h → 0 < (pool.status j).holds h → i = j
  flags : ∀ h, pool.shared.live h = true →
    (pool.shared.inUse h = true ↔ ∃ i, 0 < (pool.status i).holds h)
  heldLive : ∀ i h, 0 < (pool.status i).holds h → pool.shared.live h = true
  slotsLive : ∀ k, pool.shared.slots k ≠ 0 →
    pool.shared.live ⟨k.kind, pool.shared.slots k⟩ = true
  slotsApart : ∀ k k', k.kind = k'.kind → pool.shared.slots k ≠ 0 →
    pool.shared.slots k = pool.shared.slots k' → k = k'
  claims : ∀ i r h k, pool.status i = .running r → r.claim = .taken h → k.kind = h.kind →
    pool.shared.slots k ≠ 0 → pool.shared.slots k = h.address → calls.slot i = some k
  balance : ∀ i h, (handlesOf Event.acquired? history i).count h =
    (handlesOf Event.released? history i).count h +
      (handlesOf Event.freed? history i).count h + (pool.status i).holds h
  disposals : ∀ l ∈ history, ∀ h, l.event = .freed h →
    l.before.live h = true ∧ l.after.live h = false
  returned : ∀ l ∈ history, ∀ code, l.event = .returned code →
    pool.status l.call = .returned code ∧ ∃ g, Returned calls Q history l.call code l.after g

namespace Orderly

variable {i : ι} {r r' : Running κ δ ρ} {e : Event κ ρ} {s' : Shared κ δ}

theorem not_held (o : Orderly calls Q history pool) {h : Handle κ}
    (hlive : pool.shared.live h = true) (hfree : pool.shared.inUse h = false) (j : ι) :
    (pool.status j).holds h = 0 := by
  by_contra hne
  have hset := (o.flags h hlive).mpr ⟨j, Nat.pos_of_ne_zero hne⟩
  rw [hfree] at hset
  cases hset

/-- Only the call that moves comes to hold or gives up anything. -/
theorem holds_move (hrunning : pool.status i = .running r)
    (hmove : Moves r pool.shared e r' s') (j : ι) (h : Handle κ) :
    ((pool.set i (.running r') s').status j).holds h + (if j = i then e.gives h else 0) =
      (pool.status j).holds h + if j = i then e.takes h else 0 := by
  rw [Pool.status_set]
  by_cases hj : j = i
  · subst hj
    simp only [if_true, hrunning, Status.holds]
    exact hmove.balance h
  · simp only [if_neg hj, Nat.add_zero]

/-- A flag that is taken is the flag of a live object that nobody holds. -/
theorem acquired_live (o : Orderly calls Q history pool) (hrunning : pool.status i = .running r)
    (hmove : Moves r pool.shared e r' s') {h : Handle κ} (he : e = .acquired h) :
    pool.shared.live h = true ∧ ∀ j, (pool.status j).holds h = 0 := by
  obtain ⟨g, hg⟩ := o.outlined i r hrunning
  rcases hmove.shared_cases hg.outline hg.fits with
    ⟨h', heq, hfree, -, hlive⟩ | ⟨h', heq, -⟩ | ⟨h', -, heq, -⟩ | ⟨-, -, -, heq, -⟩ | ⟨heq, -⟩ <;>
    rw [heq] at he <;> cases he
  have hlive' : pool.shared.live h = true := by
    rcases hlive with ⟨hlive, -⟩ | ⟨-, k, -, hne, rfl⟩
    · exact hlive
    · exact o.slotsLive k hne
  exact ⟨hlive', o.not_held hlive' hfree⟩

theorem single_move (o : Orderly calls Q history pool) (hrunning : pool.status i = .running r)
    (hmove : Moves r pool.shared e r' s') (j : ι) (h : Handle κ) :
    ((pool.set i (.running r') s').status j).holds h ≤ 1 := by
  have hholds := holds_move hrunning hmove j h
  have hsingle := o.single j h
  by_cases htakes : e = .acquired h
  · have hzero := (o.acquired_live hrunning hmove htakes).2 j
    have hle : (if j = i then e.takes h else 0) ≤ 1 := by
      rw [htakes]
      split <;> simp [Event.takes]
    omega
  · have hzero : e.takes h = 0 := by
      cases e with
      | acquired h' => exact if_neg fun heq => htakes (congrArg _ heq)
      | _ => rfl
    rw [hzero, ite_self] at hholds
    omega

/-- Whoever holds a flag after the step held it before, or has just taken it. -/
theorem holds_of_move (hrunning : pool.status i = .running r)
    (hmove : Moves r pool.shared e r' s') {j : ι} {h : Handle κ}
    (hheld : 0 < ((pool.set i (.running r') s').status j).holds h) :
    0 < (pool.status j).holds h ∨ j = i ∧ e = .acquired h := by
  have hholds := holds_move hrunning hmove j h
  by_cases htakes : j = i ∧ e = .acquired h
  · exact .inr htakes
  · have hzero : (if j = i then e.takes h else 0) = 0 := by
      split
      · next hj =>
          cases e with
          | acquired h' => exact if_neg fun heq => htakes ⟨hj, congrArg _ heq⟩
          | _ => rfl
      · rfl
    exact .inl (by omega)

theorem exclusive_move (o : Orderly calls Q history pool) (hrunning : pool.status i = .running r)
    (hmove : Moves r pool.shared e r' s') {j k : ι} {h : Handle κ}
    (hj : 0 < ((pool.set i (.running r') s').status j).holds h)
    (hk : 0 < ((pool.set i (.running r') s').status k).holds h) : j = k := by
  rcases holds_of_move hrunning hmove hj with hheld | ⟨rfl, htaken⟩ <;>
    rcases holds_of_move hrunning hmove hk with hheld' | ⟨rfl, htaken'⟩
  · exact o.exclusive j k h hheld hheld'
  · have hzero := (o.acquired_live hrunning hmove htaken').2 j
    omega
  · have hzero := (o.acquired_live hrunning hmove htaken).2 k
    omega
  · rfl

theorem not_held_of_gives (o : Orderly calls Q history pool)
    (hrunning : pool.status i = .running r) (hmove : Moves r pool.shared e r' s')
    {h : Handle κ} (hgives : e.gives h = 1) (j : ι) :
    ((pool.set i (.running r') s').status j).holds h = 0 := by
  have htakes : e.takes h = 0 := by
    cases e with
    | acquired h' => cases hgives
    | _ => rfl
  have hown := holds_move hrunning hmove i h
  simp only [if_true, hgives, htakes] at hown
  have hi := o.single i h
  by_cases hj : j = i
  · subst hj
    omega
  · by_contra hne
    rcases holds_of_move hrunning hmove (Nat.pos_of_ne_zero hne) with hheld | ⟨hji, -⟩
    · exact hj (o.exclusive j i h hheld (by omega))
    · exact hj hji

/-- A step that neither takes nor gives up a flag leaves its holders alone. -/
theorem holds_of_untouched (hrunning : pool.status i = .running r)
    (hmove : Moves r pool.shared e r' s') {h : Handle κ} (htakes : e.takes h = 0)
    (hgives : e.gives h = 0) (j : ι) :
    ((pool.set i (.running r') s').status j).holds h = (pool.status j).holds h := by
  simpa [htakes, hgives] using holds_move hrunning hmove j h

theorem flags_move (o : Orderly calls Q history pool) (hrunning : pool.status i = .running r)
    (hmove : Moves r pool.shared e r' s') {h : Handle κ} (hlive : s'.live h = true) :
    s'.inUse h = true ↔ ∃ j, 0 < ((pool.set i (.running r') s').status j).holds h := by
  obtain ⟨g, hg⟩ := o.outlined i r hrunning
  rcases hmove.shared_cases hg.outline hg.fits with
    ⟨h', rfl, -, rfl, -⟩ | ⟨h', rfl, rfl, -⟩ | ⟨h', wipe, rfl, rfl, -⟩ |
    ⟨k, address, create, rfl, -, -, hfresh, rfl, -⟩ | ⟨rfl, hinUse, hlives, -⟩
  · by_cases hh : h' = h
    · subst hh
      have hown := holds_move hrunning hmove i h'
      simp only [if_true, Event.takes, Event.gives] at hown
      exact ⟨fun _ => ⟨i, by omega⟩, fun _ => Shared.lock_inUse_self⟩
    · simp only [holds_of_untouched hrunning hmove (if_neg hh) rfl,
        Shared.lock_inUse_of_ne (Ne.symm hh)]
      exact o.flags h hlive
  · by_cases hh : h' = h
    · subst hh
      have hnone := o.not_held_of_gives hrunning hmove (h := h') (if_pos rfl)
      simp [hnone]
    · simp only [holds_of_untouched hrunning hmove rfl (if_neg hh),
        Shared.unlock_inUse_of_ne (Ne.symm hh)]
      exact o.flags h hlive
  · have hh : h' ≠ h := by
      rintro rfl
      rw [Shared.dispose_live_self] at hlive
      cases hlive
    simp only [holds_of_untouched hrunning hmove rfl (if_neg hh)]
    rw [Shared.dispose_live_of_ne (Ne.symm hh)] at hlive
    exact o.flags h hlive
  · by_cases hh : h = ⟨k.kind, address⟩
    · subst hh
      have hnone : ∀ j, (pool.status j).holds ⟨k.kind, address⟩ = 0 := by
        intro j
        by_contra hne
        have hheld := o.heldLive j _ (Nat.pos_of_ne_zero hne)
        rw [hfresh] at hheld
        cases hheld
      simp [holds_of_untouched hrunning hmove rfl rfl, hnone]
    · simp only [holds_of_untouched hrunning hmove rfl rfl, Shared.publish_inUse_of_ne hh]
      rw [Shared.publish_live_of_ne hh] at hlive
      exact o.flags h hlive
  · simp only [hinUse, holds_of_untouched hrunning hmove rfl rfl]
    exact o.flags h (hlives ▸ hlive)

theorem heldLive_move (o : Orderly calls Q history pool) (hrunning : pool.status i = .running r)
    (hmove : Moves r pool.shared e r' s') {j : ι} {h : Handle κ}
    (hheld : 0 < ((pool.set i (.running r') s').status j).holds h) : s'.live h = true := by
  have hbefore : pool.shared.live h = true := by
    rcases holds_of_move hrunning hmove hheld with hheld | ⟨-, htaken⟩
    · exact o.heldLive j h hheld
    · exact (o.acquired_live hrunning hmove htaken).1
  obtain ⟨g, hg⟩ := o.outlined i r hrunning
  rcases hmove.shared_cases hg.outline hg.fits with
    ⟨h', -, -, rfl, -⟩ | ⟨h', -, rfl, -⟩ | ⟨h', wipe, rfl, rfl, -⟩ |
    ⟨k, address, create, -, -, -, -, rfl, -⟩ | ⟨-, -, hlives, -⟩
  · exact hbefore
  · exact hbefore
  · by_cases hh : h' = h
    · have hnone := o.not_held_of_gives hrunning hmove (h := h) (if_pos hh) j
      omega
    · exact (Shared.dispose_live_of_ne (Ne.symm hh)).trans hbefore
  · by_cases hh : h = ⟨k.kind, address⟩
    · subst hh
      exact Shared.publish_live_self
    · exact (Shared.publish_live_of_ne hh).trans hbefore
  · rw [hlives]
    exact hbefore

omit [DecidableEq ι] in
theorem holds_of_taken {h : Handle κ} (hrunning : pool.status i = .running r)
    (hclaim : r.claim = .taken h) : 0 < (pool.status i).holds h := by
  rw [hrunning]
  simp [Status.holds, Running.holds, hclaim]

theorem slotsLive_move (o : Orderly calls Q history pool) (hrunning : pool.status i = .running r)
    (hmove : Moves r pool.shared e r' s') {k : Slot κ} (hne : s'.slots k ≠ 0) :
    s'.live ⟨k.kind, s'.slots k⟩ = true := by
  obtain ⟨g, hg⟩ := o.outlined i r hrunning
  rcases hmove.shared_cases hg.outline hg.fits with
    ⟨h', -, -, rfl, -⟩ | ⟨h', -, rfl, -⟩ | ⟨h', wipe, -, rfl, hclaim, -, hzero⟩ |
    ⟨k', address, create, -, -, -, -, rfl, -⟩ | ⟨-, -, hlives, -, hslots⟩
  · exact o.slotsLive k hne
  · exact o.slotsLive k hne
  · have hother : (⟨k.kind, pool.shared.slots k⟩ : Handle κ) ≠ h' := by
      rintro rfl
      have hslot := o.claims i r _ k hrunning hclaim rfl hne rfl
      rw [hslot] at hzero
      exact hne hzero
    exact (Shared.dispose_live_of_ne hother).trans (o.slotsLive k hne)
  · by_cases hk : k = k'
    · subst hk
      rw [Shared.publish_slots_self]
      exact Shared.publish_live_self
    · rw [Shared.publish_slots_of_ne hk] at hne ⊢
      by_cases hh : (⟨k.kind, pool.shared.slots k⟩ : Handle κ) = ⟨k'.kind, address⟩
      · rw [hh]
        exact Shared.publish_live_self
      · exact (Shared.publish_live_of_ne hh).trans (o.slotsLive k hne)
  · have hsame := (hslots k).resolve_right hne
    rw [hsame] at hne ⊢
    rw [hlives]
    exact o.slotsLive k hne

theorem slots_ne_fresh (o : Orderly calls Q history pool) {k k' : Slot κ} {address : ℕ}
    (hfresh : pool.shared.live ⟨k'.kind, address⟩ = false) (hkind : k.kind = k'.kind)
    (hne : pool.shared.slots k ≠ 0) : pool.shared.slots k ≠ address := by
  intro heq
  have hlive := o.slotsLive k hne
  rw [hkind, heq, hfresh] at hlive
  cases hlive

theorem slotsApart_move (o : Orderly calls Q history pool) (hrunning : pool.status i = .running r)
    (hmove : Moves r pool.shared e r' s') {k k' : Slot κ} (hkind : k.kind = k'.kind)
    (hne : s'.slots k ≠ 0) (heq : s'.slots k = s'.slots k') : k = k' := by
  obtain ⟨g, hg⟩ := o.outlined i r hrunning
  rcases hmove.shared_cases hg.outline hg.fits with
    ⟨h', -, -, rfl, -⟩ | ⟨h', -, rfl, -⟩ | ⟨h', wipe, -, rfl, -⟩ |
    ⟨k₀, address, create, -, -, haddress, hfresh, rfl, -⟩ | ⟨-, -, -, -, hslots⟩
  · exact o.slotsApart k k' hkind hne heq
  · exact o.slotsApart k k' hkind hne heq
  · exact o.slotsApart k k' hkind hne heq
  · by_cases hk : k = k₀
    · by_cases hk' : k' = k₀
      · rw [hk, hk']
      · rw [hk, Shared.publish_slots_self, Shared.publish_slots_of_ne hk'] at heq
        exact absurd heq.symm
          (o.slots_ne_fresh hfresh (by rw [← hk, hkind]) (heq ▸ haddress))
    · rw [Shared.publish_slots_of_ne hk] at heq hne
      by_cases hk' : k' = k₀
      · rw [hk', Shared.publish_slots_self] at heq
        exact absurd heq (o.slots_ne_fresh hfresh (by rw [← hk', hkind]) hne)
      · rw [Shared.publish_slots_of_ne hk'] at heq
        exact o.slotsApart k k' hkind hne heq
  · have hsame := (hslots k).resolve_right hne
    have hsame' := (hslots k').resolve_right (heq ▸ hne)
    rw [hsame] at hne heq
    rw [hsame'] at heq
    exact o.slotsApart k k' hkind hne heq

/-- Only the slot of the call that took it for good may still point to a handle. -/
theorem claims_move (o : Orderly calls Q history pool) (hrunning : pool.status i = .running r)
    (hmove : Moves r pool.shared e r' s') {j : ι} {r'' : Running κ δ ρ} {h : Handle κ} {k : Slot κ}
    (hj : (pool.set i (.running r') s').status j = .running r'') (hclaim : r''.claim = .taken h)
    (hkind : k.kind = h.kind) (hne : s'.slots k ≠ 0) (hslot : s'.slots k = h.address) :
    calls.slot j = some k := by
  -- what was taken for good before this step
  have hold : ∀ r₀, pool.status j = .running r₀ → r₀.claim = .taken h →
      pool.shared.slots k ≠ 0 → pool.shared.slots k = h.address → calls.slot j = some k :=
    fun r₀ hr₀ hclaim₀ => o.claims j r₀ h k hr₀ hclaim₀ hkind
  have hlive : 0 < ((pool.set i (.running r') s').status j).holds h :=
    holds_of_taken hj hclaim
  obtain ⟨g, hg⟩ := o.outlined i r hrunning
  have hbefore : r'.claim = r.claim → ∃ r₀, pool.status j = .running r₀ ∧ r₀.claim = .taken h := by
    intro hsame
    rcases Pool.running_set hj with ⟨rfl, rfl⟩ | ⟨-, hj⟩
    · exact ⟨r, hrunning, hsame ▸ hclaim⟩
    · exact ⟨r'', hj, hclaim⟩
  rcases hmove.shared_cases hg.outline hg.fits with
    ⟨h', -, -, rfl, ⟨-, hsame⟩ | ⟨htaken, k', hk', hne', rfl⟩⟩ | ⟨h', -, rfl, hsame⟩ |
    ⟨h', wipe, -, rfl, -, hfreed, -⟩ | ⟨k₀, address, create, -, -, -, hfresh, rfl, hsame⟩ |
    ⟨-, -, -, hsame, hslots⟩
  · obtain ⟨r₀, hr₀, hclaim₀⟩ := hbefore hsame
    exact hold r₀ hr₀ hclaim₀ hne hslot
  · rcases Pool.running_set hj with ⟨rfl, rfl⟩ | ⟨-, hj⟩
    · rw [htaken] at hclaim
      cases hclaim
      rw [o.slotsApart k k' hkind hne hslot]
      exact hk'
    · exact hold r'' hj hclaim hne hslot
  · obtain ⟨r₀, hr₀, hclaim₀⟩ := hbefore hsame
    exact hold r₀ hr₀ hclaim₀ hne hslot
  · rcases Pool.running_set hj with ⟨rfl, rfl⟩ | ⟨-, hj⟩
    · rw [hfreed] at hclaim
      cases hclaim
    · exact hold r'' hj hclaim hne hslot
  · obtain ⟨r₀, hr₀, hclaim₀⟩ := hbefore hsame
    by_cases hk : k = k₀
    · subst hk
      rw [Shared.publish_slots_self] at hslot
      have hheld := o.heldLive j h (holds_of_taken hr₀ hclaim₀)
      have hh : h = ⟨k.kind, address⟩ := by
        cases h
        simp only [Handle.mk.injEq]
        exact ⟨hkind.symm, hslot.symm⟩
      rw [hh, hfresh] at hheld
      cases hheld
    · rw [Shared.publish_slots_of_ne hk] at hne hslot
      exact hold r₀ hr₀ hclaim₀ hne hslot
  · obtain ⟨r₀, hr₀, hclaim₀⟩ := hbefore hsame
    have hkept := (hslots k).resolve_right hne
    rw [hkept] at hne hslot
    exact hold r₀ hr₀ hclaim₀ hne hslot

theorem freed_move (hmove : Moves r pool.shared e r' s') {g : Ghost κ}
    (hg : Outlined calls Q history i r pool.shared g) :
    handlesOf Event.freed? (history ++ [⟨i, e, pool.shared, s'⟩]) i =
      r'.claim.freed?.toList := by
  rw [handlesOf_snoc, if_pos rfl, hg.freed]
  cases hmove <;> simp [Event.freed?, Claim.freed?]

theorem outlined_move (o : Orderly calls Q history pool) (hrunning : pool.status i = .running r)
    (hmove : Moves r pool.shared e r' s') {j : ι} {r'' : Running κ δ ρ}
    (hj : (pool.set i (.running r') s').status j = .running r'') :
    ∃ g, Outlined calls Q (history ++ [⟨i, e, pool.shared, s'⟩]) j r'' s' g := by
  rcases Pool.running_set hj with ⟨rfl, rfl⟩ | ⟨hji, hj⟩
  · obtain ⟨g, hg⟩ := o.outlined j r hrunning
    obtain ⟨g', houtline, hfits, hext, hrecords⟩ := hmove.outline hg.outline hg.fits
    refine ⟨g', houtline, hfits, ?_, freed_move hmove hg⟩
    intro l hl hcall
    rcases mem_snoc.mp hl with hl | rfl
    · exact (hg.records l hl hcall).mono hext
    · exact hrecords
  · obtain ⟨g, hg⟩ := o.outlined j r'' hj
    obtain ⟨gi, hgi⟩ := o.outlined i r hrunning
    refine ⟨g, hg.outline, ⟨?_, hg.fits.claim⟩, ?_, ?_⟩
    · rw [hg.fits.content]
      cases hslot : calls.slot j with
      | none => rfl
      | some k =>
          have hother : calls.slot i ≠ some k :=
            fun hk => hji (o.apart j i r'' r k hj hrunning hslot hk)
          exact (hmove.slots hgi.outline hother).symm
    · exact own_snoc hg.records (Ne.symm hji)
    · rw [handlesOf_snoc, if_neg (Ne.symm hji), List.append_nil, hg.freed]

theorem count_acquired? (e : Event κ ρ) (h : Handle κ) :
    e.acquired?.toList.count h = e.takes h := by
  cases e <;> simp [Event.acquired?, Event.takes, List.count_singleton]

theorem count_released_freed (e : Event κ ρ) (h : Handle κ) :
    e.released?.toList.count h + e.freed?.toList.count h = e.gives h := by
  cases e <;> simp [Event.released?, Event.freed?, Event.gives, List.count_singleton]

theorem balance_move (o : Orderly calls Q history pool) (hrunning : pool.status i = .running r)
    (hmove : Moves r pool.shared e r' s') (j : ι) (h : Handle κ) :
    (handlesOf Event.acquired? (history ++ [⟨i, e, pool.shared, s'⟩]) j).count h =
      (handlesOf Event.released? (history ++ [⟨i, e, pool.shared, s'⟩]) j).count h +
        (handlesOf Event.freed? (history ++ [⟨i, e, pool.shared, s'⟩]) j).count h +
          ((pool.set i (.running r') s').status j).holds h := by
  have hbefore := o.balance j h
  have hholds := holds_move hrunning hmove j h
  simp only [handlesOf_snoc, List.count_append]
  by_cases hji : j = i
  · subst hji
    have hacquired := count_acquired? e h
    have hgiven := count_released_freed e h
    simp only [if_true] at hholds ⊢
    omega
  · simp only [if_neg hji, if_neg (Ne.symm hji), List.count_nil] at hholds ⊢
    omega

omit [DecidableEq κ] in
/-- What is known of a returned call does not change when another call makes a step. -/
theorem returned_snoc {j : ι} {code : ρ} {s : Shared κ δ} {g : Ghost κ}
    (hg : Returned calls Q history j code s g) (hl : l.call ≠ j) :
    Returned calls Q (history ++ [l]) j code s g where
  post := hg.post
  content := hg.content
  records := own_snoc hg.records hl
  freed := by rw [handlesOf_snoc, if_neg hl, List.append_nil, hg.freed]

theorem disposals_move (o : Orderly calls Q history pool) (hrunning : pool.status i = .running r)
    {h : Handle κ} (hmove : Moves r pool.shared (.freed h) r' s') :
    pool.shared.live h = true ∧ s'.live h = false := by
  cases hmove with
  | dispose =>
      exact ⟨o.heldLive i h (holds_of_taken hrunning rfl), Shared.dispose_live_self⟩

theorem move (o : Orderly calls Q history pool) (hrunning : pool.status i = .running r)
    (hmove : Moves r pool.shared e r' s') :
    Orderly calls Q (history ++ [⟨i, e, pool.shared, s'⟩]) (pool.set i (.running r') s') where
  apart j j' r₁ r₂ k hj hj' hk hk' := by
    rcases Pool.running_set hj with ⟨rfl, -⟩ | ⟨-, hold⟩ <;>
      rcases Pool.running_set hj' with ⟨rfl, -⟩ | ⟨-, hold'⟩
    · rfl
    · exact o.apart j j' r r₂ k hrunning hold' hk hk'
    · exact o.apart j j' r₁ r k hold hrunning hk hk'
    · exact o.apart j j' r₁ r₂ k hold hold' hk hk'
  pending j hj := by
    rw [Pool.status_set] at hj
    split at hj
    · cases hj
    · next hji => exact own_snoc (o.pending j hj) (Ne.symm hji)
  outlined _ _ hj := o.outlined_move hrunning hmove hj
  single := o.single_move hrunning hmove
  exclusive _ _ _ := o.exclusive_move hrunning hmove
  flags _ := o.flags_move hrunning hmove
  heldLive _ _ := o.heldLive_move hrunning hmove
  slotsLive _ := o.slotsLive_move hrunning hmove
  slotsApart _ _ := o.slotsApart_move hrunning hmove
  claims _ _ _ _ := o.claims_move hrunning hmove
  balance := o.balance_move hrunning hmove
  disposals l hl h he := by
    rcases mem_snoc.mp hl with hl | rfl
    · exact o.disposals l hl h he
    · cases he
      exact o.disposals_move hrunning hmove
  returned l hl code he := by
    rcases mem_snoc.mp hl with hl | rfl
    · obtain ⟨hstatus, g, hg⟩ := o.returned l hl code he
      have hne : l.call ≠ i := by
        intro hi
        rw [hi, hrunning] at hstatus
        cases hstatus
      rw [Pool.status_set, if_neg hne]
      exact ⟨hstatus, g, returned_snoc hg (Ne.symm hne)⟩
    · cases he
      cases hmove

/-- A step of the call that leaves the shared state alone, and what its new status must bring. -/
theorem quiet {status : Status κ δ ρ} (o : Orderly calls Q history pool)
    (hevent : e.acquired? = none ∧ e.released? = none ∧ e.freed? = none)
    (hopen : ∀ code, pool.status i ≠ .returned code) (hstatus : status ≠ .pending)
    (hholds : ∀ h, status.holds h = (pool.status i).holds h)
    (hbegun : ∀ r, status = .running r → (∀ h, r.claim ≠ .taken h) ∧
      (∀ j r' k, pool.status j = .running r' → calls.slot i = some k → calls.slot j ≠ some k) ∧
      ∃ g, Outlined calls Q (history ++ [⟨i, e, pool.shared, pool.shared⟩]) i r pool.shared g)
    (hended : ∀ code, e = .returned code → status = .returned code ∧
      ∃ g, Returned calls Q (history ++ [⟨i, e, pool.shared, pool.shared⟩]) i code pool.shared g) :
    Orderly calls Q (history ++ [⟨i, e, pool.shared, pool.shared⟩])
      (pool.set i status pool.shared) := by
  have hset : ∀ j h, ((pool.set i status pool.shared).status j).holds h =
      (pool.status j).holds h := by
    intro j h
    rw [Pool.status_set]
    split
    · next hj => rw [hj, hholds]
    · rfl
  have hsame : ∀ f : Event κ ρ → Option (Handle κ), f e = none → ∀ j,
      handlesOf f (history ++ [⟨i, e, pool.shared, pool.shared⟩]) j = handlesOf f history j := by
    intro f hf j
    rw [handlesOf_snoc]
    simp [hf]
  obtain ⟨hacquired, hreleased, hfreed⟩ := hevent
  constructor
  · intro j j' r₁ r₂ k hj hj' hk hk'
    rw [Pool.status_set] at hj hj'
    split at hj <;> split at hj'
    · next h h' => rw [h, h']
    · next h _ => exact absurd hk' ((hbegun r₁ hj).2.1 j' r₂ k hj' (h ▸ hk))
    · next _ h' => exact absurd hk ((hbegun r₂ hj').2.1 j r₁ k hj (h' ▸ hk'))
    · exact o.apart j j' r₁ r₂ k hj hj' hk hk'
  · intro j hj
    rw [Pool.status_set] at hj
    split at hj
    · exact absurd hj hstatus
    · next hji => exact own_snoc (o.pending j hj) (Ne.symm hji)
  · intro j r hj
    rw [Pool.status_set] at hj
    split at hj
    · next hji => exact hji ▸ (hbegun r hj).2.2
    · next hji =>
        obtain ⟨g, hg⟩ := o.outlined j r hj
        refine ⟨g, hg.outline, ⟨hg.fits.content, hg.fits.claim⟩, ?_, ?_⟩
        · exact own_snoc hg.records (Ne.symm hji)
        · rw [hsame _ hfreed, hg.freed]
  · simp only [hset]
    exact o.single
  · simp only [hset]
    exact o.exclusive
  · simp only [hset]
    exact o.flags
  · simp only [hset]
    exact o.heldLive
  · exact o.slotsLive
  · exact o.slotsApart
  · intro j r h k hj hclaim hkind hne hslot
    rw [Pool.status_set] at hj
    split at hj
    · exact absurd hclaim ((hbegun r hj).1 h)
    · exact o.claims j r h k hj hclaim hkind hne hslot
  · intro j h
    rw [hsame _ hacquired, hsame _ hreleased, hsame _ hfreed, hset]
    exact o.balance j h
  · intro l hl h he
    rcases mem_snoc.mp hl with hl | rfl
    · exact o.disposals l hl h he
    · cases he
      cases hfreed
  · intro l hl code he
    rcases mem_snoc.mp hl with hl | rfl
    · obtain ⟨hreturned, g, hg⟩ := o.returned l hl code he
      have hne : l.call ≠ i := fun hi => hopen code (hi ▸ hreturned)
      rw [Pool.status_set, if_neg hne]
      exact ⟨hreturned, g, returned_snoc hg (Ne.symm hne)⟩
    · rw [Pool.status_set, if_pos rfl]
      exact hended code he

theorem begin (o : Orderly calls Q history pool) (hpending : pool.status i = .pending)
    (hslot : ∀ j r k, pool.status j = .running r → calls.slot i = some k → calls.slot j ≠ some k)
    (houtline : ∀ content, Outline (calls.slot i) (Q i) (calls.program i)
      ⟨content, .none, False, False⟩) :
    Orderly calls Q (history ++ [⟨i, .started, pool.shared, pool.shared⟩])
      (pool.set i (.running ⟨calls.program i, [], .none⟩) pool.shared) := by
  have hfresh : handlesOf Event.freed? history i = [] := by
    refine List.filterMap_eq_nil_iff.mpr fun l hl => ?_
    rw [if_neg (o.pending i hpending l hl)]
  refine o.quiet ⟨rfl, rfl, rfl⟩ (fun code => ?_) (by simp) (fun h => ?_) ?_
    fun code he => by cases he
  · rw [hpending]
    simp
  · rw [hpending]
    simp [Status.holds, Running.holds]
  · intro r hr
    cases hr
    refine ⟨fun h => by simp, hslot, _, houtline (pool.shared.content (calls.slot i)),
      ⟨rfl, rfl⟩, ?_, ?_⟩
    · intro l hl hcall
      rcases mem_snoc.mp hl with hl | rfl
      · exact absurd hcall (o.pending i hpending l hl)
      · exact .same rfl rfl rfl
    · rw [handlesOf_snoc, hfresh]
      simp [Event.freed?, Claim.freed?]

theorem finish (o : Orderly calls Q history pool) {program : Program κ δ ρ ρ} {claim : Claim κ}
    {code : ρ} (hrunning : pool.status i = .running ⟨program, [], claim⟩)
    (hcode : program.code = some code) :
    Orderly calls Q (history ++ [⟨i, .returned code, pool.shared, pool.shared⟩])
      (pool.set i (.returned code) pool.shared) := by
  obtain ⟨g, hg⟩ := o.outlined i _ hrunning
  obtain ⟨hclaim, hpost⟩ := hg.outline.of_code hcode
  have hsame : g.claim = claim := hg.fits.claim
  have hnone : ∀ h, claim ≠ .taken h := fun h => hsame ▸ hclaim h
  refine o.quiet ⟨rfl, rfl, rfl⟩ (fun code => ?_) (by simp) (fun h => ?_)
    (fun r hr => by cases hr) ?_
  · rw [hrunning]
    simp
  · rw [hrunning]
    simp [Status.holds, Running.holds, hnone h]
  · intro code' he
    cases he
    refine ⟨rfl, g, hpost, hg.fits.content, ?_, ?_⟩
    · intro l hl hcall
      rcases mem_snoc.mp hl with hl | rfl
      · exact hg.records l hl hcall
      · exact .same rfl rfl rfl
    · rw [handlesOf_snoc, hg.freed, hsame]
      simp [Event.freed?]

theorem step (o : Orderly calls Q history pool)
    (houtline : ∀ i content, Outline (calls.slot i) (Q i) (calls.program i)
      ⟨content, .none, False, False⟩)
    (hstep : Interleaves calls pool l pool') : Orderly calls Q (history ++ [l]) pool' := by
  cases hstep with
  | start hpending hslot => exact o.begin hpending hslot (houtline _)
  | move hrunning hmove => exact o.move hrunning hmove
  | finish hrunning hcode => exact o.finish hrunning hcode

end Orderly

theorem Pool.Quiet.orderly (h : start.Quiet) : Orderly calls Q [] start := by
  have hnone : ∀ i h', (start.status i).holds h' = 0 := by
    intro i h'
    rw [h.pending i]
    rfl
  constructor
  · intro i j r r' k hi
    rw [h.pending i] at hi
    cases hi
  · intro i _ l hl
    cases hl
  · intro i r hi
    rw [h.pending i] at hi
    cases hi
  · intro i h'
    rw [hnone]
    exact Nat.zero_le 1
  · intro i j h' hi
    rw [hnone] at hi
    cases hi
  · intro h' hlive
    simp [h.flags h' hlive, hnone]
  · intro i h' hi
    rw [hnone] at hi
    cases hi
  · exact h.slotsLive
  · exact h.slotsApart
  · intro i r h' k hi
    rw [h.pending i] at hi
    cases hi
  · intro i h'
    rw [hnone]
    rfl
  · intro l hl
    cases hl
  · intro l hl
    cases hl

/-- The invariant holds after any steps of calls that have outlines. -/
theorem run_orderly (hstart : start.Quiet)
    (houtline : ∀ i content, Outline (calls.slot i) (Q i) (calls.program i)
      ⟨content, .none, False, False⟩)
    (hrun : Run (Interleaves calls) start history pool) : Orderly calls Q history pool :=
  @Run.invariant _ _ _ start pool history (Orderly calls Q) hrun hstart.orderly
    fun _ _ _ _ o hstep => o.step houtline hstep

/-! ## What a returned call did with its flags -/

omit [DecidableEq ι] in
theorem Pool.holds_iff {i : ι} {h : Handle κ} : pool.Holds i h ↔ 0 < (pool.status i).holds h := by
  unfold Pool.Holds
  cases hstatus : pool.status i <;> simp [Status.holds]

/-- Every flag that a returned call took was given back, or its object is gone. -/
theorem Orderly.acquired_perm (o : Orderly calls Q history pool) (hl : l ∈ history) {code : ρ}
    (he : l.event = .returned code) :
    (handlesOf Event.acquired? history l.call).Perm
      (handlesOf Event.released? history l.call ++ handlesOf Event.freed? history l.call) := by
  obtain ⟨hstatus, -⟩ := o.returned l hl code he
  refine List.perm_iff_count.mpr fun h => ?_
  have hbalance := o.balance l.call h
  rw [hstatus] at hbalance
  simpa [Status.holds, List.count_append] using hbalance

/-- The program takes no flag under a guard. -/
def Program.Unguarded : Program κ δ ρ ρ → Prop
  | .ret _ => True
  | .exit _ => True
  | .acquire _ _ => False
  | .release _ _ => False
  | .act _ next => ∀ b, (next b).Unguarded
  | .load _ next => ∀ address, (next address).Unguarded
  | .clear _ next => next.Unguarded
  | .claim _ next => ∀ taken, (next taken).Unguarded
  | .publish _ _ next => next.Unguarded
  | .dispose _ _ next => next.Unguarded

theorem Moves.unguarded {r r' : Running κ δ ρ} {s s' : Shared κ δ} {e : Event κ ρ}
    (hmove : Moves r s e r' s') (hp : r.program.Unguarded) (hguards : r.guards = []) :
    r'.program.Unguarded ∧ r'.guards = [] ∧ e.released? = none := by
  cases hmove with
  | acquire => cases hp
  | busy => cases hp
  | release => cases hp
  | act => exact ⟨hp _, hguards, rfl⟩
  | fail => exact ⟨trivial, hguards, rfl⟩
  | load => exact ⟨hp _, hguards, rfl⟩
  | clear => exact ⟨hp, hguards, rfl⟩
  | claim => exact ⟨hp true, hguards, rfl⟩
  | refused => exact ⟨hp false, hguards, rfl⟩
  | publish => exact ⟨hp, hguards, rfl⟩
  | dispose => exact ⟨hp, hguards, rfl⟩
  | drop => cases hguards

/-- Such a call never gives a flag back. -/
theorem run_unguarded {i : ι} (hstart : start.Quiet) (hp : (calls.program i).Unguarded)
    (hrun : Run (Interleaves calls) start history pool) :
    (∀ r, pool.status i = .running r → r.program.Unguarded ∧ r.guards = []) ∧
      handlesOf Event.released? history i = [] := by
  refine @Run.invariant _ _ _ start pool history (fun history pool =>
    (∀ r, pool.status i = .running r → r.program.Unguarded ∧ r.guards = []) ∧
      handlesOf Event.released? history i = []) hrun ⟨?_, rfl⟩ ?_
  · intro r hr
    rw [hstart.pending i] at hr
    cases hr
  · rintro history pool l pool' ⟨hrunning, hnone⟩ hstep
    simp only [handlesOf_snoc, hnone, List.nil_append]
    cases hstep with
    | @start j hpending hslot =>
        refine ⟨fun r hr => ?_, by simp [Event.released?]⟩
        rw [Pool.status_set] at hr
        split at hr
        · next hij =>
            cases hr
            exact ⟨hij ▸ hp, rfl⟩
        · exact hrunning r hr
    | @move j r e r' s' hr hmove =>
        by_cases hij : i = j
        · subst hij
          obtain ⟨hprogram, hguards, hevent⟩ := hmove.unguarded (hrunning r hr).1 (hrunning r hr).2
          refine ⟨fun r'' hr'' => ?_, by simp [hevent]⟩
          rw [Pool.status_set, if_pos rfl] at hr''
          cases hr''
          exact ⟨hprogram, hguards⟩
        · refine ⟨fun r'' hr'' => ?_, by simp [Ne.symm hij]⟩
          rw [Pool.status_set, if_neg hij] at hr''
          exact hrunning r'' hr''
    | @finish j program claim code hr hcode =>
        refine ⟨fun r hr => ?_, by simp [Event.released?]⟩
        rw [Pool.status_set] at hr
        split at hr
        · cases hr
        · exact hrunning r hr

end AuraOpaque.Foundation
