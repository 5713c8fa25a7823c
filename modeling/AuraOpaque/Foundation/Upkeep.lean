import AuraOpaque.Foundation.Ownership

/-!
# Objects stay in order

A program keeps the objects in order when every step leaves the objects whose
flags it has taken as they should be, given that it found them so, and creates
and disposes of objects as it should.  Calls of such programs may be interleaved
in any way: every object that is there is in order, and what is left of one that
is gone is what its disposal left.
-/

namespace AuraOpaque.Foundation

variable {κ δ ρ ι γ ω : Type} [DecidableEq κ]

/-- What an object should be like while it is there, and what is left of it afterwards. -/
structure Upkeep (κ γ : Type) where
  good : Handle κ → γ → Prop
  gone : Handle κ → γ → Prop

namespace Program

/-- The objects behind the handles that a call has taken are in order. -/
def Tended (O : Objects κ δ γ ω) (U : Upkeep κ γ) (held : List (Handle κ)) (data : δ) : Prop :=
  ∀ h ∈ held, U.good h (O.object h data)

/-- Every step leaves what is held in order, and may rely on having found it so. -/
def Tends (O : Objects κ δ γ ω) (U : Upkeep κ γ) : Program κ δ ρ ρ → List (Handle κ) → Prop
  | .ret _, _ => True
  | .exit _, _ => True
  | .acquire h next, held => Tends O U (next true) (h :: held) ∧ Tends O U (next false) held
  | .release h next, held => Tends O U next (held.erase h)
  | .act step next, held => ∀ data, Tended O U held data →
      Tended O U held (step data).2 ∧
        match (step data).1 with
        | .ok b => Tends O U (next b) held
        | .error _ => True
  | .load _ next, held => ∀ address, Tends O U (next address) held
  | .clear _ next, held => Tends O U next held
  | .claim _ next, held => ∀ taken, Tends O U (next taken) held
  | .publish slot create next, held =>
      (∀ address data, U.good ⟨slot.kind, address⟩
        (O.object ⟨slot.kind, address⟩ (create address data))) ∧ Tends O U next held
  | .dispose h wipe next, held => (∀ data, U.gone h (O.object h (wipe data))) ∧ Tends O U next held

theorem Tends.of_code {O : Objects κ δ γ ω} {U : Upkeep κ γ} {p : Program κ δ ρ ρ} {code : ρ}
    (hcode : p.code = some code) (held : List (Handle κ)) : p.Tends O U held := by
  cases p with
  | ret c => trivial
  | exit c => trivial
  | _ => cases hcode

end Program

/-! ## Steps -/

section Steps

variable {O : Objects κ δ γ ω} {U : Upkeep κ γ} {r r' : Running κ δ ρ} {s s' : Shared κ δ}
  {e : Event κ ρ} {h : Handle κ}

/-- Every object that is there is in order. -/
def Shared.InOrder (O : Objects κ δ γ ω) (U : Upkeep κ γ) (s : Shared κ δ) : Prop :=
  ∀ h, s.live h = true → U.good h (O.object h s.data)

theorem Moves.tends (hmove : Moves r s e r' s') (hr : r.program.Tends O U r.guards)
    (htended : Program.Tended O U r.guards s.data) : r'.program.Tends O U r'.guards := by
  cases hmove with
  | acquire => exact hr.1
  | busy => exact hr.2
  | release => exact hr
  | @act β step next b guards claim s data hstep =>
      have hnext := (hr s.data htended).2
      rw [hstep] at hnext
      exact hnext
  | fail => trivial
  | load => exact hr _
  | clear => exact hr
  | claim => exact hr true
  | refused => exact hr false
  | publish => exact hr.2
  | dispose => exact hr.2
  | drop hcode => exact .of_code hcode _

theorem Moves.inOrder (hmove : Moves r s e r' s') (hr : r.program.Tends O U r.guards)
    (hkeeps : r.program.KeepsTo O r.guards) (hheld : ∀ h ∈ r.guards, s.live h = true)
    (hs : s.InOrder O U) : s'.InOrder O U := by
  have htended : Program.Tended O U r.guards s.data := fun h hmem => hs h (hheld h hmem)
  cases hmove with
  | @act β step next b guards claim s data hstep =>
      have hafter := (hr s.data htended).1
      intro h hlive
      by_cases hmem : h ∈ guards
      · have hgood := hafter h hmem
        rwa [hstep] at hgood
      · have hsame := hkeeps.1.writes s.data h hmem
        rw [hstep] at hsame
        exact hsame ▸ hs h hlive
  | @fail β step next code guards claim s data hstep =>
      have hafter := (hr s.data htended).1
      intro h hlive
      by_cases hmem : h ∈ guards
      · have hgood := hafter h hmem
        rwa [hstep] at hgood
      · have hsame := hkeeps.1.writes s.data h hmem
        rw [hstep] at hsame
        exact hsame ▸ hs h hlive
  | @publish slot create next guards claim s address hne hfresh =>
      intro h hlive
      by_cases hh : h = ⟨slot.kind, address⟩
      · subst hh
        exact hr.1 address s.data
      · rw [Shared.publish_live_of_ne hh] at hlive
        exact (hkeeps.1 address s.data h hh).symm ▸ hs h hlive
  | @dispose h' wipe next guards s =>
      intro h hlive
      by_cases hh : h = h'
      · subst hh
        rw [Shared.dispose_live_self] at hlive
        cases hlive
      · rw [Shared.dispose_live_of_ne hh] at hlive
        exact (hkeeps.1 s.data h hh).symm ▸ hs h hlive
  | _ => exact hs

/-- What is left of an object that is gone stays as it is, unless the address is used again. -/
theorem Moves.remains (hmove : Moves r s e r' s') (hkeeps : r.program.KeepsTo O r.guards)
    (hheld : ∀ h ∈ r.guards, s.live h = true) (he : e ≠ .freed h) (hgone : s.live h = false)
    (hgone' : s'.live h = false) : O.object h s'.data = O.object h s.data := by
  have hout : h ∉ r.guards := by
    intro hmem
    rw [hheld h hmem] at hgone
    cases hgone
  cases hmove with
  | @act β step next b guards claim s data hstep =>
      have hsame := hkeeps.1.writes s.data h hout
      rwa [hstep] at hsame
  | @fail β step next code guards claim s data hstep =>
      have hsame := hkeeps.1.writes s.data h hout
      rwa [hstep] at hsame
  | @publish slot create next guards claim s address hne hfresh =>
      by_cases hh : h = ⟨slot.kind, address⟩
      · subst hh
        rw [Shared.publish_live_self] at hgone'
        cases hgone'
      · exact hkeeps.1 address s.data h hh
  | @dispose h' wipe next guards s =>
      have hh : h ≠ h' := by
        rintro rfl
        exact he rfl
      exact hkeeps.1 s.data h hh
  | _ => rfl

theorem Moves.disposed (hmove : Moves r s (.freed h) r' s') (hr : r.program.Tends O U r.guards) :
    U.gone h (O.object h s'.data) := by
  cases hmove with
  | dispose => exact hr.1 s.data

theorem Moves.live_of_gone (hmove : Moves r s e r' s') (he : e ≠ .freed h)
    (hgone : s'.live h = false) : s.live h = false := by
  by_contra hne
  rw [Bool.not_eq_false] at hne
  rw [hmove.live_kept hne he] at hgone
  cases hgone

end Steps

/-! ## Runs -/

section Runs

variable [DecidableEq ι] {O : Objects κ δ γ ω} {U : Upkeep κ γ} {calls : Calls ι κ δ ρ}
  {Q : ι → ρ → Ghost κ → Prop} {start pool : Pool ι κ δ ρ} {history : List (Label ι κ δ ρ)}

/-- The objects of a run, those that are there and those that it disposed of. -/
structure Kept (O : Objects κ δ γ ω) (U : Upkeep κ γ) (history : List (Label ι κ δ ρ))
    (s : Shared κ δ) : Prop where
  good : s.InOrder O U
  gone : ∀ l ∈ history, ∀ h, l.event = .freed h → s.live h = false → U.gone h (O.object h s.data)

omit [DecidableEq κ] [DecidableEq ι] in
/-- A step that leaves everything as it is. -/
theorem Kept.later {s : Shared κ δ} {l : Label ι κ δ ρ} (hkept : Kept O U history s)
    (he : ∀ h, l.event ≠ .freed h) : Kept O U (history ++ [l]) s where
  good := hkept.good
  gone l' hl' h hfreed := by
    rcases mem_snoc.mp hl' with hold | rfl
    · exact hkept.gone l' hold h hfreed
    · exact absurd hfreed (he h)

theorem run_kept (hstart : start.Quiet) (hgood : start.shared.InOrder O U)
    (horderly : ∀ history pool, Run (Interleaves calls) start history pool →
      Orderly calls Q history pool)
    (hkeeps : ∀ i, (calls.program i).KeepsTo O [])
    (htends : ∀ i, (calls.program i).Tends O U [])
    (hrun : Run (Interleaves calls) start history pool) :
    Kept O U history pool.shared ∧
      ∀ i r, pool.status i = .running r → r.program.Tends O U r.guards := by
  induction hrun with
  | nil =>
      refine ⟨⟨hgood, nofun⟩, fun i r hr => ?_⟩
      rw [hstart.pending i] at hr
      cases hr
  | @snoc history pool pool' l hrun hlast ih =>
      obtain ⟨hkept, hrunning⟩ := ih
      cases hlast with
      | @start i hpending hslot =>
          refine ⟨hkept.later nofun, fun j r hr => ?_⟩
          rcases Pool.running_set hr with ⟨rfl, rfl⟩ | ⟨-, hold⟩
          · exact htends j
          · exact hrunning j r hold
      | @finish i program claim code hi hcode =>
          refine ⟨hkept.later nofun, fun j r hr => ?_⟩
          rw [Pool.status_set] at hr
          split at hr
          · cases hr
          · exact hrunning j r hr
      | @move i r e r' s' hi hmove =>
          have o := horderly _ _ hrun
          have hr := hrunning i r hi
          have hlocal := run_keepsTo hstart hkeeps hrun hi
          have hheld : ∀ h ∈ r.guards, pool.shared.live h = true := by
            intro h hmem
            refine o.heldLive i h ?_
            rw [hi]
            exact Running.holds_of_mem hmem
          refine ⟨⟨hmove.inOrder hr hlocal hheld hkept.good, fun l' hl' h hfreed hgone => ?_⟩,
            fun j g hg => ?_⟩
          · by_cases he : e = .freed h
            · subst he
              exact hmove.disposed hr
            · have hbefore := hmove.live_of_gone he hgone
              change U.gone h (O.object h s'.data)
              rw [hmove.remains hlocal hheld he hbefore hgone]
              rcases mem_snoc.mp hl' with hold | rfl
              · exact hkept.gone l' hold h hfreed hbefore
              · exact absurd hfreed he
          · rcases Pool.running_set hg with ⟨rfl, rfl⟩ | ⟨-, hold⟩
            · exact hmove.tends hr fun h hmem => hkept.good h (hheld h hmem)
            · exact hrunning j g hold

end Runs

end AuraOpaque.Foundation
