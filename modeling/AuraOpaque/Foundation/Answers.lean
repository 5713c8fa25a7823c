import AuraOpaque.Foundation.Serial

/-!
# What calls answer

Every call ends with one of its own codes, or it found a flag set and says that
the handle is busy.  A handle is not busy for nothing: some other call that is
under way has it.  Which codes these are can depend on what is known of the data,
as long as all calls keep it so.
-/

namespace AuraOpaque.Foundation

variable {κ δ ρ ι : Type}

namespace Program

/--
The program tries no flag twice.  It gives up with `busy` where one is set, and
ends with a code in `codes` otherwise; the flags that it tries under a guard are
those of handles in `uses`.  All this where the data satisfies `inv`, as it does
again after every step.
-/
def Answers (inv : δ → Prop) (uses : Handle κ → Prop) (codes : ρ → Prop) (busy : ρ) :
    Program κ δ ρ ρ → List (Handle κ) → Prop
  | .ret code, _ => codes code
  | .exit code, _ => codes code
  | .acquire h next, tried => uses h ∧ h ∉ tried ∧ next false = .exit busy ∧
      Answers inv uses codes busy (next true) (h :: tried)
  | .release _ next, tried => Answers inv uses codes busy next tried
  | .act step next, tried => ∀ data, inv data → inv (step data).2 ∧
      match (step data).1 with
      | .ok b => Answers inv uses codes busy (next b) tried
      | .error code => codes code
  | .load _ next, tried => ∀ address, Answers inv uses codes busy (next address) tried
  | .clear _ next, tried => Answers inv uses codes busy next tried
  | .claim h next, tried => h ∉ tried ∧ next false = .exit busy ∧
      Answers inv uses codes busy (next true) (h :: tried)
  | .publish _ create next, tried =>
      (∀ address data, inv data → inv (create address data)) ∧
        Answers inv uses codes busy next tried
  | .dispose _ wipe next, tried =>
      (∀ data, inv data → inv (wipe data)) ∧ Answers inv uses codes busy next tried

variable {inv : δ → Prop} {uses : Handle κ → Prop} {codes : ρ → Prop} {busy : ρ}
  {p : Program κ δ ρ ρ} {tried : List (Handle κ)}

theorem Answers.of_code {code : ρ} (hp : p.Answers inv uses codes busy tried)
    (hcode : p.code = some code) : codes code := by
  cases p with
  | ret c =>
      cases hcode
      exact hp
  | exit c =>
      cases hcode
      exact hp
  | _ => cases hcode

/-- Nothing needs to be known of the data where every data satisfies the invariant. -/
theorem Answers.always (hp : p.Answers inv uses codes busy tried) (hinv : ∀ data, inv data) :
    p.Answers (fun _ => True) uses codes busy tried := by
  induction p generalizing tried with
  | ret code => exact hp
  | exit code => exact hp
  | acquire h next ih =>
      obtain ⟨huses, hout, hexit, hnext⟩ := hp
      exact ⟨huses, hout, hexit, ih true hnext⟩
  | release h next ih => exact ih hp
  | act step next ih =>
      intro data _
      have hnext := (hp data (hinv data)).2
      refine ⟨trivial, ?_⟩
      split at hnext
      · exact ih _ hnext
      · exact hnext
  | load slot next ih => exact fun address => ih address (hp address)
  | clear slot next ih => exact ih hp
  | claim h next ih =>
      obtain ⟨hout, hexit, hnext⟩ := hp
      exact ⟨hout, hexit, ih true hnext⟩
  | publish slot create next ih => exact ⟨fun _ _ _ => trivial, ih hp.2⟩
  | dispose h wipe next ih => exact ⟨fun _ _ => trivial, ih hp.2⟩

theorem Answers.avoids {h : Handle κ} (hp : p.Answers (fun _ => True) uses codes busy tried)
    (hh : ¬ uses h) : p.Avoids h := by
  induction p generalizing tried with
  | ret code => trivial
  | exit code => trivial
  | acquire h' next ih =>
      obtain ⟨huses, -, hexit, hnext⟩ := hp
      have hne : h' ≠ h := by
        rintro rfl
        exact hh huses
      refine ⟨hne, fun taken => ?_⟩
      cases taken with
      | false =>
          rw [hexit]
          trivial
      | true => exact ih true hnext
  | release h' next ih => exact ih hp
  | act step next ih =>
      intro data b hstep
      have hnext := (hp data trivial).2
      rw [hstep] at hnext
      exact ih b hnext
  | load slot next ih => exact fun address => ih address (hp address)
  | clear slot next ih => exact ih hp
  | claim h' next ih =>
      obtain ⟨-, hexit, hnext⟩ := hp
      intro taken
      cases taken with
      | false =>
          rw [hexit]
          trivial
      | true => exact ih true hnext
  | publish slot create next ih => exact ih hp.2
  | dispose h' wipe next ih => exact ih hp.2

end Program

/-! ## Steps -/

section Steps

variable [DecidableEq κ] {inv : δ → Prop} {uses : Handle κ → Prop} {codes : ρ → Prop} {busy : ρ}
  {r r' : Running κ δ ρ} {s s' : Shared κ δ} {e : Event κ ρ}

/-- A call on its way to an answer: what it has, it has tried. -/
def Running.Answers (inv : δ → Prop) (uses : Handle κ → Prop) (codes : ρ → Prop) (busy : ρ)
    (r : Running κ δ ρ) : Prop :=
  ∃ tried, r.program.Answers inv uses codes busy tried ∧ ∀ h, 0 < r.holds h → h ∈ tried

/-- The next step of the call tries a flag. -/
def Running.Tries (r : Running κ δ ρ) (h : Handle κ) : Prop :=
  (∃ next, r.program = .acquire h next) ∨ ∃ next, r.program = .claim h next

/-- The call finds a flag set that it does not have itself. -/
structure Running.Refused (uses : Handle κ → Prop) (r : Running κ δ ρ) (s : Shared κ δ)
    (h : Handle κ) : Prop where
  free : r.holds h = 0
  set : s.inUse h = true
  tries : r.Tries h
  used : uses h ∧ s.live h = true ∨ ∃ next, r.program = .claim h next

theorem Moves.holds_le (hmove : Moves r s e r' s') (h : Handle κ) :
    r'.holds h ≤ r.holds h + e.takes h := by
  have hbalance := hmove.balance h
  omega

/-- What a call has after a step that takes no flag it had before. -/
theorem Moves.tried_kept {tried : List (Handle κ)} (hmove : Moves r s e r' s')
    (htakes : ∀ h, e.takes h = 0) (hheld : ∀ h, 0 < r.holds h → h ∈ tried) :
    ∀ h, 0 < r'.holds h → h ∈ tried := by
  intro h hpos
  have hle := hmove.holds_le h
  have hzero := htakes h
  exact hheld h (by omega)

theorem Moves.tried_cons {tried : List (Handle κ)} {h' : Handle κ}
    (hmove : Moves r s (.acquired h') r' s') (hheld : ∀ h, 0 < r.holds h → h ∈ tried) :
    ∀ h, 0 < r'.holds h → h ∈ h' :: tried := by
  intro h hpos
  have hle := hmove.holds_le h
  by_cases hh : h' = h
  · subst hh
    exact List.mem_cons_self
  · have hzero : (Event.acquired h' : Event κ ρ).takes h = 0 := if_neg hh
    exact List.mem_cons_of_mem _ (hheld h (by omega))

theorem Running.holds_eq_zero {tried : List (Handle κ)} {h : Handle κ}
    (hheld : ∀ h, 0 < r.holds h → h ∈ tried) (hout : h ∉ tried) : r.holds h = 0 := by
  by_contra hne
  exact hout (hheld h (Nat.pos_of_ne_zero hne))

theorem Moves.upholds (hmove : Moves r s e r' s') (hr : r.Answers inv uses codes busy)
    (hinv : inv s.data) : inv s'.data := by
  obtain ⟨tried, hp, -⟩ := hr
  cases hmove with
  | @act β step next b guards claim s data hstep =>
      have hafter := (hp s.data hinv).1
      rwa [hstep] at hafter
  | @fail β step next code guards claim s data hstep =>
      have hafter := (hp s.data hinv).1
      rwa [hstep] at hafter
  | publish => exact hp.1 _ _ hinv
  | dispose => exact hp.1 _ hinv
  | _ => exact hinv

theorem Moves.answers (hmove : Moves r s e r' s') (hr : r.Answers inv uses codes busy)
    (hinv : inv s.data) :
    r'.Answers inv uses codes busy ∨ r'.program.code = some busy ∧ ∃ h, r.Refused uses s h := by
  obtain ⟨tried, hp, hheld⟩ := hr
  have hkept : (∀ h, e.takes h = 0) → ∀ h, 0 < r'.holds h → h ∈ tried :=
    fun htakes => hmove.tried_kept htakes hheld
  cases hmove with
  | acquire hlive hfree =>
      exact .inl ⟨_, hp.2.2.2, Moves.tried_cons (.acquire hlive hfree) hheld⟩
  | @busy h next guards claim s hlive hset =>
      obtain ⟨huses, hout, hexit, -⟩ := hp
      refine .inr ⟨by rw [hexit]; rfl, h, Running.holds_eq_zero hheld hout, hset, ?_, ?_⟩
      · exact .inl ⟨next, rfl⟩
      · exact .inl ⟨huses, hlive⟩
  | release => exact .inl ⟨tried, hp, hkept fun _ => rfl⟩
  | @act β step next b guards claim s data hstep =>
      have hnext := (hp s.data hinv).2
      rw [hstep] at hnext
      exact .inl ⟨tried, hnext, hkept fun _ => rfl⟩
  | @fail β step next code guards claim s data hstep =>
      have hnext := (hp s.data hinv).2
      rw [hstep] at hnext
      exact .inl ⟨tried, hnext, hkept fun _ => rfl⟩
  | load => exact .inl ⟨tried, hp _, hkept fun _ => rfl⟩
  | clear => exact .inl ⟨tried, hp, hkept fun _ => rfl⟩
  | claim hfree => exact .inl ⟨_, hp.2.2, Moves.tried_cons (.claim hfree) hheld⟩
  | @refused h next guards claim s hset =>
      obtain ⟨hout, hexit, -⟩ := hp
      refine .inr ⟨by rw [hexit]; rfl, h, Running.holds_eq_zero hheld hout, hset, ?_, ?_⟩
      · exact .inr ⟨next, rfl⟩
      · exact .inr ⟨next, rfl⟩
  | publish => exact .inl ⟨tried, hp.2, hkept fun _ => rfl⟩
  | dispose => exact .inl ⟨tried, hp.2, hkept fun _ => rfl⟩
  | drop => exact .inl ⟨tried, hp, hkept fun _ => rfl⟩

/-- The flags that it has under guards are those of handles that it uses. -/
theorem Moves.guards_used (hmove : Moves r s e r' s') (hr : r.Answers inv uses codes busy)
    (hguards : ∀ h ∈ r.guards, uses h) : ∀ h ∈ r'.guards, uses h := by
  obtain ⟨tried, hp, -⟩ := hr
  cases hmove with
  | acquire =>
      intro h hmem
      rcases List.mem_cons.mp hmem with rfl | hmem
      · exact hp.1
      · exact hguards h hmem
  | release => exact fun h hmem => hguards h (List.mem_of_mem_erase hmem)
  | drop => exact fun h hmem => hguards h (List.mem_cons_of_mem _ hmem)
  | _ => exact hguards

end Steps

/-! ## Runs -/

section Runs

variable [DecidableEq κ] [DecidableEq ι] {calls : Calls ι κ δ ρ} {inv : δ → Prop}
  {uses : ι → Handle κ → Prop} {codes : ι → ρ → Prop} {busy : ρ} {Q : ι → ρ → Ghost κ → Prop}
  {start pool : Pool ι κ δ ρ}
  {history : List (Label ι κ δ ρ)} {l : Label ι κ δ ρ} {i : ι}

/-- The handle that the slot of the call points to. -/
def Pool.Names (calls : Calls ι κ δ ρ) (pool : Pool ι κ δ ρ) (i : ι) (h : Handle κ) : Prop :=
  ∃ k, calls.slot i = some k ∧ h = ⟨k.kind, pool.shared.slots k⟩

/-- The next step of the call under way tries the flag of the handle. -/
def Pool.Tries (pool : Pool ι κ δ ρ) (i : ι) (h : Handle κ) : Prop :=
  ∃ r, pool.status i = .running r ∧ r.Tries h

/-- The call tried the flag of a handle that it uses or destroys while another call had it. -/
def Contended (calls : Calls ι κ δ ρ) (uses : ι → Handle κ → Prop) (start : Pool ι κ δ ρ)
    (history : List (Label ι κ δ ρ)) (i : ι) : Prop :=
  ∃ past rest mid h j, history = past ++ rest ∧ Run (Interleaves calls) start past mid ∧
    mid.Tries i h ∧ (uses i h ∨ mid.Names calls i h) ∧ mid.shared.live h = true ∧
    mid.Holds j h ∧ j ≠ i

theorem Contended.snoc (h : Contended calls uses start history i) :
    Contended calls uses start (history ++ [l]) i := by
  obtain ⟨past, rest, mid, h', j, rfl, hmid⟩ := h
  exact ⟨past, rest ++ [l], mid, h', j, by rw [List.append_assoc], hmid⟩

/-- A flag that is set has a holder, and it is not the call that found it set. -/
theorem Orderly.contended (o : Orderly calls Q history pool)
    (hrun : Run (Interleaves calls) start history pool) {r : Running κ δ ρ}
    (hr : pool.status i = .running r) {h : Handle κ}
    (hrefused : r.Refused (uses i) pool.shared h) : Contended calls uses start history i := by
  obtain ⟨g, hg⟩ := o.outlined i r hr
  obtain ⟨hzero, hset, htries, hused⟩ := hrefused
  obtain ⟨hnamed, hlive⟩ :
      (uses i h ∨ pool.Names calls i h) ∧ pool.shared.live h = true := by
    rcases hused with ⟨huses, hlive⟩ | ⟨next, hprogram⟩
    · exact ⟨.inl huses, hlive⟩
    · have houtline := hg.outline
      rw [hprogram] at houtline
      obtain ⟨-, hne, ⟨k, hslot, rfl⟩, -⟩ := houtline
      have hcontent : g.content = pool.shared.slots k := by
        rw [hg.fits.content, hslot]
        rfl
      rw [hcontent] at hne ⊢
      exact ⟨.inr ⟨k, hslot, rfl⟩, o.slotsLive k hne⟩
  obtain ⟨j, hj⟩ := (o.flags h hlive).mp hset
  refine ⟨history, [], pool, h, j, (List.append_nil _).symm, hrun, ⟨r, hr, htries⟩, hnamed, hlive,
    Pool.holds_iff.mpr hj, ?_⟩
  rintro rfl
  rw [hr] at hj
  exact absurd hj (by simp [Status.holds, hzero])

/-- The call will answer with one of its codes, or has to say that a handle is busy. -/
def Status.Answers (inv : δ → Prop) (uses : Handle κ → Prop) (codes : ρ → Prop) (busy : ρ)
    (contended : Prop) : Status κ δ ρ → Prop
  | .pending => True
  | .running r => r.Answers inv uses codes busy ∨ r.program.code = some busy ∧ contended
  | .returned code => codes code ∨ code = busy ∧ contended

theorem Status.Answers.snoc {status : Status κ δ ρ}
    (h : status.Answers inv (uses i) (codes i) busy (Contended calls uses start history i)) :
    status.Answers inv (uses i) (codes i) busy
      (Contended calls uses start (history ++ [l]) i) := by
  cases status with
  | pending => trivial
  | running r => exact h.imp id fun h => ⟨h.1, h.2.snoc⟩
  | returned code => exact h.imp id fun h => ⟨h.1, h.2.snoc⟩

/-- The data stays as it is known to be, and every call is on its way to an answer. -/
structure Pool.Answers (inv : δ → Prop) (uses : ι → Handle κ → Prop) (codes : ι → ρ → Prop)
    (busy : ρ) (contended : ι → Prop) (pool : Pool ι κ δ ρ) : Prop where
  data : inv pool.shared.data
  status : ∀ i, (pool.status i).Answers inv (uses i) (codes i) busy (contended i)

theorem run_answers (hstart : start.Quiet) (hinv : inv start.shared.data)
    (horderly : ∀ history pool, Run (Interleaves calls) start history pool →
      Orderly calls Q history pool)
    (hanswers : ∀ i, (calls.program i).Answers inv (uses i) (codes i) busy [])
    (hrun : Run (Interleaves calls) start history pool) :
    pool.Answers inv uses codes busy (Contended calls uses start history) := by
  induction hrun with
  | nil =>
      refine ⟨hinv, fun i => ?_⟩
      rw [hstart.pending i]
      trivial
  | @snoc history pool pool' l hrun hlast ih =>
      obtain ⟨hdata, hstatus⟩ := ih
      cases hlast with
      | @start j hpending hslot =>
          refine ⟨hdata, fun i => ?_⟩
          rw [Pool.status_set]
          split
          · next hij =>
              subst hij
              refine .inl ⟨[], hanswers i, fun h hpos => ?_⟩
              simp [Running.holds] at hpos
          · exact (hstatus i).snoc
      | @finish j program claim code hrunning hcode =>
          refine ⟨hdata, fun i => ?_⟩
          rw [Pool.status_set]
          split
          · next hij =>
              subst hij
              have hkept := hstatus i
              rw [hrunning] at hkept
              rcases hkept with ⟨tried, hp, -⟩ | ⟨hbusy, hcontended⟩
              · exact .inl (hp.of_code hcode)
              · exact .inr ⟨Option.some.inj (hcode.symm.trans hbusy), hcontended.snoc⟩
          · exact (hstatus i).snoc
      | @move j r e r' s' hrunning hmove =>
          have hmoving := hstatus j
          rw [hrunning] at hmoving
          refine ⟨?_, fun i => ?_⟩
          · rcases hmoving with hr | ⟨hbusy, -⟩
            · exact hmove.upholds hr hdata
            · exact (hmove.of_code hbusy).2.1.symm ▸ hdata
          · rw [Pool.status_set]
            split
            · next hij =>
                subst hij
                rcases hmoving with hr | ⟨hbusy, hcontended⟩
                · rcases hmove.answers hr hdata with hr' | ⟨hbusy, h, hrefused⟩
                  · exact .inl hr'
                  · have hcontended := (horderly _ _ hrun).contended hrun hrunning hrefused
                    exact .inr ⟨hbusy, hcontended.snoc⟩
                · have hsame := congrArg Program.code (hmove.of_code hbusy).1
                  exact .inr ⟨hsame.trans hbusy, hcontended.snoc⟩
            · exact (hstatus i).snoc

end Runs

end AuraOpaque.Foundation
