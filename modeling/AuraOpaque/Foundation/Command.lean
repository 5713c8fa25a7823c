import Mathlib.Logic.Basic
import Mathlib.Control.Basic

/-!
# Fallible commands over a state

A command reads and writes a state and ends in one of three ways: it returns a
value, it reports an error, or it unwinds.  Whatever it wrote before an error
or an unwinding stays written, which is how code with mutable references
behaves.  The file gives the monad, its inversion lemmas, and three rules of
reasoning: preservation of an invariant, pre- and postconditions that speak of
every ending, and lockstep execution of two commands.
-/

namespace AuraOpaque.Foundation

inductive Outcome (ε α : Type) where
  | ok (value : α)
  | err (error : ε)
  | panic
  deriving DecidableEq, Repr

namespace Outcome

variable {ε α β : Type}

def bind : Outcome ε α → (α → Outcome ε β) → Outcome ε β
  | .ok a, f => f a
  | .err e, _ => .err e
  | .panic, _ => .panic

instance : Monad (Outcome ε) where
  pure := .ok
  bind := Outcome.bind

@[simp] theorem pure_eq (a : α) : (pure a : Outcome ε α) = .ok a := rfl

@[simp] theorem ok_bind (a : α) (f : α → Outcome ε β) : (.ok a >>= f) = f a := rfl

@[simp] theorem err_bind (e : ε) (f : α → Outcome ε β) :
    ((.err e : Outcome ε α) >>= f) = .err e := rfl

@[simp] theorem panic_bind (f : α → Outcome ε β) :
    ((.panic : Outcome ε α) >>= f) = .panic := rfl

theorem bind_eq_ok_iff {o : Outcome ε α} {f : α → Outcome ε β} {b : β} :
    (o >>= f) = .ok b ↔ ∃ a, o = .ok a ∧ f a = .ok b := by
  cases o <;> simp

theorem bind_eq_err_iff {o : Outcome ε α} {f : α → Outcome ε β} {e : ε} :
    (o >>= f) = .err e ↔ o = .err e ∨ ∃ a, o = .ok a ∧ f a = .err e := by
  cases o <;> simp

theorem bind_eq_panic_iff {o : Outcome ε α} {f : α → Outcome ε β} :
    (o >>= f) = .panic ↔ o = .panic ∨ ∃ a, o = .ok a ∧ f a = .panic := by
  cases o <;> simp

/-- `if condition { return Err(error) }`. -/
def failIf (condition : Prop) [Decidable condition] (error : ε) : Outcome ε Unit :=
  if condition then .err error else .ok ()

@[simp] theorem failIf_eq_ok_iff {c : Prop} [Decidable c] {e : ε} {u : Unit} :
    failIf c e = .ok u ↔ ¬ c := by
  unfold failIf
  split <;> simp_all

theorem failIf_eq_err_iff {c : Prop} [Decidable c] {e e' : ε} :
    (failIf c e = .err e') ↔ c ∧ e' = e := by
  unfold failIf
  split <;> simp_all [eq_comm]

@[simp] theorem failIf_true [Decidable True] (e : ε) :
    failIf True e = .err e :=
  if_pos trivial

@[simp] theorem failIf_false [Decidable False] (e : ε) :
    failIf False e = .ok () :=
  if_neg not_false

theorem failIf_pos {c : Prop} [Decidable c] (e : ε) (h : c) :
    failIf c e = .err e := by
  simp [failIf, h]

theorem failIf_neg {c : Prop} [Decidable c] (e : ε) (h : ¬ c) :
    failIf c e = .ok () := by
  simp [failIf, h]

@[simp] theorem failIf_ne_panic {c : Prop} [Decidable c] {e : ε} :
    failIf c e ≠ .panic := by
  unfold failIf
  split <;> simp

/-- `option.ok_or(error)?`. -/
def okOr (o : Option α) (error : ε) : Outcome ε α :=
  match o with
  | some a => .ok a
  | none => .err error

@[simp] theorem okOr_some (a : α) (e : ε) : okOr (some a) e = .ok a := rfl

@[simp] theorem okOr_none (e : ε) : okOr (none : Option α) e = .err e := rfl

@[simp] theorem okOr_eq_ok_iff {o : Option α} {e : ε} {a : α} :
    okOr o e = .ok a ↔ o = some a := by
  cases o <;> simp [okOr]

theorem okOr_eq_err_iff {o : Option α} {e e' : ε} : okOr o e = .err e' ↔ o = none ∧ e' = e := by
  cases o <;> simp [okOr, eq_comm]

@[simp] theorem okOr_ne_panic {o : Option α} {e : ε} : okOr o e ≠ .panic := by
  cases o <;> simp [okOr]

theorem ok_ne_panic {a : α} : (.ok a : Outcome ε α) ≠ .panic := by simp

theorem err_ne_panic {e : ε} : (.err e : Outcome ε α) ≠ .panic := by simp

theorem bind_ne_panic {o : Outcome ε α} {f : α → Outcome ε β} (ho : o ≠ .panic)
    (hf : ∀ a, o = .ok a → f a ≠ .panic) : (o >>= f) ≠ .panic := by
  rw [ne_eq, bind_eq_panic_iff, not_or]
  refine ⟨ho, ?_⟩
  rintro ⟨a, ha, hpanic⟩
  exact hf a ha hpanic

theorem failIf_bind_ne_panic {p : Prop} [Decidable p] {e : ε} {f : Unit → Outcome ε β}
    (hf : ¬ p → f () ≠ .panic) : (failIf p e >>= f) ≠ .panic :=
  bind_ne_panic failIf_ne_panic fun _ h => hf (failIf_eq_ok_iff.mp h)

theorem okOr_bind_ne_panic {o : Option α} {e : ε} {f : α → Outcome ε β}
    (hf : ∀ a, o = some a → f a ≠ .panic) : (okOr o e >>= f) ≠ .panic :=
  bind_ne_panic okOr_ne_panic fun a h => hf a (okOr_eq_ok_iff.mp h)

def isOk : Outcome ε α → Bool
  | .ok _ => true
  | _ => false

@[simp] theorem isOk_eq_true_iff {o : Outcome ε α} : o.isOk = true ↔ ∃ a, o = .ok a := by
  cases o <;> simp [isOk]

/-- Two endings of the same kind, with related values and equal errors. -/
inductive Rel (V : α → β → Prop) : Outcome ε α → Outcome ε β → Prop where
  | ok {a b} (h : V a b) : Rel V (.ok a) (.ok b)
  | err (e) : Rel V (.err e) (.err e)
  | panic : Rel V .panic .panic

theorem Rel.refl {V : α → α → Prop} (hV : ∀ a, V a a) (o : Outcome ε α) : Rel V o o := by
  cases o with
  | ok a => exact .ok (hV a)
  | err e => exact .err e
  | panic => exact .panic

theorem Rel.imp {V W : α → β → Prop} {o : Outcome ε α} {p : Outcome ε β} (h : Rel V o p)
    (hVW : ∀ a b, o = .ok a → p = .ok b → V a b → W a b) : Rel W o p := by
  cases h with
  | ok h => exact .ok (hVW _ _ rfl rfl h)
  | err e => exact .err e
  | panic => exact .panic

theorem Rel.bind {γ δ : Type} {V : α → β → Prop} {W : γ → δ → Prop} {o : Outcome ε α}
    {p : Outcome ε β} {f : α → Outcome ε γ} {g : β → Outcome ε δ} (h : Rel V o p)
    (hfg : ∀ a b, V a b → Rel W (f a) (g b)) : Rel W (o >>= f) (p >>= g) := by
  cases h with
  | ok h => exact hfg _ _ h
  | err e => exact .err e
  | panic => exact .panic

/-- Related endings without a value to speak of are equal. -/
theorem Rel.eq {o p : Outcome ε Unit} {V : Unit → Unit → Prop} (h : Rel V o p) : o = p := by
  cases h <;> rfl

end Outcome

/-- A computation over a mutable state `σ`. -/
structure Cmd (ε σ α : Type) where
  run : σ → Outcome ε α × σ

namespace Cmd

variable {ε σ τ α β : Type}

def bind (c : Cmd ε σ α) (f : α → Cmd ε σ β) : Cmd ε σ β where
  run s :=
    match c.run s with
    | (.ok a, s') => (f a).run s'
    | (.err e, s') => (.err e, s')
    | (.panic, s') => (.panic, s')

instance : Monad (Cmd ε σ) where
  pure a := ⟨fun s => (.ok a, s)⟩
  bind := Cmd.bind

def lift (o : Outcome ε α) : Cmd ε σ α := ⟨fun s => (o, s)⟩

instance : MonadLift (Outcome ε) (Cmd ε σ) := ⟨lift⟩

def get : Cmd ε σ σ := ⟨fun s => (.ok s, s)⟩

def modify (f : σ → σ) : Cmd ε σ Unit := ⟨fun s => (.ok (), f s)⟩

def throw (error : ε) : Cmd ε σ α := ⟨fun s => (.err error, s)⟩

def failIf (condition : Prop) [Decidable condition] (error : ε) : Cmd ε σ Unit :=
  lift (Outcome.failIf condition error)

def okOr (o : Option α) (error : ε) : Cmd ε σ α := lift (Outcome.okOr o error)

/-- `if condition { cleanup; return Err(error) }`. -/
def abortIf (condition : Prop) [Decidable condition] (cleanup : σ → σ) (error : ε) :
    Cmd ε σ Unit :=
  ⟨fun s => if condition then (.err error, cleanup s) else (.ok (), s)⟩

def zoom (read : σ → τ) (write : τ → σ → σ) (c : Cmd ε τ α) : Cmd ε σ α where
  run s := ((c.run (read s)).1, write (c.run (read s)).2 s)

/-- Run a command that fills a fresh local buffer; its final contents are the value. -/
def fill (fresh : τ) (c : Cmd ε τ Unit) : Outcome ε τ :=
  match c.run fresh with
  | (.ok _, buffer) => .ok buffer
  | (.err e, _) => .err e
  | (.panic, _) => .panic

/-- On an error, run a clean-up before passing the error on. -/
def onErr (c : Cmd ε σ α) (cleanup : σ → σ) : Cmd ε σ α where
  run s :=
    match c.run s with
    | (.err e, s') => (.err e, cleanup s')
    | other => other

@[simp] theorem run_pure (a : α) (s : σ) : (pure a : Cmd ε σ α).run s = (.ok a, s) := rfl

theorem run_bind (c : Cmd ε σ α) (f : α → Cmd ε σ β) (s : σ) :
    (c >>= f).run s =
      match c.run s with
      | (.ok a, s') => (f a).run s'
      | (.err e, s') => (.err e, s')
      | (.panic, s') => (.panic, s') := rfl

@[simp] theorem run_lift (o : Outcome ε α) (s : σ) : (lift o : Cmd ε σ α).run s = (o, s) := rfl

@[simp] theorem run_liftM (o : Outcome ε α) (s : σ) :
    (liftM o : Cmd ε σ α).run s = (o, s) := rfl

@[simp] theorem run_get (s : σ) : (get : Cmd ε σ σ).run s = (.ok s, s) := rfl

@[simp] theorem run_modify (f : σ → σ) (s : σ) :
    (modify f : Cmd ε σ Unit).run s = (.ok (), f s) := rfl

@[simp] theorem run_throw (e : ε) (s : σ) : (throw e : Cmd ε σ α).run s = (.err e, s) := rfl

@[simp] theorem run_failIf (p : Prop) [Decidable p] (e : ε) (s : σ) :
    (failIf p e).run s = (Outcome.failIf p e, s) := rfl

@[simp] theorem run_okOr (o : Option α) (e : ε) (s : σ) :
    (okOr o e).run s = (Outcome.okOr o e, s) := rfl

theorem run_abortIf (p : Prop) [Decidable p] (cleanup : σ → σ) (e : ε) (s : σ) :
    (abortIf p cleanup e).run s = if p then (.err e, cleanup s) else (.ok (), s) := rfl

@[simp] theorem run_zoom (read : σ → τ) (write : τ → σ → σ) (c : Cmd ε τ α) (s : σ) :
    (zoom read write c).run s = ((c.run (read s)).1, write (c.run (read s)).2 s) := rfl

theorem run_bind_ok {c : Cmd ε σ α} {f : α → Cmd ε σ β} {s s' : σ} {a : α}
    (h : c.run s = (.ok a, s')) : (c >>= f).run s = (f a).run s' := by
  rw [run_bind, h]

theorem run_bind_err {c : Cmd ε σ α} {f : α → Cmd ε σ β} {s s' : σ} {e : ε}
    (h : c.run s = (.err e, s')) : (c >>= f).run s = (.err e, s') := by
  rw [run_bind, h]

theorem run_bind_panic {c : Cmd ε σ α} {f : α → Cmd ε σ β} {s s' : σ}
    (h : c.run s = (.panic, s')) : (c >>= f).run s = (.panic, s') := by
  rw [run_bind, h]

theorem run_bind_eq_ok_iff {c : Cmd ε σ α} {f : α → Cmd ε σ β} {s s' : σ} {b : β} :
    (c >>= f).run s = (.ok b, s') ↔
      ∃ a t, c.run s = (.ok a, t) ∧ (f a).run t = (.ok b, s') := by
  rw [run_bind]
  rcases hc : c.run s with ⟨o, t⟩
  cases o with
  | ok a =>
      constructor
      · exact fun h => ⟨a, t, rfl, h⟩
      · rintro ⟨_, _, heq, h⟩
        cases heq
        exact h
  | err e => simp
  | panic => simp

theorem run_bind_eq_err_iff {c : Cmd ε σ α} {f : α → Cmd ε σ β} {s s' : σ} {e : ε} :
    (c >>= f).run s = (.err e, s') ↔
      c.run s = (.err e, s') ∨
      ∃ a t, c.run s = (.ok a, t) ∧ (f a).run t = (.err e, s') := by
  rw [run_bind]
  rcases hc : c.run s with ⟨o, t⟩
  cases o with
  | ok a =>
      constructor
      · exact fun h => .inr ⟨a, t, rfl, h⟩
      · rintro (heq | ⟨_, _, heq, h⟩)
        · simp at heq
        · cases heq
          exact h
  | err e => simp
  | panic => simp

theorem bind_assoc {γ : Type} (c : Cmd ε σ α) (f : α → Cmd ε σ β) (g : β → Cmd ε σ γ) :
    c >>= f >>= g = c >>= fun a => f a >>= g := by
  have hrun : ∀ s, (c >>= f >>= g).run s = (c >>= fun a => f a >>= g).run s := by
    intro s
    rw [run_bind, run_bind, run_bind]
    rcases c.run s with ⟨_ | _ | _, t⟩ <;> rfl
  exact congrArg mk (funext hrun)

theorem run_onErr_of_err {c : Cmd ε σ α} {cleanup : σ → σ} {s s' : σ} {e : ε}
    (h : c.run s = (.err e, s')) : (c.onErr cleanup).run s = (.err e, cleanup s') := by
  unfold onErr
  simp only [h]

theorem onErr_eq_ok_iff {c : Cmd ε σ α} {cleanup : σ → σ} {s s' : σ} {a : α} :
    (c.onErr cleanup).run s = (.ok a, s') ↔ c.run s = (.ok a, s') := by
  unfold onErr
  rcases hc : c.run s with ⟨_ | _ | _, t⟩ <;> simp [hc]

theorem onErr_eq_err_iff {c : Cmd ε σ α} {cleanup : σ → σ} {s s' : σ} {e : ε} :
    (c.onErr cleanup).run s = (.err e, s') ↔ ∃ t, c.run s = (.err e, t) ∧ s' = cleanup t := by
  unfold onErr
  rcases hc : c.run s with ⟨_ | _ | _, t⟩ <;> dsimp only <;> rw [hc]
  · simp
  · simp only [Prod.mk.injEq, Outcome.err.injEq]
    constructor
    · rintro ⟨rfl, rfl⟩
      exact ⟨t, ⟨rfl, rfl⟩, rfl⟩
    · rintro ⟨_, ⟨rfl, rfl⟩, rfl⟩
      exact ⟨rfl, rfl⟩
  · simp

theorem run_discard_eq_ok_iff {c : Cmd ε σ α} {s s' : σ} {u : Unit} :
    (c >>= fun _ => pure ()).run s = (.ok u, s') ↔ ∃ a, c.run s = (.ok a, s') := by
  rw [run_bind_eq_ok_iff]
  constructor
  · rintro ⟨a, t, h, hpure⟩
    cases hpure
    exact ⟨a, h⟩
  · rintro ⟨a, h⟩
    exact ⟨a, s', h, rfl⟩

theorem fill_eq_ok_iff {fresh : τ} {c : Cmd ε τ Unit} {t : τ} :
    fill fresh c = .ok t ↔ c.run fresh = (.ok (), t) := by
  unfold fill
  rcases hc : c.run fresh with ⟨_ | _ | _, t'⟩ <;> simp

/-! ## Invariants -/

/-- Whatever the ending, the final state satisfies `I` when the initial one does. -/
def Preserves (I : σ → Prop) (c : Cmd ε σ α) : Prop :=
  ∀ s, I s → I (c.run s).2

theorem Preserves.bind {I : σ → Prop} {c : Cmd ε σ α} {f : α → Cmd ε σ β}
    (hc : Preserves I c) (hf : ∀ a, Preserves I (f a)) : Preserves I (c >>= f) := by
  intro s hs
  have hmid := hc s hs
  rw [run_bind]
  rcases hrun : c.run s with ⟨_ | _ | _, t⟩ <;> rw [hrun] at hmid
  · exact hf _ t hmid
  · exact hmid
  · exact hmid

theorem Preserves.pure {I : σ → Prop} (a : α) : Preserves I (Pure.pure a : Cmd ε σ α) :=
  fun _ hs => hs

theorem Preserves.lift {I : σ → Prop} (o : Outcome ε α) :
    Preserves I (liftM o : Cmd ε σ α) :=
  fun _ hs => hs

theorem Preserves.failIf {I : σ → Prop} {p : Prop} [Decidable p] (e : ε) :
    Preserves I (failIf p e : Cmd ε σ Unit) :=
  fun _ hs => hs

theorem Preserves.modify {I : σ → Prop} {f : σ → σ} (h : ∀ s, I s → I (f s)) :
    Preserves I (modify f : Cmd ε σ Unit) :=
  h

/-! ## Postconditions for every ending -/

/-- From `pre`, the ending and the final state satisfy `post`. -/
def Ensures (pre : σ → Prop) (c : Cmd ε σ α) (post : Outcome ε α → σ → Prop) : Prop :=
  ∀ s, pre s → post (c.run s).1 (c.run s).2

/--
Sequencing: `mid` holds where the first command returns, and the postcondition
already holds where it does not.
-/
theorem Ensures.bind {pre : σ → Prop} {c : Cmd ε σ α} {f : α → Cmd ε σ β}
    {mid : α → σ → Prop} {post : Outcome ε β → σ → Prop}
    (hc : Ensures pre c fun o s =>
      match o with
      | .ok a => mid a s
      | .err e => post (.err e) s
      | .panic => post .panic s)
    (hf : ∀ a, Ensures (mid a) (f a) post) : Ensures pre (c >>= f) post := by
  intro s hs
  have hmid := hc s hs
  rw [run_bind]
  rcases hrun : c.run s with ⟨_ | _ | _, t⟩ <;> rw [hrun] at hmid
  · exact hf _ t hmid
  · exact hmid
  · exact hmid

/-! ## What a success establishes -/

/-- A command that starts in `pre` and returns a value leaves `post`. -/
def Returns (pre : σ → Prop) (c : Cmd ε σ α) (post : α → σ → Prop) : Prop :=
  ∀ s a t, pre s → c.run s = (.ok a, t) → post a t

namespace Returns

variable {pre I : σ → Prop} {c : Cmd ε σ α} {f : α → Cmd ε σ β}

theorem bind {mid : α → σ → Prop} {post : β → σ → Prop} (hc : Returns pre c mid)
    (hf : ∀ a, Returns (mid a) (f a) post) : Returns pre (c >>= f) post := by
  intro s b t hs h
  obtain ⟨a, u, hfirst, hrest⟩ := run_bind_eq_ok_iff.mp h
  exact hf a u b t (hc s a u hs hfirst) hrest

theorem of_preserves (hc : Preserves I c) : Returns I c fun _ => I := by
  intro s a t hs h
  have hkept := hc s hs
  rwa [h] at hkept

/-- A first step that keeps what is known. -/
theorem step {post : β → σ → Prop} (hc : Preserves I c) (hf : ∀ a, Returns I (f a) post) :
    Returns I (c >>= f) post :=
  bind (of_preserves hc) hf

theorem failIf {p : Prop} [Decidable p] (e : ε) :
    Returns I (Cmd.failIf p e : Cmd ε σ Unit) fun _ s => I s ∧ ¬ p := by
  intro s _ t hs h
  rw [run_failIf, Prod.mk.injEq, Outcome.failIf_eq_ok_iff] at h
  obtain ⟨hp, rfl⟩ := h
  exact ⟨hs, hp⟩

/-- A fact about the arguments moves to the context. -/
theorem given {q : Prop} {post : α → σ → Prop} (h : q → Returns I c post) :
    Returns (fun s => I s ∧ q) c post :=
  fun s a t hs hrun => h hs.2 s a t hs.1 hrun

end Returns

/-! ## Errors and panics -/

/-- An error leaves the state as `I` says, if it was so before. -/
def FailsIn (I : σ → Prop) (c : Cmd ε σ α) : Prop :=
  Ensures I c fun o s => ∀ e, o = .err e → I s

/-- A value is returned in every state. -/
def Total (c : Cmd ε σ α) : Prop :=
  ∀ s, ∃ a t, c.run s = (.ok a, t)

theorem Total.bind {c : Cmd ε σ α} {f : α → Cmd ε σ β} (hc : Total c) (hf : ∀ a, Total (f a)) :
    Total (c >>= f) := by
  intro s
  obtain ⟨a, t, hrun⟩ := hc s
  rw [run_bind_ok hrun]
  exact hf a t

theorem FailsIn.of_total {I : σ → Prop} {c : Cmd ε σ α} (h : Total c) : FailsIn I c := by
  intro s _ e he
  obtain ⟨a, t, hrun⟩ := h s
  rw [hrun] at he
  cases he

theorem FailsIn.bind {I : σ → Prop} {c : Cmd ε σ α} {f : α → Cmd ε σ β} (hc : Preserves I c)
    (hf : ∀ a, FailsIn I (f a)) : FailsIn I (c >>= f) := by
  refine Ensures.bind ?_ hf
  intro s hs
  have hmid := hc s hs
  rcases hrun : c.run s with ⟨_ | _ | _, t⟩ <;> rw [hrun] at hmid
  · exact hmid
  · exact fun _ _ => hmid
  · exact fun _ _ => hmid

end Cmd

/-- The error, where there is one, is among some errors. -/
def Outcome.Raises {ε α : Type} (errors : ε → Prop) (o : Outcome ε α) : Prop :=
  ∀ e, o = .err e → errors e

namespace Outcome.Raises

variable {ε α β : Type} {errors : ε → Prop} {o : Outcome ε α}

theorem ok (a : α) : Raises errors (.ok a) := nofun

theorem panic : Raises errors (.panic : Outcome ε α) := nofun

theorem err {e : ε} (h : errors e) : Raises errors (.err e : Outcome ε α) := by
  rintro _ ⟨⟩
  exact h

theorem bind {k : α → Outcome ε β} (ho : Raises errors o) (hk : ∀ a, Raises errors (k a)) :
    Raises errors (o >>= k) := by
  intro e h
  rcases Outcome.bind_eq_err_iff.mp h with hfirst | ⟨a, -, hrest⟩
  · exact ho e hfirst
  · exact hk a e hrest

theorem failIf {p : Prop} [Decidable p] {e : ε} (h : errors e) :
    Raises errors (Outcome.failIf p e) := by
  intro e' hfail
  rw [(Outcome.failIf_eq_err_iff.mp hfail).2]
  exact h

theorem okOr {a : Option α} {e : ε} (h : errors e) : Raises errors (Outcome.okOr a e) := by
  intro e' hnone
  rw [(Outcome.okOr_eq_err_iff.mp hnone).2]
  exact h

theorem mono {errors' : ε → Prop} (ho : Raises errors o) (h : ∀ e, errors e → errors' e) :
    Raises errors' o :=
  fun e he => h e (ho e he)

end Outcome.Raises

namespace Cmd

variable {ε σ τ α β : Type}

/-- The error, where there is one, is among some errors, whatever the state. -/
def Raises (errors : ε → Prop) (c : Cmd ε σ α) : Prop :=
  ∀ s, (c.run s).1.Raises errors

namespace Raises

variable {errors : ε → Prop} {c : Cmd ε σ α}

theorem bind {f : α → Cmd ε σ β} (hc : Raises errors c) (hf : ∀ a, Raises errors (f a)) :
    Raises errors (c >>= f) := by
  intro s e h
  rcases hrun : (c >>= f).run s with ⟨o, t⟩
  rw [hrun] at h
  cases h
  rcases run_bind_eq_err_iff.mp hrun with hfirst | ⟨a, u, -, hrest⟩
  · exact hc s e (by rw [hfirst])
  · exact hf a u e (by rw [hrest])

theorem lift {o : Outcome ε α} (h : o.Raises errors) : Raises errors (liftM o : Cmd ε σ α) :=
  fun _ => h

/-- What follows may rely on where the value comes from. -/
theorem liftBind {o : Outcome ε α} {f : α → Cmd ε σ β} (ho : o.Raises errors)
    (hf : ∀ a, o = .ok a → Raises errors (f a)) : Raises errors (liftM o >>= f) := by
  intro s
  cases o with
  | ok a => exact hf a rfl s
  | err e => exact .err (ho e rfl)
  | panic => exact .panic

theorem cmdLift {o : Outcome ε α} (h : o.Raises errors) : Raises errors (Cmd.lift o : Cmd ε σ α) :=
  fun _ => h

theorem get : Raises errors (Cmd.get : Cmd ε σ σ) := fun s => .ok s

theorem modify (g : σ → σ) : Raises errors (Cmd.modify g : Cmd ε σ Unit) := fun _ => .ok ()

theorem pure (a : α) : Raises errors (Pure.pure a : Cmd ε σ α) := fun _ => .ok a

theorem throw {e : ε} (h : errors e) : Raises errors (Cmd.throw e : Cmd ε σ α) := fun _ => .err h

theorem failIf {p : Prop} [Decidable p] {e : ε} (h : errors e) :
    Raises errors (Cmd.failIf p e : Cmd ε σ Unit) :=
  fun _ => .failIf h

theorem okOr {a : Option α} {e : ε} (h : errors e) :
    Raises errors (Cmd.okOr a e : Cmd ε σ α) :=
  fun _ => .okOr h

theorem okOr_some (a : α) {e : ε} : Raises errors (Cmd.okOr (some a) e : Cmd ε σ α) :=
  fun _ => .ok a

theorem abortIf {p : Prop} [Decidable p] {g : σ → σ} {e : ε} (h : errors e) :
    Raises errors (Cmd.abortIf p g e : Cmd ε σ Unit) := by
  intro s
  rw [run_abortIf]
  split
  · exact .err h
  · exact .ok ()

theorem onErr {g : σ → σ} (hc : Raises errors c) : Raises errors (c.onErr g) := by
  intro s
  have hraises := hc s
  rcases hrun : c.run s with ⟨_ | _ | _, t⟩ <;> rw [hrun] at hraises <;>
    simpa only [Cmd.onErr, hrun] using hraises

theorem zoom {read : σ → τ} {write : τ → σ → σ} {d : Cmd ε τ α} (h : Raises errors d) :
    Raises errors (Cmd.zoom read write d) :=
  fun s => h (read s)

theorem fill_at {d : Cmd ε τ Unit} {fresh : τ} (h : (d.run fresh).1.Raises errors) :
    (fill fresh d).Raises errors := by
  unfold Cmd.fill
  rcases hrun : d.run fresh with ⟨_ | e | _, t⟩ <;> rw [hrun] at h
  · exact .ok _
  · exact .err (h e rfl)
  · exact .panic

theorem fill {d : Cmd ε τ Unit} (h : Raises errors d) (fresh : τ) :
    (Cmd.fill fresh d).Raises errors :=
  fill_at (h fresh)

theorem mono {errors' : ε → Prop} (hc : Raises errors c) (h : ∀ e, errors e → errors' e) :
    Raises errors' c :=
  fun s => (hc s).mono h

end Raises

/-- Started where `I` holds, the command does not panic and keeps `I`. -/
def Safe (I : σ → Prop) (c : Cmd ε σ α) : Prop :=
  Ensures I c fun o s => o ≠ .panic ∧ I s

namespace Safe

variable {I : σ → Prop} {c : Cmd ε σ α} {f : α → Cmd ε σ β}

/-- What follows may rely on the value having been returned. -/
theorem bind_of (hc : Safe I c) (hf : ∀ a, (∃ s t, I s ∧ c.run s = (.ok a, t)) → Safe I (f a)) :
    Safe I (c >>= f) := by
  intro s hs
  obtain ⟨hpanic, hmid⟩ := hc s hs
  rw [run_bind]
  rcases hrun : c.run s with ⟨a | _ | _, t⟩ <;> rw [hrun] at hpanic hmid
  · exact hf a ⟨s, t, hs, hrun⟩ t hmid
  · exact ⟨by simp, hmid⟩
  · exact absurd rfl hpanic

theorem bind (hc : Safe I c) (hf : ∀ a, Safe I (f a)) : Safe I (c >>= f) :=
  hc.bind_of fun a _ => hf a

theorem pure (a : α) : Safe I (Pure.pure a : Cmd ε σ α) := fun _ hs => ⟨by simp, hs⟩

theorem lift {o : Outcome ε α} (h : o ≠ .panic) : Safe I (liftM o : Cmd ε σ α) :=
  fun _ hs => ⟨h, hs⟩

theorem cmdLift {o : Outcome ε α} (h : o ≠ .panic) : Safe I (Cmd.lift o : Cmd ε σ α) :=
  fun _ hs => ⟨h, hs⟩

theorem lift_bind {o : Outcome ε α} (h : o ≠ .panic) (hf : ∀ a, o = .ok a → Safe I (f a)) :
    Safe I (liftM o >>= f) := by
  refine (lift h).bind_of fun a ha => ?_
  obtain ⟨_, _, -, hrun⟩ := ha
  exact hf a (Prod.mk.inj hrun).1

theorem cmdLift_bind {o : Outcome ε α} (h : o ≠ .panic) (hf : ∀ a, o = .ok a → Safe I (f a)) :
    Safe I (Cmd.lift o >>= f) :=
  lift_bind h hf

theorem okOr (o : Option α) (e : ε) : Safe I (Cmd.okOr o e : Cmd ε σ α) :=
  fun _ hs => ⟨Outcome.okOr_ne_panic, hs⟩

theorem failIf {p : Prop} [Decidable p] (e : ε) : Safe I (Cmd.failIf p e : Cmd ε σ Unit) :=
  fun _ hs => ⟨Outcome.failIf_ne_panic, hs⟩

theorem failIf_bind {p : Prop} [Decidable p] (e : ε) {f : Unit → Cmd ε σ β}
    (hf : ¬ p → Safe I (f ())) : Safe I (Cmd.failIf p e >>= f) :=
  lift_bind Outcome.failIf_ne_panic fun _ h => hf (Outcome.failIf_eq_ok_iff.mp h)

theorem get : Safe I (Cmd.get : Cmd ε σ σ) := fun _ hs => ⟨by simp, hs⟩

theorem modify {g : σ → σ} (h : ∀ s, I s → I (g s)) : Safe I (Cmd.modify g : Cmd ε σ Unit) :=
  fun s hs => ⟨by simp, h s hs⟩

theorem abortIf {p : Prop} [Decidable p] {g : σ → σ} (e : ε) (h : ∀ s, I s → I (g s)) :
    Safe I (Cmd.abortIf p g e : Cmd ε σ Unit) := by
  intro s hs
  rw [run_abortIf]
  split
  · exact ⟨by simp, h s hs⟩
  · exact ⟨by simp, hs⟩

theorem onErr {g : σ → σ} (hc : Safe I c) (h : ∀ s, I s → I (g s)) : Safe I (c.onErr g) := by
  intro s hs
  obtain ⟨hpanic, hmid⟩ := hc s hs
  rcases hrun : c.run s with ⟨_ | _ | _, t⟩ <;> rw [hrun] at hpanic hmid <;>
    simp only [Cmd.onErr, hrun]
  · exact ⟨by simp, hmid⟩
  · exact ⟨by simp, h t hmid⟩
  · exact absurd rfl hpanic

theorem zoom {read : σ → τ} {write : τ → σ → σ} {d : Cmd ε τ α} (h : Safe (fun _ => True) d)
    (hwrite : ∀ s t, I s → I (write t s)) : Safe I (Cmd.zoom read write d) :=
  fun s hs => ⟨(h (read s) trivial).1, hwrite s _ hs⟩

theorem fill_ne_panic {d : Cmd ε τ Unit} (h : Safe (fun _ => True) d) (fresh : τ) :
    fill fresh d ≠ .panic := by
  have hpanic := (h fresh trivial).1
  unfold fill
  rcases hrun : d.run fresh with ⟨_ | _ | _, t⟩ <;> rw [hrun] at hpanic <;> simp_all

end Safe

/-! ## Lockstep -/

/--
Started in related states, the two commands end the same way: with related
values, or the same error, and always in related states.
-/
def Lockstep (R : σ → τ → Prop) (V : α → β → Prop) (c : Cmd ε σ α) (d : Cmd ε τ β) : Prop :=
  ∀ s t, R s t →
    Outcome.Rel V (c.run s).1 (d.run t).1 ∧ R (c.run s).2 (d.run t).2

theorem Lockstep.bind {γ δ : Type} {R : σ → τ → Prop} {V : α → β → Prop} {W : γ → δ → Prop}
    {c : Cmd ε σ α} {d : Cmd ε τ β} {f : α → Cmd ε σ γ} {g : β → Cmd ε τ δ}
    (hcd : Lockstep R V c d) (hfg : ∀ a b, V a b → Lockstep R W (f a) (g b)) :
    Lockstep R W (c >>= f) (d >>= g) := by
  intro s t hst
  obtain ⟨hend, hmid⟩ := hcd s t hst
  rw [run_bind, run_bind]
  rcases hc : c.run s with ⟨o, s'⟩
  rcases hd : d.run t with ⟨p, t'⟩
  rw [hc, hd] at hend hmid
  cases hend with
  | ok hV => exact hfg _ _ hV s' t' hmid
  | err e => exact ⟨.err e, hmid⟩
  | panic => exact ⟨.panic, hmid⟩

theorem Lockstep.lift {R : σ → τ → Prop} {V : α → β → Prop} {o : Outcome ε α}
    {p : Outcome ε β} (h : Outcome.Rel V o p) :
    Lockstep R V (liftM o : Cmd ε σ α) (liftM p : Cmd ε τ β) :=
  fun _ _ hst => ⟨h, hst⟩

theorem Lockstep.modify {R : σ → τ → Prop} {f : σ → σ} {g : τ → τ}
    (h : ∀ s t, R s t → R (f s) (g t)) :
    Lockstep R (fun _ _ => True) (modify f : Cmd ε σ Unit) (modify g : Cmd ε τ Unit) :=
  fun s t hst => ⟨.ok trivial, h s t hst⟩

end Cmd

end AuraOpaque.Foundation
