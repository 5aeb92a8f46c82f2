import AxiomArb.Library.Fallible
import Mathlib.Order.Defs.Unbundled

/-!
# Commands that may fail

A `Command ε σ α` works on a state `σ` and ends with a value or an error.  What it
changed before it failed stays changed: a caller that passes the error on does
not undo anything.  `exec` runs a command; its equations say what each way of
building a command does.

Three kinds of rules are given:

* `Within R c`: whatever the outcome, the final state is related to the first one
  by `R`.  For a preorder `R` this is a frame rule, and it is compositional.
* `Ensures P c`: whatever the outcome and the first state, the final state satisfies
  `P`.
* `Alike R c d`: from states that `R` relates the two commands have the same outcome, and
  end in states that `R` relates.
-/

universe u

namespace AxiomArb.Library

variable {ε σ α β : Type u}

/-- A command on the state `σ` that may fail with an error of type `ε`. -/
abbrev Command (ε σ : Type u) := ExceptT ε (StateM σ)

/-- The outcome of a command and the state it leaves. -/
def exec (c : Command ε σ α) (s : σ) : Except ε α × σ := c.run.run s

/-- Run a command on one component of a state, and rename its errors. -/
def focus {ε' τ : Type u} (view : σ → τ) (put : σ → τ → σ) (rename : ε' → ε) (c : Command ε' τ α) :
    Command ε σ α := do
  let s ← get
  let (outcome, t) := exec c (view s)
  set (put s t)
  match outcome with
  | .ok a => return a
  | .error e => throw (rename e)

/-- Run a command whose changes are undone if it fails. -/
def transaction (c : Command ε σ α) : Command ε σ α := do
  let s ← get
  tryCatch c fun e ↦ do
    set s
    throw e

section Equations

variable (a : α) (e : ε) (s : σ) (f : σ → σ) (c : Command ε σ α) (k : α → Command ε σ β)

@[simp] theorem exec_pure : exec (pure a : Command ε σ α) s = (.ok a, s) := rfl

@[simp] theorem exec_throw : exec (throw e : Command ε σ α) s = (.error e, s) := rfl

@[simp] theorem exec_get : exec (get : Command ε σ σ) s = (.ok s, s) := rfl

@[simp] theorem exec_set (s' : σ) : exec (set s' : Command ε σ PUnit) s = (.ok ⟨⟩, s') := rfl

@[simp] theorem exec_modify : exec (modify f : Command ε σ PUnit) s = (.ok ⟨⟩, f s) := rfl

@[simp] theorem exec_lift (outcome : Except ε α) :
    exec (liftM outcome : Command ε σ α) s = (outcome, s) := rfl

theorem exec_bind :
    exec (c >>= k) s =
      match exec c s with
      | (.ok a, s') => exec (k a) s'
      | (.error e, s') => (.error e, s') := by
  simp only [exec, ExceptT.run_bind, StateT.run_bind]
  rcases c.run.run s with ⟨outcome, s'⟩
  cases outcome <;> rfl

theorem exec_focus {ε' τ : Type u} (view : σ → τ) (put : σ → τ → σ) (rename : ε' → ε)
    (c : Command ε' τ α) :
    exec (focus view put rename c : Command ε σ α) s =
      match exec c (view s) with
      | (.ok a, t) => (.ok a, put s t)
      | (.error e, t) => (.error (rename e), put s t) := by
  simp only [focus, exec_bind, exec_get]
  rcases exec c (view s) with ⟨outcome, t⟩
  cases outcome <;> rfl

theorem exec_tryCatch (handle : ε → Command ε σ α) :
    exec (tryCatch c handle) s =
      match exec c s with
      | (.ok a, s') => (.ok a, s')
      | (.error e, s') => exec (handle e) s' := by
  have hrun : exec (tryCatch c handle) s =
      (c.run >>= fun outcome ↦ match outcome with
        | .ok a => pure (.ok a)
        | .error e => (handle e).run : StateM σ (Except ε α)).run s := rfl
  rw [hrun, StateT.run_bind, exec]
  rcases c.run.run s with ⟨outcome, s'⟩
  cases outcome <;> rfl

theorem exec_transaction :
    exec (transaction c) s =
      match exec c s with
      | (.ok a, s') => (.ok a, s')
      | (.error e, _) => (.error e, s) := by
  rw [transaction, exec_bind, exec_get]
  simp only [exec_tryCatch]
  rcases exec c s with ⟨outcome, s'⟩
  cases outcome <;> rfl

end Equations

section Rules

variable {a : α} {b : β} {e : ε} {s s' s'' : σ} {c : Command ε σ α} {k : α → Command ε σ β}

/-- A sequence succeeds when both of its parts do. -/
theorem exec_bind_eq_ok :
    exec (c >>= k) s = (.ok b, s'') ↔
      ∃ a s', exec c s = (.ok a, s') ∧ exec (k a) s' = (.ok b, s'') := by
  rw [exec_bind]
  rcases exec c s with ⟨outcome, s'⟩
  cases outcome with
  | error e => simp
  | ok a =>
      constructor
      · intro h
        exact ⟨a, s', rfl, h⟩
      · rintro ⟨_, _, ⟨rfl⟩, h⟩
        exact h

/-- An answer that the sequence begins with must be given, and changes nothing. -/
theorem exec_lift_bind_eq_ok {outcome : Except ε α} :
    exec ((liftM outcome : Command ε σ α) >>= k) s = (.ok b, s') ↔
      ∃ a, outcome = .ok a ∧ exec (k a) s = (.ok b, s') := by
  rw [exec_bind, exec_lift]
  cases outcome with
  | error e => simp
  | ok a => simp

theorem exec_focus_eq_ok {ε' τ : Type u} {view : σ → τ} {put : σ → τ → σ} {rename : ε' → ε}
    {c : Command ε' τ α} :
    exec (focus view put rename c : Command ε σ α) s = (.ok a, s') ↔
      ∃ t, exec c (view s) = (.ok a, t) ∧ s' = put s t := by
  rw [exec_focus]
  rcases exec c (view s) with ⟨outcome, t⟩
  cases outcome with
  | error e => simp
  | ok b =>
      constructor
      · rintro ⟨⟩
        exact ⟨t, rfl, rfl⟩
      · rintro ⟨_, ⟨⟩, rfl⟩
        rfl

/-! ## Frames -/

/-- However the command ends, it ends in a state that `R` relates to the first one. -/
def Within (R : σ → σ → Prop) (c : Command ε σ α) : Prop := ∀ s, R s (exec c s).2

variable {R : σ → σ → Prop} {f : σ → σ}

theorem Within.mono {R' : σ → σ → Prop} (h : Within R c) (hsub : ∀ s s', R s s' → R' s s') :
    Within R' c := fun s ↦ hsub s _ (h s)

theorem Within.of_exec {outcome : Except ε α} (h : Within R c) (hrun : exec c s = (outcome, s')) :
    R s s' := by
  have hfinal := h s
  rwa [hrun] at hfinal

theorem within_pure [Std.Refl R] : Within R (pure a : Command ε σ α) := fun s ↦ refl_of R s

theorem within_throw [Std.Refl R] : Within R (throw e : Command ε σ α) := fun s ↦ refl_of R s

theorem within_get [Std.Refl R] : Within R (get : Command ε σ σ) := fun s ↦ refl_of R s

theorem within_lift [Std.Refl R] {outcome : Except ε α} :
    Within R (liftM outcome : Command ε σ α) := fun s ↦ refl_of R s

theorem within_modify (h : ∀ s, R s (f s)) : Within R (modify f : Command ε σ PUnit) := h

theorem within_bind [IsTrans σ R] (hc : Within R c) (hk : ∀ a, Within R (k a)) :
    Within R (c >>= k) := by
  intro s
  have hfirst := hc s
  rw [exec_bind]
  generalize exec c s = first at hfirst
  obtain ⟨outcome, s'⟩ := first
  cases outcome with
  | error e => exact hfirst
  | ok a => exact trans_of R hfirst (hk a s')

/-- What follows a command starts from the state the command leaves. -/
theorem within_continuation [Std.Refl R] (hk : ∀ a, Within R (k a)) (s : σ) :
    R (exec c s).2 (exec (c >>= k) s).2 := by
  rw [exec_bind]
  generalize exec c s = first
  obtain ⟨outcome, s'⟩ := first
  cases outcome with
  | error e => exact refl_of R s'
  | ok a => exact hk a s'

theorem within_focus {ε' τ : Type u} {view : σ → τ} {put : σ → τ → σ} {rename : ε' → ε}
    {c : Command ε' τ α} (h : ∀ s t, R s (put s t)) :
    Within R (focus view put rename c : Command ε σ α) := by
  intro s
  rw [exec_focus]
  rcases exec c (view s) with ⟨outcome, t⟩
  cases outcome <;> exact h s t

/-- A command on a component stays within what its own frame says of that component. -/
theorem within_focus_of {ε' τ : Type u} {view : σ → τ} {put : σ → τ → σ} {rename : ε' → ε}
    {c : Command ε' τ α} {S : τ → τ → Prop} (hc : Within S c)
    (h : ∀ s t, S (view s) t → R s (put s t)) :
    Within R (focus view put rename c : Command ε σ α) := by
  intro s
  have hview := hc (view s)
  rw [exec_focus]
  generalize exec c (view s) = last at hview ⊢
  obtain ⟨outcome, t⟩ := last
  cases outcome <;> exact h s t hview

theorem within_transaction [Std.Refl R] (hc : Within R c) : Within R (transaction c) := by
  intro s
  have hlast := hc s
  rw [exec_transaction]
  generalize exec c s = last at hlast
  obtain ⟨outcome, s'⟩ := last
  cases outcome with
  | error e => exact refl_of R s
  | ok a => exact hlast

theorem within_ite {p : Prop} [Decidable p] {c d : Command ε σ α} (hc : Within R c)
    (hd : Within R d) : Within R (if p then c else d) := by
  split
  · exact hc
  · exact hd

/-! ## Failures -/

/-- If the command fails, it does so in a state that `R` relates to the first one. -/
def FailsWithin (R : σ → σ → Prop) (c : Command ε σ α) : Prop :=
  ∀ s e s', exec c s = (.error e, s') → R s s'

theorem Within.fails (h : Within R c) : FailsWithin R c := fun _ _ _ hrun ↦ h.of_exec hrun

theorem failsWithin_bind [IsTrans σ R] (hc : Within R c) (hk : ∀ a, FailsWithin R (k a)) :
    FailsWithin R (c >>= k) := by
  intro s e s' hrun
  have hfirst := hc s
  rw [exec_bind] at hrun
  generalize exec c s = first at hfirst hrun
  obtain ⟨outcome, middle⟩ := first
  cases outcome with
  | error e' =>
      cases hrun
      exact hfirst
  | ok a => exact trans_of R hfirst (hk a middle e s' hrun)

/-- What cannot fail may follow. -/
theorem failsWithin_bind_pure {g : α → β} (hc : FailsWithin R c) :
    FailsWithin R (c >>= fun a ↦ pure (g a)) := by
  intro s e s' hrun
  rw [exec_bind] at hrun
  generalize hfirst : exec c s = first at hrun
  obtain ⟨outcome, middle⟩ := first
  cases outcome with
  | error e' =>
      cases hrun
      exact hc s _ _ hfirst
  | ok a => cases hrun

theorem failsWithin_ite {p : Prop} [Decidable p] {c d : Command ε σ α} (hc : FailsWithin R c)
    (hd : FailsWithin R d) : FailsWithin R (if p then c else d) := by
  split
  · exact hc
  · exact hd

/-- After a command that leaves the state alone the sequence fails in the same state, or
goes on from it. -/
theorem exec_bind_of_within_eq (h : Within (fun s s' ↦ s' = s) c) (k : α → Command ε σ β) (s : σ) :
    (∃ e, exec (c >>= k) s = (.error e, s)) ∨
      ∃ a, exec c s = (.ok a, s) ∧ exec (c >>= k) s = exec (k a) s := by
  have hsame := h s
  rw [exec_bind]
  generalize exec c s = first at hsame
  obtain ⟨outcome, s'⟩ := first
  obtain rfl : s' = s := hsame
  cases outcome with
  | error e => exact .inl ⟨e, rfl⟩
  | ok a => exact .inr ⟨a, rfl, rfl⟩

/-- A property of states that is not lost. -/
def Preserves (P : σ → Prop) (s s' : σ) : Prop := P s → P s'

instance {P : σ → Prop} : Std.Refl (Preserves P) := ⟨fun _ h ↦ h⟩

instance {P : σ → Prop} : IsTrans σ (Preserves P) := ⟨fun _ _ _ h h' ↦ h' ∘ h⟩

/-- However the command ends, `P` holds of the state it leaves. -/
def Ensures (P : σ → Prop) (c : Command ε σ α) : Prop := ∀ s, P (exec c s).2

/-- What the first command ensures is ensured if the second keeps it. -/
theorem ensures_bind {P : σ → Prop} (hc : Ensures P c)
    (hk : ∀ a, Within (Preserves P) (k a)) : Ensures P (c >>= k) := by
  intro s
  have hfirst := hc s
  rw [exec_bind]
  generalize exec c s = first at hfirst
  obtain ⟨outcome, s'⟩ := first
  cases outcome with
  | error e => exact hfirst
  | ok a => exact hk a s' hfirst

end Rules

/-! ## Runs from related states -/

/-- From related states the commands end alike, and in related states. -/
def Alike {τ : Type u} (R : σ → τ → Prop) (c : Command ε σ α) (d : Command ε τ α) : Prop :=
  ∀ s t, R s t → (exec c s).1 = (exec d t).1 ∧ R (exec c s).2 (exec d t).2

section Alike

variable {τ : Type u} {R : σ → τ → Prop} {c : Command ε σ α} {d : Command ε τ α}
  {k : α → Command ε σ β} {k' : α → Command ε τ β} {a : α} {e : ε}

theorem alike_pure : Alike R (pure a : Command ε σ α) (pure a) := fun _ _ h ↦ ⟨rfl, h⟩

theorem alike_throw : Alike R (throw e : Command ε σ α) (throw e) := fun _ _ h ↦ ⟨rfl, h⟩

theorem alike_lift {outcome : Except ε α} :
    Alike R (liftM outcome : Command ε σ α) (liftM outcome) := fun _ _ h ↦ ⟨rfl, h⟩

theorem alike_modify {f : σ → σ} {g : τ → τ} (h : ∀ s t, R s t → R (f s) (g t)) :
    Alike R (modify f : Command ε σ PUnit) (modify g) := fun s t hst ↦ ⟨rfl, h s t hst⟩

theorem alike_bind (hc : Alike R c d) (hk : ∀ a, Alike R (k a) (k' a)) :
    Alike R (c >>= k) (d >>= k') := by
  intro s t hst
  obtain ⟨houtcome, hstates⟩ := hc s t hst
  rw [exec_bind, exec_bind]
  generalize exec c s = first at houtcome hstates
  generalize exec d t = first' at houtcome hstates
  obtain ⟨outcome, s'⟩ := first
  obtain ⟨outcome', t'⟩ := first'
  obtain rfl : outcome = outcome' := houtcome
  cases outcome with
  | error e => exact ⟨rfl, hstates⟩
  | ok a => exact hk a s' t' hstates

/-- What is read of related states is related. -/
theorem alike_get_bind {k : σ → Command ε σ β} {k' : τ → Command ε τ β}
    (hk : ∀ s t, R s t → (exec (k s) s).1 = (exec (k' t) t).1 ∧ R (exec (k s) s).2 (exec (k' t) t).2) :
    Alike R (get >>= k) (get >>= k') := by
  intro s t hst
  rw [exec_bind, exec_bind, exec_get, exec_get]
  exact hk s t hst

theorem alike_focus {ε' σ' τ' : Type u} {R' : σ' → τ' → Prop} {view : σ → σ'} {put : σ → σ' → σ}
    {view' : τ → τ'} {put' : τ → τ' → τ} {rename : ε' → ε} {c : Command ε' σ' α}
    {d : Command ε' τ' α} (hview : ∀ s t, R s t → R' (view s) (view' t))
    (hput : ∀ s t s' t', R s t → R' s' t' → R (put s s') (put' t t')) (h : Alike R' c d) :
    Alike R (focus view put rename c) (focus view' put' rename d) := by
  intro s t hst
  obtain ⟨houtcome, hstates⟩ := h (view s) (view' t) (hview s t hst)
  rw [exec_focus, exec_focus]
  generalize exec c (view s) = part at houtcome hstates
  generalize exec d (view' t) = part' at houtcome hstates
  obtain ⟨outcome, s'⟩ := part
  obtain ⟨outcome', t'⟩ := part'
  obtain rfl : outcome = outcome' := houtcome
  cases outcome with
  | error e => exact ⟨rfl, hput s t s' t' hst hstates⟩
  | ok a => exact ⟨rfl, hput s t s' t' hst hstates⟩

end Alike

end AxiomArb.Library
