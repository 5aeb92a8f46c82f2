import Mathlib.Data.List.Basic
import Mathlib.Data.List.Infix

/-!
# Runs of a deterministic machine

A machine is a step function `step : σ → ι → σ`; a run feeds it a list of inputs.
Two notions of "along the run" are needed, and the module relates them:

* `Always step P s is`: the property `P` holds in every state the run visits,
  the first and the last included;
* `Steps step C s is`: every step of the run is taken from a state and on an
  input that satisfy `C`; `SomeStep step C s is` says so of some step.

The rule `always_iff_steps` is the exact form of an invariance proof.  When one
step keeps `P` *precisely* if `C` holds before it, a run keeps `P` precisely if
all of its steps meet `C`.
-/

universe u v w x

namespace AxiomArb.Library

variable {σ : Type u} {ι : Type v} {τ : Type w} {κ : Type x}

/-- The state in which the machine `step` ends when it is fed `is` from `s`. -/
def run (step : σ → ι → σ) (s : σ) (is : List ι) : σ := is.foldl step s

section Basic

variable (step : σ → ι → σ) (s : σ) (i : ι) (is js : List ι)

@[simp] theorem run_nil : run step s [] = s := rfl

@[simp] theorem run_cons : run step s (i :: is) = run step (step s i) is := rfl

@[simp] theorem run_append : run step s (is ++ js) = run step (run step s is) js :=
  List.foldl_append

end Basic

/-- `P` holds in every state visited by the run of `is` from `s`. -/
def Always (step : σ → ι → σ) (P : σ → Prop) (s : σ) (is : List ι) : Prop :=
  ∀ pre, pre <+: is → P (run step s pre)

/-- Every step of the run of `is` from `s` is taken under the condition `C`. -/
def Steps (step : σ → ι → σ) (C : σ → ι → Prop) : σ → List ι → Prop
  | _, [] => True
  | s, i :: is => C s i ∧ Steps step C (step s i) is

instance decidableSteps (step : σ → ι → σ) (C : σ → ι → Prop) [∀ s i, Decidable (C s i)] :
    ∀ s is, Decidable (Steps step C s is)
  | _, [] => .isTrue trivial
  | s, i :: is =>
      have := decidableSteps step C (step s i) is
      inferInstanceAs (Decidable (C s i ∧ Steps step C (step s i) is))

/-- Some step of the run of `is` from `s` is taken under the condition `C`. -/
def SomeStep (step : σ → ι → σ) (C : σ → ι → Prop) (s : σ) (is : List ι) : Prop :=
  ∃ pre i, pre ++ [i] <+: is ∧ C (run step s pre) i

/-- The last value that a step of the run of `is` from `s` gives. -/
def lastGiven {α : Type w} (step : σ → ι → σ) (give : σ → ι → Option α) : σ → List ι → Option α
  | _, [] => none
  | s, i :: is => (lastGiven step give (step s i) is).or (give s i)

theorem lastGiven_concat {α : Type w} {step : σ → ι → σ} {give : σ → ι → Option α} {s : σ}
    {is : List ι} {i : ι} :
    lastGiven step give s (is ++ [i]) = (give (run step s is) i).or (lastGiven step give s is) := by
  induction is generalizing s with
  | nil => exact (Option.or_none (o := give s i)).symm
  | cons j is ih => rw [List.cons_append, lastGiven, lastGiven, ih, run_cons, Option.or_assoc]

section Rules

variable {step : σ → ι → σ} {P J : σ → Prop} {C D : σ → ι → Prop} {s : σ} {i : ι} {is : List ι}

@[simp] theorem always_nil : Always step P s [] ↔ P s := by
  simp [Always]

@[simp] theorem always_cons :
    Always step P s (i :: is) ↔ P s ∧ Always step P (step s i) is := by
  constructor
  · intro h
    exact ⟨h [] (List.nil_prefix), fun pre hpre ↦
      h (i :: pre) (List.cons_prefix_cons.mpr ⟨rfl, hpre⟩)⟩
  · rintro ⟨h₀, h⟩ pre hpre
    cases pre with
    | nil => exact h₀
    | cons j pre =>
        obtain ⟨rfl, htail⟩ := List.cons_prefix_cons.mp hpre
        exact h pre htail

@[simp] theorem steps_nil : Steps step C s [] := trivial

@[simp] theorem steps_cons :
    Steps step C s (i :: is) ↔ C s i ∧ Steps step C (step s i) is := Iff.rfl

/-- A run with one more step. -/
theorem steps_concat :
    Steps step C s (is ++ [i]) ↔ Steps step C s is ∧ C (run step s is) i := by
  induction is generalizing s with
  | nil => simp
  | cons j is ih => rw [List.cons_append, steps_cons, steps_cons, ih, run_cons, and_assoc]

theorem steps_of_forall (h : ∀ s i, C s i) : Steps step C s is := by
  induction is generalizing s with
  | nil => trivial
  | cons i is ih => exact ⟨h s i, ih⟩

/-- A condition on the inputs alone. -/
theorem steps_of_forall_mem {D : ι → Prop} (h : ∀ i ∈ is, D i) : Steps step (fun _ ↦ D) s is := by
  induction is generalizing s with
  | nil => trivial
  | cons i is ih =>
      exact ⟨h i List.mem_cons_self, ih fun j hj ↦ h j (List.mem_cons_of_mem i hj)⟩

/-- The last state of a run is one of the states it visits. -/
theorem Always.last (h : Always step P s is) : P (run step s is) := h is List.prefix_rfl

/-- Invariance: a property every step keeps holds at the end of every run. -/
theorem run_inv (hstep : ∀ s i, P s → P (step s i)) (h : P s) : P (run step s is) := by
  induction is generalizing s with
  | nil => exact h
  | cons i is ih => exact ih (hstep s i h)

/-- Invariance of a property that looks back on the inputs. -/
theorem run_inv_history {Q : List ι → σ → Prop}
    (hstep : ∀ is i, Q is (run step s is) → Q (is ++ [i]) (run step s (is ++ [i]))) (h : Q [] s) :
    Q is (run step s is) := by
  induction is using List.reverseRecOn with
  | nil => exact h
  | append_singleton is i ih => exact hstep is i ih

/-- A run over inputs of one form is what they do together. -/
theorem run_map {α : Type w} {input : α → ι} (update : σ → List α → σ)
    (hnil : ∀ s, update s [] = s)
    (hcons : ∀ s a as, update (step s (input a)) as = update s (a :: as)) (as : List α) :
    run step s (as.map input) = update s as := by
  induction as generalizing s with
  | nil => exact (hnil s).symm
  | cons a as ih => rw [List.map_cons, run_cons, ih, hcons]

/-- The last step of a run is the one, or an earlier step is. -/
theorem someStep_concat :
    SomeStep step C s (is ++ [i]) ↔ SomeStep step C s is ∨ C (run step s is) i := by
  constructor
  · rintro ⟨pre, j, hpre, hC⟩
    rcases List.prefix_concat_iff.mp hpre with heq | hpre
    · obtain ⟨rfl, rfl⟩ := List.append_singleton_inj.mp heq
      exact .inr hC
    · exact .inl ⟨pre, j, hpre, hC⟩
  · rintro (⟨pre, j, hpre, hC⟩ | hC)
    · exact ⟨pre, j, hpre.trans (List.prefix_append is [i]), hC⟩
    · exact ⟨is, i, List.prefix_rfl, hC⟩

/-- Invariance under a condition on the steps. -/
theorem Steps.run_inv (hsteps : Steps step C s is)
    (hstep : ∀ s i, P s → C s i → P (step s i)) (h : P s) : P (run step s is) := by
  induction is generalizing s with
  | nil => exact h
  | cons i is ih => exact ih hsteps.2 (hstep s i h hsteps.1)

theorem steps_congr (h : ∀ s i, C s i ↔ D s i) : Steps step C s is ↔ Steps step D s is := by
  induction is generalizing s with
  | nil => exact Iff.rfl
  | cons i is ih => rw [steps_cons, steps_cons, h, ih]

/-- Under the condition the property holds all along the run. -/
theorem Steps.always (hsteps : Steps step C s is)
    (hstep : ∀ s i, P s → C s i → P (step s i)) (h : P s) : Always step P s is := by
  induction is generalizing s with
  | nil => simpa using h
  | cons i is ih =>
      rw [always_cons]
      exact ⟨h, ih hsteps.2 (hstep s i h hsteps.1)⟩

/-- The condition on the steps may be weakened where the invariant `J` holds. -/
theorem Steps.mono_of_inv (hJ : ∀ s i, J s → J (step s i))
    (hCD : ∀ s i, J s → C s i → D s i) (h : J s) (hsteps : Steps step C s is) :
    Steps step D s is := by
  induction is generalizing s with
  | nil => trivial
  | cons i is ih => exact ⟨hCD s i h hsteps.1, ih (hJ s i h) hsteps.2⟩

/-- **Exact invariance.**  If a step on an input that `K` admits keeps the invariant `J`
and, where `P` holds too, keeps `P` precisely when `C` holds before it, then a run over
such inputs stays in `P` precisely when all of its steps meet `C`. -/
theorem always_iff_steps {K : σ → ι → Prop} (hJ : ∀ s i, J s → K s i → J (step s i))
    (hstep : ∀ s i, J s → P s → K s i → (P (step s i) ↔ C s i))
    (hs : J s) (hP : P s) (hK : Steps step K s is) :
    Always step P s is ↔ Steps step C s is := by
  induction is generalizing s with
  | nil => simpa using hP
  | cons i is ih =>
      have hone := hstep s i hs hP hK.1
      rw [always_cons, steps_cons]
      constructor
      · rintro ⟨-, h⟩
        have hPi : P (step s i) := h [] List.nil_prefix
        exact ⟨hone.mp hPi, (ih (hJ s i hs hK.1) hPi hK.2).mp h⟩
      · rintro ⟨hC, h⟩
        exact ⟨hP, (ih (hJ s i hs hK.1) (hone.mpr hC) hK.2).mpr h⟩

/-- The form of `always_iff_steps` without an invariant and without a condition
on the inputs. -/
theorem always_iff_steps_of_step (hstep : ∀ s i, P s → (P (step s i) ↔ C s i)) (hP : P s) :
    Always step P s is ↔ Steps step C s is :=
  always_iff_steps (J := fun _ ↦ True) (K := fun _ _ ↦ True) (fun _ _ _ _ ↦ trivial)
    (fun s i _ h _ ↦ hstep s i h) trivial hP (steps_of_forall fun _ _ ↦ trivial)

end Rules

end AxiomArb.Library
