import Mathlib.Data.List.Forall2
import Mathlib.Data.Option.Basic

/-!
# Computations that may fail

Two computations are related if both fail or both end in related values.  Steps that
preserve the relation may be put one after another, and run over related lists.  A sequence
of answers is taken apart where it succeeds.
-/

universe u v w x

namespace AxiomArb.Library

variable {α β : Type u} {γ δ : Type v} {R : α → γ → Prop} {S : β → δ → Prop}

theorem rel_bind {first : Option α} {second : Option γ} {next : α → Option β} {next' : γ → Option δ}
    (h : Option.Rel R first second)
    (hnext : ∀ a c, R a c → Option.Rel S (next a) (next' c)) :
    Option.Rel S (first >>= next) (second >>= next') := by
  cases h with
  | none => exact .none
  | some hrel => exact hnext _ _ hrel

theorem rel_map {first : Option α} {second : Option γ} {next : α → β} {next' : γ → δ}
    (h : Option.Rel R first second) (hnext : ∀ a c, R a c → S (next a) (next' c)) :
    Option.Rel S (first.map next) (second.map next') := by
  cases h with
  | none => exact .none
  | some hrel => exact .some (hnext _ _ hrel)

variable {ι : Type w} {ι' : Type x} {step : ι → Option α} {step' : ι' → Option γ}

/-- Steps that are related item by item run to related lists. -/
theorem rel_mapM {items : List ι} {items' : List ι'}
    (h : List.Forall₂ (fun item item' ↦ Option.Rel R (step item) (step' item')) items items') :
    Option.Rel (List.Forall₂ R) (items.mapM step) (items'.mapM step') := by
  induction h with
  | nil => exact .some .nil
  | cons hstep _ ih =>
      rw [List.mapM_cons, List.mapM_cons]
      refine rel_bind hstep fun first first' hfirst ↦ rel_bind ih fun rest rest' hrest ↦ ?_
      exact .some (.cons hfirst hrest)

/-- Items that are each read as expected, to the eye of a view, are read so together. -/
theorem map_mapM_eq_some {read : ι → Option α} {view : α → β} {expected : ι → β} {items : List ι}
    (h : ∀ item ∈ items, (read item).map view = some (expected item)) :
    (items.mapM read).map (List.map view) = some (items.map expected) := by
  induction items with
  | nil => exact rfl
  | cons item items ih =>
      obtain ⟨hitem, hitems⟩ := List.forall_mem_cons.mp h
      obtain ⟨value, hvalue, hview⟩ := Option.map_eq_some_iff.mp hitem
      obtain ⟨values, hvalues, hviews⟩ := Option.map_eq_some_iff.mp (ih hitems)
      rw [List.mapM_cons, hvalue, hvalues, List.map_cons, ← hview, ← hviews]
      rfl

/-! ## Errors that are compared -/

section Outcome

variable {ε : Type u} {σ : Type v} {τ : Type w} {ι : Type x} {R : σ → τ → Prop}

/-- Both fail with one error, or both end in related values. -/
def SameOutcome (R : σ → τ → Prop) : Except ε σ → Except ε τ → Prop
  | .ok s, .ok t => R s t
  | .error e, .error e' => e = e'
  | _, _ => False

/-- A loop that passes over some items goes like a loop over the others, if the steps at
these do. -/
theorem sameOutcome_foldlM_filter {select : ι → Bool} {step : σ → ι → Except ε σ}
    {step' : τ → ι → Except ε τ} {items : List ι}
    (hskip : ∀ s, ∀ item ∈ items, select item = false → step s item = .ok s)
    (hstep : ∀ s t, ∀ item ∈ items, R s t → select item = true →
      SameOutcome R (step s item) (step' t item))
    {s : σ} {t : τ} (h : R s t) :
    SameOutcome R (items.foldlM step s) ((items.filter select).foldlM step' t) := by
  induction items generalizing s t with
  | nil => exact h
  | cons item items ih =>
      have ih := @ih (fun s item hitem ↦ hskip s item (List.mem_cons_of_mem _ hitem))
        (fun s t item hitem ↦ hstep s t item (List.mem_cons_of_mem _ hitem))
      cases hselect : select item with
      | false =>
          rw [List.foldlM_cons, hskip s item List.mem_cons_self hselect,
            List.filter_cons_of_neg (by simp [hselect])]
          exact ih h
      | true =>
          have hfirst := hstep s t item List.mem_cons_self h hselect
          rw [List.foldlM_cons, List.filter_cons_of_pos hselect, List.foldlM_cons]
          cases hs : step s item with
          | ok s' =>
              cases ht : step' t item with
              | ok t' =>
                  rw [hs, ht] at hfirst
                  exact ih hfirst
              | error e =>
                  rw [hs, ht] at hfirst
                  exact hfirst.elim
          | error e =>
              cases ht : step' t item with
              | ok t' =>
                  rw [hs, ht] at hfirst
                  exact hfirst.elim
              | error e' =>
                  rw [hs, ht] at hfirst
                  exact hfirst

/-- What holds of a loop's state and the items that are done, if every step keeps it. -/
theorem foldlM_induction {Invariant : List ι → σ → Prop} {step : σ → ι → Except ε σ}
    (hstep : ∀ done item s s', Invariant done s → step s item = .ok s' →
      Invariant (done ++ [item]) s')
    {items : List ι} {s s' : σ} (hs : Invariant [] s) (h : items.foldlM step s = .ok s') :
    Invariant items s' := by
  have hall : ∀ (items done : List ι) (s : σ), Invariant done s → items.foldlM step s = .ok s' →
      Invariant (done ++ items) s' := by
    intro items
    induction items with
    | nil =>
        intro done s hs h
        obtain rfl : s = s' := Except.ok.inj h
        rwa [List.append_nil]
    | cons item items ih =>
        intro done s hs h
        rw [List.foldlM_cons] at h
        cases hitem : step s item with
        | ok next =>
            rw [hitem] at h
            have hdone := ih (done ++ [item]) next (hstep done item s next hs hitem) h
            rwa [List.append_assoc] at hdone
        | error e =>
            rw [hitem] at h
            cases h
  exact hall items [] s hs h

/-- A loop runs through if no step of it fails. -/
theorem exists_foldlM_of_forall {step : σ → ι → Except ε σ} {items : List ι}
    (h : ∀ item ∈ items, ∀ s, ∃ s', step s item = .ok s') (s : σ) :
    ∃ s', items.foldlM step s = .ok s' := by
  induction items generalizing s with
  | nil => exact ⟨s, rfl⟩
  | cons item items ih =>
      obtain ⟨next, hnext⟩ := h item List.mem_cons_self s
      rw [List.foldlM_cons, hnext]
      exact ih (fun other hother ↦ h other (List.mem_cons_of_mem item hother)) next

/-- A loop runs through if and only if each item is fit and bears with the items before it,
where that is what a step asks for. -/
theorem exists_foldlM_iff {Invariant : List ι → σ → Prop} {Fit : ι → Prop} {Bears : ι → ι → Prop}
    {step : σ → ι → Except ε σ}
    (haccept : ∀ done item s, Invariant done s →
      ((∃ s', step s item = .ok s') ↔ Fit item ∧ ∀ earlier ∈ done, Bears earlier item))
    (hstep : ∀ done item s s', Invariant done s → step s item = .ok s' →
      Invariant (done ++ [item]) s')
    {s : σ} (hs : Invariant [] s) (items : List ι) :
    (∃ s', items.foldlM step s = .ok s') ↔ (∀ item ∈ items, Fit item) ∧ items.Pairwise Bears := by
  have hall : ∀ (items done : List ι) (s : σ), Invariant done s →
      ((∃ s', items.foldlM step s = .ok s') ↔
        (∀ item ∈ items, Fit item ∧ ∀ earlier ∈ done, Bears earlier item) ∧
          items.Pairwise Bears) := by
    intro items
    induction items with
    | nil => exact fun done s _ ↦ iff_of_true ⟨s, rfl⟩ ⟨fun _ hmem ↦ (nomatch hmem), .nil⟩
    | cons item items ih =>
        intro done s hs
        rw [List.foldlM_cons, List.forall_mem_cons, List.pairwise_cons, ← haccept done item s hs]
        constructor
        · rintro ⟨s', h⟩
          cases hitem : step s item with
          | error e =>
              rw [hitem] at h
              cases h
          | ok next =>
              rw [hitem] at h
              obtain ⟨hrest, hpairs⟩ := (ih _ next (hstep done item s next hs hitem)).mp ⟨s', h⟩
              exact ⟨⟨⟨next, rfl⟩, fun later hlater ↦ ⟨(hrest later hlater).1, fun earlier hearlier ↦
                (hrest later hlater).2 earlier (List.mem_append_left _ hearlier)⟩⟩,
                fun later hlater ↦ (hrest later hlater).2 item (by simp), hpairs⟩
        · rintro ⟨⟨⟨next, hitem⟩, hrest⟩, hfirst, hpairs⟩
          rw [hitem]
          refine (ih _ next (hstep done item s next hs hitem)).mpr ⟨fun later hlater ↦
            ⟨(hrest later hlater).1, fun earlier hearlier ↦ ?_⟩, hpairs⟩
          rcases List.mem_append.mp hearlier with hearlier | hitem'
          · exact (hrest later hlater).2 earlier hearlier
          · rw [List.mem_singleton.mp hitem']
            exact hfirst later hlater
  have hitems := hall items [] s hs
  simpa using hitems

end Outcome

/-! ## Answers -/

section Answers

variable {ε α β : Type u}

/-- A sequence of answers succeeds when both of its parts do. -/
theorem bind_eq_ok {answer : Except ε α} {next : α → Except ε β} {b : β} :
    (answer >>= next) = .ok b ↔ ∃ a, answer = .ok a ∧ next a = .ok b := by
  cases answer <;> simp [bind, Except.bind]

theorem map_eq_ok {answer : Except ε α} {f : α → β} {b : β} :
    answer.map f = .ok b ↔ ∃ a, answer = .ok a ∧ f a = b := by
  cases answer <;> simp [Except.map]

theorem mapError_eq_ok_iff {ε' : Type v} {answer : Except ε α} {f : ε → ε'} {a : α} :
    answer.mapError f = .ok a ↔ answer = .ok a := by
  cases answer <;> simp [Except.mapError]

/-- A check of each item succeeds when every check does. -/
theorem forM_eq_ok_iff {check : α → Except ε PUnit.{u + 1}} {items : List α} :
    items.forM check = .ok ⟨⟩ ↔ ∀ item ∈ items, check item = .ok ⟨⟩ := by
  induction items with
  | nil => exact iff_of_true rfl (List.forall_mem_nil _)
  | cons item items ih =>
      rw [List.forall_mem_cons, ← ih]
      show (check item >>= fun _ ↦ items.forM check) = .ok ⟨⟩ ↔ _
      rw [bind_eq_ok]
      constructor
      · rintro ⟨⟨⟩, hitem, hitems⟩
        exact ⟨hitem, hitems⟩
      · rintro ⟨hitem, hitems⟩
        exact ⟨⟨⟩, hitem, hitems⟩

/-- What an error is renamed to is not seen in the answer. -/
theorem toOption_mapError {ε' : Type v} (answer : Except ε α) (f : ε → ε') :
    (answer.mapError f).toOption = answer.toOption := by
  cases answer <;> rfl

/-- Asking each item succeeds when every answer does, and gives the answers. -/
theorem mapM_eq_ok_iff {answer : α → Except ε β} {items : List α} {values : List β} :
    items.mapM answer = .ok values ↔ items.map answer = values.map .ok := by
  induction items generalizing values with
  | nil =>
      cases values <;> simp [pure, Except.pure]
  | cons item items ih =>
      rw [List.mapM_cons, List.map_cons]
      cases hitem : answer item with
      | error e =>
          refine iff_of_false ?_ ?_
          · rintro ⟨⟩
          · cases values <;> simp
      | ok value =>
          cases hitems : items.mapM answer with
          | error e =>
              refine iff_of_false ?_ ?_
              · rintro ⟨⟩
              · cases values with
                | nil => simp
                | cons value' values =>
                    rw [List.map_cons, List.cons.injEq, ← ih, hitems]
                    rintro ⟨-, ⟨⟩⟩
          | ok rest =>
              cases values with
              | nil => simp [bind, Except.bind, pure, Except.pure]
              | cons value' values =>
                  rw [List.map_cons, List.cons.injEq, ← ih, hitems]
                  simp [bind, Except.bind, pure, Except.pure]

section

variable {answer : α → Except ε β} {items : List α} {values : List β}

theorem mapM_mapError_eq_ok_iff {ε' : Type u} {rename : ε → ε'} :
    (items.mapM fun item ↦ (answer item).mapError rename) = .ok values ↔
      items.mapM answer = .ok values := by
  induction items generalizing values with
  | nil => simp [pure, Except.pure]
  | cons item items ih =>
      simp only [List.mapM_cons, bind_eq_ok, mapError_eq_ok_iff, ih]
      simp [pure, Except.pure]

/-- The values are the answers of the items. -/
theorem mem_values_iff (h : items.mapM answer = .ok values) {value : β} :
    value ∈ values ↔ ∃ item ∈ items, answer item = .ok value := by
  have hmem : (Except.ok value : Except ε β) ∈ items.map answer ↔
      (Except.ok value : Except ε β) ∈ values.map Except.ok := by
    rw [mapM_eq_ok_iff.mp h]
  simpa using hmem.symm

/-- What can be said of a value in terms of its item, item by item. -/
theorem map_values_eq {γ : Type u} (h : items.mapM answer = .ok values) {view : β → γ} {view' : α → γ}
    (hview : ∀ item ∈ items, ∀ value ∈ values, answer item = .ok value → view value = view' item) :
    values.map view = items.map view' := by
  rw [mapM_eq_ok_iff] at h
  induction items generalizing values with
  | nil =>
      rw [List.map_nil, eq_comm, List.map_eq_nil_iff] at h
      rw [h, List.map_nil, List.map_nil]
  | cons item items ih =>
      cases values with
      | nil => cases h
      | cons value values =>
          rw [List.map_cons, List.map_cons, List.cons.injEq] at h
          rw [List.map_cons, List.map_cons,
            hview item List.mem_cons_self value List.mem_cons_self h.1]
          refine congrArg _ (ih h.2 ?_)
          intro item' hitem value' hvalue
          exact hview item' (List.mem_cons_of_mem item hitem) value'
            (List.mem_cons_of_mem value hvalue)

theorem exists_of_mapM_eq_ok (h : items.mapM answer = .ok values) {item : α} (hitem : item ∈ items) :
    ∃ value ∈ values, answer item = .ok value := by
  have hmem : answer item ∈ values.map Except.ok := by
    rw [← mapM_eq_ok_iff.mp h]
    exact List.mem_map_of_mem hitem
  obtain ⟨value, hvalue, heq⟩ := List.mem_map.mp hmem
  exact ⟨value, hvalue, heq.symm⟩

/-- If the items do not all answer, one of them fails. -/
theorem exists_error_of_mapM (h : items.mapM answer = .error e) :
    ∃ item ∈ items, ∀ value, answer item ≠ .ok value := by
  induction items with
  | nil => cases h
  | cons item items ih =>
      cases hitem : answer item with
      | error e' => exact ⟨item, List.mem_cons_self, fun value ↦ by simp [hitem]⟩
      | ok value =>
          obtain ⟨failed, hfailed, herror⟩ : ∃ item ∈ items, ∀ value, answer item ≠ .ok value := by
            refine ih ?_
            cases hitems : items.mapM answer with
            | error e' =>
                rw [List.mapM_cons, hitem, hitems] at h
                exact h
            | ok values =>
                rw [List.mapM_cons, hitem, hitems] at h
                cases h
          exact ⟨failed, List.mem_cons_of_mem item hfailed, herror⟩

end

end Answers

end AxiomArb.Library
