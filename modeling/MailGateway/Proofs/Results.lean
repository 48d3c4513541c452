/-!
# Results

When the composition of steps that may fail gives a result: each step gives one.
-/

namespace MailGateway

variable {ε δ α β : Type}

theorem bind_eq_ok {result : Except ε α} {next : α → Except ε β} {b : β} :
    (result >>= next) = .ok b ↔ ∃ a, result = .ok a ∧ next a = .ok b := by
  cases result with
  | ok a =>
    constructor
    · exact fun h ↦ ⟨a, rfl, h⟩
    · rintro ⟨_, ha, h⟩
      cases ha
      exact h
  | error e =>
    constructor
    · intro h
      cases h
    · rintro ⟨_, ha, _⟩
      cases ha

@[simp]
theorem mapError_ok (f : ε → δ) (a : α) : (Except.ok a).mapError f = .ok a := rfl

@[simp]
theorem mapError_error (f : ε → δ) (e : ε) :
    (Except.error e : Except ε α).mapError f = .error (f e) := rfl

theorem ok_of_mapError {result : Except ε α} {f : ε → δ} {a : α}
    (h : result.mapError f = .ok a) : result = .ok a := by
  cases result with
  | ok other => exact congrArg Except.ok (Except.ok.inj h)
  | error e => cases h

theorem ok_of_toOption {result : Except ε α} {a : α} (h : result.toOption = some a) :
    result = .ok a := by
  cases result with
  | ok other => exact congrArg Except.ok (Option.some.inj h)
  | error e => cases h

theorem map_eq_ok {result : Except ε α} {f : α → β} {b : β} :
    result.map f = .ok b ↔ ∃ a, result = .ok a ∧ f a = b := by
  cases result with
  | ok a => simp [Except.map]
  | error e => simp [Except.map]

theorem mapM_eq_ok_iff {f : α → Except ε β} {g : α → β} {P : α → Prop} {items : List α}
    {results : List β} (h : ∀ a ∈ items, ∀ b, f a = .ok b ↔ P a ∧ b = g a) :
    items.mapM f = .ok results ↔ (∀ a ∈ items, P a) ∧ results = items.map g := by
  induction items generalizing results with
  | nil =>
    rw [List.mapM_nil]
    constructor
    · intro hresults
      exact ⟨List.forall_mem_nil _, (Except.ok.inj hresults).symm⟩
    · rintro ⟨-, rfl⟩
      rfl
  | cons a items ih =>
    simp only [List.mapM_cons, bind_eq_ok, h a List.mem_cons_self,
      ih fun b hb ↦ h b (List.mem_cons_of_mem _ hb), List.forall_mem_cons]
    constructor
    · rintro ⟨_, ⟨ha, rfl⟩, _, ⟨hitems, rfl⟩, hresults⟩
      exact ⟨⟨ha, hitems⟩, (Except.ok.inj hresults).symm⟩
    · rintro ⟨⟨ha, hitems⟩, rfl⟩
      exact ⟨_, ⟨ha, rfl⟩, _, ⟨hitems, rfl⟩, rfl⟩

theorem mapM_eq_ok {f : α → Except ε β} {g : α → β} {items : List α}
    (h : ∀ a ∈ items, f a = .ok (g a)) : items.mapM f = .ok (items.map g) := by
  have hiff (a : α) (ha : a ∈ items) (b : β) : f a = .ok b ↔ True ∧ b = g a := by
    rw [h a ha, Except.ok.injEq, true_and, eq_comm]
  exact (mapM_eq_ok_iff hiff).mpr ⟨fun _ _ ↦ trivial, rfl⟩

/-- Every result is that of a member. -/
theorem exists_of_mem_mapM {f : α → Except ε β} {items : List α} {results : List β}
    (h : items.mapM f = .ok results) {b : β} (hb : b ∈ results) : ∃ a ∈ items, f a = .ok b := by
  induction items generalizing results with
  | nil =>
    cases h
    cases hb
  | cons a items ih =>
    simp only [List.mapM_cons, bind_eq_ok] at h
    obtain ⟨first, hfirst, rest, hrest, hresults⟩ := h
    cases hresults
    rcases List.mem_cons.mp hb with rfl | hb
    · exact ⟨a, List.mem_cons_self, hfirst⟩
    · obtain ⟨c, hc, hresult⟩ := ih hrest hb
      exact ⟨c, List.mem_cons_of_mem _ hc, hresult⟩

end MailGateway
