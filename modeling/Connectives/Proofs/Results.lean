/-!
# Connectives — results of computations that may fail

When a failure is told in another way, and when a computation is carried out for each item of a
list, what succeeds is the same as before. All of the project that reads, evaluates or reports
goes by these.
-/

namespace Connectives

variable {ε ε' α β : Type}

/-- Telling a failure in another way makes no success and loses none. -/
theorem mapError_eq_ok_iff {r : Except ε α} {tell : ε → ε'} {x : α} :
    r.mapError tell = .ok x ↔ r = .ok x := by
  cases r with
  | ok y =>
    show (Except.ok y : Except ε' α) = .ok x ↔ (Except.ok y : Except ε α) = .ok x
    rw [Except.ok.injEq, Except.ok.injEq]
  | error e => exact iff_of_false nofun nofun

/-- And each failure is told from one. -/
theorem mapError_eq_error_iff {r : Except ε α} {tell : ε → ε'} {e' : ε'} :
    r.mapError tell = .error e' ↔ ∃ e, r = .error e ∧ tell e = e' := by
  cases r with
  | ok x => exact iff_of_false nofun nofun
  | error e =>
    show (Except.error (tell e) : Except ε' α) = .error e' ↔ _
    simp only [Except.error.injEq, exists_eq_left']

/-- So does working on with a result. -/
theorem map_eq_ok_iff {r : Except ε α} {g : α → β} {y : β} :
    g <$> r = .ok y ↔ ∃ x, r = .ok x ∧ g x = y := by
  cases r with
  | ok x =>
    show Except.ok (g x) = .ok y ↔ _
    simp only [Except.ok.injEq, exists_eq_left']
  | error e => exact iff_of_false nofun nofun

theorem mapM_cons_eq_ok_iff {f : α → Except ε β} {a : α} {l : List α} {bs : List β} :
    (a :: l).mapM f = .ok bs ↔ ∃ b bs', f a = .ok b ∧ l.mapM f = .ok bs' ∧ b :: bs' = bs := by
  rw [List.mapM_cons]
  cases f a with
  | error e => simp [bind, Except.bind]
  | ok b => cases l.mapM f <;> simp [bind, Except.bind, pure, Except.pure]

theorem mapM_cons_eq_error_iff {f : α → Except ε β} {a : α} {l : List α} {e : ε} :
    (a :: l).mapM f = .error e ↔
      f a = .error e ∨ (∃ b, f a = .ok b) ∧ l.mapM f = .error e := by
  rw [List.mapM_cons]
  cases f a with
  | error e' => simp [bind, Except.bind]
  | ok b => cases l.mapM f <;> simp [bind, Except.bind, pure, Except.pure]

/-- What is computed item by item succeeds if each item does. -/
theorem mapM_eq_ok_iff {f : α → Except ε β} {l : List α} {bs : List β} :
    l.mapM f = .ok bs ↔ l.map f = bs.map .ok := by
  induction l generalizing bs with
  | nil => cases bs <;> simp [pure, Except.pure]
  | cons a l ih =>
    rw [mapM_cons_eq_ok_iff, List.map_cons]
    constructor
    · rintro ⟨b, bs', hHead, hRest, rfl⟩
      rw [hHead, ih.1 hRest, List.map_cons]
    · intro hSame
      cases bs with
      | nil => cases hSame
      | cons b bs =>
        obtain ⟨hHead, hRest⟩ := List.cons.inj hSame
        exact ⟨b, bs, hHead, ih.2 hRest, rfl⟩

/-- It fails as the first item does that fails. -/
theorem mapM_eq_error_iff {f : α → Except ε β} {l : List α} {e : ε} :
    l.mapM f = .error e ↔
      ∃ before a after, l = before ++ a :: after ∧ (∀ b ∈ before, ∃ c, f b = .ok c) ∧
        f a = .error e := by
  induction l with
  | nil => exact iff_of_false nofun fun ⟨before, a, after, h, _⟩ => by simp at h
  | cons a l ih =>
    rw [mapM_cons_eq_error_iff, ih]
    constructor
    · rintro (hFails | ⟨hGood, before, b, after, rfl, hBefore, hFails⟩)
      · exact ⟨[], a, l, rfl, nofun, hFails⟩
      · exact ⟨a :: before, b, after, rfl, List.forall_mem_cons.2 ⟨hGood, hBefore⟩, hFails⟩
    · rintro ⟨before, b, after, hSplit, hBefore, hFails⟩
      cases before with
      | nil =>
        cases hSplit
        exact Or.inl hFails
      | cons b' before =>
        cases hSplit
        obtain ⟨hGood, hBefore⟩ := List.forall_mem_cons.1 hBefore
        exact Or.inr ⟨hGood, before, b, after, rfl, hBefore, hFails⟩

/-- A failure of some item may as well be told in another way item by item. -/
theorem mapError_mapM (f : α → Except ε β) (tell : ε → ε') (l : List α) :
    (l.mapM f).mapError tell = l.mapM fun a => (f a).mapError tell := by
  induction l with
  | nil => rfl
  | cons a l ih =>
    rw [List.mapM_cons, List.mapM_cons, ← ih]
    cases f a with
    | error e => rfl
    | ok b => cases l.mapM f <;> rfl

theorem mapM_eq_ok {f : α → Except ε β} {g : α → β} {l : List α}
    (h : ∀ a ∈ l, f a = .ok (g a)) : l.mapM f = .ok (l.map g) := by
  rw [mapM_eq_ok_iff, List.map_map]
  exact List.map_congr_left h

end Connectives
