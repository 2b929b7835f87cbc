import Connectives.Random.Draw

/-!
# Connectives — what may come of drawing lots

A coin may fall on either side, and any number below the bound may be picked. Each lot that falls
takes a computation one step ahead; what can come of a computation is told by these steps alone,
without a word about where the lots come from.

Two things are to be known of a computation. It *ensures* a property, if the lots end before long
whichever way they fall, none of them is a number out of none, and what comes of them has the
property. And it *may give* a result, if some lots lead there. Both follow the composition of
computations, so they are shown for a computation from its parts.

* `Draw.Step`, `Draw.Leads` — one lot, and many.
* `Draw.Ensures` — what holds whichever way the lots fall, and the most lots it can take.
* `Draw.Ensures.step`, `Draw.Ensures.leads` — what is ensured stays ensured on the way.
* `Draw.MayGive` — what some lots lead to.
* `Draw.Ensures.mayGive_run` — the numbers of a generator are lots like others.
-/

namespace Connectives

/-- How a lot falls. -/
inductive Lot where
  /-- The coin shows this side. -/
  | side (b : Bool)
  /-- This number is picked. -/
  | number (n : Nat)
  deriving DecidableEq, Repr

namespace Draw

variable {α β : Type} {d : Draw α} {k : α → Draw β}

-- ---------------------------------------------------------------------------
-- Lots
-- ---------------------------------------------------------------------------

/-- The lot that the computation waits for falls so, and this is what is left to do. -/
inductive Step : Draw α → Lot → Draw α → Prop
  | coin (tenths : Nat) (next : Bool → Draw α) (b : Bool) :
      Step (.coin tenths next) (.side b) (next b)
  | pick {bound n : Nat} (next : Nat → Draw α) (hBound : n < bound) :
      Step (.pick bound next) (.number n) (next n)

/-- Some lots fall one after the other, and this is what is left to do. -/
inductive Leads : Draw α → List Lot → Draw α → Prop
  | refl (d : Draw α) : Leads d [] d
  | step {d d' d'' : Draw α} {lot : Lot} {lots : List Lot} :
      Step d lot d' → Leads d' lots d'' → Leads d (lot :: lots) d''

/-- The result comes of some lots. -/
def MayGive (d : Draw α) (a : α) : Prop :=
  ∃ lots, d.Leads lots (.pure a)

-- ---------------------------------------------------------------------------
-- Lots that lead to a result
-- ---------------------------------------------------------------------------

namespace MayGive

variable {b : β}

theorem pure (a : α) : (Draw.pure a).MayGive a :=
  ⟨[], .refl _⟩

theorem of_step {d' : Draw α} {lot : Lot} {a : α} (hStep : d.Step lot d') :
    d'.MayGive a → d.MayGive a
  | ⟨lots, hLots⟩ => ⟨lot :: lots, .step hStep hLots⟩

theorem toss {tenths : Nat} {k : Bool → Draw β} (side : Bool) (h : (k side).MayGive b) :
    (Draw.toss tenths >>= k).MayGive b :=
  of_step (.coin tenths k side) h

theorem choose {bound n : Nat} {k : Nat → Draw β} (hBound : n < bound) (h : (k n).MayGive b) :
    (Draw.choose bound >>= k).MayGive b :=
  of_step (.pick k hBound) h

/-- Lots that lead to a result, and then those that lead on from it. -/
theorem bind {a : α} (h : d.MayGive a) (hk : (k a).MayGive b) : (d >>= k).MayGive b := by
  obtain ⟨lots, hLots⟩ := h
  generalize hEnd : Draw.pure a = r at hLots
  induction hLots with
  | refl =>
    subst hEnd
    exact hk
  | step hStep _ ih =>
    have hRest := ih hEnd
    cases hStep with
    | coin tenths next side => exact of_step (.coin tenths (fun x => next x >>= k) side) hRest
    | pick next hBound => exact of_step (.pick (fun x => next x >>= k) hBound) hRest

end MayGive

-- ---------------------------------------------------------------------------
-- Whichever way the lots fall
-- ---------------------------------------------------------------------------

/-- Whichever way the lots fall, at most so many are drawn, no number is picked out of none, and
the result has the property. -/
inductive Ensures (Q : α → Prop) : Nat → Draw α → Prop
  | pure {most : Nat} {a : α} : Q a → Ensures Q most (.pure a)
  | coin {most tenths : Nat} {next : Bool → Draw α} :
      (∀ b, Ensures Q most (next b)) → Ensures Q (most + 1) (.coin tenths next)
  | pick {most bound : Nat} {next : Nat → Draw α} :
      0 < bound → (∀ n < bound, Ensures Q most (next n)) → Ensures Q (most + 1) (.pick bound next)

namespace Ensures

variable {Q : α → Prop} {R : β → Prop} {most more : Nat}

theorem mono (h : d.Ensures Q most) (hLe : most ≤ more) : d.Ensures Q more := by
  induction h generalizing more with
  | pure ha => exact .pure ha
  | coin _ ih =>
    obtain ⟨m, rfl⟩ := Nat.exists_eq_add_of_lt hLe
    exact .coin fun b => ih b (by omega)
  | pick hBound _ ih =>
    obtain ⟨m, rfl⟩ := Nat.exists_eq_add_of_lt hLe
    exact .pick hBound fun n hn => ih n hn (by omega)

/-- The lots of a computation come before those of the one that goes on with its result. -/
theorem bind (h : d.Ensures Q most) (hk : ∀ a, Q a → (k a).Ensures R more) :
    (d >>= k).Ensures R (most + more) := by
  induction h with
  | pure ha => exact (hk _ ha).mono (Nat.le_add_left _ _)
  | coin _ ih =>
    rw [Nat.add_right_comm]
    exact .coin ih
  | pick hBound _ ih =>
    rw [Nat.add_right_comm]
    exact .pick hBound ih

/-- Handing on the result takes no more lots. -/
theorem bind_pure {g : α → β} (h : d.Ensures Q most) (hg : ∀ a, Q a → R (g a)) :
    (d >>= fun a => Pure.pure (g a)).Ensures R most :=
  h.bind fun a ha => @Ensures.pure _ R 0 (g a) (hg a ha)

theorem toss {tenths : Nat} {k : Bool → Draw β} (hk : ∀ b, (k b).Ensures R more) :
    (Draw.toss tenths >>= k).Ensures R (more + 1) :=
  .coin hk

theorem choose {bound : Nat} {k : Nat → Draw β} (hBound : 0 < bound)
    (hk : ∀ n < bound, (k n).Ensures R more) : (Draw.choose bound >>= k).Ensures R (more + 1) :=
  .pick hBound hk

/-- **One lot** uses up one of those that may be drawn, and keeps what is ensured. -/
theorem step {d' : Draw α} {lot : Lot} (h : d.Ensures Q most) (hStep : d.Step lot d') :
    ∃ left, most = left + 1 ∧ d'.Ensures Q left := by
  cases hStep with
  | coin tenths next b =>
    cases h with
    | coin hNext => exact ⟨_, rfl, hNext b⟩
  | pick next hn =>
    cases h with
    | pick _ hNext => exact ⟨_, rfl, hNext _ hn⟩

/-- **So do many.** -/
theorem leads {d' : Draw α} {lots : List Lot} (h : d.Ensures Q most) (hLeads : d.Leads lots d') :
    ∃ left, most = lots.length + left ∧ d'.Ensures Q left := by
  induction hLeads generalizing most with
  | refl d => exact ⟨most, (Nat.zero_add most).symm, h⟩
  | step hStep _ ih =>
    obtain ⟨rest, rfl, hRest⟩ := h.step hStep
    obtain ⟨left, rfl, hLeft⟩ := ih hRest
    exact ⟨left, by rw [List.length_cons]; omega, hLeft⟩

theorem result {a : α} (h : (Draw.pure a).Ensures Q most) : Q a := by
  cases h
  assumption

theorem bound_pos {bound : Nat} {next : Nat → Draw α} (h : (Draw.pick bound next).Ensures Q most) :
    0 < bound := by
  cases h
  assumption

/-- The numbers of a generator are lots like others. -/
theorem mayGive_run {σ : Type} (h : d.Ensures Q most) (gen : σ → Nat × σ) (s : σ) :
    d.MayGive (d.run gen s).1 := by
  induction h generalizing s with
  | pure => exact .pure _
  | @coin most tenths next _ ih =>
    rw [run]
    exact .of_step (.coin tenths next _) (ih _ _)
  | @pick most bound next hBound _ ih =>
    rw [run]
    exact .of_step (.pick next (Nat.mod_lt _ hBound)) (ih _ (Nat.mod_lt _ hBound) _)

/-- So where something is ensured, some lots lead to a result. -/
theorem exists_mayGive (h : d.Ensures Q most) : ∃ a, d.MayGive a :=
  ⟨_, h.mayGive_run (fun n : Nat => (n, n)) 0⟩

end Ensures

/-- A generator is handed on from a computation to the one that goes on with its result. -/
theorem run_bind {σ : Type} (gen : σ → Nat × σ) (d : Draw α) (k : α → Draw β) (s : σ) :
    (d >>= k).run gen s = (k (d.run gen s).1).run gen (d.run gen s).2 := by
  show (d.bind k).run gen s = _
  induction d generalizing s with
  | pure a => rw [Draw.bind, run]
  | coin tenths next ih =>
    rw [Draw.bind, run, run]
    exact ih _ _
  | pick bound next ih =>
    rw [Draw.bind, run, run]
    exact ih _ _

end Draw

end Connectives
