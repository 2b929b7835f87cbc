import Connectives.Proofs.Grammar.Machine

/-!
# Connectives — every phrase is read

The machine reads every phrase wherever the grammar allows it, and comes out with the formula that
the phrase denotes. It does not always say so at once: after `p ∨ q` it still keeps `p ∨` on the
stack, in case that `∧` comes next. So after a phrase the machine stands above a stack of its own,
but what may come after the phrase cannot tell that stack from the one below it: the two *settle*
alike before every connective that may take the phrase for a left operand, and before the end.

* `State.Settles` — the two stacks cannot be told apart.
* `State.Reads` — the machine reads a phrase above every stack that awaits it.
* `Derives.reads` — the machine reads every phrase of the grammar.
* `State.exists_reaches_of_derives` — a formula is read from start to end.
-/

namespace Connectives

namespace State

-- ---------------------------------------------------------------------------
-- Settling
-- ---------------------------------------------------------------------------

/-- The stack `st` with the operand `g` comes to the same as `stack` with the operand `f`, whatever may
come after a phrase of the kind. -/
structure Settles (n : Nonterminal) (st : List Frame) (g : Formula) (stack : List Frame)
    (f : Formula) : Prop where
  openBinary : ∀ next : BinaryOp, next.leftOperand.strength ≤ n.strength →
    openBinary next st g = openBinary next stack f
  closeBinaries : closeBinaries st g = closeBinaries stack f

theorem Settles.refl (n : Nonterminal) (stack : List Frame) (f : Formula) :
    Settles n stack f stack f :=
  ⟨fun _ _ => rfl, rfl⟩

/-- What settles before many connectives settles before fewer. -/
theorem Settles.loosen {n m : Nonterminal} {st stack : List Frame} {g f : Formula}
    (h : Settles m st g stack f) (hnm : n.strength ≤ m.strength) : Settles n st g stack f :=
  ⟨fun next hNext => h.openBinary next (Nat.le_trans hNext hnm), h.closeBinaries⟩

/-- A binary connective takes its right operand once that has settled: whatever may come after
the whole phrase wants a left operand that is no tighter. -/
theorem Settles.binary {op : BinaryOp} {st stack : List Frame} {g' f g : Formula}
    (h : Settles op.rightOperand st g' (.left op f :: stack) g) :
    Settles op.phrase st g' stack (.binary op f g) where
  openBinary next hNext := by
    have hTakes : takesBefore op next = true := takesBefore_eq_true_iff.2 hNext
    rw [h.openBinary next (Nat.le_trans hNext op.strength_phrase_le_rightOperand),
      State.openBinary, if_pos hTakes]
  closeBinaries := h.closeBinaries

/-- A connective with its left operand goes on the stack if the frame below awaits the phrase that it
makes. -/
theorem Awaits.openBinary {op : BinaryOp} {stack : List Frame} (h : Awaits op.phrase stack)
    (f : Formula) : openBinary op stack f = .operand (.left op f :: stack) := by
  cases stack with
  | nil => rfl
  | cons frame rest =>
    cases frame with
    | paren => rfl
    | not => exact h.elim
    | left op' g =>
      have hLeaves : takesBefore op' op = false := takesBefore_eq_false_iff.2 h
      rw [State.openBinary, if_neg (by rw [hLeaves]; decide)]

-- ---------------------------------------------------------------------------
-- Reading phrases
-- ---------------------------------------------------------------------------

/-- The machine reads the tokens as a phrase of the kind for the formula. A phrase that is no looser
than a negation is complete where it ends, and the negations that wait for it take it. -/
structure Reads (n : Nonterminal) (ts : List Token) (f : Formula) : Prop where
  settles : ∀ stack : List Frame, Awaits n stack →
    ∃ st g, Reaches (.operand stack) ts (.operator st g) ∧ Settles n st g stack f
  closes : Nonterminal.negation.strength ≤ n.strength →
    ∀ stack : List Frame, Reaches (.operand stack) ts (closeNegations stack f)

/-- A phrase that is complete where it ends has settled there. -/
theorem Reads.of_closes {n : Nonterminal} {ts : List Token} {f : Formula}
    (h : ∀ stack : List Frame, Reaches (.operand stack) ts (closeNegations stack f)) :
    Reads n ts f where
  settles stack hAwaits := by
    have hReaches := h stack
    rw [hAwaits.closeNegations] at hReaches
    exact ⟨stack, f, hReaches, Settles.refl n stack f⟩
  closes _ := h

theorem Reads.loosen {n m : Nonterminal} {ts : List Token} {f : Formula} (h : Reads m ts f)
    (hnm : n.strength ≤ m.strength) : Reads n ts f where
  settles stack hAwaits := by
    obtain ⟨st, g, hReaches, hSettles⟩ := h.settles stack (hAwaits.tighten hnm)
    exact ⟨st, g, hReaches, hSettles.loosen hnm⟩
  closes hn := h.closes (Nat.le_trans hn hnm)

theorem Reads.binary {op : BinaryOp} {l r : List Token} {f g : Formula}
    (hl : Reads op.leftOperand l f) (hr : Reads op.rightOperand r g) :
    Reads op.phrase (l ++ .binary op :: r) (.binary op f g) where
  settles stack hAwaits := by
    obtain ⟨st, f', hLeft, hSettlesLeft⟩ :=
      hl.settles stack (hAwaits.tighten op.strength_phrase_le_leftOperand)
    -- the left operand settles, and the connective goes on the stack
    have hOpen : State.step (.operator st f') (.binary op) = .ok (.operand (.left op f :: stack)) := by
      rw [step, hSettlesLeft.openBinary op (Nat.le_refl _), hAwaits.openBinary]
    obtain ⟨st', g', hRight, hSettlesRight⟩ := hr.settles (.left op f :: stack) (Nat.le_refl _)
    exact ⟨st', g', hLeft.trans (.step hOpen hRight), hSettlesRight.binary⟩
  closes hn := absurd hn (Nat.not_le.2 op.strength_phrase_lt_negation)

/-- A formula in parentheses is complete at the closing one, which sees no further down than to
the opening one. -/
theorem Reads.paren {ts : List Token} {f : Formula} (h : Reads .formula ts f) :
    Reads .atomic (.lparen :: ts ++ [.rparen]) f := by
  refine .of_closes fun stack => ?_
  obtain ⟨st, g, hReaches, hSettles⟩ := h.settles (.paren :: stack) trivial
  have hClose : State.step (.operator st g) .rparen = .ok (closeNegations stack f) := by
    rw [step, hSettles.closeBinaries, closeBinaries]
  exact .step rfl (hReaches.trans (.single hClose))

theorem Reads.not {ts : List Token} {f : Formula} (h : Reads .negation ts f) :
    Reads .negation (.not :: ts) (.not f) :=
  .of_closes fun stack => .step rfl (h.closes (Nat.le_refl _) (.not :: stack))

end State

/-- **The machine reads every phrase of the grammar.** -/
theorem Derives.reads {n : Nonterminal} {ts : List Token} {f : Formula} (h : Derives n ts f) :
    State.Reads n ts f := by
  induction h with
  | binary _ _ ihl ihr => exact ihl.binary ihr
  | tighter hnm _ ih =>
    exact ih.loosen (by rw [Nonterminal.strength_of_tighter hnm]; exact Nat.le_succ _)
  | not _ ih => exact ih.not
  | top | bottom | var => exact .of_closes fun stack => .single rfl
  | paren _ ih => exact ih.paren

/-- A formula is read from start to end. -/
theorem State.exists_reaches_of_derives {ts : List Token} {f : Formula}
    (h : Derives .formula ts f) :
    ∃ s, Reaches (.operand []) ts s ∧ s.finish = .ok f := by
  obtain ⟨st, g, hReaches, hSettles⟩ := h.reads.settles [] trivial
  refine ⟨.operator st g, hReaches, ?_⟩
  rw [finish, hSettles.closeBinaries, closeBinaries]

end Connectives
