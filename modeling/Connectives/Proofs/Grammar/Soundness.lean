import Connectives.Proofs.Grammar.Machine

/-!
# Connectives — only phrases are read

What the machine has read so far is never more than a beginning of a formula. The stack tells how
that beginning is made up: each frame stands for the tokens that opened it, and the operand that has
just been read, if any, is a negation in the sense of the grammar. A step keeps this, so when the
text may end, all of it is a formula.

When a connective takes its right operand, the strengths only say that the operand goes to
the left. That the operand is then a phrase of the right kind follows from the frames: each awaits
the phrase that the one above it makes (`State.Awaits`).

* `State.Opens` — the tokens that opened the frames of a stack.
* `State.Has` — the tokens that a state has read.
* `State.Has.step`, `State.Has.reaches` — a step, and so a run, adds the tokens that it takes.
* `State.Has.derives_of_finish` — when the text may end, it is a formula.
-/

namespace Connectives

namespace State

-- ---------------------------------------------------------------------------
-- What a state has read
-- ---------------------------------------------------------------------------

/-- The tokens opened the frames of the stack, the outermost first. -/
inductive Opens : List Frame → List Token → Prop
  | nil : Opens [] []
  | paren {stack : List Frame} {ts : List Token} :
      Opens stack ts → Opens (.paren :: stack) (ts ++ [.lparen])
  | not {stack : List Frame} {ts : List Token} :
      Opens stack ts → Opens (.not :: stack) (ts ++ [.not])
  | left {stack : List Frame} {ts l : List Token} {op : BinaryOp} {f : Formula} :
      Opens stack ts → Awaits op.phrase stack → Derives op.leftOperand l f →
        Opens (.left op f :: stack) (ts ++ (l ++ [.binary op]))

/-- The state has read the tokens: those that opened its frames, and after them those of the operand that
has just been read. No negation waits for that operand any more. -/
inductive Has : State → List Token → Prop
  | operand {stack : List Frame} {ts : List Token} : Opens stack ts → Has (.operand stack) ts
  | operator {stack : List Frame} {ts l : List Token} {f : Formula} :
      Opens stack ts → Awaits .negation stack → Derives .negation l f →
        Has (.operator stack f) (ts ++ l)

-- ---------------------------------------------------------------------------
-- Closing frames
-- ---------------------------------------------------------------------------

/-- Negations take the operand that they waited for. -/
theorem Opens.closeNegations {stack : List Frame} {ts l : List Token} {f : Formula}
    (h : Opens stack ts) (hf : Derives .negation l f) : Has (closeNegations stack f) (ts ++ l) := by
  induction h generalizing l f with
  | nil => exact .operator .nil trivial hf
  | paren hOpens => exact .operator (.paren hOpens) trivial hf
  | @not stack ts hOpens ih =>
    have hNot := ih hf.not
    rw [List.append_assoc]
    exact hNot
  | @left stack ts l₀ op f₀ hOpens hAwaits hLeft =>
    exact .operator (.left hOpens hAwaits hLeft) op.strength_rightOperand_le_negation hf

/-- The waiting connective has the phrase for a right operand that its frame awaits. -/
theorem Awaits.derives_binary {n : Nonterminal} {op : BinaryOp} {stack : List Frame}
    {l r : List Token} {f g : Formula} (h : Awaits n (.left op f :: stack))
    (hf : Derives op.leftOperand l f) (hg : Derives n r g) :
    Derives op.phrase (l ++ .binary op :: r) (.binary op f g) :=
  .binary hf (hg.loosen h)

/-- The connectives that take the operand make tighter phrases than the next one wants to its
left, and that one then goes on the stack. -/
theorem Opens.openBinary {n : Nonterminal} {next : BinaryOp} {stack : List Frame}
    {ts r : List Token} {g : Formula} (h : Opens stack ts) (hAwaits : Awaits n stack)
    (hg : Derives n r g) (hNext : next.leftOperand.strength ≤ n.strength) :
    Has (openBinary next stack g) (ts ++ (r ++ [.binary next])) := by
  induction h generalizing n r g with
  | nil => exact .operand (.left .nil trivial (hg.loosen hNext))
  | paren hOpens => exact .operand (.left (.paren hOpens) trivial (hg.loosen hNext))
  | not => exact hAwaits.elim
  | @left stack ts l op f hOpens hAwaitsOp hf ih =>
    rw [State.openBinary]
    split
    · next hTakes =>
      -- the connective takes the operand, and its phrase is the new operand
      have hPhrase := hAwaits.derives_binary hf hg
      have hHas := ih hAwaitsOp hPhrase (takesBefore_eq_true_iff.1 hTakes)
      simpa using hHas
    · next hLeaves =>
      -- the connective leaves the operand to the next one and awaits that one's phrase
      have hAwaitsNext : Awaits next.phrase (.left op f :: stack) :=
        takesBefore_eq_false_iff.1 (by simpa using hLeaves)
      exact .operand (.left (.left hOpens hAwaitsOp hf) hAwaitsNext (hg.loosen hNext))

/-- With the connectives closed, what has been read since the innermost open parenthesis is
a formula. If no parenthesis is open, all of it is. -/
theorem Opens.closeBinaries {n : Nonterminal} {stack : List Frame} {ts r : List Token}
    {g : Formula} (h : Opens stack ts) (hAwaits : Awaits n stack) (hg : Derives n r g) :
    match closeBinaries stack g with
    | (f, none) => Derives .formula (ts ++ r) f
    | (f, some outer) => ∃ us l, Opens outer us ∧ Derives .formula l f ∧
        ts ++ r = us ++ (.lparen :: l) := by
  induction h generalizing n r g with
  | nil => exact hg.loosen n.strength_formula_le
  | @paren stack ts hOpens => exact ⟨ts, r, hOpens, hg.loosen n.strength_formula_le, by simp⟩
  | not => exact hAwaits.elim
  | @left stack ts l op f hOpens hAwaitsOp hf ih =>
    have hFormula := ih hAwaitsOp (hAwaits.derives_binary hf hg)
    simpa [State.closeBinaries] using hFormula

-- ---------------------------------------------------------------------------
-- Steps and runs
-- ---------------------------------------------------------------------------

/-- A step adds the token that it takes. -/
theorem Has.step {s s' : State} {ts : List Token} {t : Token} (h : Has s ts)
    (hStep : s.step t = .ok s') : Has s' (ts ++ [t]) := by
  cases h with
  | @operand stack _ hOpens =>
    cases t with
    | lparen => cases hStep; exact .operand (.paren hOpens)
    | not => cases hStep; exact .operand (.not hOpens)
    | top => cases hStep; exact hOpens.closeNegations (.tighter rfl .top)
    | bottom => cases hStep; exact hOpens.closeNegations (.tighter rfl .bottom)
    | var v => cases hStep; exact hOpens.closeNegations (.tighter rfl .var)
    | rparen | binary => cases hStep
  | @operator stack us l f hOpens hAwaits hf =>
    cases t with
    | binary op =>
      cases hStep
      rw [List.append_assoc]
      exact hOpens.openBinary hAwaits hf op.strength_leftOperand_le_negation
    | rparen =>
      have hClose := hOpens.closeBinaries hAwaits hf
      rw [State.step] at hStep
      split at hStep
      · next g outer hg =>
        cases hStep
        rw [hg] at hClose
        obtain ⟨us', l', hOuter, hFormula, hTokens⟩ := hClose
        have hHas := hOuter.closeNegations (.tighter rfl (.paren hFormula))
        rw [hTokens]
        simpa using hHas
      · cases hStep
    | lparen | top | bottom | not | var => cases hStep

/-- A run adds the tokens that it takes. -/
theorem Has.reaches {s s' : State} {ts us : List Token} (h : Has s ts) (hRun : Reaches s us s') :
    Has s' (ts ++ us) := by
  induction hRun generalizing ts with
  | refl s => rwa [List.append_nil]
  | step hStep _ ih =>
    have hRest := ih (h.step hStep)
    rwa [List.append_assoc] at hRest

/-- When the text may end, what has been read is a formula. -/
theorem Has.derives_of_finish {s : State} {ts : List Token} {f : Formula} (h : Has s ts)
    (hFinish : s.finish = .ok f) : Derives .formula ts f := by
  cases h with
  | operand => cases hFinish
  | operator hOpens hAwaits hf =>
    have hClose := hOpens.closeBinaries hAwaits hf
    rw [finish] at hFinish
    split at hFinish
    · cases hFinish
    · next g hg =>
      cases hFinish
      rwa [hg] at hClose

/-- **The machine reads only what the grammar derives.** -/
theorem Reaches.derives {ts : List Token} {s : State} {f : Formula}
    (h : Reaches (.operand []) ts s) (hFinish : s.finish = .ok f) : Derives .formula ts f := by
  have hHas : Has s ts := Has.reaches (.operand .nil) h
  exact hHas.derives_of_finish hFinish

end State

end Connectives
