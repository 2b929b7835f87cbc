import Connectives.Proofs.Grammar.FirstFault
import Connectives.Proofs.Grammar.RoundTrip

/-!
# Connectives — a printed formula is one line

No spelling of a token holds a blank. So the only blanks in a printed formula are the spaces that the
printer sets around binary connectives, as long as its names are readable; in particular it is never
broken by a line end. Nor is it blank as a whole, as no text is that is read as a formula, or at
either end.

* `forall_mem_render_of`, `forall_mem_render` — the characters of a printed formula.
* `onlySpaces_render` — its blanks.
* `bareEnds_render` — it begins and ends with none.
* `exists_not_isBlank_of_parse` — a text that is read is not blank.
-/

namespace Connectives

/-- The blanks of a text are spaces. -/
def OnlySpaces (text : String) : Prop :=
  ∀ c ∈ text.toList, Text.isBlank c = true → c = ' '

theorem all_iff_onlySpaces {text : String} :
    (text.toList.all fun c => !Text.isBlank c || c == ' ') = true ↔ OnlySpaces text := by
  rw [OnlySpaces, List.all_eq_true]
  refine forall_congr' fun c => forall_congr' fun _ => ?_
  cases Text.isBlank c <;> simp

instance : DecidablePred OnlySpaces :=
  fun _ => decidable_of_iff _ all_iff_onlySpaces

namespace OnlySpaces

variable {s t : String}

theorem append (hs : OnlySpaces s) (ht : OnlySpaces t) : OnlySpaces (s ++ t) := by
  intro c hc
  rw [String.toList_append, List.mem_append] at hc
  exact hc.elim (hs c) (ht c)

theorem not_newline_mem (h : OnlySpaces s) : '\n' ∉ s.toList := by
  intro hMem
  exact absurd (h _ hMem (by decide)) (by decide)

end OnlySpaces

/-- **The characters of a printed formula** are spaces, parentheses, and those of connectives and
names. -/
theorem forall_mem_render_of {P : Char → Prop} (hSpace : P ' ') (hOpen : P '(') (hClose : P ')')
    {script : Script} (hConnective : ∀ c : Connective, ∀ d ∈ (c.text script).toList, P d)
    {f : Formula} (hNames : ∀ v ∈ f.vars, ∀ c ∈ v.toList, P c) :
    ∀ c ∈ (f.render script).toList, P c := by
  have hOperand (wanted strength : Nat) {text : String} (h : ∀ c ∈ text.toList, P c) :
      ∀ c ∈ (operandText wanted strength text).toList, P c := by
    rw [operandText]
    split
    · simpa [or_imp, forall_and] using ⟨hOpen, h, hClose⟩
    · exact h
  induction f with
  | top => exact hConnective .top
  | bottom => exact hConnective .bottom
  | var v => exact hNames v (by simp)
  | not f ih =>
    have hNegated := hOperand Strength.atom f.strength (ih (by simpa using hNames))
    rw [Formula.render, negationText, String.toList_append]
    exact List.forall_mem_append.2 ⟨hConnective .not, hNegated⟩
  | binary op f g ihf ihg =>
    have hLeft := hOperand Strength.negation f.strength (ihf fun v hv => hNames v (by simp [hv]))
    have hRight := hOperand Strength.negation g.strength (ihg fun v hv => hNames v (by simp [hv]))
    have hOp := hConnective (.binary op)
    rw [Connective.text_binary] at hOp
    rw [Formula.render, binaryText]
    simpa [or_imp, forall_and] using ⟨hLeft, hSpace, hOp, hSpace, hRight⟩

/-- So besides spaces it holds only characters of its tokens, if its names are readable. -/
theorem forall_mem_render {P : Char → Prop} (hSpace : P ' ')
    (hSpelled : ∀ cs t, Spells cs t → ∀ c ∈ cs, P c) (script : Script) {f : Formula}
    (hNames : ∀ v ∈ f.vars, ReadableName v) : ∀ c ∈ (f.render script).toList, P c :=
  forall_mem_render_of hSpace (hSpelled _ _ spells_lparen _ (List.mem_singleton_self _))
    (hSpelled _ _ spells_rparen _ (List.mem_singleton_self _))
    (fun c => hSpelled _ _ (spells_connective script c))
    fun v hv => hSpelled _ _ (spells_var (hNames v hv))

/-- **The blanks of a printed formula are spaces** if its names are readable. -/
theorem onlySpaces_render (script : Script) {f : Formula} (hNames : ∀ v ∈ f.vars, ReadableName v) :
    OnlySpaces (f.render script) := by
  refine forall_mem_render (fun _ => rfl) (fun cs t hSpells c hc hBlank => ?_) script hNames
  rw [hSpells.isBlank_eq_false_of_mem hc] at hBlank
  cases hBlank

/-- **A text that is read as a formula is not blank.** -/
theorem exists_not_isBlank_of_parse {text : String} {f : Formula} (h : parse text = .ok f) :
    ∃ c ∈ text.toList, Text.isBlank c = false := by
  refine Decidable.byContradiction fun hNone => ?_
  have hBlank : ∀ c ∈ text.toList, Text.isBlank c = true := by
    intro c hc
    rw [← Bool.not_eq_false]
    exact fun hFalse => hNone ⟨c, hc, hFalse⟩
  obtain ⟨expected, hFault⟩ := parse_blank (.done hBlank)
  rw [h] at hFault
  cases hFault

-- ---------------------------------------------------------------------------
-- The ends of a printed formula
-- ---------------------------------------------------------------------------

/-- A printed formula is not empty. -/
theorem render_ne_nil (script : Script) {f : Formula} (hNames : ∀ v ∈ f.vars, ReadableName v) :
    (f.render script).toList ≠ [] := by
  obtain ⟨c, hc, -⟩ := exists_not_isBlank_of_parse ((parse_render_eq_ok_iff script f).2 hNames)
  exact List.ne_nil_of_mem hc

theorem Spells.bareEnds {cs : List Char} {t : Token} (h : Spells cs t) : Text.BareEnds cs where
  first _ hc := h.isBlank_eq_false_of_mem (List.mem_of_mem_head? hc)
  last _ hc := h.isBlank_eq_false_of_mem (List.mem_of_mem_getLast? hc)

theorem bareEnds_operandText {text : String} (h : Text.BareEnds text.toList)
    (wanted strength : Nat) : Text.BareEnds (operandText wanted strength text).toList := by
  rw [operandText]
  split
  · have hParens := spells_lparen.bareEnds.append_append spells_rparen.bareEnds
      spells_lparen.ne_nil spells_rparen.ne_nil text.toList
    simpa using hParens
  · exact h

theorem operandText_ne_nil {text : String} (h : text.toList ≠ []) (wanted strength : Nat) :
    (operandText wanted strength text).toList ≠ [] := by
  rw [operandText]
  split
  · simp
  · exact h

/-- **No blank stands at either end of a printed formula** if its names are readable. -/
theorem bareEnds_render (script : Script) {f : Formula} (hNames : ∀ v ∈ f.vars, ReadableName v) :
    Text.BareEnds (f.render script).toList := by
  induction f with
  | top => exact (spells_connective script .top).bareEnds
  | bottom => exact (spells_connective script .bottom).bareEnds
  | var v => exact (spells_var (hNames v (by simp))).bareEnds
  | not f ih =>
    have hOperand : ∀ v ∈ f.vars, ReadableName v := by simpa using hNames
    have hEnds := bareEnds_operandText (ih hOperand) Strength.atom f.strength
    have hSome := operandText_ne_nil (render_ne_nil script hOperand) Strength.atom f.strength
    have hNot := spells_connective script .not
    rw [Formula.render, negationText, String.toList_append]
    exact hNot.bareEnds.append_append hEnds hNot.ne_nil hSome []
  | binary op f g ihf ihg =>
    have hLeft : ∀ v ∈ f.vars, ReadableName v := fun v hv => hNames v (by simp [hv])
    have hRight : ∀ v ∈ g.vars, ReadableName v := fun v hv => hNames v (by simp [hv])
    have hFirst := bareEnds_operandText (ihf hLeft) Strength.negation f.strength
    have hLast := bareEnds_operandText (ihg hRight) Strength.negation g.strength
    have hSome := operandText_ne_nil (render_ne_nil script hLeft) Strength.negation f.strength
    have hSome' := operandText_ne_nil (render_ne_nil script hRight) Strength.negation g.strength
    have hEnds := hFirst.append_append hLast hSome hSome' (" " ++ op.text script ++ " ").toList
    rw [Formula.render, binaryText]
    simpa using hEnds

end Connectives
