import Connectives.Formula.Printer
import Connectives.Proofs.Formula.Occurrence
import Connectives.Proofs.Grammar.Acceptance

/-!
# Connectives — printed formulas are read back

What a formula prints as depends on the script, but the tokens in it do not. So the argument has two
halves that meet in `Formula.tokens`. The printed text lexes into these tokens, as long as the names of
the variables are words that can be told from keywords; and they are a phrase for the formula,
since an operand that is too loose for its place stands in parentheses.

The condition on names cannot be weakened. A variable token is spelled by a readable name, and the
variables of a formula all stand in the tokens of each of its phrases.

* `lexes_render` — the tokens of a printed formula.
* `Formula.derives_tokens` — the phrase that they make.
* `parse_render_eq_ok_iff` — a printed formula is read back just if its names are readable.
-/

namespace Connectives

-- ---------------------------------------------------------------------------
-- The tokens of a printed formula
-- ---------------------------------------------------------------------------

/-- The token of a connective. -/
def Connective.token : Connective → Token
  | .top => .top
  | .bottom => .bottom
  | .not => .not
  | .binary op => .binary op

@[simp] theorem Connective.text_binary (script : Script) (op : BinaryOp) :
    (Connective.binary op).text script = op.text script := by
  cases script <;> rfl

/-- The tokens of an operand, in parentheses where its text is. -/
def operandTokens (wanted strength : Nat) (ts : List Token) : List Token :=
  if strength < wanted then .lparen :: ts ++ [.rparen] else ts

/-- The tokens that a formula is printed with. -/
def Formula.tokens : Formula → List Token
  | .top => [.top]
  | .bottom => [.bottom]
  | .var v => [.var v]
  | .not f => .not :: operandTokens Strength.atom f.strength f.tokens
  | .binary op f g => operandTokens Strength.negation f.strength f.tokens ++
      .binary op :: operandTokens Strength.negation g.strength g.tokens

-- ---------------------------------------------------------------------------
-- They make a phrase
-- ---------------------------------------------------------------------------

theorem Formula.strength_formula_le (f : Formula) : Nonterminal.formula.strength ≤ f.strength := by
  cases f with
  | top | bottom | var | not => simp [Nonterminal.strength, strength, Strength.atom, Strength.negation]
  | binary op _ _ =>
    rw [strength, ← op.strength_phrase]
    exact op.phrase.strength_formula_le

/-- An operand may stand wherever nothing tighter is wanted than its place has parentheses for. -/
theorem derives_operandTokens {n : Nonterminal} {wanted : Nat} {f : Formula} {ts : List Token}
    (hf : ∀ m : Nonterminal, m.strength ≤ f.strength → Derives m ts f)
    (hn : n.strength ≤ wanted) : Derives n (operandTokens wanted f.strength ts) f := by
  rw [operandTokens]
  split
  · have hParen := Derives.paren (hf .formula f.strength_formula_le)
    exact hParen.loosen n.strength_le_atomic
  · next hStrong => exact hf n (Nat.le_trans hn (Nat.not_lt.1 hStrong))

/-- **The tokens of a printed formula are a phrase for it**, of every kind that is no tighter than the
formula. -/
theorem Formula.derives_tokens (f : Formula) :
    ∀ n : Nonterminal, n.strength ≤ f.strength → Derives n f.tokens f := by
  induction f with
  | top => exact fun n hn => Derives.top.loosen hn
  | bottom => exact fun n hn => Derives.bottom.loosen hn
  | var v => exact fun n hn => Derives.var.loosen hn
  | not f ih =>
    intro n hn
    have hOperand : Derives .negation (operandTokens Strength.atom f.strength f.tokens) f :=
      derives_operandTokens ih (by decide)
    exact (Derives.not hOperand).loosen hn
  | binary op f g ihf ihg =>
    intro n hn
    have hLeft := derives_operandTokens ihf op.strength_leftOperand_le_negation
    have hRight := derives_operandTokens ihg op.strength_rightOperand_le_negation
    refine (Derives.binary hLeft hRight).loosen ?_
    rw [op.strength_phrase]
    exact hn

-- ---------------------------------------------------------------------------
-- The text lexes into them
-- ---------------------------------------------------------------------------

/-- In front of any text into which no word goes on, the characters lex into the tokens. -/
def LexesAhead (cs : List Char) (ts : List Token) : Prop :=
  ∀ ⦃rest : List Char⦄ ⦃us : List Token⦄, EndsWord rest → Lexes rest us →
    Lexes (cs ++ rest) (ts ++ us)

theorem Spells.lexesAhead {spelled : List Char} {t : Token} (h : Spells spelled t) :
    LexesAhead spelled [t] :=
  fun _ _ hEnd hRest => hRest.spelled h fun _ => hEnd

theorem spells_lparen : Spells ['('] .lparen :=
  .fixed (by decide) (show TokenKind.lparen.token? = _ from rfl)

theorem spells_rparen : Spells [')'] .rparen :=
  .fixed (by decide) (show TokenKind.rparen.token? = _ from rfl)

/-- Each script spells each connective. -/
theorem spells_connective (script : Script) (c : Connective) :
    Spells (c.text script).toList c.token := by
  have hMem : (c.text script, c.token.kind) ∈ spellings := by
    cases c with
    | top | bottom | not => cases script <;> decide
    | binary op => cases script <;> cases op <;> decide
  have hToken : c.token.kind.token? = some c.token := by
    cases c <;> rfl
  exact .of_mem_spellings hMem hToken

/-- A readable name spells its variable. -/
theorem spells_var {v : String} (h : ReadableName v) : Spells v.toList (.var v) := by
  have hName := Spells.name h.1 (by rw [String.ofList_toList]; exact h.2)
  rwa [String.ofList_toList] at hName

/-- Only a readable name spells a variable. -/
theorem Spells.readableName {cs : List Char} {v : String} (h : Spells cs (.var v)) :
    ReadableName v := by
  cases h with
  | @fixed kind _ _ hToken => cases kind <;> cases hToken
  | name hWord hFree => exact ⟨by rwa [String.toList_ofList], hFree⟩

/-- Parentheses go around the text where they go around the tokens. -/
theorem LexesAhead.operand {text : String} {ts : List Token} (h : LexesAhead text.toList ts)
    (wanted strength : Nat) :
    LexesAhead (operandText wanted strength text).toList (operandTokens wanted strength ts) := by
  rw [operandText, operandTokens]
  split
  · intro rest us hEnd hRest
    have hClose := hRest.spelled spells_rparen fun hWord => absurd hWord (by decide)
    have hText := h (endsWord_cons.2 (by decide)) hClose
    have hOpen := hText.spelled spells_lparen fun hWord => absurd hWord (by decide)
    simpa using hOpen
  · exact h

theorem endsWord_space (cs : List Char) : EndsWord (' ' :: cs) :=
  endsWord_cons.2 (by decide)

theorem Lexes.space {cs : List Char} {ts : List Token} (h : Lexes cs ts) : Lexes (' ' :: cs) ts :=
  h.blank (by decide)

/-- **The text of a formula lexes into its tokens** if the names in it are readable. -/
theorem lexes_render (script : Script) {f : Formula} (hNames : ∀ v ∈ f.vars, ReadableName v) :
    LexesAhead (f.render script).toList f.tokens := by
  induction f with
  | top => exact (spells_connective script .top).lexesAhead
  | bottom => exact (spells_connective script .bottom).lexesAhead
  | var v => exact (spells_var (hNames v (by simp))).lexesAhead
  | not f ih =>
    intro rest us hEnd hRest
    have hSymbol : ¬ IsWord (Connective.not.text script).toList := by
      cases script <;> decide
    have hOperand := (ih (by simpa using hNames)).operand Strength.atom f.strength hEnd hRest
    have hText := hOperand.spelled (spells_connective script .not) fun hWord => absurd hWord hSymbol
    simpa [Formula.render, negationText, Formula.tokens, Connective.token] using hText
  | binary op f g ihf ihg =>
    intro rest us hEnd hRest
    have hNamesLeft : ∀ v ∈ f.vars, ReadableName v := fun v hv => hNames v (by simp [hv])
    have hNamesRight : ∀ v ∈ g.vars, ReadableName v := fun v hv => hNames v (by simp [hv])
    -- from the right to the left, as each part lexes in front of what comes after it
    have hRight := (ihg hNamesRight).operand Strength.negation g.strength hEnd hRest
    have hOp := hRight.space.spelled (spells_connective script (.binary op))
      fun _ => endsWord_space _
    have hText := (ihf hNamesLeft).operand Strength.negation f.strength (endsWord_space _) hOp.space
    simpa [Formula.render, binaryText, Formula.tokens, Connective.token] using hText

-- ---------------------------------------------------------------------------
-- No other names are read back
-- ---------------------------------------------------------------------------

/-- A variable token stands for a readable name. -/
theorem Lexes.readableName {cs : List Char} {ts : List Token} {v : String} (h : Lexes cs ts)
    (hv : .var v ∈ ts) : ReadableName v := by
  induction h with
  | done => cases hv
  | token _ hMatch _ ih =>
    rcases List.mem_cons.1 hv with rfl | hRest
    · exact hMatch.spells.readableName
    · exact ih hRest

/-- The variables of a formula stand in each phrase for it. -/
theorem Derives.var_mem {n : Nonterminal} {ts : List Token} {f : Formula} {v : String}
    (h : Derives n ts f) (hv : v ∈ f.vars) : .var v ∈ ts := by
  induction h with
  | binary _ _ ihl ihr =>
    rcases Formula.mem_vars_binary.1 hv with hLeft | hRight
    · exact List.mem_append_left _ (ihl hLeft)
    · exact List.mem_append_right _ (List.mem_cons_of_mem _ (ihr hRight))
  | tighter _ _ ih => exact ih hv
  | not _ ih => exact List.mem_cons_of_mem _ (ih (Formula.mem_vars_not.1 hv))
  | top | bottom => cases hv
  | var =>
    rw [Formula.mem_vars_var.1 hv]
    exact List.mem_singleton_self _
  | paren _ ih => exact List.mem_cons_of_mem _ (List.mem_append_left _ (ih hv))

/-- The names that the parser reads are readable. -/
theorem readableName_of_parse {text : String} {f : Formula} (h : parse text = .ok f) :
    ∀ v ∈ f.vars, ReadableName v := by
  obtain ⟨ts, hLexes, hDerives⟩ := parse_eq_ok_iff.1 h
  intro v hv
  exact hLexes.readableName (hDerives.var_mem hv)

-- ---------------------------------------------------------------------------
-- Round trip
-- ---------------------------------------------------------------------------

/-- **A printed formula is read back just if its names are readable.** -/
theorem parse_render_eq_ok_iff (script : Script) (f : Formula) :
    parse (f.render script) = .ok f ↔ ∀ v ∈ f.vars, ReadableName v := by
  constructor
  · exact readableName_of_parse
  · intro hNames
    have hLexes := lexes_render script hNames endsWord_nil .nil
    rw [List.append_nil, List.append_nil] at hLexes
    exact parse_eq_ok_iff.2 ⟨f.tokens, hLexes, f.derives_tokens .formula f.strength_formula_le⟩

/-- What the parser has read, it reads back. -/
theorem parse_render_of_parse {text : String} {f : Formula} (h : parse text = .ok f)
    (script : Script) : parse (f.render script) = .ok f :=
  (parse_render_eq_ok_iff script f).2 (readableName_of_parse h)

/-- **Printing and parsing are inverse.** A printed formula is read back just if its names are readable.
So every formula that the parser has read is read back from both printed forms, and two such
formulas that print alike are the same. -/
theorem parse_render_inverse :
    (∀ (script : Script) (f : Formula),
        parse (f.render script) = .ok f ↔ ∀ v ∈ f.vars, ReadableName v) ∧
      (∀ (text : String) (f : Formula),
        parse text = .ok f → ∀ script : Script, parse (f.render script) = .ok f) ∧
      ∀ (script : Script) (text text' : String) (f g : Formula),
        parse text = .ok f → parse text' = .ok g → f.render script = g.render script → f = g := by
  refine ⟨parse_render_eq_ok_iff, fun _ _ => parse_render_of_parse, ?_⟩
  intro script text text' f g hf hg hRender
  have hBack := parse_render_of_parse hf script
  rw [hRender, parse_render_of_parse hg script] at hBack
  exact (Except.ok.inj hBack).symm

/-- Both forms of `¬(p ∧ q) ⊕ r` are read back, and no other formula that is ever read prints so.
A variable with the name of a constant is read as the constant. -/
theorem parse_render_inverse_xor :
    let f : Formula := .binary .xor (.not (.binary .and (.var "p") (.var "q"))) (.var "r")
    parse "~(p & q) + r" = .ok f ∧ parse "¬(p ∧ q) ⊕ r" = .ok f ∧
      (∀ text g, parse text = .ok g → g.render .ascii = "~(p & q) + r" → g = f) ∧
      parse ((Formula.var "true").render .symbols) ≠ .ok (.var "true") := by
  intro f
  have hNames : ∀ v ∈ f.vars, ReadableName v := by decide
  have hAscii : parse "~(p & q) + r" = .ok f := (parse_render_inverse.1 .ascii f).2 hNames
  refine ⟨hAscii, parse_render_inverse.2.1 _ f hAscii .symbols, ?_, ?_⟩
  · intro text g hg hRender
    exact parse_render_inverse.2.2 .ascii text _ g f hg hAscii hRender
  · rw [Ne, parse_render_inverse.1 .symbols (.var "true")]
    decide

end Connectives
