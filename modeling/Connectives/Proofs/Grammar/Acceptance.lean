import Connectives.Proofs.Grammar.Completeness
import Connectives.Proofs.Grammar.Lexing
import Connectives.Proofs.Grammar.Soundness

/-!
# Connectives — the parser accepts its grammar

The lexer finds the tokens of the texts that lex, and the machine reads the phrases of the grammar
and nothing else. Together they make the parser accept the texts of the grammar, each with the
formula that it denotes. The machine takes one step for each token, so no text denotes two.

* `parse_eq_ok_iff` — what the parser accepts.
* `Derives.functional` — the grammar is unambiguous, for phrases of every kind.
-/

namespace Connectives

-- ---------------------------------------------------------------------------
-- One formula for each phrase
-- ---------------------------------------------------------------------------

/-- From a state, tokens lead to one other at most. -/
theorem State.Reaches.functional {s s' s'' : State} {ts : List Token} (h : Reaches s ts s')
    (h' : Reaches s ts s'') : s' = s'' := by
  induction h with
  | refl s =>
    cases h'
    rfl
  | step hStep _ ih =>
    cases h' with
    | step hStep' hRest =>
      rw [hStep] at hStep'
      cases hStep'
      exact ih hRest

/-- **The grammar is unambiguous.** -/
theorem Derives.functional {n : Nonterminal} {ts : List Token} {f g : Formula}
    (hf : Derives n ts f) (hg : Derives n ts g) : f = g := by
  have hLoosest := n.strength_formula_le
  obtain ⟨s, hReaches, hFinish⟩ := State.exists_reaches_of_derives (hf.loosen hLoosest)
  obtain ⟨s', hReaches', hFinish'⟩ := State.exists_reaches_of_derives (hg.loosen hLoosest)
  rw [hReaches.functional hReaches', hFinish'] at hFinish
  exact (Except.ok.inj hFinish).symm

-- ---------------------------------------------------------------------------
-- The parser
-- ---------------------------------------------------------------------------

/-- **The parser accepts the texts that lex into a phrase of the grammar**, with the formula that
the phrase denotes. -/
theorem parse_eq_ok_iff {text : String} {f : Formula} :
    parse text = .ok f ↔ ∃ ts, Lexes text.toList ts ∧ Derives .formula ts f := by
  rw [parse, mapError_eq_ok_iff, read, State.run_eq_ok_iff]
  constructor
  · rintro ⟨hStray, s, hReaches, hFinish⟩
    exact ⟨_, lexes_iff.2 ⟨hStray, rfl⟩, hReaches.derives hFinish⟩
  · rintro ⟨ts, hLexes, hDerives⟩
    obtain ⟨hStray, rfl⟩ := lexes_iff.1 hLexes
    exact ⟨hStray, State.exists_reaches_of_derives hDerives⟩

/-- **The parser accepts exactly its grammar**, and no phrase of the grammar denotes two
formulas. -/
theorem parse_accepts_grammar :
    (∀ (text : String) (f : Formula),
        parse text = .ok f ↔ ∃ ts, Lexes text.toList ts ∧ Derives .formula ts f) ∧
      ∀ (n : Nonterminal) (ts : List Token) (f g : Formula),
        Derives n ts f → Derives n ts g → f = g := by
  constructor
  · intro text f
    exact parse_eq_ok_iff
  · intro n ts f g hf hg
    exact hf.functional hg

/-- Implications group to the right, and conjunctions hold together tighter. -/
theorem parse_accepts_grammar_implies_chain :
    let ts : List Token :=
      [.var "p", .binary .implies, .not, .var "q", .binary .and, .var "r", .binary .implies, .var "s"]
    let f : Formula :=
      .binary .implies (.var "p")
        (.binary .implies (.binary .and (.not (.var "q")) (.var "r")) (.var "s"))
    parse "p -> ~q & r→ s" = .ok f ∧ ∀ g, Derives .formula ts g → g = f := by
  intro ts f
  have hLexes : Lexes "p -> ~q & r→ s".toList ts :=
    lexes_iff.2 ⟨by decide +kernel, by decide +kernel⟩
  have hConjunction : Derives BinaryOp.and.phrase
      ([.not, .var "q"] ++ .binary .and :: [.var "r"]) (.binary .and (.not (.var "q")) (.var "r")) :=
    .binary ((Derives.not (.tighter rfl .var)).loosen (by decide)) (Derives.var.loosen (by decide))
  have hRight : Derives BinaryOp.implies.phrase (_ ++ .binary .implies :: [.var "s"])
      (.binary .implies (.binary .and (.not (.var "q")) (.var "r")) (.var "s")) :=
    .binary (hConjunction.loosen (by decide)) (Derives.var.loosen (by decide))
  have hChain : Derives BinaryOp.implies.phrase ([.var "p"] ++ .binary .implies :: _) f :=
    .binary (Derives.var.loosen (by decide)) hRight
  have hFormula : Derives .formula ts f := .tighter rfl hChain
  refine ⟨(parse_accepts_grammar.1 _ f).2 ⟨ts, hLexes, hFormula⟩, ?_⟩
  intro g hg
  exact parse_accepts_grammar.2 .formula ts g f hg hFormula

end Connectives
