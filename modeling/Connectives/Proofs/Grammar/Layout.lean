import Mathlib.Data.List.Chain
import Connectives.Proofs.Grammar.Lexing
import Connectives.Proofs.Grammar.Position
import Connectives.Proofs.Grammar.RoundTrip

/-!
# Connectives — layout and spelling

What the lexer finds in a text is all that the text holds besides blanks. And what is written down
token by token, in any spellings and with any blanks, is found again, as long as no word runs into
the next one. Symbols need nothing to keep them apart: a spelling that is no word begins with
a character that ends every word, and no spelling of that kind begins with another.

The parser looks at tokens alone; where they stand and how they are spelled it only repeats when it
finds fault. So neither layout nor spelling has a say in which formula is read.

* `Covered.of_lexFrom` — nothing but blanks stands between and around the lexemes.
* `Layout.lexFrom_text` — what is written down is found again.
* `parse_reason` — the parser decides by the tokens.
* `layout_and_spelling_irrelevant` — all of it together.
-/

namespace Connectives

open Text (byteLength)

-- ---------------------------------------------------------------------------
-- A text is its lexemes and blanks
-- ---------------------------------------------------------------------------

/-- The text holds only blanks from one byte to the other. -/
def BlankBetween (cs : List Char) (start stop : Nat) : Prop :=
  ∃ gap, sliceBytes? cs start stop = some gap ∧ ∀ c ∈ gap, Text.isBlank c = true

/-- The lexeme is a part of the text, and the longest match where it starts. -/
structure Lexeme.StandsIn (l : Lexeme) (cs : List Char) : Prop where
  nonempty : l.text ≠ ""
  slice : sliceBytes? cs l.start l.stop = some l.text.toList
  longest : ∃ rest, dropBytes? cs l.start = some rest ∧ LongestMatch rest l.text.toList l.token

/-- From the byte on, the text holds the lexemes one after the other, and only blanks besides. -/
inductive Covered (cs : List Char) : Nat → List Lexeme → Prop
  | done {last : Nat} : BlankBetween cs last (byteLength cs) → Covered cs last []
  | lexeme {last : Nat} {l : Lexeme} {ls : List Lexeme} :
      BlankBetween cs last l.start → l.StandsIn cs → Covered cs l.stop ls → Covered cs last (l :: ls)

theorem blankBetween_append (before : List Char) {gap : List Char} (after : List Char)
    (hGap : ∀ c ∈ gap, Text.isBlank c = true) :
    BlankBetween (before ++ (gap ++ after)) (byteLength before) (byteLength (before ++ gap)) :=
  ⟨gap, sliceBytes?_append before gap after, hGap⟩

theorem LongestMatch.standsIn (before : List Char) {spelled rest : List Char} {t : Token}
    (h : LongestMatch (spelled ++ rest) spelled t) :
    Lexeme.StandsIn ⟨t, String.ofList spelled, byteLength before, byteLength (before ++ spelled)⟩
      (before ++ (spelled ++ rest)) where
  nonempty := by
    rw [Ne, ← String.ofList_nil, String.ofList_inj]
    exact h.spells.ne_nil
  slice := by
    rw [String.toList_ofList]
    exact sliceBytes?_append before spelled rest
  longest := by
    rw [String.toList_ofList]
    exact ⟨spelled ++ rest, dropBytes?_append before (spelled ++ rest), h⟩

/-- **What the lexer reads to the end is covered by its lexemes**, also from within a text. -/
theorem Covered.of_lexFrom (before cs : List Char)
    (h : (lexFrom (byteLength before) cs).stray = none) :
    Covered (before ++ cs) (byteLength before) (lexFrom (byteLength before) cs).lexemes := by
  induction cs using inductionOnReading generalizing before with
  | @stop gap rest hGap hRest hNone =>
    have hBlank := blankBetween_append before rest hGap
    rw [lexFrom_stop _ hGap hRest hNone] at h ⊢
    have hEnd : rest = [] := by simpa using h
    subst hEnd
    rw [List.append_nil] at hBlank ⊢
    exact .done hBlank
  | @token gap spelled rest t hGap hMatch ih =>
    have hBlank := blankBetween_append before (spelled ++ rest) hGap
    rw [lexFrom_token _ hGap hMatch] at h ⊢
    simp only [← Text.byteLength_append] at h ⊢
    have hStands := hMatch.standsIn (before ++ gap)
    have hLater := ih (before ++ gap ++ spelled) h
    simp only [List.append_assoc] at hBlank hStands hLater ⊢
    exact .lexeme hBlank hStands hLater

-- ---------------------------------------------------------------------------
-- Writing tokens down
-- ---------------------------------------------------------------------------

/-- A token as it is written down: some blanks, or none, and then one of its spellings. -/
structure Piece where
  gap : List Char
  spelled : List Char
  token : Token
  blank : ∀ c ∈ gap, Text.isBlank c = true
  spells : Spells spelled token

/-- If both are words, there is a blank between them. -/
def Piece.KeptApart (p q : Piece) : Prop :=
  IsWord p.spelled → IsWord q.spelled → q.gap ≠ []

/-- The text of tokens that are written down one after the other. -/
def layOut (trailing : List Char) : List Piece → List Char
  | [] => trailing
  | p :: ps => p.gap ++ (p.spelled ++ layOut trailing ps)

/-- A way to write tokens down: adjacent words are kept apart, and blanks may trail. -/
structure Layout where
  pieces : List Piece
  trailing : List Char
  keptApart : pieces.IsChain Piece.KeptApart
  blank : ∀ c ∈ trailing, Text.isBlank c = true

namespace Layout

/-- The text that comes of it. -/
def text (layout : Layout) : String :=
  String.ofList (layOut layout.trailing layout.pieces)

/-- The tokens that were written down. -/
def tokens (layout : Layout) : List Token :=
  layout.pieces.map Piece.token

end Layout

theorem endsWord_of_isBlank {gap : List Char} (hGap : ∀ c ∈ gap, Text.isBlank c = true) :
    EndsWord gap :=
  fun c hHead => continuesWord_of_isBlank (hGap c (List.mem_of_mem_head? hHead))

private theorem symbolSpellings_endWord :
    ∀ s ∈ symbolSpellings, s.1.head?.any continuesWord = false := by
  decide +kernel

/-- A spelling that is no word ends every word in front of it. -/
theorem Spells.endsWord {spelled : List Char} {t : Token} (h : Spells spelled t)
    (hSymbol : ¬ IsWord spelled) (rest : List Char) : EndsWord (spelled ++ rest) := by
  obtain ⟨c, cs, rfl⟩ := List.exists_cons_of_ne_nil h.ne_nil
  have hStart : startsWord c = false := by
    rw [← Bool.not_eq_true]
    exact fun hStart => hSymbol (h.isWord hStart)
  have hEnd := symbolSpellings_endWord _ (h.mem_symbolSpellings hStart)
  exact endsWord_cons.2 hEnd

/-- Behind a word comes what does not continue it. -/
theorem endsWord_layOut {trailing : List Char} (hTrailing : ∀ c ∈ trailing, Text.isBlank c = true)
    {p : Piece} {ps : List Piece} (hApart : (p :: ps).IsChain Piece.KeptApart)
    (hWord : IsWord p.spelled) : EndsWord (layOut trailing ps) := by
  cases ps with
  | nil => exact endsWord_of_isBlank hTrailing
  | cons q qs =>
    have hKept : p.KeptApart q := (List.isChain_cons_cons.1 hApart).1
    rw [layOut]
    cases hGap : q.gap with
    | nil =>
      have hSymbol : ¬ IsWord q.spelled := fun hWord' => hKept hWord hWord' hGap
      exact q.spells.endsWord hSymbol _
    | cons c gap =>
      have hBlank : Text.isBlank c = true := q.blank c (hGap ▸ List.mem_cons_self)
      exact endsWord_cons.2 (continuesWord_of_isBlank hBlank)

/-- What was written down piece by piece is found piece by piece. -/
theorem lexFrom_layOut {trailing : List Char} (hTrailing : ∀ c ∈ trailing, Text.isBlank c = true)
    {ps : List Piece} (hApart : ps.IsChain Piece.KeptApart) (offset : Nat) :
    (lexFrom offset (layOut trailing ps)).stray = none ∧
      (lexFrom offset (layOut trailing ps)).lexemes.map (fun l => (l.token, l.text)) =
        ps.map fun p => (p.token, String.ofList p.spelled) := by
  induction ps generalizing offset with
  | nil =>
    rw [layOut, lexFrom_blank offset hTrailing]
    exact ⟨rfl, rfl⟩
  | cons p ps ih =>
    have hMatch : LongestMatch (p.spelled ++ layOut trailing ps) p.spelled p.token :=
      p.spells.longestMatch (endsWord_layOut hTrailing hApart)
    obtain ⟨hEnd, hLater⟩ := ih hApart.of_cons
      (offset + byteLength p.gap + byteLength p.spelled)
    rw [layOut, lexFrom_token offset p.blank hMatch]
    exact ⟨hEnd, congrArg _ hLater⟩

/-- **What is written down is found again**, in the spellings that were used. -/
theorem Layout.lex_text (layout : Layout) :
    (lex layout.text.toList).stray = none ∧
      (lex layout.text.toList).lexemes.map (fun l => (l.token, l.text)) =
        layout.pieces.map fun p => (p.token, String.ofList p.spelled) := by
  rw [Layout.text, String.toList_ofList]
  exact lexFrom_layOut layout.blank layout.keptApart 0

theorem Layout.tokens_lex_text (layout : Layout) :
    (lex layout.text.toList).tokens = layout.tokens := by
  have hTokens := congrArg (List.map Prod.fst) layout.lex_text.2
  rw [List.map_map, List.map_map] at hTokens
  exact hTokens

-- ---------------------------------------------------------------------------
-- The parser looks at tokens alone
-- ---------------------------------------------------------------------------

/-- What is wrong, without the place and the spelling of the token that stands there. -/
def Fault.reason {Place : Type} : Fault Place → Fault Unit
  | .unexpected _ expected _ => .unexpected () expected ""
  | .invalid _ => .invalid ()
  | .incomplete _ expected => .incomplete () expected
  | .extra _ _ => .extra () ""

theorem Fault.reason_map {α β : Type} (f : α → β) (fault : Fault α) :
    (fault.map f).reason = fault.reason := by
  cases fault <;> rfl

/-- Runs over the same tokens come to the same end. -/
theorem State.run_reason {ls ms : List Lexeme}
    (h : ls.map Lexeme.token = ms.map Lexeme.token) (s : State) (last last' : Nat) :
    (State.run none s last ls).mapError Fault.reason =
      (State.run none s last' ms).mapError Fault.reason := by
  induction ls generalizing s last last' ms with
  | nil =>
    cases ms with
    | nil =>
      rw [State.run, State.run]
      cases s.finish <;> rfl
    | cons m ms => cases h
  | cons l ls ih =>
    cases ms with
    | nil => cases h
    | cons m ms =>
      obtain ⟨hToken, hRest⟩ := List.cons.inj h
      rw [State.run, State.run, hToken]
      cases s.step m.token with
      | ok s' => exact ih hRest s' l.stop m.stop
      | error expected => rfl

/-- **The parser decides by the tokens**: texts that lex alike are the same formula, or the same is
wrong with them. -/
theorem parse_reason {s t : String} (hs : (lex s.toList).stray = none)
    (ht : (lex t.toList).stray = none)
    (hTokens : (lex s.toList).tokens = (lex t.toList).tokens) :
    (parse s).mapError Fault.reason = (parse t).mapError Fault.reason := by
  have hParse {u : String} (hu : (lex u.toList).stray = none) :
      (parse u).mapError Fault.reason =
        (State.run none (.operand []) 0 (lex u.toList).lexemes).mapError Fault.reason := by
    rw [parse, read, hu]
    cases State.run none (.operand []) 0 (lex u.toList).lexemes with
    | ok f => rfl
    | error fault => exact congrArg Except.error (fault.reason_map _)
  rw [hParse hs, hParse ht]
  exact State.run_reason hTokens _ 0 0

/-- Texts that lex alike are read as the same formula, if as any. -/
theorem parse_eq_ok_congr {s t : String} (hs : (lex s.toList).stray = none)
    (ht : (lex t.toList).stray = none)
    (hTokens : (lex s.toList).tokens = (lex t.toList).tokens) (f : Formula) :
    parse s = .ok f ↔ parse t = .ok f := by
  rw [← mapError_eq_ok_iff, parse_reason hs ht hTokens, mapError_eq_ok_iff]

-- ---------------------------------------------------------------------------
-- Layout and spelling
-- ---------------------------------------------------------------------------

/-- **A text is its tokens, whatever its layout and spellings.** Of a text that lexes nothing is lost
but blanks, and each lexeme is the longest match where it stands. Tokens that are written down in any
spellings, with any blanks that keep adjacent words apart, are found again. Texts with the same
tokens are read as the same formula, or the same is wrong with them, though perhaps at another
place; so two ways to write down the same tokens never differ in the formula. -/
theorem layout_and_spelling_irrelevant :
    (∀ text : String, (lex text.toList).stray = none →
        Covered text.toList 0 (lex text.toList).lexemes) ∧
      (∀ layout : Layout, (lex layout.text.toList).stray = none ∧
        (lex layout.text.toList).lexemes.map (fun l => (l.token, l.text)) =
          layout.pieces.map fun p => (p.token, String.ofList p.spelled)) ∧
      (∀ s t : String, (lex s.toList).stray = none → (lex t.toList).stray = none →
        (lex s.toList).tokens = (lex t.toList).tokens →
          (parse s).mapError Fault.reason = (parse t).mapError Fault.reason ∧
            ∀ f, parse s = .ok f ↔ parse t = .ok f) ∧
      ∀ layout layout' : Layout, layout.tokens = layout'.tokens →
        ∀ f, parse layout.text = .ok f ↔ parse layout'.text = .ok f := by
  refine ⟨?_, Layout.lex_text, ?_, ?_⟩
  · intro text h
    exact Covered.of_lexFrom [] text.toList h
  · intro s t hs ht hTokens
    exact ⟨parse_reason hs ht hTokens, parse_eq_ok_congr hs ht hTokens⟩
  · intro layout layout' hTokens
    refine parse_eq_ok_congr layout.lex_text.1 layout'.lex_text.1 ?_
    rw [layout.tokens_lex_text, layout'.tokens_lex_text, hTokens]

/-- Two ways to write down `p ∧ ¬q`: with no blank but the one that two words need, and with other
spellings among blanks of several kinds. -/
theorem layout_and_spelling_irrelevant_conjunction :
    let f : Formula := .binary .and (.var "p") (.not (.var "q"))
    (lex "p∧not q".toList).stray = none ∧
      Covered "p∧not q".toList 0 (lex "p∧not q".toList).lexemes ∧
      (lex "p∧not q".toList).tokens = (lex "\u00a0p and~q\n".toList).tokens ∧
      parse "p∧not q" = .ok f ∧ parse "\u00a0p and~q\n" = .ok f := by
  intro f
  have hp : Spells "p".toList (.var "p") := spells_var (by decide)
  have hq : Spells "q".toList (.var "q") := spells_var (by decide)
  have hSymbol := spells_connective .symbols (.binary .and)
  have hTilde := spells_connective .ascii .not
  have hNot : Spells "not".toList .not :=
    .of_mem_spellings (show ("not", TokenKind.not) ∈ spellings by decide) rfl
  have hAnd : Spells "and".toList (.binary .and) :=
    .of_mem_spellings (show ("and", TokenKind.binary .and) ∈ spellings by decide) rfl
  have hJoined : ∀ c ∈ ([] : List Char), Text.isBlank c = true := List.forall_mem_nil _
  have hBlank {c : Char} (h : Text.isBlank c = true) : ∀ d ∈ [c], Text.isBlank d = true :=
    List.forall_mem_singleton.2 h
  obtain ⟨tight, hTight, hTightTokens⟩ :
      ∃ layout : Layout, layout.text = "p∧not q" ∧ layout.tokens = f.tokens := by
    refine ⟨⟨[⟨[], _, _, hJoined, hp⟩, ⟨[], _, _, hJoined, hSymbol⟩, ⟨[], _, _, hJoined, hNot⟩,
      ⟨[' '], _, _, hBlank (by decide), hq⟩], [], ?_, hJoined⟩, rfl, rfl⟩
    simp only [List.isChain_cons_cons, List.isChain_singleton, Piece.KeptApart]
    decide
  obtain ⟨loose, hLoose, hLooseTokens⟩ :
      ∃ layout : Layout, layout.text = "\u00a0p and~q\n" ∧ layout.tokens = f.tokens := by
    refine ⟨⟨[⟨['\u00a0'], _, _, hBlank (by decide), hp⟩, ⟨[' '], _, _, hBlank (by decide), hAnd⟩,
      ⟨[], _, _, hJoined, hTilde⟩, ⟨[], _, _, hJoined, hq⟩], ['\n'], ?_, hBlank (by decide)⟩, rfl, rfl⟩
    simp only [List.isChain_cons_cons, List.isChain_singleton, Piece.KeptApart]
    decide
  have hSame : tight.tokens = loose.tokens := hTightTokens.trans hLooseTokens.symm
  obtain ⟨hLossless, hFound, hDecides, hFormula⟩ := layout_and_spelling_irrelevant
  -- the tight text is read as the printed formula, which has the same tokens
  have hNames : ∀ v ∈ f.vars, ReadableName v := by decide
  have hPrinted := lexes_render .symbols hNames endsWord_nil .nil
  rw [List.append_nil, List.append_nil] at hPrinted
  obtain ⟨hStray, hTokens⟩ := lexes_iff.1 hPrinted
  have hRead : parse tight.text = .ok f := by
    have hAlike := (hDecides tight.text (f.render .symbols) (hFound tight).1 hStray
      (by rw [tight.tokens_lex_text, hTokens, hTightTokens])).2 f
    exact hAlike.2 ((parse_render_eq_ok_iff .symbols f).2 hNames)
  have hReadLoose : parse loose.text = .ok f := (hFormula tight loose hSame f).1 hRead
  have hCovered := hLossless tight.text (hFound tight).1
  have hAlike : (lex tight.text.toList).tokens = (lex loose.text.toList).tokens := by
    rw [tight.tokens_lex_text, loose.tokens_lex_text, hSame]
  rw [← hTight, ← hLoose]
  exact ⟨(hFound tight).1, hCovered, hAlike, hRead, hReadLoose⟩

end Connectives
