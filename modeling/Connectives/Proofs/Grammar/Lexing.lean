import Connectives.Proofs.Grammar.Spelling

/-!
# Connectives — what a text lexes into

A text lexes into a sequence of tokens if it can be cut into their spellings, with blanks anywhere
between them, so that each spelling is the longest match where it stands. The lexer is shown to find
these tokens for exactly the texts that lex. Byte offsets play no part in it.

* `Lexes` — the text lexes into the tokens.
* `inductionOnReading` — a text is read token by token from its front.
* `lexes_iff` — the lexer computes it.
* `Lexes.spelled`, `Lexes.blank` — how a text that lexes can be lengthened at its front.
-/

namespace Connectives

/-- The text lexes into the tokens. -/
inductive Lexes : List Char → List Token → Prop
  | done {gap : List Char} : (∀ c ∈ gap, Text.isBlank c = true) → Lexes gap []
  | token {gap spelled rest : List Char} {t : Token} {ts : List Token} :
      (∀ c ∈ gap, Text.isBlank c = true) → LongestMatch (spelled ++ rest) spelled t →
        Lexes rest ts → Lexes (gap ++ (spelled ++ rest)) (t :: ts)

/-- The tokens that were read. -/
def Lexing.tokens (lexing : Lexing) : List Token :=
  lexing.lexemes.map Lexeme.token

-- ---------------------------------------------------------------------------
-- What the lexer does
-- ---------------------------------------------------------------------------

/-- What the longest match stands at the start of begins with no blank. -/
theorem LongestMatch.head?_not_blank {cs spelled : List Char} {t : Token}
    (h : LongestMatch cs spelled t) : ∀ c ∈ cs.head?, Text.isBlank c = false := by
  intro c hHead
  obtain ⟨rest, rfl⟩ := h.starts
  obtain ⟨d, ds, rfl⟩ := List.exists_cons_of_ne_nil h.spells.ne_nil
  cases hHead
  exact h.spells.not_isBlank

/-- Reading a token gets ahead. -/
theorem LongestMatch.length_lt {spelled rest : List Char} {t : Token}
    (h : LongestMatch (spelled ++ rest) spelled t) (gap : List Char) :
    rest.length < (gap ++ (spelled ++ rest)).length := by
  have hNonempty := List.length_pos_iff.2 h.spells.ne_nil
  simp only [List.length_append]
  omega

/-- Where no token starts behind the blanks, the lexer stops; nothing is amiss if that is the
end. -/
theorem lexFrom_stop (offset : Nat) {gap rest : List Char}
    (hGap : ∀ c ∈ gap, Text.isBlank c = true) (hRest : ∀ c ∈ rest.head?, Text.isBlank c = false)
    (hNone : Token.first? rest = none) :
    lexFrom offset (gap ++ rest) =
      ⟨[], if rest.isEmpty then none else some (offset + Text.byteLength gap)⟩ := by
  rw [lexFrom]
  split
  · rw [takeWhile_blanks hGap hRest, dropWhile_blanks hGap hRest]
  · next hSome =>
    rw [dropWhile_blanks hGap hRest, hNone] at hSome
    cases hSome

/-- Of nothing but blanks nothing is read, and nothing is amiss. -/
theorem lexFrom_blank (offset : Nat) {gap : List Char} (hGap : ∀ c ∈ gap, Text.isBlank c = true) :
    lexFrom offset gap = ⟨[], none⟩ := by
  have hHead : ∀ c ∈ ([] : List Char).head?, Text.isBlank c = false := by simp
  have hStop := lexFrom_stop offset hGap hHead rfl
  rwa [List.append_nil] at hStop

/-- Where a token stands behind the blanks, the lexer takes its longest spelling and goes on
after it. -/
theorem lexFrom_token (offset : Nat) {gap spelled rest : List Char} {t : Token}
    (hGap : ∀ c ∈ gap, Text.isBlank c = true) (hMatch : LongestMatch (spelled ++ rest) spelled t) :
    lexFrom offset (gap ++ (spelled ++ rest)) =
      let start := offset + Text.byteLength gap
      let stop := start + Text.byteLength spelled
      ⟨⟨t, String.ofList spelled, start, stop⟩ :: (lexFrom stop rest).lexemes,
        (lexFrom stop rest).stray⟩ := by
  have hSkip := dropWhile_blanks hGap hMatch.head?_not_blank
  rw [lexFrom]
  split
  · next hNone =>
    rw [hSkip, first?_eq_some_iff.2 hMatch] at hNone
    cases hNone
  · next hSome =>
    rw [hSkip, first?_eq_some_iff.2 hMatch] at hSome
    cases hSome
    rw [hSkip, takeWhile_blanks hGap hMatch.head?_not_blank, List.drop_left]

/-- **Induction along the reading of a text.** Behind the blanks either no token starts, or the longest
match stands there and the rest is read in the same way. -/
theorem inductionOnReading {P : List Char → Prop}
    (stop : ∀ {gap rest : List Char}, (∀ c ∈ gap, Text.isBlank c = true) →
      (∀ c ∈ rest.head?, Text.isBlank c = false) → Token.first? rest = none → P (gap ++ rest))
    (token : ∀ {gap spelled rest : List Char} {t : Token}, (∀ c ∈ gap, Text.isBlank c = true) →
      LongestMatch (spelled ++ rest) spelled t → P rest → P (gap ++ (spelled ++ rest)))
    (cs : List Char) : P cs := by
  obtain ⟨gap, rest, rfl, hGap, hRest⟩ := exists_blanks_append cs
  cases hFirst : Token.first? rest with
  | none => exact stop hGap hRest hFirst
  | some found =>
    have hMatch := LongestMatch.of_first? hFirst
    obtain ⟨rest, rfl⟩ := hMatch.starts
    have hShorter := hMatch.length_lt gap
    exact token hGap hMatch (inductionOnReading stop token rest)
termination_by cs.length

-- ---------------------------------------------------------------------------
-- The lexer computes the relation
-- ---------------------------------------------------------------------------

/-- What the lexer reads to the end, the text lexes into. -/
theorem Lexes.of_lexFrom (offset : Nat) (cs : List Char)
    (h : (lexFrom offset cs).stray = none) : Lexes cs (lexFrom offset cs).tokens := by
  induction cs using inductionOnReading generalizing offset with
  | @stop gap rest hGap hRest hNone =>
    rw [lexFrom_stop offset hGap hRest hNone] at h ⊢
    have hEnd : rest = [] := by simpa using h
    rw [hEnd, List.append_nil]
    exact .done hGap
  | token hGap hMatch ih =>
    rw [lexFrom_token offset hGap hMatch] at h ⊢
    exact .token hGap hMatch (ih _ h)

/-- What a text lexes into, the lexer reads to the end. -/
theorem Lexes.lexFrom {cs : List Char} {ts : List Token} (h : Lexes cs ts) (offset : Nat) :
    (lexFrom offset cs).stray = none ∧ (lexFrom offset cs).tokens = ts := by
  induction h generalizing offset with
  | @done gap hGap =>
    rw [lexFrom_blank offset hGap]
    exact ⟨rfl, rfl⟩
  | token hGap hMatch _ ih =>
    obtain ⟨hEnd, hRest⟩ := ih _
    rw [lexFrom_token offset hGap hMatch]
    exact ⟨hEnd, congrArg _ hRest⟩

/-- **The lexer finds the tokens of exactly the texts that lex.** -/
theorem lexes_iff {cs : List Char} {ts : List Token} :
    Lexes cs ts ↔ (lex cs).stray = none ∧ (lex cs).tokens = ts := by
  constructor
  · intro h
    exact h.lexFrom 0
  · rintro ⟨hStray, rfl⟩
    exact .of_lexFrom 0 cs hStray

/-- A text lexes into one sequence of tokens at most. -/
theorem Lexes.functional {cs : List Char} {ts us : List Token} (h : Lexes cs ts)
    (h' : Lexes cs us) : ts = us :=
  (lexes_iff.1 h).2.symm.trans (lexes_iff.1 h').2

-- ---------------------------------------------------------------------------
-- Building texts that lex
-- ---------------------------------------------------------------------------

namespace Lexes

variable {cs : List Char} {t : Token} {ts : List Token}

theorem nil : Lexes [] [] :=
  .done (List.forall_mem_nil _)

/-- A blank goes in front of everything. -/
theorem blank {c : Char} (hBlank : Text.isBlank c = true) (h : Lexes cs ts) :
    Lexes (c :: cs) ts := by
  have hCons : ∀ {gap : List Char}, (∀ d ∈ gap, Text.isBlank d = true) →
      ∀ d ∈ c :: gap, Text.isBlank d = true := fun hGap d hMem =>
    (List.mem_cons.1 hMem).elim (fun hEq => hEq ▸ hBlank) (hGap d)
  cases h with
  | done hGap => exact .done (hCons hGap)
  | token hGap hMatch hRest => exact .token (hCons hGap) hMatch hRest

/-- A spelling goes in front of everything, a word of what does not continue it. -/
theorem spelled {spelled : List Char} (hSpells : Spells spelled t)
    (hEnd : IsWord spelled → EndsWord cs) (h : Lexes cs ts) :
    Lexes (spelled ++ cs) (t :: ts) :=
  @token [] _ _ _ _ (List.forall_mem_nil _) (hSpells.longestMatch hEnd) h

end Lexes

end Connectives
