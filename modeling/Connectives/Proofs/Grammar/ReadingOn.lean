import Connectives.Grammar.Parser
import Connectives.Proofs.Grammar.Lexing
import Connectives.Proofs.Grammar.Machine
import Connectives.Proofs.Grammar.Position

/-!
# Connectives — reading on behind the tokens already read

The lexer sees what comes after a token, since it takes the longest one, but a blank ends every
token. So what has been read up to some place stays read when a text goes on with a blank, and the
parser resumes there: it knows no more of what it has read than its state and the byte where it
stands.

* `LexesBefore` — tokens at the front of a text, judged with the rest of it in sight.
* `LexesBefore.append` — a text that goes on with a blank keeps its tokens.
* `State.readFrom` — the parser, resumed.
* `State.readFrom_token`, `State.readFrom_misfit`, `State.readFrom_stray`, `State.readFrom_end` —
  one step of it.
* `LexesBefore.readFrom`, `LexesBefore.read` — many of them: the parser gets past the tokens that
  it can take.
-/

namespace Connectives

open Text (byteLength isBlank)

-- ---------------------------------------------------------------------------
-- Tokens at the front of a text
-- ---------------------------------------------------------------------------

/-- In front of `rest` the characters lex into the tokens, and end where the last token ends. -/
inductive LexesBefore (rest : List Char) : List Char → List Token → Prop
  | nil : LexesBefore rest [] []
  | token {gap spelled front : List Char} {t : Token} {ts : List Token} :
      (∀ c ∈ gap, isBlank c = true) → LongestMatch (spelled ++ (front ++ rest)) spelled t →
        LexesBefore rest front ts → LexesBefore rest (gap ++ (spelled ++ front)) (t :: ts)

/-- Blanks go in front of everything. -/
theorem Lexes.blanks {gap cs : List Char} {ts : List Token} (hGap : ∀ c ∈ gap, isBlank c = true)
    (h : Lexes cs ts) : Lexes (gap ++ cs) ts := by
  induction gap with
  | nil => exact h
  | cons c gap ih =>
    have hRest := ih fun d hMem => hGap d (List.mem_cons_of_mem c hMem)
    exact hRest.blank (hGap c List.mem_cons_self)

/-- The tokens of the front come before those of the rest. -/
theorem LexesBefore.lexes {rest front : List Char} {ts us : List Token}
    (h : LexesBefore rest front ts) (hRest : Lexes rest us) : Lexes (front ++ rest) (ts ++ us) := by
  induction h with
  | nil => exact hRest
  | token hGap hMatch _ ih =>
    have hLexes := Lexes.token hGap hMatch ih
    simpa using hLexes

-- ---------------------------------------------------------------------------
-- Going on with a blank
-- ---------------------------------------------------------------------------

/-- The characters begin with a blank, if there are any. -/
def BeginsBlank (cs : List Char) : Prop :=
  ∀ c ∈ cs.head?, isBlank c = true

theorem beginsBlank_nil : BeginsBlank [] := by
  simp [BeginsBlank]

theorem beginsBlank_space (cs : List Char) : BeginsBlank (' ' :: cs) := by
  intro c hHead
  cases hHead
  decide

section Append

variable {cs ds spelled : List Char} {t : Token} (hBlank : BeginsBlank ds)
include hBlank

/-- A spelling does not reach beyond a blank. -/
theorem Spells.prefix_of_append (h : Spells spelled t) (hPrefix : spelled <+: cs ++ ds) :
    spelled <+: cs := by
  rcases List.prefix_or_prefix_of_prefix hPrefix (List.prefix_append cs ds) with
    hShort | ⟨more, rfl⟩
  · exact hShort
  · cases more with
    | nil => exact (List.append_nil cs).symm ▸ List.prefix_refl cs
    | cons d more =>
      -- the spelling would have the blank in it
      obtain ⟨tail, rfl⟩ := (List.prefix_append_right_inj cs).1 hPrefix
      have hSpelled := h.isBlank_eq_false_of_mem (List.mem_append_right cs List.mem_cons_self)
      rw [hBlank d rfl] at hSpelled
      cases hSpelled

theorem LongestMatch.append (h : LongestMatch cs spelled t) :
    LongestMatch (cs ++ ds) spelled t where
  starts := h.starts.trans (List.prefix_append cs ds)
  spells := h.spells
  longest other u hPrefix hSpells :=
    h.longest other u (hSpells.prefix_of_append hBlank hPrefix) hSpells

/-- So where no spelling starts, none does when the text goes on with a blank. -/
theorem not_spells_append (h : ∀ spelled t, spelled <+: cs → ¬ Spells spelled t) :
    ∀ spelled t, spelled <+: cs ++ ds → ¬ Spells spelled t := by
  intro spelled t hPrefix hSpells
  exact h spelled t (hSpells.prefix_of_append hBlank hPrefix) hSpells

/-- **A text that goes on with a blank keeps its tokens.** -/
theorem LexesBefore.append {rest front : List Char} {ts : List Token}
    (h : LexesBefore rest front ts) : LexesBefore (rest ++ ds) front ts := by
  induction h with
  | nil => exact .nil
  | token hGap hMatch _ ih =>
    have hMatch' := hMatch.append hBlank
    simp only [List.append_assoc] at hMatch'
    exact .token hGap hMatch' ih

end Append

-- ---------------------------------------------------------------------------
-- The parser, resumed
-- ---------------------------------------------------------------------------

namespace State

/-- Reads the rest of a text from the byte `offset` on, where the last token ended. -/
def readFrom (s : State) (offset : Nat) (rest : List Char) : Except (Fault Nat) Formula :=
  run (lexFrom offset rest).stray s offset (lexFrom offset rest).lexemes

section Token

variable {s : State} (offset : Nat) {gap spelled rest : List Char} {t : Token}
  (hGap : ∀ c ∈ gap, isBlank c = true) (hMatch : LongestMatch (spelled ++ rest) spelled t)
include hGap hMatch

/-- The parser gets past a token that it can take. -/
theorem readFrom_token {s' : State} (hStep : s.step t = .ok s') :
    s.readFrom offset (gap ++ (spelled ++ rest)) =
      s'.readFrom (offset + byteLength (gap ++ spelled)) rest := by
  rw [readFrom, lexFrom_token offset hGap hMatch, Text.byteLength_append, ← Nat.add_assoc]
  simp only [run, hStep]
  rfl

/-- It stops at a token that it cannot take. -/
theorem readFrom_misfit {expected : List TokenKind} (hStep : s.step t = .error expected) :
    s.readFrom offset (gap ++ (spelled ++ rest)) =
      .error (.unexpected (offset + byteLength gap) expected (String.ofList spelled)) := by
  rw [readFrom, lexFrom_token offset hGap hMatch]
  simp only [run, hStep]

end Token

/-- Where a character starts no token, the parser stops. -/
theorem readFrom_stray (s : State) (offset : Nat) {gap rest : List Char} {c : Char}
    (hGap : ∀ c ∈ gap, isBlank c = true) (hChar : isBlank c = false)
    (hNone : ∀ spelled t, spelled <+: c :: rest → ¬ Spells spelled t) :
    s.readFrom offset (gap ++ c :: rest) = .error (.invalid (offset + byteLength gap)) := by
  have hHead : ∀ d ∈ (c :: rest).head?, isBlank d = false := by
    intro d hd
    cases hd
    exact hChar
  rw [readFrom, lexFrom_stop offset hGap hHead (first?_eq_none_iff.2 hNone)]
  rfl

/-- Where the text ends, the state tells whether it may. -/
theorem readFrom_end (s : State) (offset : Nat) {gap : List Char}
    (hGap : ∀ c ∈ gap, isBlank c = true) :
    s.readFrom offset gap = s.finish.mapError (.incomplete offset) := by
  rw [readFrom, lexFrom_blank offset hGap]
  rfl

end State

/-- **The parser gets past the tokens that it can take**, and resumes where they end. -/
theorem LexesBefore.readFrom {rest front : List Char} {ts : List Token} {s s' : State}
    (h : LexesBefore rest front ts) (hReaches : State.Reaches s ts s') (offset : Nat) :
    s.readFrom offset (front ++ rest) = s'.readFrom (offset + byteLength front) rest := by
  induction h generalizing s offset with
  | nil =>
    cases hReaches
    rfl
  | @token gap spelled front t ts hGap hMatch _ ih =>
    cases hReaches with
    | step hStep hRest =>
      have hLength : offset + byteLength (gap ++ spelled) + byteLength front =
          offset + byteLength (gap ++ (spelled ++ front)) := by
        simp only [Text.byteLength_append]
        omega
      rw [List.append_assoc, List.append_assoc, State.readFrom_token offset hGap hMatch hStep,
        ih hRest, hLength]

/-- So it gets past the tokens at the start of a text. -/
theorem LexesBefore.read {rest front : List Char} {ts : List Token} {s : State}
    (h : LexesBefore rest front ts) (hReaches : State.Reaches (.operand []) ts s) :
    read (front ++ rest) = s.readFrom (byteLength front) rest := by
  have hResumed := h.readFrom hReaches 0
  rwa [Nat.zero_add] at hResumed

end Connectives
