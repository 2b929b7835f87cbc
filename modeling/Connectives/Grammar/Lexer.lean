import Connectives.Grammar.Token
import Connectives.Text.Blank

/-!
# Connectives — cutting a text into lexemes

A text is read from left to right: skip blanks, then take the longest token that starts there.

* A word is a lower-case letter with all the letters, digits and underscores after it. It is a
  keyword if it is spelled like one, and a variable otherwise.
* Of the other spellings none begins with another, so at most one of them can start at a place.

`lex` keeps what was read up to the first character that starts no token, and where that
character stands; whether it matters is for the parser to say, which may find fault earlier.
-/

namespace Connectives

-- ---------------------------------------------------------------------------
-- The token at the start of a text
-- ---------------------------------------------------------------------------

/-- Whether a word can start with the character. -/
def startsWord (c : Char) : Bool :=
  'a' ≤ c && c ≤ 'z'

/-- Whether a word can go on with the character. -/
def continuesWord (c : Char) : Bool :=
  ('a' ≤ c && c ≤ 'z') || ('A' ≤ c && c ≤ 'Z') || ('0' ≤ c && c ≤ '9') || c == '_'

/-- The token that a word stands for. -/
def Token.ofWord (word : List Char) : Token :=
  (Token.ofSpelling? (String.ofList word)).getD (.var (String.ofList word))

/-- The spellings that are not words, with their tokens. -/
def symbolSpellings : List (List Char × Token) :=
  spellings.filterMap fun (text, kind) =>
    if text.toList.head?.any startsWord then none
    else kind.token?.map (text.toList, ·)

/-- The longest token at the start of a text, with the characters that spell it. -/
def Token.first? : List Char → Option (Token × List Char)
  | [] => none
  | c :: cs =>
    if startsWord c then
      let word := c :: cs.takeWhile continuesWord
      some (Token.ofWord word, word)
    else
      (symbolSpellings.find? fun s => s.1.isPrefixOf (c :: cs)).map fun s => (s.2, s.1)

private theorem symbolSpellings_nonempty : ∀ s ∈ symbolSpellings, s.1.length ≠ 0 := by
  decide +kernel

/-- A token has at least one character, so reading it gets ahead. -/
theorem Token.first?_progress {cs spelled : List Char} {t : Token}
    (h : Token.first? cs = some (t, spelled)) : (cs.drop spelled.length).length < cs.length := by
  cases cs with
  | nil => simp [Token.first?] at h
  | cons c cs =>
    have hpos : spelled.length ≠ 0 := by
      simp only [Token.first?] at h
      split at h
      · cases h
        simp
      · obtain ⟨s, hs, heq⟩ := Option.map_eq_some_iff.1 h
        cases heq
        exact symbolSpellings_nonempty s (List.mem_of_find?_eq_some hs)
    rw [List.length_drop]
    simp only [List.length_cons]
    omega

-- ---------------------------------------------------------------------------
-- Lexemes
-- ---------------------------------------------------------------------------

/-- A token as it stands in a text, from the byte `start` up to the byte `stop`. -/
structure Lexeme where
  token : Token
  text : String
  start : Nat
  stop : Nat
  deriving DecidableEq, Repr

/-- What could be read of a text. `stray` is where a character stands that starts no token; if
there is none, the text was read to its end. -/
structure Lexing where
  lexemes : List Lexeme
  stray : Option Nat
  deriving DecidableEq, Repr

/-- Reads a text that starts at the byte `offset` of a longer one. -/
def lexFrom (offset : Nat) (cs : List Char) : Lexing :=
  let start := offset + Text.byteLength (cs.takeWhile Text.isBlank)
  let rest := cs.dropWhile Text.isBlank
  match _ : Token.first? rest with
  | none => ⟨[], if rest.isEmpty then none else some start⟩
  | some (token, spelled) =>
    let stop := start + Text.byteLength spelled
    let later := lexFrom stop (rest.drop spelled.length)
    ⟨⟨token, String.ofList spelled, start, stop⟩ :: later.lexemes, later.stray⟩
termination_by cs.length
decreasing_by
  exact Nat.lt_of_lt_of_le (Token.first?_progress ‹_›) (List.dropWhile_sublist _).length_le

/-- Reads a text. -/
def lex (cs : List Char) : Lexing :=
  lexFrom 0 cs

end Connectives
