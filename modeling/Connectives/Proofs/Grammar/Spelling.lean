import Connectives.Grammar.Lexer
import Connectives.Proofs.Text.Blank

/-!
# Connectives — spellings and longest match

What a token is written as, and which token stands at the start of a text: the longest one, where
a keyword wins over a variable of the same spelling. Both are said here without the lexer, as
relations, and `Token.first?` is shown to compute the second.

Two facts about the table of spellings are behind everything. Of the spellings that are no words,
none begins with another. And every spelling that begins like a word is a word to its end. So
a token can only be lengthened by characters that continue a word.

* `Spells` — the characters spell the token.
* `LongestMatch` — the longest spelling of a token at the start of a text.
* `Spells.longestMatch` — a spelling is the longest match unless it is a word that goes on.
* `first?_eq_some_iff`, `first?_eq_none_iff` — the lexer finds the longest match, if there is one.
-/

namespace Connectives

-- ---------------------------------------------------------------------------
-- Words and names
-- ---------------------------------------------------------------------------

/-- A lower-case letter, and after it letters, digits and underscores: `[a-z][a-zA-Z0-9_]*`. -/
def IsWord : List Char → Prop
  | [] => False
  | c :: cs => startsWord c = true ∧ cs.all continuesWord = true

instance : DecidablePred IsWord
  | [] => inferInstanceAs (Decidable False)
  | c :: cs => inferInstanceAs (Decidable (startsWord c = true ∧ cs.all continuesWord = true))

/-- The words that are no names. -/
def keywords : List String :=
  ["true", "false", "not", "and", "nand", "or", "xor", "nor", "implies", "iff"]

/-- A name that can be written in a text: a word that is no keyword. -/
def ReadableName (v : String) : Prop :=
  IsWord v.toList ∧ v ∉ keywords

instance : DecidablePred ReadableName :=
  fun v => inferInstanceAs (Decidable (IsWord v.toList ∧ v ∉ keywords))

/-- No word goes on into these characters. -/
def EndsWord (rest : List Char) : Prop :=
  ∀ c ∈ rest.head?, continuesWord c = false

@[simp] theorem endsWord_nil : EndsWord [] := by
  simp [EndsWord]

@[simp] theorem endsWord_cons {c : Char} {cs : List Char} :
    EndsWord (c :: cs) ↔ continuesWord c = false := by
  simp [EndsWord]

/-- The characters that continue a word, by their code points. -/
theorem continuesWord_iff {c : Char} :
    continuesWord c = true ↔
      (97 ≤ c.toNat ∧ c.toNat ≤ 122) ∨ (65 ≤ c.toNat ∧ c.toNat ≤ 90) ∨
        (48 ≤ c.toNat ∧ c.toNat ≤ 57) ∨ c.toNat = 95 := by
  have hUnderscore : c = '_' ↔ c.toNat = 95 := by
    rw [Char.ext_iff, ← UInt32.toNat_inj]
    exact Iff.rfl
  simp only [continuesWord, Bool.or_eq_true, Bool.and_eq_true, decide_eq_true_eq, beq_iff_eq,
    hUnderscore, or_assoc]
  exact Iff.rfl

theorem continuesWord_of_startsWord {c : Char} (h : startsWord c = true) :
    continuesWord c = true := by
  rw [startsWord] at h
  rw [continuesWord, h]
  rfl

/-- A word goes on to its end. -/
theorem IsWord.continuesWord_of_mem {cs : List Char} (h : IsWord cs) :
    ∀ c ∈ cs, continuesWord c = true := by
  cases cs with
  | nil => exact nofun
  | cons d ds =>
    exact List.forall_mem_cons.2 ⟨continuesWord_of_startsWord h.1, List.all_eq_true.1 h.2⟩

theorem not_isWord_cons {c : Char} {cs : List Char} (h : startsWord c = false) :
    ¬ IsWord (c :: cs) := by
  intro hWord
  have hStart := hWord.1
  rw [h] at hStart
  cases hStart

/-- No blank is part of a word. -/
theorem continuesWord_of_isBlank {c : Char} (h : Text.isBlank c = true) :
    continuesWord c = false := by
  rw [← Bool.not_eq_true, continuesWord_iff]
  simp only [Text.isBlank, Text.blankRanges, List.any_cons, List.any_nil, Bool.or_false,
    Bool.or_eq_true, Bool.and_eq_true, decide_eq_true_eq] at h
  omega

-- ---------------------------------------------------------------------------
-- Spellings
-- ---------------------------------------------------------------------------

/-- The characters spell the token. -/
inductive Spells (cs : List Char) : Token → Prop
  | fixed {kind : TokenKind} {t : Token} :
      (String.ofList cs, kind) ∈ spellings → kind.token? = some t → Spells cs t
  | name : IsWord cs → String.ofList cs ∉ keywords → Spells cs (.var (String.ofList cs))

private theorem spellings_injective :
    ∀ e ∈ spellings, ∀ e' ∈ spellings, e.1 = e'.1 → e = e' := by
  decide +kernel

private theorem spellings_nonempty : ∀ e ∈ spellings, e.1.toList ≠ [] := by
  decide +kernel

private theorem spellings_not_blank :
    ∀ e ∈ spellings, e.1.toList.any Text.isBlank = false := by
  decide +kernel

private theorem isWord_of_mem_spellings :
    ∀ e ∈ spellings, e.1.toList.head?.any startsWord = true → IsWord e.1.toList := by
  decide +kernel

private theorem keyword_of_mem_spellings :
    ∀ e ∈ spellings, IsWord e.1.toList → e.1 ∈ keywords := by
  decide +kernel

private theorem token_of_keyword :
    ∀ v ∈ keywords, (Token.ofSpelling? v).isSome = true := by
  decide +kernel

private theorem symbolSpellings_prefixFree :
    ∀ s ∈ symbolSpellings, ∀ s' ∈ symbolSpellings, s.1 <+: s'.1 → s = s' := by
  decide +kernel

namespace Spells

variable {c : Char} {cs : List Char} {t t' : Token}

/-- Characters spell at most one token. -/
theorem functional (h : Spells cs t) (h' : Spells cs t') : t = t' := by
  -- a name is no keyword, so it is not in the table
  have hName : ∀ {kind : TokenKind}, IsWord cs → String.ofList cs ∉ keywords →
      (String.ofList cs, kind) ∉ spellings := fun hWord hFree hMem =>
    hFree (keyword_of_mem_spellings _ hMem (by simpa using hWord))
  cases h with
  | fixed hMem hToken =>
    cases h' with
    | fixed hMem' hToken' =>
      cases spellings_injective _ hMem _ hMem' rfl
      rw [hToken] at hToken'
      exact Option.some.inj hToken'
    | name hWord hFree => exact absurd hMem (hName hWord hFree)
  | name hWord hFree =>
    cases h' with
    | fixed hMem' _ => exact absurd hMem' (hName hWord hFree)
    | name _ _ => rfl

/-- What is entered in the table spells the token of its kind. -/
theorem of_mem_spellings {text : String} {kind : TokenKind} (hMem : (text, kind) ∈ spellings)
    (hToken : kind.token? = some t) : Spells text.toList t := by
  rw [← String.ofList_toList (s := text)] at hMem
  exact .fixed hMem hToken

theorem ne_nil (h : Spells cs t) : cs ≠ [] := by
  cases h with
  | fixed hMem _ => simpa using spellings_nonempty _ hMem
  | name hWord _ =>
    rintro rfl
    exact hWord

/-- A spelling that begins like a word is one. -/
theorem isWord (h : Spells (c :: cs) t) (hStart : startsWord c = true) : IsWord (c :: cs) := by
  cases h with
  | fixed hMem _ => simpa [hStart] using isWord_of_mem_spellings _ hMem
  | name hWord _ => exact hWord

/-- A spelling that does not begin like a word stands in the table of symbols. -/
theorem mem_symbolSpellings (h : Spells (c :: cs) t) (hStart : startsWord c = false) :
    (c :: cs, t) ∈ symbolSpellings := by
  rw [symbolSpellings, List.mem_filterMap]
  cases h with
  | @fixed kind _ hMem hToken => exact ⟨_, hMem, by simp [hStart, hToken]⟩
  | name hWord _ => exact absurd hWord (not_isWord_cons hStart)

theorem of_mem_symbolSpellings (h : (cs, t) ∈ symbolSpellings) : Spells cs t := by
  rw [symbolSpellings, List.mem_filterMap] at h
  obtain ⟨⟨text, kind⟩, hMem, hEntry⟩ := h
  dsimp only at hEntry
  split at hEntry
  · cases hEntry
  · obtain ⟨u, hToken, hEq⟩ := Option.map_eq_some_iff.1 hEntry
    obtain ⟨rfl, rfl⟩ := Prod.mk.inj hEq
    exact of_mem_spellings hMem hToken

/-- What holds of the characters in the table and of those of words holds of all that are part of
a token. -/
theorem forall_mem {P : Char → Prop} (hTable : ∀ e ∈ spellings, ∀ c ∈ e.1.toList, P c)
    (hWord : ∀ c, continuesWord c = true → P c) (h : Spells cs t) : ∀ c ∈ cs, P c := by
  cases h with
  | fixed hMem _ => simpa using hTable _ hMem
  | name hName _ => exact fun c hc => hWord c (hName.continuesWord_of_mem c hc)

/-- No blank is part of a token. -/
theorem isBlank_eq_false_of_mem (h : Spells cs t) (hc : c ∈ cs) : Text.isBlank c = false := by
  have hTable : ∀ e ∈ spellings, ∀ d ∈ e.1.toList, Text.isBlank d = false := by
    simpa using spellings_not_blank
  refine h.forall_mem hTable (fun d hContinues => ?_) c hc
  rw [← Bool.not_eq_true]
  intro hBlank
  rw [continuesWord_of_isBlank hBlank] at hContinues
  cases hContinues

/-- No token begins with a blank. -/
theorem not_isBlank (h : Spells (c :: cs) t) : Text.isBlank c = false :=
  h.isBlank_eq_false_of_mem List.mem_cons_self

end Spells

-- ---------------------------------------------------------------------------
-- Longest match
-- ---------------------------------------------------------------------------

/-- The characters are the longest ones at the start of a text that spell a token, and it is the
one. -/
structure LongestMatch (cs spelled : List Char) (t : Token) : Prop where
  starts : spelled <+: cs
  spells : Spells spelled t
  longest : ∀ (other : List Char) (u : Token),
    other <+: cs → Spells other u → other.length ≤ spelled.length

/-- A text has at most one longest match. -/
theorem LongestMatch.unique {cs spelled spelled' : List Char} {t t' : Token}
    (h : LongestMatch cs spelled t) (h' : LongestMatch cs spelled' t') :
    spelled = spelled' ∧ t = t' := by
  have hLength : spelled.length = spelled'.length :=
    Nat.le_antisymm (h'.longest _ _ h.starts h.spells) (h.longest _ _ h'.starts h'.spells)
  have hSpelled : spelled = spelled' :=
    (List.prefix_of_prefix_length_le h.starts h'.starts (Nat.le_of_eq hLength)).eq_of_length hLength
  subst hSpelled
  exact ⟨rfl, h.spells.functional h'.spells⟩

/-- Characters of a kind reach at most as far as to the first one that is not. -/
theorem length_le_of_prefix {p : Char → Bool} {ds cs rest : List Char} (h : ds <+: cs ++ rest)
    (hAll : ds.all p = true) (hEnd : ∀ c ∈ rest.head?, p c = false) :
    ds.length ≤ cs.length := by
  rcases List.prefix_or_prefix_of_prefix h (List.prefix_append cs rest) with hShort | ⟨more, rfl⟩
  · exact hShort.length_le
  · cases more with
    | nil => exact Nat.le_of_eq (congrArg List.length (List.append_nil cs))
    | cons e es =>
      obtain ⟨tail, rfl⟩ := (List.prefix_append_right_inj cs).1 h
      have hFalse := hEnd e rfl
      rw [List.all_eq_true.1 hAll e (by simp)] at hFalse
      cases hFalse

/-- **A spelling is the longest match, unless it is a word that goes on.** -/
theorem Spells.longestMatch {spelled rest : List Char} {t : Token} (h : Spells spelled t)
    (hEnd : IsWord spelled → EndsWord rest) :
    LongestMatch (spelled ++ rest) spelled t where
  starts := List.prefix_append spelled rest
  spells := h
  longest other u hOther hSpells := by
    obtain ⟨c, cs, rfl⟩ := List.exists_cons_of_ne_nil h.ne_nil
    obtain ⟨d, ds, rfl⟩ := List.exists_cons_of_ne_nil hSpells.ne_nil
    obtain ⟨rfl, hPrefix⟩ := List.cons_prefix_cons.1 hOther
    cases hStart : startsWord d with
    | true =>
      -- both are words, and the one in question does not go on
      have hLength := length_le_of_prefix hPrefix (hSpells.isWord hStart).2
        (hEnd (h.isWord hStart))
      exact Nat.succ_le_succ hLength
    | false =>
      -- neither is a word, and neither begins with the other
      have hMem := h.mem_symbolSpellings hStart
      have hMem' := hSpells.mem_symbolSpellings hStart
      rcases List.prefix_or_prefix_of_prefix hOther (List.prefix_append (d :: cs) rest) with
        hShort | hLong
      · exact hShort.length_le
      · obtain ⟨hSame, -⟩ := Prod.mk.inj (symbolSpellings_prefixFree _ hMem _ hMem' hLong)
        exact Nat.le_of_eq (congrArg List.length hSame.symm)

-- ---------------------------------------------------------------------------
-- The lexer's first token
-- ---------------------------------------------------------------------------

theorem spells_ofWord {cs : List Char} (h : IsWord cs) : Spells cs (Token.ofWord cs) := by
  rw [Token.ofWord]
  cases hToken : Token.ofSpelling? (String.ofList cs) with
  | some t =>
    obtain ⟨kind, hLookup, hKind⟩ := Option.bind_eq_some_iff.1 hToken
    obtain ⟨before, after, hTable, -⟩ := List.lookup_eq_some_iff.1 hLookup
    exact .fixed (hTable ▸ List.mem_append_right before List.mem_cons_self) hKind
  | none =>
    refine .name h fun hKeyword => ?_
    have hSome := token_of_keyword _ hKeyword
    rw [hToken] at hSome
    cases hSome

/-- What the lexer takes at the start of a text is the longest match. -/
theorem LongestMatch.of_first? {cs spelled : List Char} {t : Token}
    (h : Token.first? cs = some (t, spelled)) : LongestMatch cs spelled t := by
  cases cs with
  | nil => cases h
  | cons c cs =>
    rw [Token.first?] at h
    cases hStart : startsWord c with
    | true =>
      rw [if_pos hStart] at h
      cases h
      have hWord : IsWord (c :: cs.takeWhile continuesWord) :=
        ⟨hStart, List.all_takeWhile⟩
      have hMatch := (spells_ofWord hWord).longestMatch fun _ =>
        head?_dropWhile continuesWord cs
      rwa [List.cons_append, List.takeWhile_append_dropWhile] at hMatch
    | false =>
      rw [hStart, if_neg Bool.false_ne_true] at h
      obtain ⟨⟨text, u⟩, hFind, hEq⟩ := Option.map_eq_some_iff.1 h
      cases hEq
      have hSpells := Spells.of_mem_symbolSpellings (List.mem_of_find?_eq_some hFind)
      have hStarts : text <+: c :: cs := by
        have hFound := List.find?_some hFind
        exact List.isPrefixOf_iff_prefix.1 hFound
      obtain ⟨rest, hText⟩ := hStarts
      -- a spelling that is no word begins with the character that the text begins with
      obtain ⟨d, ds, rfl⟩ := List.exists_cons_of_ne_nil hSpells.ne_nil
      obtain ⟨rfl, -⟩ := List.cons.inj hText
      rw [← hText]
      exact hSpells.longestMatch fun hWord => absurd hWord (not_isWord_cons hStart)

/-- Where the lexer takes nothing, no spelling starts. -/
theorem not_spells_of_first?_eq_none {cs spelled : List Char} {t : Token}
    (h : Token.first? cs = none) (hPrefix : spelled <+: cs) : ¬ Spells spelled t := by
  intro hSpells
  obtain ⟨d, ds, rfl⟩ := List.exists_cons_of_ne_nil hSpells.ne_nil
  obtain ⟨rest, rfl⟩ := hPrefix
  rw [List.cons_append, Token.first?] at h
  cases hStart : startsWord d with
  | true =>
    rw [if_pos hStart] at h
    cases h
  | false =>
    rw [hStart, if_neg Bool.false_ne_true, Option.map_eq_none_iff] at h
    have hMem := hSpells.mem_symbolSpellings hStart
    exact List.find?_eq_none.1 h _ hMem
      (List.isPrefixOf_iff_prefix.2 (List.prefix_append (d :: ds) rest))

/-- **The lexer's first token is the longest match.** -/
theorem first?_eq_some_iff {cs spelled : List Char} {t : Token} :
    Token.first? cs = some (t, spelled) ↔ LongestMatch cs spelled t := by
  constructor
  · exact LongestMatch.of_first?
  · intro h
    cases hFirst : Token.first? cs with
    | none => exact absurd h.spells (not_spells_of_first?_eq_none hFirst h.starts)
    | some found =>
      obtain ⟨rfl, rfl⟩ := (LongestMatch.of_first? hFirst).unique h
      rfl

theorem first?_eq_none_iff {cs : List Char} :
    Token.first? cs = none ↔ ∀ spelled t, spelled <+: cs → ¬ Spells spelled t := by
  constructor
  · intro h spelled t hPrefix
    exact not_spells_of_first?_eq_none h hPrefix
  · intro h
    cases hFirst : Token.first? cs with
    | none => rfl
    | some found =>
      have hMatch := LongestMatch.of_first? hFirst
      exact absurd hMatch.spells (h _ _ hMatch.starts)

end Connectives
