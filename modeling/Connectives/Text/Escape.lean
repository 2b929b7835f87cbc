/-!
# Connectives — commands to a terminal

A terminal takes commands in the text that it shows. Most are sequences that begin with the escape
character. A control sequence goes on with `[`, then has digits and signs, and ends with a letter or
a character near the letters. A short sequence has no `[`, and a digit can end it too. Two more
characters are commands by themselves: they shift to another set of letters and back.

* `EscapeSequence`, `TerminalCommand` — a single command.
* `EscapeText` — a text of nothing but commands.
-/

namespace Connectives.Text

/-- The character that an escape sequence begins with. -/
def escapeChar : Char := '\x1b'

/-- One of the two characters that shift to another set of letters and back. -/
def IsShift (c : Char) : Prop :=
  c = '\x0e' ∨ c = '\x0f'

instance : DecidablePred IsShift :=
  fun _ => inferInstanceAs (Decidable (_ ∨ _))

/-- A sequence that a terminal takes as a command. -/
inductive EscapeSequence : List Char → Prop
  | control {body : List Char} {last : Char} :
      (∀ c ∈ body, ' ' ≤ c ∧ c < '@') → '@' ≤ last ∧ last ≤ '~' →
        EscapeSequence (escapeChar :: '[' :: (body ++ [last]))
  | short {body : List Char} {last : Char} :
      (∀ c ∈ body, ' ' ≤ c ∧ c < '0') → '0' ≤ last ∧ last ≤ '~' → last ≠ '[' →
        EscapeSequence (escapeChar :: (body ++ [last]))

/-- What a terminal takes as a single command. -/
inductive TerminalCommand : List Char → Prop
  | sequence {q : List Char} : EscapeSequence q → TerminalCommand q
  | shift {c : Char} : IsShift c → TerminalCommand [c]

/-- A text of nothing but commands to a terminal. -/
def EscapeText (s : String) : Prop :=
  ∃ commands : List (List Char), (∀ q ∈ commands, TerminalCommand q) ∧ s.toList = commands.flatten

/-- A number is written in digits. -/
theorem isDigit_of_mem_toString {n : Nat} {c : Char} (h : c ∈ (toString n).toList) :
    c.isDigit = true := by
  have hDigits : toString n = String.ofList (Nat.toDigits 10 n) := rfl
  rw [hDigits, String.toList_ofList] at h
  exact Nat.isDigit_of_mem_toDigits (b := 10) (by decide) (by decide) h

namespace EscapeText

theorem empty : EscapeText "" :=
  ⟨[], nofun, rfl⟩

theorem single {q : List Char} (h : TerminalCommand q) : EscapeText (String.ofList q) :=
  ⟨[q], List.forall_mem_singleton.2 h, by rw [String.toList_ofList, List.flatten_singleton]⟩

theorem append {s t : String} (hs : EscapeText s) (ht : EscapeText t) : EscapeText (s ++ t) := by
  obtain ⟨qs, hqs, hs⟩ := hs
  obtain ⟨rs, hrs, ht⟩ := ht
  refine ⟨qs ++ rs, List.forall_mem_append.2 ⟨hqs, hrs⟩, ?_⟩
  rw [String.toList_append, hs, ht, List.flatten_append]

/-- A control sequence that ends with `m` and has no more than digits before it sets how letters
look. -/
theorem appearance (digits : String) (h : digits.toList.all Char.isDigit = true) :
    EscapeText ("\x1b[" ++ digits ++ "m") := by
  have hBody : ∀ c ∈ digits.toList, ' ' ≤ c ∧ c < '@' := by
    intro c hc
    have hDigit := List.all_eq_true.1 h c hc
    rw [Char.isDigit, Bool.and_eq_true, decide_eq_true_eq, decide_eq_true_eq] at hDigit
    exact ⟨UInt32.le_trans (by decide) hDigit.1, UInt32.lt_of_le_of_lt hDigit.2 (by decide)⟩
  have hSequence : EscapeSequence (escapeChar :: '[' :: (digits.toList ++ ['m'])) :=
    .control hBody (by decide)
  have hText : "\x1b[" ++ digits ++ "m" =
      String.ofList (escapeChar :: '[' :: (digits.toList ++ ['m'])) := by
    rw [← String.toList_inj, String.toList_append, String.toList_append,
      String.toList_ofList (l := escapeChar :: _)]
    rfl
  rw [hText]
  exact single (.sequence hSequence)

/-- Some terminals take back what they have been told by a sequence and a shift. -/
example : EscapeText "\x1b[m\x0f" :=
  (appearance "" rfl).append (single (.shift (.inr rfl)))

end EscapeText

end Connectives.Text
