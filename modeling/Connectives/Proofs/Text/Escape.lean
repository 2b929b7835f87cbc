import Connectives.Proofs.Text.Lines
import Connectives.Text.Column
import Connectives.Text.Escape

/-!
# Connectives — what is left without commands to a terminal

A reader who deletes the escape sequences of a text, and the shifts outside of them, needs to know no
more than how far into a sequence they are. Commands to a terminal leave nothing behind, and a text
in which none begins is left as it is. Neither touches what comes after it.

* `withoutEscapes` — a text with its escape sequences and shifts deleted.
* `EscapeFree` — a text in which no command begins.
* `withoutEscapes_append_of_escapeText`, `withoutEscapes_append_of_escapeFree` — what is left.
-/

namespace Connectives.Text

-- ---------------------------------------------------------------------------
-- Deleting commands
-- ---------------------------------------------------------------------------

/-- Where a reader is: in the text, right behind an escape character, or further into a sequence,
which ends with the first character from `least` on. -/
inductive EscapeReading where
  | outside
  | begun
  | within (least : Char)

/-- What is left of the characters. A sequence that is not finished is deleted all the same. -/
def withoutEscapesFrom : EscapeReading → List Char → List Char
  | _, [] => []
  | .outside, c :: cs =>
    if c = escapeChar then withoutEscapesFrom .begun cs
    else if IsShift c then withoutEscapesFrom .outside cs
    else c :: withoutEscapesFrom .outside cs
  | .begun, c :: cs =>
    withoutEscapesFrom (if c = '[' then .within '@' else if c < '0' then .within '0' else .outside) cs
  | .within least, c :: cs =>
    withoutEscapesFrom (if c < least then .within least else .outside) cs

/-- A text with its escape sequences and shifts deleted. -/
def withoutEscapes (s : String) : String :=
  String.ofList (withoutEscapesFrom .outside s.toList)

@[simp] theorem withoutEscapes_empty : withoutEscapes "" = "" := rfl

/-- A sequence is read to its last character. -/
theorem withoutEscapesFrom_within {least last : Char} {body : List Char}
    (hBody : ∀ c ∈ body, c < least) (hLast : least ≤ last) (rest : List Char) :
    withoutEscapesFrom (.within least) (body ++ last :: rest) = withoutEscapesFrom .outside rest := by
  induction body with
  | nil =>
    have hEnds : ¬ last < least := Char.not_lt.2 hLast
    rw [List.nil_append, withoutEscapesFrom, if_neg hEnds]
  | cons c body ih =>
    obtain ⟨hChar, hRest⟩ := List.forall_mem_cons.1 hBody
    rw [List.cons_append, withoutEscapesFrom, if_pos hChar, ih hRest]

/-- An escape sequence leaves nothing behind. -/
theorem EscapeSequence.withoutEscapesFrom_append {q : List Char} (h : EscapeSequence q)
    (rest : List Char) :
    withoutEscapesFrom .outside (q ++ rest) = withoutEscapesFrom .outside rest := by
  cases h with
  | @control body last hBody hLast =>
    have hWithin := withoutEscapesFrom_within (fun c hc => (hBody c hc).2) hLast.1 rest
    simpa [withoutEscapesFrom] using hWithin
  | @short body last hBody hLast hBracket =>
    cases body with
    | nil =>
      have hEnds : ¬ last < '0' := Char.not_lt.2 hLast.1
      simp [withoutEscapesFrom, hBracket, hEnds]
    | cons c body =>
      obtain ⟨hChar, hRest⟩ := List.forall_mem_cons.1 hBody
      have hNoBracket : c ≠ '[' := by
        rintro rfl
        exact absurd hChar.2 (by decide)
      have hWithin := withoutEscapesFrom_within (fun d hd => (hRest d hd).2) hLast.1 rest
      simpa [withoutEscapesFrom, hNoBracket, hChar.2] using hWithin

/-- **Neither does any other command.** -/
theorem TerminalCommand.withoutEscapesFrom_append {q : List Char} (h : TerminalCommand q)
    (rest : List Char) :
    withoutEscapesFrom .outside (q ++ rest) = withoutEscapesFrom .outside rest := by
  cases h with
  | sequence hSequence => exact hSequence.withoutEscapesFrom_append rest
  | @shift c hShift =>
    have hNoEscape : c ≠ escapeChar := by
      rintro rfl
      exact absurd hShift (by decide)
    rw [List.singleton_append, withoutEscapesFrom, if_neg hNoEscape, if_pos hShift]

theorem withoutEscapes_append_of_escapeText {s : String} (h : EscapeText s) (t : String) :
    withoutEscapes (s ++ t) = withoutEscapes t := by
  obtain ⟨commands, hCommands, hText⟩ := h
  have hDeleted (rest : List Char) :
      withoutEscapesFrom .outside (commands.flatten ++ rest) = withoutEscapesFrom .outside rest := by
    clear hText
    induction commands with
    | nil => rfl
    | cons q qs ih =>
      obtain ⟨hFirst, hRest⟩ := List.forall_mem_cons.1 hCommands
      rw [List.flatten_cons, List.append_assoc, hFirst.withoutEscapesFrom_append, ih hRest]
  rw [withoutEscapes, String.toList_append, hText, hDeleted, withoutEscapes]

-- ---------------------------------------------------------------------------
-- Texts without commands
-- ---------------------------------------------------------------------------

/-- A character that a command begins with. -/
def BeginsCommand (c : Char) : Prop :=
  c = escapeChar ∨ IsShift c

instance : DecidablePred BeginsCommand :=
  fun _ => inferInstanceAs (Decidable (_ ∨ _))

/-- A text in which no command begins. -/
def EscapeFree (s : String) : Prop :=
  ∀ c ∈ s.toList, ¬ BeginsCommand c

theorem all_iff_escapeFree {s : String} :
    (s.toList.all fun c => !decide (BeginsCommand c)) = true ↔ EscapeFree s := by
  simp [EscapeFree]

instance : DecidablePred EscapeFree :=
  fun _ => decidable_of_iff _ all_iff_escapeFree

@[simp] theorem escapeFree_empty : EscapeFree "" :=
  nofun

theorem withoutEscapes_append_of_escapeFree {s : String} (h : EscapeFree s) (t : String) :
    withoutEscapes (s ++ t) = s ++ withoutEscapes t := by
  have hKept (cs rest : List Char) (hFree : ∀ c ∈ cs, ¬ BeginsCommand c) :
      withoutEscapesFrom .outside (cs ++ rest) = cs ++ withoutEscapesFrom .outside rest := by
    induction cs with
    | nil => rfl
    | cons c cs ih =>
      obtain ⟨hChar, hRest⟩ := List.forall_mem_cons.1 hFree
      obtain ⟨hNoEscape, hNoShift⟩ := not_or.1 hChar
      rw [List.cons_append, withoutEscapesFrom, if_neg hNoEscape, if_neg hNoShift, ih hRest,
        List.cons_append]
  rw [withoutEscapes, String.toList_append, hKept _ _ h, String.ofList_append,
    String.ofList_toList, withoutEscapes]

example : withoutEscapes "⊤\x1b[m\x0f ∧ \x1b[38;5;252mp\x1b(B" = "⊤ ∧ p" := by decide

namespace EscapeFree

variable {s t : String}

/-- Checks a text that is written out. Its characters need not be decoded for this. -/
theorem ofList {cs : List Char} (h : (cs.all fun c => !decide (BeginsCommand c)) = true) :
    EscapeFree (String.ofList cs) := by
  rwa [← all_iff_escapeFree, String.toList_ofList]

theorem append (hs : EscapeFree s) (ht : EscapeFree t) : EscapeFree (s ++ t) := by
  intro c hc
  rw [String.toList_append, List.mem_append] at hc
  exact hc.elim (hs c) (ht c)

theorem intercalate {ts : List String} (hs : EscapeFree s) (h : ∀ t ∈ ts, EscapeFree t) :
    EscapeFree (s.intercalate ts) := by
  induction ts with
  | nil => exact nofun
  | cons t ts ih =>
    obtain ⟨hFirst, hRest⟩ := List.forall_mem_cons.1 h
    cases ts with
    | nil => rwa [String.intercalate_singleton]
    | cons u us =>
      rw [String.intercalate_cons_cons]
      exact (hFirst.append hs).append (ih hRest)

theorem unlines {ls : List String} (h : ∀ l ∈ ls, EscapeFree l) : EscapeFree (Text.unlines ls) := by
  have hEnd : EscapeFree "\n" := .ofList (by decide)
  induction ls with
  | nil => exact nofun
  | cons l ls ih =>
    obtain ⟨hFirst, hRest⟩ := List.forall_mem_cons.1 h
    rw [unlines_cons]
    exact hFirst.append (hEnd.append (ih hRest))

theorem toString_nat (n : Nat) : EscapeFree (toString n) := by
  rintro c hc (rfl | rfl | rfl) <;> exact absurd (isDigit_of_mem_toString hc) (by decide)

theorem replicate {n : Nat} {c : Char} (h : ¬ BeginsCommand c) : EscapeFree (Text.replicate n c) := by
  intro d hd
  rwa [mem_toList_replicate hd]

theorem padRight (h : EscapeFree s) (width : Nat) : EscapeFree (Text.padRight width s) :=
  h.append (.replicate (by decide))

end EscapeFree

end Connectives.Text
