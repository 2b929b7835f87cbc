import Connectives.Proofs.Text.Utf8

/-!
# Connectives — UTF-8 keeps the order of texts

Texts are ordered by the code points of their characters, from left to right. Comparing the bytes of
their UTF-8 encodings comes to the same: where two characters differ, so do their encodings, before
either of them ends, and the greater character has the greater byte there.

* `PrecedesAt` — lists of bytes that differ before either of them ends.
* `precedesAt_utf8EncodeChar` — the encodings of different characters.
* `compare_encodeUtf8` — texts are compared as their encodings are.
-/

namespace Connectives.Text

-- ---------------------------------------------------------------------------
-- Bytes that tell two lists apart
-- ---------------------------------------------------------------------------

/-- Bytes in front that are the same do not count. -/
theorem compare_append_left (as xs ys : List UInt8) :
    compare (as ++ xs) (as ++ ys) = compare xs ys := by
  induction as with
  | nil => rfl
  | cons a as ih =>
    rw [List.cons_append, List.cons_append, List.compare_cons_cons, Std.compare_self, ih]
    rfl

/-- The lists have a first byte in which they differ, and there the first list has the smaller
one. -/
inductive PrecedesAt : List UInt8 → List UInt8 → Prop
  | here {x y : UInt8} {xs ys : List UInt8} : x < y → PrecedesAt (x :: xs) (y :: ys)
  | later {x : UInt8} {xs ys : List UInt8} : PrecedesAt xs ys → PrecedesAt (x :: xs) (x :: ys)

namespace PrecedesAt

variable {xs ys : List UInt8} {m n : Nat}

/-- What comes behind such lists does not count. -/
theorem compare_append (h : PrecedesAt xs ys) (as bs : List UInt8) :
    compare (xs ++ as) (ys ++ bs) = .lt := by
  induction h with
  | here hLt =>
    rw [List.cons_append, List.cons_append, List.compare_cons_cons, Std.compare_eq_lt.2 hLt]
    rfl
  | later _ ih =>
    rw [List.cons_append, List.cons_append, List.compare_cons_cons, Std.compare_self, ih]
    rfl

/-- A byte that is smaller decides. -/
theorem ofNat_lt (h : m < n) (hn : n < 0x100) :
    PrecedesAt (UInt8.ofNat m :: xs) (UInt8.ofNat n :: ys) := by
  refine .here ?_
  rw [UInt8.lt_iff_toNat_lt, UInt8.toNat_ofNat', UInt8.toNat_ofNat', Nat.mod_eq_of_lt hn,
    Nat.mod_eq_of_lt (by omega)]
  exact h

/-- Where a byte may be the same, the next ones have to decide. -/
theorem ofNat_le (h : m ≤ n) (hn : n < 0x100) (hRest : m = n → PrecedesAt xs ys) :
    PrecedesAt (UInt8.ofNat m :: xs) (UInt8.ofNat n :: ys) := by
  rcases Nat.lt_or_eq_of_le h with hLt | hEq
  · exact ofNat_lt hLt hn
  · exact hEq ▸ .later (hRest hEq)

end PrecedesAt

/-- **The greater character has the greater byte where the encodings differ.** -/
theorem precedesAt_utf8EncodeChar {c d : Char} (h : c < d) :
    PrecedesAt (String.utf8EncodeChar c) (String.utf8EncodeChar d) := by
  have hLt : c.val.toNat < d.val.toNat := UInt32.lt_iff_toNat_lt.1 (Char.lt_def.1 h)
  have hLast : d.val.toNat < 0x110000 := by
    have hValid := d.valid
    unfold UInt32.isValidChar Nat.isValidChar at hValid
    omega
  unfold String.utf8EncodeChar
  generalize c.val.toNat = m at hLt
  generalize d.val.toNat = n at hLt hLast
  -- of two lengths the greater one has the greater first byte; of one length the digits decide
  simp only
  split
  · split
    · exact .ofNat_lt hLt (by omega)
    · split
      · exact .ofNat_lt (by omega) (by omega)
      · split
        · exact .ofNat_lt (by omega) (by omega)
        · exact .ofNat_lt (by omega) (by omega)
  · rw [if_neg (by omega : ¬n ≤ 127)]
    split
    · split
      · exact .ofNat_le (by omega) (by omega) fun _ => .ofNat_lt (by omega) (by omega)
      · split
        · exact .ofNat_lt (by omega) (by omega)
        · exact .ofNat_lt (by omega) (by omega)
    · rw [if_neg (by omega : ¬n ≤ 2047)]
      split
      · split
        · exact .ofNat_le (by omega) (by omega) fun _ =>
            .ofNat_le (by omega) (by omega) fun _ => .ofNat_lt (by omega) (by omega)
        · exact .ofNat_lt (by omega) (by omega)
      · rw [if_neg (by omega : ¬n ≤ 65535)]
        exact .ofNat_le (by omega) (by omega) fun _ => .ofNat_le (by omega) (by omega) fun _ =>
          .ofNat_le (by omega) (by omega) fun _ => .ofNat_lt (by omega) (by omega)

-- ---------------------------------------------------------------------------
-- Texts
-- ---------------------------------------------------------------------------

theorem compare_flatMap_utf8EncodeChar {cs ds : List Char} (h : cs < ds) :
    compare (cs.flatMap String.utf8EncodeChar) (ds.flatMap String.utf8EncodeChar) = .lt := by
  induction cs generalizing ds with
  | nil =>
    cases ds with
    | nil => exact absurd h (List.not_lt_nil [])
    | cons d ds =>
      have hBytes : (String.utf8EncodeChar d).length ≠ 0 := by
        rw [String.length_utf8EncodeChar]
        exact Nat.ne_of_gt d.utf8Size_pos
      obtain ⟨b, bs, hb⟩ := List.exists_cons_of_length_pos (Nat.pos_of_ne_zero hBytes)
      rw [List.flatMap_nil, List.flatMap_cons, hb, List.cons_append, List.compare_nil_cons]
  | cons c cs ih =>
    cases ds with
    | nil => exact absurd h (List.not_lt_nil _)
    | cons d ds =>
      rw [List.flatMap_cons, List.flatMap_cons]
      rcases List.cons_lt_cons_iff.1 h with hLt | ⟨rfl, hRest⟩
      · exact (precedesAt_utf8EncodeChar hLt).compare_append _ _
      · rw [compare_append_left, ih hRest]

theorem compare_encodeUtf8_of_lt {s t : String} (h : compare s t = .lt) :
    compare (encodeUtf8 s) (encodeUtf8 t) = .lt := by
  have hTexts : s < t := compareOfLessAndEq_eq_lt.1 h
  rw [encodeUtf8_eq_flatMap, encodeUtf8_eq_flatMap]
  exact compare_flatMap_utf8EncodeChar hTexts

/-- **Texts are compared as their encodings are**, byte by byte. -/
theorem compare_encodeUtf8 (s t : String) :
    compare (encodeUtf8 s) (encodeUtf8 t) = compare s t := by
  cases h : compare s t with
  | lt => exact compare_encodeUtf8_of_lt h
  | eq => rw [Std.LawfulEqOrd.eq_of_compare h, Std.compare_self]
  | gt =>
    rw [Std.OrientedOrd.eq_swap, compare_encodeUtf8_of_lt (Std.OrientedCmp.lt_of_gt h)]
    rfl

end Connectives.Text
