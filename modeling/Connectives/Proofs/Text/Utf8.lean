import Connectives.Text.Utf8
import Connectives.Proofs.Results

/-!
# Connectives — UTF-8 is decoded exactly

A byte either is a character, or begins one that has further bytes, or neither. What a pending
character turns into is known from the bits of the bytes that are owed; the bounds on them are such
that the result is a character, and that it is the encoding of this character that has been read.
So the decoder accepts the encodings of texts, each with its text, and nothing else.

* `PartialChar.Completes` — bytes that turn a pending character into a character.
* `PartialChar.exists_completes`, `utf8EncodeChar_of_completes` — which bytes these are.
* `decodeUtf8_eq_ok_iff` — the decoder accepts exactly the encodings of texts.
-/

namespace Connectives.Text

/-- The bytes of a text in UTF-8. -/
def encodeUtf8 (text : String) : List UInt8 :=
  text.toUTF8.data.toList

theorem encodeUtf8_eq_flatMap (text : String) :
    encodeUtf8 text = text.toList.flatMap String.utf8EncodeChar := by
  rw [← String.ofList_toList (s := text), encodeUtf8, String.toUTF8, String.toByteArray_ofList,
    List.utf8Encode, List.data_toByteArray, String.toList_ofList]

-- ---------------------------------------------------------------------------
-- The bytes of a character
-- ---------------------------------------------------------------------------

section Encode

variable {b₀ b₁ b₂ b₃ : UInt8} {n : Nat}

/-- Whether a byte goes on with a character. -/
def IsTrail (b : UInt8) : Prop :=
  0x80 ≤ b.toNat ∧ b.toNat ≤ 0xBF

theorem byte_eq_ofNat {b : UInt8} (h : b.toNat = n) : UInt8.ofNat n = b := by
  rw [← UInt8.toNat_inj, UInt8.toNat_ofNat', ← h]
  exact Nat.mod_eq_of_lt b.toNat_lt

theorem exists_byte (hn : n < 0x100) : ∃ b : UInt8, b.toNat = n :=
  ⟨UInt8.ofNat n, by rw [UInt8.toNat_ofNat']; exact Nat.mod_eq_of_lt hn⟩

theorem val_ofNat {n : Nat} (h : n.isValidChar) : (Char.ofNat n).val.toNat = n := by
  rw [Char.ofNat, dif_pos h]
  rfl

theorem utf8EncodeChar_one (h : b₀.toNat < 0x80) :
    String.utf8EncodeChar (Char.ofNat b₀.toNat) = [b₀] := by
  rw [String.utf8EncodeChar]
  rw [val_ofNat (by omega), if_pos (by omega), byte_eq_ofNat rfl]

theorem utf8EncodeChar_two (hLead : 0xC2 ≤ b₀.toNat ∧ b₀.toNat < 0xE0) (h₁ : IsTrail b₁)
    (hn : n = (b₀.toNat - 0xC0) * 0x40 + (b₁.toNat - 0x80)) :
    String.utf8EncodeChar (Char.ofNat n) = [b₀, b₁] := by
  unfold IsTrail at h₁
  rw [String.utf8EncodeChar]
  rw [val_ofNat (by omega), if_neg (by omega), if_pos (by omega), byte_eq_ofNat (b := b₀) (by omega),
    byte_eq_ofNat (b := b₁) (by omega)]

theorem utf8EncodeChar_three (hLead : 0xE0 ≤ b₀.toNat ∧ b₀.toNat < 0xF0) (h₁ : IsTrail b₁)
    (h₂ : IsTrail b₂)
    (hn : n = ((b₀.toNat - 0xE0) * 0x40 + (b₁.toNat - 0x80)) * 0x40 + (b₂.toNat - 0x80))
    (hLong : 0x800 ≤ n) (hValid : n.isValidChar) :
    String.utf8EncodeChar (Char.ofNat n) = [b₀, b₁, b₂] := by
  unfold IsTrail at h₁ h₂
  rw [String.utf8EncodeChar]
  rw [val_ofNat hValid, if_neg (by omega), if_neg (by omega), if_pos (by omega),
    byte_eq_ofNat (b := b₀) (by omega), byte_eq_ofNat (b := b₁) (by omega),
    byte_eq_ofNat (b := b₂) (by omega)]

theorem utf8EncodeChar_four (hLead : 0xF0 ≤ b₀.toNat) (h₁ : IsTrail b₁) (h₂ : IsTrail b₂)
    (h₃ : IsTrail b₃)
    (hn : n = (((b₀.toNat - 0xF0) * 0x40 + (b₁.toNat - 0x80)) * 0x40 + (b₂.toNat - 0x80)) * 0x40 +
      (b₃.toNat - 0x80))
    (hLong : 0x10000 ≤ n) (hLast : n < 0x110000) :
    String.utf8EncodeChar (Char.ofNat n) = [b₀, b₁, b₂, b₃] := by
  unfold IsTrail at h₁ h₂ h₃
  rw [String.utf8EncodeChar]
  rw [val_ofNat (by omega), if_neg (by omega), if_neg (by omega), if_neg (by omega),
    byte_eq_ofNat (b := b₀) (by omega), byte_eq_ofNat (b := b₁) (by omega),
    byte_eq_ofNat (b := b₂) (by omega), byte_eq_ofNat (b := b₃) (by omega)]

end Encode

-- ---------------------------------------------------------------------------
-- Pending characters
-- ---------------------------------------------------------------------------

namespace PartialChar

/-- The bytes are those that are owed, and turn the pending character into `c`. -/
inductive Completes (c : Char) : PartialChar → List UInt8 → Prop
  | last {start code low high : Nat} {b : UInt8} (hBounds : low ≤ b.toNat ∧ b.toNat ≤ high)
    (hc : c = Char.ofNat (code * 0x40 + (b.toNat - 0x80))) : Completes c ⟨start, code, 0, low, high⟩ [b]
  | more {start code owed low high : Nat} {b : UInt8} {bs : List UInt8}
    (hBounds : low ≤ b.toNat ∧ b.toNat ≤ high)
    (hRest : Completes c ⟨start, code * 0x40 + (b.toNat - 0x80), owed, 0x80, 0xBF⟩ bs) :
    Completes c ⟨start, code, owed + 1, low, high⟩ (b :: bs)

variable {start b : Nat}

theorem ofLead?_two (h : 0xC2 ≤ b ∧ b < 0xE0) :
    ofLead? start b = some ⟨start, b - 0xC0, 0, 0x80, 0xBF⟩ := by
  rw [ofLead?, if_neg (by omega), if_pos h.2]

/-- Of three bytes, the bounds on the second one keep out what has a shorter spelling, and
surrogates. -/
theorem exists_ofLead?_three (start : Nat) (h : 0xE0 ≤ b ∧ b < 0xF0) :
    ∃ low high, ofLead? start b = some ⟨start, b - 0xE0, 1, low, high⟩ ∧
      ∀ m, low ≤ m ∧ m ≤ high ↔ (0x80 ≤ m ∧ m ≤ 0xBF) ∧ 0x20 ≤ (b - 0xE0) * 0x40 + (m - 0x80) ∧
        ((b - 0xE0) * 0x40 + (m - 0x80) < 0x360 ∨ 0x380 ≤ (b - 0xE0) * 0x40 + (m - 0x80)) := by
  rw [ofLead?, if_neg (by omega), if_neg (by omega)]
  split
  · next hFirst => exact ⟨0xA0, 0xBF, by rw [hFirst], fun m => by omega⟩
  · split
    · next hSurrogate => exact ⟨0x80, 0x9F, by rw [hSurrogate], fun m => by omega⟩
    · rw [if_pos h.2]
      exact ⟨0x80, 0xBF, rfl, fun m => by omega⟩

/-- Of four bytes, they keep out what has a shorter spelling, and what comes after the last
character. -/
theorem exists_ofLead?_four (start : Nat) (h : 0xF0 ≤ b ∧ b ≤ 0xF4) :
    ∃ low high, ofLead? start b = some ⟨start, b - 0xF0, 2, low, high⟩ ∧
      ∀ m, low ≤ m ∧ m ≤ high ↔ (0x80 ≤ m ∧ m ≤ 0xBF) ∧ 0x10 ≤ (b - 0xF0) * 0x40 + (m - 0x80) ∧
        (b - 0xF0) * 0x40 + (m - 0x80) < 0x110 := by
  rw [ofLead?, if_neg (by omega), if_neg (by omega), if_neg (by omega), if_neg (by omega),
    if_neg (by omega)]
  split
  · next hFirst => exact ⟨0x90, 0xBF, by rw [hFirst], fun m => by omega⟩
  · split
    · exact ⟨0x80, 0xBF, rfl, fun m => by omega⟩
    · have hLast : b = 0xF4 := by omega
      rw [if_pos hLast]
      exact ⟨0x80, 0x8F, by rw [hLast], fun m => by omega⟩

theorem ofLead?_eq_none (h : b < 0xC2 ∨ 0xF4 < b) : ofLead? start b = none := by
  rw [ofLead?]
  rcases h with hLow | hHigh
  · rw [if_pos hLow]
  · rw [if_neg (by omega), if_neg (by omega), if_neg (by omega), if_neg (by omega),
      if_neg (by omega), if_neg (by omega), if_neg (by omega), if_neg (by omega)]

/-- What a first byte begins is the encoding of the character that it ends with. -/
theorem utf8EncodeChar_of_completes {b : UInt8} {p : PartialChar} {tail : List UInt8} {c : Char}
    (hLead : ofLead? start b.toNat = some p) (h : p.Completes c tail) :
    String.utf8EncodeChar c = b :: tail := by
  rcases Nat.lt_or_ge b.toNat 0xC2 with hLow | hLow
  · rw [ofLead?_eq_none (Or.inl hLow)] at hLead
    cases hLead
  rcases Nat.lt_or_ge b.toNat 0xE0 with hTwo | hTwo
  · rw [ofLead?_two ⟨hLow, hTwo⟩] at hLead
    cases hLead
    cases h with
    | last hBounds hc =>
      rw [hc]
      exact utf8EncodeChar_two ⟨hLow, hTwo⟩ hBounds rfl
  rcases Nat.lt_or_ge b.toNat 0xF0 with hThree | hThree
  · obtain ⟨low, high, hOf, hRange⟩ := exists_ofLead?_three start ⟨hTwo, hThree⟩
    rw [hOf] at hLead
    cases hLead
    cases h with
    | more hBounds hRest =>
      obtain ⟨hTrail, hLong, hValid⟩ := (hRange _).1 hBounds
      cases hRest with
      | last hLast hc =>
        rw [hc]
        exact utf8EncodeChar_three ⟨hTwo, hThree⟩ hTrail hLast rfl (by omega) (by omega)
  rcases Nat.lt_or_ge 0xF4 b.toNat with hHigh | hHigh
  · rw [ofLead?_eq_none (Or.inr hHigh)] at hLead
    cases hLead
  · obtain ⟨low, high, hOf, hRange⟩ := exists_ofLead?_four start ⟨hThree, hHigh⟩
    rw [hOf] at hLead
    cases hLead
    cases h with
    | more hBounds hRest =>
      obtain ⟨hTrail, hLong, hLast⟩ := (hRange _).1 hBounds
      cases hRest with
      | more hThird hRest =>
        cases hRest with
        | last hFourth hc =>
          rw [hc]
          exact utf8EncodeChar_four hThree hTrail hThird hFourth rfl (by omega) (by omega)

/-- Every character that is no byte by itself can be pending, and gets its bytes. -/
theorem exists_completes {c : Char} (h : 0x80 ≤ c.toNat) (start : Nat) :
    ∃ b : UInt8, ∃ tail p, 0x80 ≤ b.toNat ∧ ofLead? start b.toNat = some p ∧
      p.Completes c tail := by
  have hChar {n : Nat} (hn : n = c.toNat) : c = Char.ofNat n := by
    rw [hn, Char.ofNat_toNat]
  have hValid : c.toNat.isValidChar := c.valid
  obtain ⟨b₁, h₁⟩ := exists_byte (n := c.toNat % 0x40 + 0x80) (by omega)
  rcases Nat.lt_or_ge c.toNat 0x800 with hTwo | hTwo
  · obtain ⟨b₀, h₀⟩ := exists_byte (n := c.toNat / 0x40 + 0xC0) (by omega)
    exact ⟨b₀, [b₁], _, by omega, ofLead?_two (by omega), .last (by omega) (hChar (by omega))⟩
  obtain ⟨b₂, h₂⟩ := exists_byte (n := c.toNat / 0x40 % 0x40 + 0x80) (by omega)
  rcases Nat.lt_or_ge c.toNat 0x10000 with hThree | hThree
  · obtain ⟨b₀, h₀⟩ := exists_byte (n := c.toNat / 0x1000 + 0xE0) (by omega)
    obtain ⟨low, high, hOf, hRange⟩ := exists_ofLead?_three start (b := b₀.toNat) (by omega)
    exact ⟨b₀, [b₂, b₁], _, by omega, hOf,
      .more ((hRange _).2 (by omega)) (.last (by omega) (hChar (by omega)))⟩
  · obtain ⟨b₃, h₃⟩ := exists_byte (n := c.toNat / 0x1000 % 0x40 + 0x80) (by omega)
    obtain ⟨b₀, h₀⟩ := exists_byte (n := c.toNat / 0x40000 + 0xF0) (by omega)
    obtain ⟨low, high, hOf, hRange⟩ := exists_ofLead?_four start (b := b₀.toNat) (by omega)
    exact ⟨b₀, [b₃, b₂, b₁], _, by omega, hOf,
      .more ((hRange _).2 (by omega)) (.more (by omega) (.last (by omega) (hChar (by omega))))⟩

end PartialChar

-- ---------------------------------------------------------------------------
-- Decoding
-- ---------------------------------------------------------------------------

/-- Inside a character, the bytes that are owed are read, and decoding goes on after them. -/
theorem decodeFrom_of_completes {p : PartialChar} {c : Char} {tail : List UInt8}
    (h : p.Completes c tail) (index : Nat) (bytes : List UInt8) :
    decodeFrom index (some p) (tail ++ bytes) =
      (c :: ·) <$> decodeFrom (index + tail.length) none bytes := by
  induction h generalizing index with
  | last hBounds hc =>
    rw [List.singleton_append, decodeFrom, if_pos hBounds, hc]
    rfl
  | more hBounds _ ih =>
    rw [List.cons_append, decodeFrom, if_pos hBounds]
    dsimp only
    rw [ih, List.length_cons, Nat.add_assoc, Nat.add_comm 1]

/-- Bytes that are decoded inside a character begin with those that are owed. -/
theorem exists_completes_of_decodeFrom {index : Nat} {p : PartialChar} {bytes : List UInt8}
    {cs : List Char} (h : decodeFrom index (some p) bytes = .ok cs) :
    ∃ c tail rest cs', p.Completes c tail ∧ bytes = tail ++ rest ∧ cs = c :: cs' ∧
      decodeFrom (index + tail.length) none rest = .ok cs' := by
  induction bytes generalizing index p with
  | nil => cases h
  | cons b bytes ih =>
    obtain ⟨start, code, owed, low, high⟩ := p
    rw [decodeFrom] at h
    split at h
    · next hBounds =>
      cases owed with
      | zero =>
        obtain ⟨cs', hRest, rfl⟩ := map_eq_ok_iff.1 h
        exact ⟨_, [b], bytes, cs', .last hBounds rfl, rfl, rfl, hRest⟩
      | succ owed =>
        obtain ⟨c, tail, rest, cs', hTail, rfl, rfl, hRest⟩ := ih h
        refine ⟨c, b :: tail, rest, cs', .more hBounds hTail, rfl, rfl, ?_⟩
        rwa [List.length_cons, Nat.add_comm tail.length, ← Nat.add_assoc]
    · cases h

theorem decodeFrom_ascii {b : UInt8} (hb : b.toNat < 0x80) (index : Nat) (bytes : List UInt8) :
    decodeFrom index none (b :: bytes) =
      (Char.ofNat b.toNat :: ·) <$> decodeFrom (index + 1) none bytes := by
  rw [decodeFrom, if_pos hb]

/-- The encoding of characters is decoded. -/
theorem decodeFrom_flatMap_utf8EncodeChar (index : Nat) (cs : List Char) :
    decodeFrom index none (cs.flatMap String.utf8EncodeChar) = .ok cs := by
  induction cs generalizing index with
  | nil => rfl
  | cons c cs ih =>
    rw [List.flatMap_cons]
    rcases Nat.lt_or_ge c.toNat 0x80 with hAscii | hLong
    · obtain ⟨b, hb⟩ := exists_byte (n := c.toNat) (by omega)
      have hChar : c = Char.ofNat b.toNat := by rw [hb, Char.ofNat_toNat]
      rw [hChar, utf8EncodeChar_one (by omega), List.singleton_append,
        decodeFrom_ascii (by omega), ih]
      rfl
    · obtain ⟨b, tail, p, hb, hLead, hTail⟩ := PartialChar.exists_completes hLong index
      rw [PartialChar.utf8EncodeChar_of_completes hLead hTail, List.cons_append, decodeFrom,
        if_neg (by omega), hLead]
      dsimp only
      rw [decodeFrom_of_completes hTail, ih]
      rfl

/-- What is decoded is the encoding of the result. -/
theorem eq_flatMap_of_decodeFrom {index : Nat} {bytes : List UInt8} {cs : List Char}
    (h : decodeFrom index none bytes = .ok cs) : bytes = cs.flatMap String.utf8EncodeChar := by
  -- by recursion on the length, as a character takes several bytes at once
  match bytes with
  | [] =>
    cases h
    rfl
  | b :: bytes =>
    rcases Nat.lt_or_ge b.toNat 0x80 with hAscii | hLong
    · rw [decodeFrom_ascii hAscii, map_eq_ok_iff] at h
      obtain ⟨cs', hRest, rfl⟩ := h
      rw [List.flatMap_cons, utf8EncodeChar_one hAscii, ← eq_flatMap_of_decodeFrom hRest,
        List.singleton_append]
    · rw [decodeFrom, if_neg (by omega)] at h
      cases hLead : PartialChar.ofLead? index b.toNat with
      | none =>
        rw [hLead] at h
        cases h
      | some p =>
        rw [hLead] at h
        obtain ⟨c, tail, rest, cs', hTail, hBytes, rfl, hRest⟩ := exists_completes_of_decodeFrom h
        have hShorter : rest.length ≤ bytes.length := by
          rw [hBytes, List.length_append]
          exact Nat.le_add_left _ _
        rw [List.flatMap_cons, PartialChar.utf8EncodeChar_of_completes hLead hTail,
          ← eq_flatMap_of_decodeFrom hRest, List.cons_append, hBytes]
termination_by bytes.length
decreasing_by
  · exact Nat.lt_succ_self _
  · exact Nat.lt_succ_of_le hShorter

/-- **The decoder accepts exactly the encodings of texts**, each with its text. -/
theorem decodeUtf8_eq_ok_iff {bytes : List UInt8} {text : String} :
    decodeUtf8 bytes = .ok text ↔ bytes = encodeUtf8 text := by
  rw [decodeUtf8, map_eq_ok_iff, encodeUtf8_eq_flatMap]
  constructor
  · rintro ⟨cs, hDecode, rfl⟩
    rw [String.toList_ofList]
    exact eq_flatMap_of_decodeFrom hDecode
  · rintro rfl
    exact ⟨_, decodeFrom_flatMap_utf8EncodeChar 0 _, String.ofList_toList⟩

theorem encodeUtf8_injective {s t : String} (h : encodeUtf8 s = encodeUtf8 t) : s = t := by
  have hs : decodeUtf8 (encodeUtf8 s) = .ok s := decodeUtf8_eq_ok_iff.2 rfl
  rw [h, decodeUtf8_eq_ok_iff.2 rfl] at hs
  cases hs
  rfl

end Connectives.Text
