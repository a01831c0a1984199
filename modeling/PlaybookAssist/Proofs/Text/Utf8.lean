import PlaybookAssist.Text.Surrogate

/-!
# Reading what was written

The octets of a text are cut into exactly the characters of the text, so decoding gives the text
back. A path without unpaired surrogates is written as any other text.

## Main statements

- `Utf8.piecesFrom_encodeChar` : the octets of a character are cut off as that character
- `Utf8.decode_encode`, `Utf8.decodeReplacing_encode` : decoding undoes encoding
- `Utf8.encodePath_eq` : the octets of a path without surrogates
-/

namespace PlaybookAssist.Utf8

variable {n low high : Nat} {bits k : Nat} {seen rest : Octets} {t : Text}

/-! ## Octets -/

theorem toNat_octet (h : n < 256) : (UInt8.ofNat n).toNat = n :=
  UInt8.toNat_ofNat_of_lt' h

theorem octet_le_octet (hlow : low < 256) (hn : n < 256) :
    UInt8.ofNat low ≤ UInt8.ofNat n ↔ low ≤ n := by
  rw [UInt8.le_iff_toNat_le, toNat_octet hlow, toNat_octet hn]

/-- The last octet of a character. -/
theorem piecesFrom_last (hlow : low ≤ n) (hhigh : n ≤ high) (hmax : high < 256) :
    piecesFrom (some ⟨seen, 0, UInt8.ofNat low, UInt8.ofNat high, bits⟩) (UInt8.ofNat n :: rest) =
      .char (Char.ofNat (64 * bits + (n - 0x80))) :: piecesFrom none rest := by
  have hn : n < 256 := by omega
  have hle : UInt8.ofNat low ≤ UInt8.ofNat n := (octet_le_octet (by omega) hn).mpr hlow
  have hge : UInt8.ofNat n ≤ UInt8.ofNat high := (octet_le_octet hn hmax).mpr hhigh
  rw [piecesFrom, if_pos ⟨hle, hge⟩, toNat_octet hn]

/-- An octet of a character that another one follows. -/
theorem piecesFrom_later (hlow : low ≤ n) (hhigh : n ≤ high) (hmax : high < 256) :
    piecesFrom (some ⟨seen, k + 1, UInt8.ofNat low, UInt8.ofNat high, bits⟩)
        (UInt8.ofNat n :: rest) =
      piecesFrom (some ⟨UInt8.ofNat n :: seen, k, 0x80, 0xbf, 64 * bits + (n - 0x80)⟩) rest := by
  have hn : n < 256 := by omega
  have hle : UInt8.ofNat low ≤ UInt8.ofNat n := (octet_le_octet (by omega) hn).mpr hlow
  have hge : UInt8.ofNat n ≤ UInt8.ofNat high := (octet_le_octet hn hmax).mpr hhigh
  rw [piecesFrom, if_pos ⟨hle, hge⟩, toNat_octet hn]

/-- An octet that is a character of its own. -/
theorem piecesFrom_whole (h : n < 0x80) :
    piecesFrom none (UInt8.ofNat n :: rest) = .char (Char.ofNat n) :: piecesFrom none rest := by
  have hn : (UInt8.ofNat n).toNat = n := toNat_octet (by omega)
  have hstart : start (UInt8.ofNat n) = .whole (Char.ofNat n) := by
    simp only [start, hn, if_pos h]
  rw [piecesFrom, hstart]

/-- The first of two octets. -/
theorem piecesFrom_two (hlow : 0xc2 ≤ n) (hhigh : n < 0xe0) :
    piecesFrom none (UInt8.ofNat n :: rest) =
      piecesFrom
        (some ⟨[UInt8.ofNat n], 0, UInt8.ofNat 0x80, UInt8.ofNat 0xbf, n - 0xc0⟩) rest := by
  have hn : (UInt8.ofNat n).toNat = n := toNat_octet (by omega)
  have hstart : start (UInt8.ofNat n) =
      .first ⟨[UInt8.ofNat n], 0, UInt8.ofNat 0x80, UInt8.ofNat 0xbf, n - 0xc0⟩ := by
    simp only [start, hn]
    rw [if_neg (by omega), if_neg (by omega), if_pos hhigh]
    rfl
  rw [piecesFrom, hstart]

/-- The first of three octets. The bounds of the second keep out overlong forms and surrogates. -/
theorem piecesFrom_three (hlow : 0xe0 ≤ n) (hhigh : n < 0xf0) :
    piecesFrom none (UInt8.ofNat n :: rest) =
      piecesFrom (some ⟨[UInt8.ofNat n], 1, UInt8.ofNat (if n = 0xe0 then 0xa0 else 0x80),
        UInt8.ofNat (if n = 0xed then 0x9f else 0xbf), n - 0xe0⟩) rest := by
  have hn : (UInt8.ofNat n).toNat = n := toNat_octet (by omega)
  have hstart : start (UInt8.ofNat n) =
      .first ⟨[UInt8.ofNat n], 1, UInt8.ofNat (if n = 0xe0 then 0xa0 else 0x80),
        UInt8.ofNat (if n = 0xed then 0x9f else 0xbf), n - 0xe0⟩ := by
    simp only [start, hn]
    rw [if_neg (by omega), if_neg (by omega), if_neg (by omega)]
    -- Two octets have bounds of their own for the next one.
    by_cases he0 : n = 0xe0
    · subst he0
      rfl
    by_cases hed : n = 0xed
    · subst hed
      rfl
    rw [if_neg he0, if_neg hed, if_pos hhigh, if_neg he0, if_neg hed]
    rfl
  rw [piecesFrom, hstart]

/-- The first of four octets. The bounds of the second keep out overlong forms and what lies beyond
    the last code point. -/
theorem piecesFrom_four (hlow : 0xf0 ≤ n) (hhigh : n ≤ 0xf4) :
    piecesFrom none (UInt8.ofNat n :: rest) =
      piecesFrom (some ⟨[UInt8.ofNat n], 2, UInt8.ofNat (if n = 0xf0 then 0x90 else 0x80),
        UInt8.ofNat (if n = 0xf4 then 0x8f else 0xbf), n - 0xf0⟩) rest := by
  have hn : (UInt8.ofNat n).toNat = n := toNat_octet (by omega)
  have hstart : start (UInt8.ofNat n) =
      .first ⟨[UInt8.ofNat n], 2, UInt8.ofNat (if n = 0xf0 then 0x90 else 0x80),
        UInt8.ofNat (if n = 0xf4 then 0x8f else 0xbf), n - 0xf0⟩ := by
    simp only [start, hn]
    rw [if_neg (by omega), if_neg (by omega), if_neg (by omega), if_neg (by omega),
      if_neg (by omega), if_neg (by omega)]
    -- Here the two octets at the ends have bounds of their own.
    by_cases hf0 : n = 0xf0
    · subst hf0
      rfl
    by_cases hf4 : n = 0xf4
    · subst hf4
      rfl
    rw [if_neg hf0, if_pos (by omega), if_neg hf0, if_neg hf4]
    rfl
  rw [piecesFrom, hstart]

/-! ## Characters -/

/-- The octets of a character are cut off as that character. -/
theorem piecesFrom_encodeChar (c : Char) (rest : Octets) :
    piecesFrom none (String.utf8EncodeChar c ++ rest) = .char c :: piecesFrom none rest := by
  have hvalid : c.toNat < 0xd800 ∨ 0xdfff < c.toNat ∧ c.toNat < 0x110000 := c.valid
  have hchar : Char.ofNat c.toNat = c := Char.ofNat_toNat c
  have hval : c.val.toNat = c.toNat := rfl
  simp only [String.utf8EncodeChar, hval]
  generalize c.toNat = v at *
  have h80 : (0x80 : UInt8) = UInt8.ofNat 0x80 := rfl
  have hbf : (0xbf : UInt8) = UInt8.ofNat 0xbf := rfl
  -- In every case the bits of the octets, put together again, are the code point.
  split
  case isTrue h₁ =>
    rw [List.cons_append, piecesFrom_whole (by omega), hchar, List.nil_append]
  split
  case isTrue h₂ =>
    have hbits : 64 * (v / 64 % 32 + 192 - 0xc0) + (v % 64 + 128 - 0x80) = v := by omega
    rw [List.cons_append, piecesFrom_two (by omega) (by omega), List.cons_append,
      piecesFrom_last (by omega) (by omega) (by omega), hbits, hchar, List.nil_append]
  split
  case isTrue h₃ =>
    have hbits : 64 * (64 * (v / 4096 % 16 + 224 - 0xe0) + (v / 64 % 64 + 128 - 0x80))
        + (v % 64 + 128 - 0x80) = v := by omega
    rw [List.cons_append, piecesFrom_three (by omega) (by omega), List.cons_append,
      piecesFrom_later (by split <;> omega) (by split <;> omega) (by split <;> omega),
      List.cons_append, h80, hbf, piecesFrom_last (by omega) (by omega) (by omega), hbits, hchar,
      List.nil_append]
  case isFalse h₃ =>
    have hbits : 64 * (64 * (64 * (v / 262144 % 8 + 240 - 0xf0) + (v / 4096 % 64 + 128 - 0x80))
        + (v / 64 % 64 + 128 - 0x80)) + (v % 64 + 128 - 0x80) = v := by omega
    rw [List.cons_append, piecesFrom_four (by omega) (by omega), List.cons_append,
      piecesFrom_later (by split <;> omega) (by split <;> omega) (by split <;> omega),
      List.cons_append, h80, hbf, piecesFrom_later (by omega) (by omega) (by omega),
      List.cons_append, h80, hbf, piecesFrom_last (by omega) (by omega) (by omega), hbits, hchar,
      List.nil_append]

/-! ## Texts -/

/-- The pieces of the octets of a text are its characters. -/
theorem pieces_encode (t : Text) : pieces (encode t) = t.map .char := by
  unfold pieces encode
  induction t with
  | nil => rfl
  | cons c t ih => rw [List.flatMap_cons, piecesFrom_encodeChar, ih, List.map_cons]

theorem textOfPieces_map_char (position : Nat) (t : Text) :
    textOfPieces position (t.map .char) = .ok t := by
  induction t generalizing position with
  | nil => rfl
  | cons c t ih => rw [List.map_cons, textOfPieces, ih]; rfl

/-- Decoding undoes encoding. -/
theorem decode_encode (t : Text) : decode (encode t) = .ok t := by
  rw [decode, pieces_encode, textOfPieces_map_char]

/-- Nothing is replaced in what was encoded. -/
theorem decodeReplacing_encode (t : Text) : decodeReplacing (encode t) = t := by
  rw [decodeReplacing, pieces_encode, List.map_map]
  exact List.map_id t

/-- ASCII characters are octets of their own. -/
theorem encode_of_ascii (h : ∀ c ∈ t, c.toNat < 0x80) :
    encode t = t.map fun c => UInt8.ofNat c.toNat := by
  induction t with
  | nil => rfl
  | cons c t ih =>
    rw [List.forall_mem_cons] at h
    have hc : String.utf8EncodeChar c = [UInt8.ofNat c.toNat] := by
      rw [String.utf8EncodeChar]
      exact if_pos (by have := h.1; simp only [Char.toNat] at this; omega)
    rw [encode, List.flatMap_cons, hc, List.map_cons, ← ih h.2]
    rfl

/-- Each piece takes up an octet at least. -/
theorem length_piecesFrom_le (u : Option Unfinished) (bs : Octets) :
    (piecesFrom u bs).length ≤ u.toList.length + bs.length := by
  -- Induction over the octets; each adds at most one piece, and what is unfinished one more.
  induction bs generalizing u with
  | nil => cases u <;> simp [piecesFrom]
  | cons b bs ih =>
    have hnone := ih none
    have hsome : ∀ v, (piecesFrom (some v) bs).length ≤ bs.length + 1 := fun v => by
      simpa [Nat.add_comm] using ih (some v)
    simp only [Option.toList_none, List.length_nil, Nat.zero_add] at hnone
    cases u with
    | none =>
      rw [piecesFrom]
      split
      case h_2 v _ => simpa using hsome v
      all_goals
        simp only [List.length_cons, Option.toList_none, List.length_nil]
        omega
    | some u =>
      simp only [piecesFrom, Option.toList_some, List.length_cons, List.length_nil]
      split
      case isTrue =>
        split
        case h_1 =>
          rw [List.length_cons]
          omega
        case h_2 => exact Nat.le_trans (hsome _) (by omega)
      case isFalse =>
        rw [List.length_cons]
        split
        case h_2 v _ =>
          have hv := hsome v
          omega
        all_goals
          rw [List.length_cons]
          omega

theorem length_decodeReplacing_le (bs : Octets) : (decodeReplacing bs).length ≤ bs.length := by
  rw [decodeReplacing, List.length_map, pieces]
  simpa using length_piecesFrom_le none bs

theorem encode_append (t u : Text) : encode (t ++ u) = encode t ++ encode u :=
  List.flatMap_append

/-! ## Paths -/

/-- There is no run exactly if none is open and no unpaired surrogate follows. -/
theorem runsFrom_eq_nil_iff (position : Nat) (codes : List Nat) :
    Surrogate.runsFrom position codes t = [] ↔
      codes = [] ∧ ∀ c ∈ t, Surrogate.code? c = none := by
  induction t generalizing position codes with
  | nil => cases codes <;> simp [Surrogate.runsFrom]
  | cons c t ih =>
    rw [Surrogate.runsFrom, List.forall_mem_cons]
    cases Surrogate.code? c with
    | some n => simp [ih]
    | none => cases codes <;> simp [ih]

theorem runs_eq_nil_iff : Surrogate.runs t = [] ↔ ∀ c ∈ t, Surrogate.code? c = none := by
  rw [Surrogate.runs, runsFrom_eq_nil_iff, and_iff_right rfl]

/-- A path without unpaired surrogates is written as any other text. -/
theorem encodePath_eq (h : ∀ c ∈ t, Surrogate.code? c = none) :
    encodePath t = .ok (encode t) := by
  rw [encodePath, runs_eq_nil_iff.mpr h]
  refine congrArg Except.ok ?_
  rw [encode]
  induction t with
  | nil => rfl
  | cons c t ih =>
    rw [List.forall_mem_cons] at h
    rw [List.flatMap_cons, List.flatMap_cons, ih h.2, h.1]
    rfl

end PlaybookAssist.Utf8
