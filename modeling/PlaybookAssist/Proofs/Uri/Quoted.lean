import PlaybookAssist.Path
import PlaybookAssist.Proofs.Text.Laws
import PlaybookAssist.Proofs.Text.Utf8
import PlaybookAssist.Uri

/-!
# Paths as URIs

A path is written into a URI octet by octet. What is written is ASCII and holds none of the
characters at which a URI is taken apart, so it comes out in one piece, and reading the escapes gives
the octets back.

## Main definitions

- `Uri.IsWritten` : the characters that a path is written with

## Main statements

- `Uri.unquote_quote` : reading escapes undoes writing them
- `Uri.toPath_ofPath` : the URI of an absolute path names that path
-/

namespace PlaybookAssist

/-! ## Hexadecimal digits -/

namespace Text

/-- An octet has two digits. -/
theorem hex_octet {n : Nat} (h : n < 256) :
    hex 2 n = [Nat.digitChar (n / 16), Nat.digitChar (n % 16)] := by
  by_cases hn : n < 16
  · have hdigits : Nat.toDigits 16 n = [Nat.digitChar n] := Nat.toDigits_of_lt_base hn
    rw [hex, hdigits, Nat.div_eq_of_lt hn, Nat.mod_eq_of_lt hn]
    rfl
  · have hhigh : Nat.toDigits 16 (n / 16) = [Nat.digitChar (n / 16)] :=
      Nat.toDigits_of_lt_base (by omega)
    have hdigits : Nat.toDigits 16 n = [Nat.digitChar (n / 16), Nat.digitChar (n % 16)] := by
      rw [Nat.toDigits_of_base_le (by omega) (by omega), hhigh]
      rfl
    rw [hex, hdigits]
    rfl

/-- The value of a digit, written as a capital. -/
theorem hexValue?_toUpper_digitChar {k : Nat} (h : k < 16) :
    hexValue? (Nat.digitChar k).toUpper = some k := by
  revert k
  decide

end Text

namespace Uri

variable {c : Char} {t : Text}

/-! ## What is written -/

/-- A path is written with characters that stand for themselves, and with percent signs. -/
def IsWritten (c : Char) : Prop :=
  isUnescaped c = true ∨ c = '%'

theorem toNat_of_isAlphanum (h : c.isAlphanum = true) : 0x20 < c.toNat ∧ c.toNat < 0x80 := by
  unfold Char.isAlphanum Char.isAlpha Char.isUpper Char.isLower Char.isDigit at h
  simp only [Bool.or_eq_true, Bool.and_eq_true, decide_eq_true_eq, ge_iff_le,
    UInt32.le_iff_toNat_le] at h
  -- Capitals, small letters and digits come in one block each.
  change (0x41 ≤ c.toNat ∧ c.toNat ≤ 0x5a ∨ 0x61 ≤ c.toNat ∧ c.toNat ≤ 0x7a) ∨
    0x30 ≤ c.toNat ∧ c.toNat ≤ 0x39 at h
  omega

/-- What is written is ASCII, and no blank or control character. -/
theorem IsWritten.toNat (h : IsWritten c) : 0x20 < c.toNat ∧ c.toNat < 0x80 := by
  rcases h with h | rfl
  case inr => decide
  simp only [isUnescaped, Bool.or_eq_true, decide_eq_true_eq, or_assoc] at h
  rcases h with h | rfl | rfl | rfl | rfl | rfl
  case inl => exact toNat_of_isAlphanum h
  all_goals decide

/-- A URI is taken apart at none of these characters. -/
theorem IsWritten.ne (h : IsWritten c) : c ≠ '?' ∧ c ≠ '#' := by
  constructor
  all_goals
    rintro rfl
    rcases h with h | h <;> cases h

/-- An octet is written as itself, or as a percent sign and two digits. -/
theorem escapeOctet_cases (b : UInt8) :
    isUnescaped (Char.ofNat b.toNat) = true ∧ escapeOctet b = [Char.ofNat b.toNat] ∨
      escapeOctet b =
        ['%', (Nat.digitChar (b.toNat / 16)).toUpper, (Nat.digitChar (b.toNat % 16)).toUpper] := by
  simp only [escapeOctet]
  split
  case isTrue hself => exact .inl ⟨hself, rfl⟩
  case isFalse =>
    rw [Text.hex_octet b.toNat_lt]
    exact .inr rfl

theorem isWritten_of_mem_escapeOctet {b : UInt8} (h : c ∈ escapeOctet b) : IsWritten c := by
  have hdigit : ∀ k < 16, isUnescaped (Nat.digitChar k).toUpper = true := by decide
  have hb : b.toNat < 256 := b.toNat_lt
  rcases escapeOctet_cases b with ⟨hself, hb⟩ | hb
  · rw [hb, List.mem_singleton] at h
    exact .inl (h ▸ hself)
  · simp only [hb, List.mem_cons, List.not_mem_nil, or_false] at h
    rcases h with rfl | rfl | rfl
    · exact .inr rfl
    · exact .inl (hdigit _ (by omega))
    · exact .inl (hdigit _ (by omega))

theorem isWritten_of_mem_quote (h : c ∈ quote t) : IsWritten c := by
  obtain ⟨b, -, hc⟩ := List.mem_flatMap.mp h
  exact isWritten_of_mem_escapeOctet hc

/-! ## Reading what is written -/

theorem unescape_cons (h : c ≠ '%') (t : Text) :
    unescape (c :: t) = UInt8.ofNat c.toNat :: unescape t := by
  rw [unescape]
  rintro a b rest rfl
  exact absurd rfl h

/-- An octet is read from the characters that it is written with. -/
theorem unescape_escapeOctet (b : UInt8) (t : Text) :
    unescape (escapeOctet b ++ t) = b :: unescape t := by
  have hoctet : b.toNat < 256 := b.toNat_lt
  -- An octet stands for itself, or it is written in two hexadecimal digits.
  rcases escapeOctet_cases b with ⟨hself, hb⟩ | hb
  · have hchar : (Char.ofNat b.toNat).toNat = b.toNat := by
      rw [Char.ofNat, dif_pos (.inl (by omega))]
      rfl
    have hne : Char.ofNat b.toNat ≠ '%' := by
      intro heq
      rw [heq] at hself
      cases hself
    rw [hb, List.singleton_append, unescape_cons hne, hchar, UInt8.ofNat_toNat]
  -- The digits give the octet back.
  · have hvalue : 16 * (b.toNat / 16) + b.toNat % 16 = b.toNat := Nat.div_add_mod _ _
    have hhigh := Text.hexValue?_toUpper_digitChar (k := b.toNat / 16) (by omega)
    have hlow := Text.hexValue?_toUpper_digitChar (k := b.toNat % 16) (by omega)
    simp only [hb, List.cons_append, List.nil_append]
    rw [unescape, hhigh, hlow]
    dsimp only
    rw [hvalue, UInt8.ofNat_toNat]

theorem unescape_flatMap (bs : Octets) : unescape (bs.flatMap escapeOctet) = bs := by
  induction bs with
  | nil => rfl
  | cons b bs ih => rw [List.flatMap_cons, unescape_escapeOctet, ih]

/-- ASCII text is one run. -/
theorem unquoteFrom_of_ascii (h : ∀ c ∈ t, c.toNat < 0x80) (run : Text) :
    unquoteFrom run t = Utf8.decodeReplacing (unescape (run.reverse ++ t)) := by
  induction t generalizing run with
  | nil => rw [unquoteFrom, List.append_nil]
  | cons c t ih =>
    rw [List.forall_mem_cons] at h
    rw [unquoteFrom, if_pos h.1, ih h.2, List.reverse_cons, List.append_assoc]
    rfl

/-- Reading the escapes of a text undoes writing them. -/
theorem unquote_quote (t : Text) : unquote (quote t) = t := by
  have hascii : ∀ c ∈ quote t, c.toNat < 0x80 := fun c hc => (isWritten_of_mem_quote hc).toNat.2
  rw [unquote, unquoteFrom_of_ascii hascii, List.reverse_nil, List.nil_append, quote,
    unescape_flatMap, Utf8.decodeReplacing_encode]

/-! ## Taking the URI apart -/

/-- In a URI of written characters there is nothing to be cleaned away. -/
theorem cleaned_ofPath (p : Text) : cleaned (ofPath p) = ofPath p := by
  have hfront : (ofPath p).dropWhile (fun c => c.toNat ≤ 0x20) = ofPath p := rfl
  have hscheme : "file://".toList.all (fun c => 0x20 < c.toNat) = true := rfl
  rw [cleaned, hfront, List.filter_eq_self]
  intro c hc
  -- Tabs and line ends are below the characters that are written.
  have hlow : 0x20 < c.toNat := by
    rcases List.mem_append.mp hc with hc | hc
    · exact of_decide_eq_true (List.all_eq_true.mp hscheme c hc)
    · exact (isWritten_of_mem_quote hc).toNat.1
  simp only [Bool.and_eq_true, decide_eq_true_eq]
  refine ⟨⟨?_, ?_⟩, ?_⟩
  all_goals
    rintro rfl
    exact absurd hlow (by decide)

/-- Behind the scheme of an absolute path comes an empty host, and then nothing but the path. -/
theorem toPath_ofPath {p : Text} (h : Path.isAbsolute p = true) : toPath (ofPath p) = .ok p := by
  obtain ⟨q, rfl⟩ : ∃ q, p = '/' :: q := by
    cases p with
    | nil => cases h
    | cons c q => exact ⟨q, congrArg (· :: q) (by simpa [Path.isAbsolute] using h)⟩
  have hquote : quote ('/' :: q) = '/' :: quote q := rfl
  have hscheme : splitScheme (ofPath ('/' :: q)) =
      ("file".toList, "//".toList ++ quote ('/' :: q)) := rfl
  -- The slash of the path stands for itself, so the host ends before it begins.
  have hhost : splitHost ("//".toList ++ '/' :: quote q) = ([], '/' :: quote q) := rfl
  rw [← hquote] at hhost
  -- A quoted path has none of the marks that end it.
  have hfragment : Text.cut '#' (quote ('/' :: q)) = (quote ('/' :: q), none) :=
    Text.cut_of_not_mem fun hmem => (isWritten_of_mem_quote hmem).ne.2 rfl
  have hquery : Text.cut '?' (quote ('/' :: q)) = (quote ('/' :: q), none) :=
    Text.cut_of_not_mem fun hmem => (isWritten_of_mem_quote hmem).ne.1 rfl
  have hnoFault : checkHost [] = none := rfl
  have hparameters : schemesWithParameters.elem "file".toList = false := by decide
  rw [toPath, cleaned_ofPath, hscheme]
  simp only [hhost, hnoFault, hfragment, hquery, hparameters, Bool.false_eq_true, if_false,
    unquote_quote]

end Uri

end PlaybookAssist
