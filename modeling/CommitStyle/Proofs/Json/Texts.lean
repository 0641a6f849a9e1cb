import CommitStyle.Json.Reader
import CommitStyle.Json.Writer
import CommitStyle.Proofs.Success
import Mathlib.Data.List.Chain
import Mathlib.Data.Nat.ModEq

/-! A text that was written is read back, whatever characters it holds. One escape, or
one character that needs none, is read as the character that it was written for;
what stands behind it is left open, so that the texts follow by induction. Only half of a
surrogate pair looks at what follows, so no text may hold two halves that pair. -/

namespace CommitStyle

namespace Text

/-! ## Hexadecimal digits -/

theorem length_hexDigits (n width : Nat) : (hexDigits n width).length = width := by
  induction width generalizing n with
  | zero => rfl
  | succ width ih => rw [hexDigits, List.length_append, ih, List.length_singleton]

theorem hexValue?_hexDigit {n : Nat} (h : n < 16) : hexValue? (hexDigit n) = some n :=
  (by decide : ∀ n < 16, hexValue? (hexDigit n) = some n) n h

theorem ofHex?_hexDigits (n width : Nat) : ofHex? (hexDigits n width) = some (n % 16 ^ width) := by
  induction width generalizing n with
  | zero => simp [hexDigits, ofHex?, Nat.mod_one]
  | succ width ih =>
    rw [hexDigits, ofHex?, List.foldl_append]
    show (do
      return (← ofHex? (hexDigits (n / 16) width)) * 16 + (← hexValue? (hexDigit (n % 16)))) = _
    rw [ih, hexValue?_hexDigit (Nat.mod_lt n (by decide)), Nat.pow_succ', Nat.mod_mul]
    simp [Nat.add_comm, Nat.mul_comm]

end Text

namespace Json

/-! ## Escapes -/

/-- Characters that belong to an escape are passed over. -/
theorem readTextFrom_skip (start offset : Nat) {skip : Nat} {s : List Char}
    (h : skip ≤ s.length) :
    readTextFrom start offset skip s = readTextFrom start (offset + skip) 0 (s.drop skip) := by
  induction skip generalizing offset s with
  | zero => rfl
  | succ skip ih =>
    cases s with
    | nil => simp at h
    | cons c rest =>
      rw [readTextFrom, ih (offset + 1) (by simpa using h), List.drop_succ_cons]
      congr 1
      omega

/-- Puts a code point in front of a text that is read. -/
def consPoint (point : CodePoint) (read : Except Stop (List CodePoint × Cursor)) :
    Except Stop (List CodePoint × Cursor) :=
  read.map fun found => (point :: found.1, found.2)

theorem codeUnit?_hexDigits {n : Nat} (h : n < 0x10000) {rest : List Char} (hrest : rest ≠ []) :
    codeUnit? (Text.hexDigits n 4 ++ rest) = some n := by
  have hlength := Text.length_hexDigits n 4
  have htake : (Text.hexDigits n 4 ++ rest).take 4 = Text.hexDigits n 4 := by
    rw [List.take_append_of_le_length (by omega), List.take_of_length_le (by omega)]
  have hdrop : (Text.hexDigits n 4 ++ rest).drop 4 = rest := by
    rw [List.drop_append_of_le_length (by omega), List.drop_of_length_le (by omega),
      List.nil_append]
  rw [codeUnit?, hdrop, htake, Text.ofHex?_hexDigits, if_neg (by simpa using hrest)]
  simp
  omega

theorem toNat_valid (c : Char) : c.toNat < 0xD800 ∨ (0xDFFF < c.toNat ∧ c.toNat < 0x110000) :=
  c.valid

theorem unitPoint_toNat (c : Char) : unitPoint c.toNat = .char c := by
  have hvalid := toNat_valid c
  rw [unitPoint, if_neg, Char.ofNat_toNat]
  simp
  omega

/-- Only the first half of a pair looks at what follows. -/
theorem unicodeEscape_single {n : Nat} {s : List Char} (offset : Nat)
    (hn : codeUnit? s = some n) (h : isHighSurrogate n = false) :
    unicodeEscape offset s = .ok (unitPoint n, 4) := by
  unfold unicodeEscape
  rw [hn]
  dsimp only
  split
  · rw [h, Bool.false_and, if_neg (by simp)]
  · rfl

theorem drop_hexDigits (n : Nat) (rest : List Char) :
    (Text.hexDigits n 4 ++ rest).drop 4 = rest :=
  List.drop_left' (Text.length_hexDigits n 4)

/-- Both halves of a pair are read as one. -/
theorem unicodeEscape_pair {high low : Nat} (offset : Nat) {rest : List Char} (hrest : rest ≠ [])
    (hhigh : isHighSurrogate high = true) (hlow : isLowSurrogate low = true) :
    unicodeEscape offset (Text.hexDigits high 4 ++ escapeUnit low ++ rest) =
      .ok (.char (Char.ofNat (0x10000 + (high - 0xD800) * 0x400 + (low - 0xDC00))), 10) := by
  have hbounds : high < 0x10000 ∧ low < 0x10000 := by
    simp only [isHighSurrogate, isLowSurrogate, Bool.and_eq_true, decide_eq_true_eq] at hhigh hlow
    omega
  have hempty : rest.isEmpty = false := by simpa using hrest
  unfold unicodeEscape
  rw [List.append_assoc, codeUnit?_hexDigits hbounds.1 (by simp [escapeUnit]), drop_hexDigits]
  simp only [escapeUnit, List.cons_append, drop_hexDigits, codeUnit?_hexDigits hbounds.2 hrest,
    hhigh, hlow, hempty, Bool.not_false, Bool.and_self, if_true]

/-- An escape of code units. -/
theorem readTextFrom_unicode (start offset : Nat) {digits : List Char} {point : CodePoint}
    {width : Nat} (h : unicodeEscape (offset + 2) digits = .ok (point, width))
    (hwidth : width ≤ digits.length) :
    readTextFrom start offset 0 ('\\' :: 'u' :: digits) =
      consPoint point (readTextFrom start (offset + (width + 2)) 0 (digits.drop width)) := by
  rw [readTextFrom, h]
  show (do
    let found ← readTextFrom start (offset + 1) (width + 1) ('u' :: digits)
    pure (point :: found.1, found.2)) = _
  rw [readTextFrom_skip start (offset + 1) (by simpa using hwidth), List.drop_succ_cons,
    show offset + 1 + (width + 1) = offset + (width + 2) by omega]
  rfl

/-- A letter after a backslash. -/
theorem readTextFrom_letter (start offset : Nat) {letter c : Char} (h : unescape? letter = some c)
    (rest : List Char) :
    readTextFrom start offset 0 ('\\' :: letter :: rest) =
      consPoint (.char c) (readTextFrom start (offset + 2) 0 rest) := by
  have hletter : letter ≠ 'u' := by
    rintro rfl
    cases h
  rw [readTextFrom, h, readTextFrom_skip start (offset + 1) (by simp)]
  · rfl
  · exact hletter

/-- A character that stands for itself. -/
theorem readTextFrom_self (start offset : Nat) {c : Char} (hquote : c ≠ '"') (hescape : c ≠ '\\')
    (hcontrol : 0x20 ≤ c.toNat) (rest : List Char) :
    readTextFrom start offset 0 (c :: rest) =
      consPoint (.char c) (readTextFrom start (offset + 1) 0 rest) := by
  rw [readTextFrom, if_neg (by omega)]
  · rfl
  · exact hquote
  · exact hescape

/-- A character past ASCII is read back from its code units. -/
theorem readTextFrom_codeUnits (start offset : Nat) (c : Char) {rest : List Char}
    (hrest : rest ≠ []) :
    readTextFrom start offset 0 ((codeUnits c).flatMap escapeUnit ++ rest) =
      consPoint (.char c)
        (readTextFrom start (offset + ((codeUnits c).flatMap escapeUnit).length) 0 rest) := by
  have hvalid := toNat_valid c
  unfold codeUnits
  split
  · rename_i hplane
    have hsingle : isHighSurrogate c.toNat = false := by
      simp [isHighSurrogate]
      omega
    have hread := unicodeEscape_single (offset + 2) (codeUnit?_hexDigits hplane hrest) hsingle
    rw [unitPoint_toNat] at hread
    have hescape := readTextFrom_unicode start offset hread
      (by simp [Text.length_hexDigits])
    rw [drop_hexDigits] at hescape
    simpa [escapeUnit, Text.length_hexDigits] using hescape
  · rename_i hplane
    have hhigh : isHighSurrogate (0xD800 + (c.toNat - 0x10000) / 0x400) = true := by
      simp [isHighSurrogate]
      omega
    have hlow : isLowSurrogate (0xDC00 + (c.toNat - 0x10000) % 0x400) = true := by
      simp [isLowSurrogate]
      omega
    have hcode : 0x10000 + (0xD800 + (c.toNat - 0x10000) / 0x400 - 0xD800) * 0x400 +
        (0xDC00 + (c.toNat - 0x10000) % 0x400 - 0xDC00) = c.toNat := by omega
    have hread := unicodeEscape_pair (offset + 2) hrest hhigh hlow
    rw [hcode, Char.ofNat_toNat] at hread
    have hescape := readTextFrom_unicode start offset hread
      (by simp [escapeUnit, Text.length_hexDigits]; omega)
    rw [List.drop_left' (by simp [escapeUnit, Text.length_hexDigits])] at hescape
    simpa [escapeUnit, Text.length_hexDigits] using hescape

/-- An escape is read as the character that it was written for. -/
theorem readTextFrom_escapeChar (start offset : Nat) (c : Char) {rest : List Char}
    (hrest : rest ≠ []) :
    readTextFrom start offset 0 (escapeChar c ++ rest) =
      consPoint (.char c) (readTextFrom start (offset + (escapeChar c).length) 0 rest) := by
  have hletter {letter d : Char} (h : unescape? letter = some d) (hd : (c == d) = true) :
      readTextFrom start offset 0 (['\\', letter] ++ rest) =
        consPoint (.char c) (readTextFrom start (offset + 2) 0 rest) := by
    rw [beq_iff_eq.mp hd]
    exact readTextFrom_letter start offset h rest
  unfold escapeChar
  -- the characters that have a letter of their own
  iterate 7
    split
    · exact hletter rfl ‹_›
  split
  · rename_i hprintable
    simp only [Bool.and_eq_true, decide_eq_true_eq] at hprintable
    exact readTextFrom_self start offset (by simpa using ‹¬(c == '"') = true›)
      (by simpa using ‹¬(c == '\\') = true›) hprintable.1 rest
  · exact readTextFrom_codeUnits start offset c hrest

theorem ofPoints_char (s : List Char) :
    JsonText.ofPoints (s.map .char) = .whole (String.ofList s) := by
  have hall : (s.map CodePoint.char).mapM CodePoint.char? = some s := by
    induction s with
    | nil => rfl
    | cons c rest ih => simp [List.mapM_cons, ih, CodePoint.char?]
  rw [JsonText.ofPoints, hall]

/-! ## Halves of surrogate pairs -/

/-- The first code point is the first half of a pair and the second one the other half. -/
def Pairs : CodePoint → CodePoint → Prop
  | .half high, .half low => isHighSurrogate high = true ∧ isLowSurrogate low = true
  | _, _ => False

/-- Code points as reading gives them: two halves that pair do not stand side by side. -/
structure AreSingle (points : List CodePoint) : Prop where
  halves : ∀ unit, .half unit ∈ points → 0xD800 ≤ unit ∧ unit < 0xE000
  apart : points.IsChain fun point next => ¬ Pairs point next

/-- Texts as reading gives them: whole wherever they can be. -/
structure IsProper (text : JsonText) : Prop where
  ofPoints : JsonText.ofPoints text.points = text
  single : AreSingle text.points

theorem areSingle_chars (s : List Char) : AreSingle (s.map .char) := by
  refine ⟨fun unit hmem => by simp at hmem, ?_⟩
  induction s with
  | nil => exact .nil
  | cons c rest ih => exact List.isChain_cons.mpr ⟨fun _ _ => id, ih⟩

theorem isProper_whole (text : String) : IsProper (.whole text) :=
  ⟨(ofPoints_char _).trans (by rw [String.ofList_toList]), areSingle_chars _⟩

theorem AreSingle.tail {point : CodePoint} {points : List CodePoint}
    (h : AreSingle (point :: points)) : AreSingle points :=
  ⟨fun unit hmem => h.halves unit (List.mem_cons_of_mem point hmem), h.apart.tail⟩

/-- What comes next is no escape, or the escape of no second half. -/
def NoSecondHalf (s : List Char) : Prop :=
  ∀ digits, s = '\\' :: 'u' :: digits →
    ∃ unit, codeUnit? digits = some unit ∧ isLowSurrogate unit = false

theorem noSecondHalf_unit {unit : Nat} (hunit : unit < 0x10000)
    (hsecond : isLowSurrogate unit = false) {rest : List Char} (hrest : rest ≠ []) :
    NoSecondHalf (escapeUnit unit ++ rest) := by
  intro digits heq
  obtain rfl : Text.hexDigits unit 4 ++ rest = digits := by simpa [escapeUnit] using heq
  exact ⟨unit, codeUnit?_hexDigits hunit hrest, hsecond⟩

theorem noSecondHalf_codeUnits (c : Char) {rest : List Char} (hrest : rest ≠ []) :
    NoSecondHalf ((codeUnits c).flatMap escapeUnit ++ rest) := by
  have hvalid := toNat_valid c
  unfold codeUnits
  split
  · have hunit : isLowSurrogate c.toNat = false := by
      simp [isLowSurrogate]
      omega
    simpa using noSecondHalf_unit (by omega) hunit hrest
  · have hunit : isLowSurrogate (0xD800 + (c.toNat - 0x10000) / 0x400) = false := by
      simp [isLowSurrogate]
      omega
    have hmore : escapeUnit (0xDC00 + (c.toNat - 0x10000) % 0x400) ++ rest ≠ [] := by
      simp [escapeUnit]
    simpa using noSecondHalf_unit (by omega) hunit hmore

theorem noSecondHalf_escapeChar (c : Char) {rest : List Char} (hrest : rest ≠ []) :
    NoSecondHalf (escapeChar c ++ rest) := by
  have hletter {letter : Char} (h : letter ≠ 'u') : NoSecondHalf (['\\', letter] ++ rest) := by
    rintro digits ⟨⟩
    exact absurd rfl h
  unfold escapeChar
  -- the characters that have a letter of their own
  split
  · exact hletter (by decide)
  split
  · exact hletter (by decide)
  rename_i hescape
  iterate 5
    split
    · exact hletter (by decide)
  split
  · rintro digits ⟨⟩
    exact absurd rfl hescape
  · exact noSecondHalf_codeUnits c hrest

theorem noSecondHalf_escapePoint {high : Nat} {next : CodePoint}
    (hhigh : isHighSurrogate high = true) (hnext : ¬ Pairs (.half high) next)
    (hunit : ∀ unit, next = .half unit → unit < 0xE000) {rest : List Char} (hrest : rest ≠ []) :
    NoSecondHalf (escapePoint next ++ rest) := by
  cases next with
  | char c => exact noSecondHalf_escapeChar c hrest
  | half unit =>
    have hsecond : isLowSurrogate unit = false := by
      by_contra hlow
      exact hnext ⟨hhigh, by simpa using hlow⟩
    have hsize := hunit unit rfl
    exact noSecondHalf_unit (by omega) hsecond hrest

theorem unitPoint_half {unit : Nat} (hunit : 0xD800 ≤ unit ∧ unit < 0xE000) :
    unitPoint unit = .half unit := by
  rw [unitPoint, if_pos (by simpa using hunit)]

/-- A first half that no second one follows stands alone. -/
theorem unicodeEscape_alone {unit : Nat} (hunit : unit < 0x10000) (offset : Nat)
    {rest : List Char} (hrest : rest ≠ []) (hnext : NoSecondHalf rest) :
    unicodeEscape offset (Text.hexDigits unit 4 ++ rest) = .ok (unitPoint unit, 4) := by
  unfold unicodeEscape
  rw [codeUnit?_hexDigits hunit hrest, drop_hexDigits]
  dsimp only
  split
  · rename_i digits
    obtain ⟨low, hlow, hsecond⟩ := hnext digits rfl
    split
    · rw [hlow]
      dsimp only
      rw [hsecond, if_neg (by simp)]
    · rfl
  · rfl

/-- An escape is read as the code point that it was written for. -/
theorem readTextFrom_escapePoint (start offset : Nat) {point : CodePoint} {rest : List Char}
    (hunit : ∀ unit, point = .half unit → 0xD800 ≤ unit ∧ unit < 0xE000) (hrest : rest ≠ [])
    (hnext : ∀ unit, point = .half unit → isHighSurrogate unit = true → NoSecondHalf rest) :
    readTextFrom start offset 0 (escapePoint point ++ rest) =
      consPoint point (readTextFrom start (offset + (escapePoint point).length) 0 rest) := by
  cases point with
  | char c => exact readTextFrom_escapeChar start offset c hrest
  | half unit =>
    have hbounds := hunit unit rfl
    have hread : unicodeEscape (offset + 2) (Text.hexDigits unit 4 ++ rest) =
        .ok (unitPoint unit, 4) := by
      by_cases hhigh : isHighSurrogate unit = true
      · exact unicodeEscape_alone (by omega) _ hrest (hnext unit rfl hhigh)
      · exact unicodeEscape_single _ (codeUnit?_hexDigits (by omega) hrest) (by simpa using hhigh)
    rw [unitPoint_half hbounds] at hread
    have hescape := readTextFrom_unicode start offset hread (by simp [Text.length_hexDigits])
    rw [drop_hexDigits] at hescape
    simpa [escapePoint, escapeUnit, Text.length_hexDigits] using hescape

/-- The code points of a text, up to its closing quote. -/
theorem readTextFrom_points (start offset : Nat) {points : List CodePoint}
    (h : AreSingle points) (rest : List Char) :
    readTextFrom start offset 0 (points.flatMap escapePoint ++ '"' :: rest) =
      .ok (points, ⟨offset + (points.flatMap escapePoint).length + 1, rest⟩) := by
  induction points generalizing offset with
  | nil => rfl
  | cons point points ih =>
    have hnext : ∀ unit, point = .half unit → isHighSurrogate unit = true →
        NoSecondHalf (points.flatMap escapePoint ++ '"' :: rest) := by
      intro unit hpoint hhigh
      cases points with
      | nil => rintro digits ⟨⟩
      | cons next points =>
        subst hpoint
        rw [List.flatMap_cons, List.append_assoc]
        exact noSecondHalf_escapePoint hhigh (List.isChain_cons_cons.mp h.apart).1
          (fun unit hmem => (h.halves unit (by simp [hmem])).2) (by simp)
    rw [List.flatMap_cons, List.append_assoc, readTextFrom_escapePoint start offset
      (fun unit hpoint => h.halves unit (by simp [hpoint])) (by simp) hnext, ih _ h.tail]
    simp [consPoint, Except.map, Nat.add_assoc]

theorem writeText_eq (text : JsonText) :
    writeText text = '"' :: (text.points.flatMap escapePoint ++ ['"']) := by
  cases text with
  | whole text => simp [writeText, JsonText.points, List.flatMap_map, escapePoint]
  | broken points => rfl

/-- A text that was written is read back. -/
theorem readText_writeText (offset : Nat) {text : JsonText} (h : IsProper text)
    (rest : List Char) :
    readText (Cursor.skip ⟨offset, writeText text ++ rest⟩ 1) =
      .ok (text, ⟨offset + (writeText text).length, rest⟩) := by
  have hskip : Cursor.skip ⟨offset, writeText text ++ rest⟩ 1 =
      ⟨offset + 1, text.points.flatMap escapePoint ++ '"' :: rest⟩ := by
    simp [Cursor.skip, writeText_eq]
  rw [hskip, readText, readTextFrom_points _ _ h.single]
  show Except.ok (JsonText.ofPoints text.points, _) = _
  rw [h.ofPoints]
  simp [writeText_eq]
  omega

end Json

end CommitStyle
