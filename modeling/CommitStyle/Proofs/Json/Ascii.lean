import CommitStyle.Proofs.Json.RoundTrip
import CommitStyle.Proofs.Text.Lines

/-! What is written over several lines is printable ASCII and line feeds, so that reading
a file back, which unifies line ends, changes nothing in it. -/

namespace CommitStyle

namespace Json

/-- A character between a space and a tilde. -/
def isPrintable (c : Char) : Bool := 0x20 ≤ c.toNat && c.toNat ≤ 0x7E

/-! ## Texts and numbers -/

theorem printable_hexDigits (n width : Nat) :
    (Text.hexDigits n width).all isPrintable = true := by
  induction width generalizing n with
  | zero => rfl
  | succ width ih =>
    have hdigit := (by decide : ∀ n < 16, isPrintable (Text.hexDigit n) = true) (n % 16)
      (Nat.mod_lt n (by decide))
    simp [Text.hexDigits, ih, hdigit]

theorem printable_escapeUnit (n : Nat) : (escapeUnit n).all isPrintable = true := by
  simp [escapeUnit, printable_hexDigits]
  decide

theorem printable_escapeChar (c : Char) : (escapeChar c).all isPrintable = true := by
  unfold escapeChar
  iterate 7
    split
    · decide
  split
  · rename_i hprintable
    simpa [isPrintable] using hprintable
  · simp [List.all_flatMap, printable_escapeUnit]

theorem printable_escapePoint (point : CodePoint) : (escapePoint point).all isPrintable = true := by
  cases point with
  | char c => exact printable_escapeChar c
  | half unit => exact printable_escapeUnit unit

theorem printable_writeText (text : JsonText) : (writeText text).all isPrintable = true := by
  have hquote : isPrintable '"' = true := by decide
  simp [writeText_eq, hquote, List.all_flatMap, printable_escapePoint]

theorem isPrintable_of_isAsciiDigit {c : Char} (h : Text.isAsciiDigit c = true) :
    isPrintable c = true := by
  simp only [Text.isAsciiDigit, Bool.and_eq_true, decide_eq_true_eq, Char.le_def,
    UInt32.le_iff_toNat_le] at h
  simp only [isPrintable, Bool.and_eq_true, decide_eq_true_eq]
  have hlow : '0'.val.toNat = 48 := rfl
  have hhigh : '9'.val.toNat = 57 := rfl
  simp only [Char.toNat]
  omega

theorem printable_writeWhole (n : Int) : (writeWhole n).all isPrintable = true := by
  have hdigits : (digitsOf n.natAbs).all isPrintable = true :=
    List.all_eq_true.mpr fun c hc => isPrintable_of_isAsciiDigit (isAsciiDigit_of_mem_digitsOf hc)
  rw [writeWhole_eq, List.all_append, hdigits]
  split <;> decide

theorem printable_digits {s : List Char} (h : AreDigits s) : s.all isPrintable = true :=
  List.all_eq_true.mpr fun c hc => isPrintable_of_isAsciiDigit (h c hc)

theorem NumberText.WellFormed.printable {n : NumberText} (h : n.WellFormed) :
    n.text.all isPrintable = true := by
  have hsign : ((if n.negative then ['-'] else []) : List Char).all isPrintable = true := by
    split <;> decide
  have hwhole : n.whole.all isPrintable = true := by
    rcases h.whole with heq | ⟨hdigits, -⟩
    · rw [heq]
      decide
    · exact printable_digits hdigits
  have hfraction : n.fraction.all isPrintable = true := by
    rcases h.fraction with heq | ⟨ds, heq, hdigits, -⟩
    · rw [heq]
      rfl
    · rw [heq, List.all_cons, printable_digits hdigits]
      decide
  have hexponent : n.exponent.all isPrintable = true := by
    rcases h.exponent with heq | ⟨sign, ds, heq, hmem, hdigits, -⟩
    · rw [heq]
      rfl
    · have hmarks : ['+', '-'].all isPrintable = true := by decide
      have hmark := List.all_eq_true.mp hmarks sign hmem
      rw [heq, List.all_cons, List.all_cons, printable_digits hdigits, hmark]
      decide
  rw [text, List.all_append, List.all_append, List.all_append, hsign, hwhole, hfraction, hexponent]
  rfl

theorem printable_writeFloat {x : Number.Binary64} (h : x.IsStored) :
    (writeFloat x).all isPrintable = true := by
  cases x with
  | nan => decide
  | infinite negative => cases negative <;> decide
  | finite negative m e =>
    obtain ⟨parts, hformed, -, htext, -⟩ := writeFloat_parts h
    rw [htext]
    exact hformed.printable

/-! ## Values -/

/-- A character of a text over several lines. -/
def isInLines (c : Char) : Bool := isPrintable c || c == '\n'

theorem all_isInLines {s : List Char} (h : s.all isPrintable = true) : s.all isInLines = true :=
  List.all_eq_true.mpr fun c hc => by rw [isInLines, List.all_eq_true.mp h c hc, Bool.true_or]

/-- The layout puts nothing else between the parts of a value. -/
structure Layout.InLines (layout : Layout) : Prop where
  comma : ∀ depth, (layout.comma depth).all isInLines = true
  opening : ∀ depth, (layout.opening depth).all isInLines = true
  closing : ∀ depth, (layout.closing depth).all isInLines = true

theorem isInLines_lineBreak (depth : Nat) : (lineBreak depth).all isInLines = true := by
  have hspace : isInLines ' ' = true := by decide
  have hbreak : isInLines '\n' = true := by decide
  simp [lineBreak, hspace, hbreak]

theorem indented_inLines : indented.InLines where
  comma depth := by
    have hcomma : isInLines ',' = true := by decide
    simpa [indented, hcomma] using isInLines_lineBreak (depth + 1)
  opening depth := isInLines_lineBreak (depth + 1)
  closing := isInLines_lineBreak

section Layouts

variable {layout : Layout} (hlayout : layout.InLines)
include hlayout

theorem isInLines_writeItems {items : List Json}
    (h : ∀ item ∈ items, ∀ depth, (writeAt layout depth item).all isInLines = true)
    (depth : Nat) : (writeItems layout depth items).all isInLines = true := by
  induction items with
  | nil => rfl
  | cons item items ih =>
    rw [writeItems, List.all_append, List.all_append, hlayout.comma, h item (by simp),
      ih fun other hmem => h other (by simp [hmem])]
    rfl

theorem isInLines_writeMembers {members : List (JsonText × Json)}
    (h : ∀ member ∈ members, ∀ depth, (memberText layout depth member).all isInLines = true)
    (depth : Nat) : (writeMembers layout depth members).all isInLines = true := by
  induction members with
  | nil => rfl
  | cons member members ih =>
    rw [writeMembers_cons, List.all_append, List.all_append, hlayout.comma, h member (by simp),
      ih fun other hmem => h other (by simp [hmem])]
    rfl

omit hlayout in
theorem isInLines_memberText {member : JsonText × Json}
    (hvalue : ∀ depth, (writeAt layout depth member.2).all isInLines = true)
    (depth : Nat) : (memberText layout depth member).all isInLines = true := by
  have hcolon : [':', ' '].all isInLines = true := by decide
  have hshape : memberText layout depth member =
      writeText member.1 ++ ([':', ' '] ++ writeAt layout (depth + 1) member.2) := by
    simp [memberText]
  rw [hshape, List.all_append, List.all_append, all_isInLines (printable_writeText member.1),
    hcolon, hvalue]
  rfl

/-- What is written is printable but for its line feeds. -/
theorem Plain.isInLines {value : Json} (h : Plain value) (depth : Nat) :
    (writeAt layout depth value).all isInLines = true := by
  induction h generalizing depth with
  | null => rfl
  | bool b => cases b <;> rfl
  | int h => exact all_isInLines (printable_writeWhole _)
  | float h => exact all_isInLines (printable_writeFloat h)
  | str h => exact all_isInLines (printable_writeText _)
  | @arr items h ih =>
    cases items with
    | nil => rfl
    | cons item items =>
      rw [writeAt_items, List.all_cons, List.all_append, List.all_append, List.all_append,
        List.all_append, hlayout.opening, hlayout.closing, ih item (by simp),
        isInLines_writeItems hlayout fun other hmem => ih other (List.mem_cons_of_mem item hmem)]
      rfl
  | @obj members hkeys hnames hvalues ih =>
    have hmembers (member : JsonText × Json) (hmem : member ∈ members) :=
      isInLines_memberText (ih member hmem)
    cases members with
    | nil => rfl
    | cons member members =>
      rw [writeAt_members, List.all_cons, List.all_append, List.all_append, List.all_append,
        List.all_append, hlayout.opening, hlayout.closing, hmembers member (by simp),
        isInLines_writeMembers hlayout fun other hmem =>
          hmembers other (List.mem_cons_of_mem member hmem)]
      rfl

end Layouts

/-- A plain value is read back from a file, whose line ends are unified. -/
theorem read_pretty_line {value : Json} (h : Plain value) :
    read (String.ofList (Text.unifyLineEnds (value.pretty ++ "\n").toList)) = .ok value := by
  have hlines := h.isInLines indented_inLines 0
  have hreturn : '\r' ∉ (value.pretty ++ "\n").toList := by
    rw [String.toList_append, pretty, String.toList_ofList, List.mem_append]
    rintro (hmem | hmem)
    · exact absurd (List.all_eq_true.mp hlines _ hmem) (by decide)
    · simp at hmem
  rw [Text.unifyLineEnds_eq_self hreturn, String.ofList_toList]
  exact read_pretty h (by simp [isSpace] : ∀ c ∈ ['\n'], isSpace c = true)

end Json

end CommitStyle
