import CommitStyle.Proofs.KeyFile.Reading
import CommitStyle.Proofs.Version

/-! The line that stores a value under a key. A key and a value without white space, quotes
and signs that mean something are read back from such a line as they were written, and the
line ends where it seems to. -/

namespace CommitStyle.KeyFile

variable {key value : String} {s t : List Char}

/-- Letters, digits and the signs that stand bare in names and values. -/
def isPlainChar (c : Char) : Bool := c.isAlphanum || c == '_' || c == '-' || c == '.'

/-- The line that stores a value under a key. -/
def storingLine (key value : String) : List Char := key.toList ++ '=' :: (value.toList ++ ['\n'])

/-- A name of a key: letters, digits and underscores, with no digit in front. -/
structure IsKey (key : String) : Prop where
  start : key.toList.head?.any (fun c => c.isAlpha || c == '_') = true
  chars : ∀ c ∈ key.toList, (c.isAlphanum || c == '_') = true

theorem IsKey.toList_ne_nil (h : IsKey key) : key.toList ≠ [] := by
  intro hnil
  have hstart := h.start
  rw [hnil] at hstart
  cases hstart

/-- A value that is written bare: letters, digits and a few signs, one at least. -/
structure IsBare (value : String) : Prop where
  ne_empty : value ≠ ""
  chars : ∀ c ∈ value.toList, isPlainChar c = true

theorem ascii_of_isPlainChar {c : Char} (h : isPlainChar c = true) : c.toNat < 0x80 := by
  simp only [isPlainChar, Bool.or_eq_true, beq_iff_eq] at h
  rcases h with ((halphanum | rfl) | rfl) | rfl
  · exact Version.ascii_of_isAlphanum halphanum
  · decide
  · decide
  · decide

theorem not_blank_of_isPlainChar {c : Char} (h : isPlainChar c = true) : Text.isBlank c = false :=
  Text.forall_ascii (P := fun c => isPlainChar c = true → Text.isBlank c = false)
    (by decide) (ascii_of_isPlainChar h) h

theorem ne_of_isPlainChar {c d : Char} (h : isPlainChar c = true) (hd : isPlainChar d = false) :
    c ≠ d := by
  rintro rfl
  rw [h] at hd
  cases hd

theorem IsKey.isPlainChar (h : IsKey key) {c : Char} (hc : c ∈ key.toList) :
    isPlainChar c = true := by
  have hclass := h.chars c hc
  unfold KeyFile.isPlainChar
  rw [hclass]
  rfl

/-! ## Scanners on plain texts -/

theorem dropWhile_none {ofClass : Char → Bool} (h : ∀ c ∈ s, ofClass c = false) :
    s.dropWhile ofClass = s := by
  cases s with
  | nil => rfl
  | cons c rest =>
    have hc := h c List.mem_cons_self
    exact List.dropWhile_cons_of_neg (by simp [hc])

section Plain

variable (h : ∀ c ∈ s, isPlainChar c = true)
include h

theorem head?_ne_of_plain {d : Char} (hd : isPlainChar d = false) : s.head? ≠ some d :=
  fun hhead => ne_of_isPlainChar (h d (List.mem_of_mem_head? hhead)) hd rfl

theorem head?_append_ne_of_plain (hne : s ≠ []) {d : Char} (hd : isPlainChar d = false)
    (behind : List Char) : (s ++ behind).head? ≠ some d := by
  rw [List.head?_append_of_ne_nil _ hne]
  exact head?_ne_of_plain h hd

theorem skipInline_plain : skipInline s = s :=
  dropWhile_none fun c hc => by simp [Text.isInlineBlank, not_blank_of_isPlainChar (h c hc)]

theorem withoutComment_plain : withoutComment s = s := by
  induction s with
  | nil => rfl
  | cons c rest ih =>
    have hc := not_blank_of_isPlainChar (h c List.mem_cons_self)
    rw [withoutComment, if_neg (by simp [startsComment, hc]),
      ih fun d hd => h d (List.mem_cons_of_mem c hd)]

theorem trimEnd_plain : Text.trimEnd s = s := by
  have hreverse : s.reverse.dropWhile Text.isBlank = s.reverse :=
    dropWhile_none fun c hc => not_blank_of_isPlainChar (h c (List.mem_reverse.mp hc))
  rw [Text.trimEnd, hreverse, List.reverse_reverse]

end Plain

/-- A word in front of an equals sign ends there at the latest. -/
theorem prefix_of_prefix_append {word name : List Char} (hword : '=' ∉ word)
    (h : word <+: name ++ '=' :: s) : word <+: name := by
  obtain ⟨behind, hbehind⟩ := h
  rcases List.append_eq_append_iff.mp hbehind with ⟨more, hname, -⟩ | ⟨more, hmore, hequals⟩
  · exact ⟨more, hname.symm⟩
  · cases more with
    | nil => exact ⟨[], by rw [hmore, List.append_nil, List.append_nil]⟩
    | cons c left =>
      obtain ⟨rfl, -⟩ := List.cons.inj hequals
      exact absurd (hmore ▸ List.mem_append_right name List.mem_cons_self) hword

/-- A name is no word for exporting, as no white space stands in front of the equals sign. -/
theorem skipExport_plain {name : List Char} (h : ∀ c ∈ name, isPlainChar c = true)
    (s : List Char) : skipExport (name ++ '=' :: s) = name ++ '=' :: s := by
  unfold skipExport
  dsimp only
  split
  · rename_i hexport
    have hlength : 6 ≤ name.length :=
      (prefix_of_prefix_append (by decide) (List.isPrefixOf_iff_prefix.mp hexport)).length_le
    have hdrop : skipInline ((name ++ '=' :: s).drop 6) = (name ++ '=' :: s).drop 6 := by
      rw [List.drop_append_of_le_length hlength]
      cases hleft : name.drop 6 with
      | nil => rfl
      | cons c more =>
        have hmem : c ∈ name := List.mem_of_mem_drop (hleft ▸ List.mem_cons_self)
        exact List.dropWhile_cons_of_neg
          (by simp [Text.isInlineBlank, not_blank_of_isPlainChar (h c hmem)])
    rw [hdrop, if_neg (by simp)]
  · rfl

theorem name?_plain {name : List Char} (hne : name ≠ []) (h : ∀ c ∈ name, isPlainChar c = true)
    (s : List Char) : name? (name ++ '=' :: s) = some (some name, '=' :: s) := by
  have hhead {d : Char} (hd : isPlainChar d = false) : (name ++ '=' :: s).head? ≠ some d :=
    head?_append_ne_of_plain h hne hd _
  have hclass : ∀ c ∈ name, isNameChar c = true := by
    intro c hc
    have hplain := h c hc
    simp [isNameChar, ne_of_isPlainChar hplain (show isPlainChar '=' = false by decide),
      ne_of_isPlainChar hplain (show isPlainChar '#' = false by decide),
      not_blank_of_isPlainChar hplain]
  have htake : (name ++ '=' :: s).takeWhile isNameChar = name := by
    rw [List.takeWhile_append_of_pos hclass]
    simp [isNameChar]
  rw [name?_bare (hhead (by decide)) (hhead (by decide)), run?, htake]
  simp [hne]

theorem valuePart_plain (hne : t ≠ []) (h : ∀ c ∈ t, isPlainChar c = true) (s : List Char) :
    valuePart ('=' :: (t ++ '\n' :: s)) = .ok (some t, '\n' :: s) := by
  have hend := atLineEnd_feed s
  have hhead {d : Char} (hd : isPlainChar d = false) : (t ++ '\n' :: s).head? ≠ some d :=
    head?_append_ne_of_plain h hne hd _
  have hline : t.dropWhile (· != '\n') = [] := by
    rw [List.dropWhile_eq_nil_iff]
    intro c hc
    exact bne_iff_ne.mpr (ne_of_isPlainChar (h c hc) (by decide))
  have hvalue : assigned? (t ++ '\n' :: s) = value? (t ++ '\n' :: s) := by
    rw [assigned?_front hend, skipInline_plain h,
      if_neg fun hcomment => head?_ne_of_plain h (by decide) hcomment.1]
  have htake : (t ++ '\n' :: s).takeWhile (· != '\n') = t := by
    have hsplit := t.takeWhile_append_dropWhile (p := (· != '\n'))
    rw [hline, List.append_nil] at hsplit
    rw [takeWhile_front (by simp) hend, hsplit]
  simp only [valuePart, hvalue, value?_bare (hhead (by decide)) (hhead (by decide)),
    htake, toLineEnd_front hend, hline, withoutComment_plain h, trimEnd_plain h, List.nil_append]

/-! ## The line -/

section Line

variable (hkey : IsKey key) (hvalue : IsBare value)
include hkey hvalue

/-- A line that stores a value under a key is read as such, whatever stands behind it. -/
theorem statement_storingLine (s : List Char) :
    statement (storingLine key value ++ s) = .ok (some key.toList, some value.toList, s) := by
  have hname : ∀ c ∈ key.toList, isPlainChar c = true := fun c => hkey.isPlainChar
  have hne : value.toList ≠ [] := fun hnil => hvalue.ne_empty (String.toList_eq_nil_iff.mp hnil)
  have hequals : skipInline ('=' :: (value.toList ++ '\n' :: s)) =
      '=' :: (value.toList ++ '\n' :: s) := rfl
  have hend : lineEnd? ([] ++ '\n' :: s) = some s :=
    lineEnd?_front (atLineEnd_feed s) List.not_mem_nil
  have hline : storingLine key value ++ s = key.toList ++ '=' :: (value.toList ++ '\n' :: s) := by
    simp [storingLine]
  simp only [statement, hline, skipExport_plain hname, name?_plain hkey.toList_ne_nil hname,
    hequals, valuePart_plain hne hvalue.chars]
  rw [List.nil_append] at hend
  rw [hend]

/-- Only plain characters, the equals sign and the line end are in the line. -/
theorem not_mem_storingLine {c : Char} (hplain : isPlainChar c = false) (hequals : c ≠ '=')
    (hfeed : c ≠ '\n') : c ∉ storingLine key value := by
  have hname : c ∉ key.toList := fun hc => ne_of_isPlainChar (hkey.isPlainChar hc) hplain rfl
  have hgiven : c ∉ value.toList := fun hc => ne_of_isPlainChar (hvalue.chars c hc) hplain rfl
  simp [storingLine, hname, hgiven, hequals, hfeed]

theorem unquoted_storingLine : Unquoted (storingLine key value) := by
  have hnone {c : Char} := not_mem_storingLine (c := c) hkey hvalue
  refine ⟨?_, hnone (by decide) (by decide) (by decide)⟩
  rintro quote (rfl | rfl)
  · exact hnone (by decide) (by decide) (by decide)
  · exact hnone (by decide) (by decide) (by decide)

/-- The line is a statement of its own, whatever stands behind it. -/
theorem read_storingLine (s : List Char) :
    Binding.read (storingLine key value ++ s) =
      (⟨some key, some value, storingLine key value, true⟩, s) := by
  have hne : storingLine key value ++ s ≠ [] := by
    simp [storingLine]
  have htrim : Text.trimStart (storingLine key value ++ s) = storingLine key value ++ s := by
    obtain ⟨c, more, hmore⟩ := List.exists_cons_of_ne_nil hkey.toList_ne_nil
    have hc : c ∈ key.toList := hmore ▸ List.mem_cons_self
    simp only [storingLine, hmore, List.cons_append]
    exact List.dropWhile_cons_of_neg (by simp [not_blank_of_isPlainChar (hkey.isPlainChar hc)])
  unfold Binding.read
  dsimp only
  rw [htrim, if_neg (by simpa using hne), statement_storingLine hkey hvalue]
  simp

end Line

end CommitStyle.KeyFile
