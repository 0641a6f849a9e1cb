import CommitStyle.Text.Blank
import CommitStyle.Text.Lines
import Mathlib.Data.List.Basic

/-! Lines of a text. A text with a line more has its own lines and then that one; where
the text was left without a final line end, the one that is put behind it opens no
line, or a blank one. Once line ends are unified, there is no carriage return left. -/

namespace CommitStyle.Text

theorem unifyLineEnds_eq_self {s : List Char} (h : '\r' ∉ s) : unifyLineEnds s = s := by
  induction s with
  | nil => rfl
  | cons c rest ih =>
    simp only [List.mem_cons, not_or] at h
    unfold unifyLineEnds
    split
    · simp_all
    · simp_all
    · simp_all
    · simp_all

theorem not_mem_unifyLineEnds (s : List Char) : '\r' ∉ unifyLineEnds s := by
  fun_induction unifyLineEnds s with
  | case1 => exact List.not_mem_nil
  | case2 rest ih => simpa using ih
  | case3 rest _ ih => simpa using ih
  | case4 c rest _ hc ih =>
    rw [List.mem_cons, not_or]
    exact ⟨fun heq => hc heq.symm, ih⟩

theorem lines_of_unified {s : List Char} (h : '\r' ∉ s) : lines s = cutLines s := by
  rw [lines, unifyLineEnds_eq_self h]

variable {s line : List Char} {c : Char}

theorem cutLines_cons_ne_nil (c : Char) (rest : List Char) : cutLines (c :: rest) ≠ [] := by
  rw [cutLines]
  split
  · simp
  · split
    · simp
    · simp

/-- A line end cuts the lines before it from those behind it. -/
theorem cutLines_append (hc : isLineEnd c = true) (s behind : List Char) :
    cutLines (s ++ c :: behind) = cutLines (s ++ [c]) ++ cutLines behind := by
  induction s with
  | nil => simp [cutLines, hc]
  | cons d rest ih =>
    rw [List.cons_append, List.cons_append, cutLines, cutLines, ih]
    split
    · rfl
    · cases hcut : cutLines (rest ++ [c]) with
      | nil =>
        cases rest with
        | nil => exact absurd hcut (cutLines_cons_ne_nil c [])
        | cons e more => exact absurd hcut (cutLines_cons_ne_nil e (more ++ [c]))
      | cons first others => rfl

theorem cutLines_line (hc : isLineEnd c = true) (hline : ∀ d ∈ line, isLineEnd d = false) :
    cutLines (line ++ [c]) = [line] := by
  induction line with
  | nil => simp [cutLines, hc]
  | cons d rest ih =>
    obtain ⟨hd, hrest⟩ := List.forall_mem_cons.mp hline
    rw [List.cons_append, cutLines, ih hrest, hd, if_neg (by simp)]

/-- A line end at the end of a text closes the line that it has begun, or opens a blank one. -/
theorem cutLines_close (hc : isLineEnd c = true) (s : List Char) :
    ∃ opened, (opened = [] ∨ opened = [[]]) ∧ cutLines (s ++ [c]) = cutLines s ++ opened := by
  induction s with
  | nil => exact ⟨[[]], .inr rfl, by simp [cutLines, hc]⟩
  | cons d rest ih =>
    obtain ⟨opened, hopened, hcut⟩ := ih
    rw [List.cons_append, cutLines, cutLines, hcut]
    by_cases hd : isLineEnd d = true
    · rw [if_pos hd, if_pos hd]
      exact ⟨opened, hopened, rfl⟩
    · rw [if_neg hd, if_neg hd]
      cases hrest : cutLines rest with
      | cons first others => exact ⟨opened, hopened, rfl⟩
      | nil =>
        refine ⟨[], .inl rfl, ?_⟩
        rcases hopened with rfl | rfl
        · rfl
        · rfl

/-- A line that begins at the end of a text, or behind a line end, is one more line. -/
theorem cutLines_addLine (hc : isLineEnd c = true) (hline : ∀ d ∈ line, isLineEnd d = false)
    (hlast : ∀ d ∈ s.getLast?, isLineEnd d = true) :
    cutLines (s ++ (line ++ [c])) = cutLines s ++ [line] := by
  rcases List.eq_nil_or_concat' s with rfl | ⟨front, d, rfl⟩
  · exact cutLines_line hc hline
  · have hd : isLineEnd d = true := hlast d (by simp)
    rw [List.append_assoc, List.singleton_append, cutLines_append hd, cutLines_line hc hline]

end CommitStyle.Text
