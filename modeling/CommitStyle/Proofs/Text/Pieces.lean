import CommitStyle.Text.Pieces
import Mathlib.Data.List.Basic

/-! Cutting at a separator is undone by joining, and joining by cutting as long as there
is a piece and no piece has a separator in it. -/

namespace CommitStyle.Text

variable {separator c : Char} {s piece : List Char} {parts : List (List Char)}

theorem pieces_eq_splitOn (separator : Char) (s : List Char) :
    pieces separator s = s.splitOn separator := by
  induction s with
  | nil => rfl
  | cons c rest ih =>
    rw [pieces, List.splitOn_cons_eq_if_modifyHead, ← ih]
    split
    · rfl
    · cases hrest : pieces separator rest with
      | nil => exact absurd hrest (pieces_ne_nil separator rest)
      | cons piece others => rfl

theorem joinPieces_pieces (separator : Char) (s : List Char) :
    joinPieces separator (pieces separator s) = s := by
  rw [pieces_eq_splitOn]
  exact List.intercalate_splitOn separator

theorem not_mem_of_mem_pieces (h : piece ∈ pieces separator s) : separator ∉ piece := by
  induction s generalizing piece with
  | nil =>
    obtain rfl := List.mem_singleton.mp h
    exact List.not_mem_nil
  | cons c rest ih =>
    rw [pieces] at h
    split at h
    · rcases List.mem_cons.mp h with rfl | h
      · exact List.not_mem_nil
      · exact ih h
    · rename_i hc
      have hne : c ≠ separator := by simpa using hc
      split at h
      · obtain rfl := List.mem_singleton.mp h
        simpa using Ne.symm hne
      · rename_i first others hpieces
        rcases List.mem_cons.mp h with rfl | h
        · have hfirst := ih (hpieces ▸ List.mem_cons_self)
          simpa [Ne.symm hne] using hfirst
        · exact ih (hpieces ▸ List.mem_cons_of_mem _ h)

theorem pieces_joinPieces (hne : parts ≠ []) (hparts : ∀ piece ∈ parts, separator ∉ piece) :
    pieces separator (joinPieces separator parts) = parts := by
  rw [pieces_eq_splitOn]
  exact List.splitOn_intercalate separator hparts hne

theorem joinPieces_cons_cons (separator : Char) (piece next : List Char) :
    joinPieces separator (piece :: next :: parts) =
      piece ++ separator :: joinPieces separator (next :: parts) := by
  simp [joinPieces, List.intercalate]

theorem mem_joinPieces (h : c ∈ joinPieces separator parts) :
    c = separator ∨ ∃ piece ∈ parts, c ∈ piece := by
  induction parts with
  | nil => cases h
  | cons piece others ih =>
    cases others with
    | nil =>
      refine .inr ⟨piece, List.mem_singleton_self piece, ?_⟩
      simpa [joinPieces, List.intercalate] using h
    | cons next others =>
      rw [joinPieces_cons_cons, List.mem_append, List.mem_cons] at h
      rcases h with h | h | h
      · exact .inr ⟨piece, List.mem_cons_self, h⟩
      · exact .inl h
      · rcases ih h with heq | ⟨other, hother, hc⟩
        · exact .inl heq
        · exact .inr ⟨other, List.mem_cons_of_mem _ hother, hc⟩

theorem mem_joinPieces_of_mem (hpiece : piece ∈ parts) (h : c ∈ piece) :
    c ∈ joinPieces separator parts := by
  induction parts with
  | nil => cases hpiece
  | cons first others ih =>
    cases others with
    | nil =>
      obtain rfl := List.mem_singleton.mp hpiece
      simpa [joinPieces, List.intercalate] using h
    | cons next others =>
      rw [joinPieces_cons_cons, List.mem_append, List.mem_cons]
      rcases List.mem_cons.mp hpiece with rfl | hothers
      · exact .inl h
      · exact .inr (.inr (ih hothers))

end CommitStyle.Text
