import CommitStyle.Markup.Plain
import CommitStyle.Proofs.Text.Trimming
import Mathlib.Data.List.TakeWhile

/-! Texts whose tags fit. A part of a text passes if it leaves the open tags as they are:
a word without opening brackets and backslashes does, and so does a part that passes between
a tag and the tag that closes it. What is put together from such parts can be shown. So can
any text without an opening bracket between a tag and the tag that closes it at the end. -/

namespace CommitStyle.Markup

variable {opened : List String} {position : Nat} {s t : List Char} {markup : String}

/-- The tags of a text fit, with these tags open before it. -/
def Fits (opened : List String) (position : Nat) (s : List Char) : Prop :=
  ∃ text, textOf opened (piecesFrom position 0 s) = .ok text

/-- A text whose tags fit. -/
def Shows (markup : String) : Prop := ∃ text, plain markup = .ok text

theorem shows_iff : Shows markup ↔ (plain markup).isOk = true := by
  unfold Shows
  cases plain markup with
  | ok text => exact ⟨fun _ => rfl, fun _ => ⟨text, rfl⟩⟩
  | error fault =>
    constructor
    · intro h
      obtain ⟨text, h⟩ := h
      cases h
    · intro h
      cases h

instance (markup : String) : Decidable (Shows markup) := decidable_of_iff _ shows_iff.symm

theorem fault_of_not_shows (h : ¬ Shows markup) : ∃ fault, plain markup = .error fault := by
  cases hplain : plain markup with
  | ok text => exact absurd ⟨text, hplain⟩ h
  | error fault => exact ⟨fault, rfl⟩

theorem Fits.shows (h : Fits [] 0 markup.toList) : Shows markup := by
  obtain ⟨text, htext⟩ := h
  exact ⟨_, by rw [plain, htext]; rfl⟩

theorem fits_nil : Fits opened position [] := ⟨[], rfl⟩

/-! ## Texts without tags -/

theorem tagContent?_untagged (h : '[' ∉ s) : tagContent? s = none := by
  unfold tagContent?
  split
  · simp at h
  · rfl

/-- A text without an opening bracket is one piece. -/
theorem piecesFrom_untagged (h : '[' ∉ s) (position : Nat) :
    piecesFrom position 0 s = if s = [] then [] else [.plain s] := by
  induction s generalizing position with
  | nil => rfl
  | cons c rest ih =>
    have hnone := tagContent?_untagged fun hmem =>
      h (((c :: rest).dropWhile_suffix (· == '\\')).subset hmem)
    rw [piecesFrom, Text.drop_takeWhile, hnone, ih fun hmem => h (List.mem_cons_of_mem c hmem)]
    by_cases hrest : rest = []
    · rw [hrest]
      rfl
    · rw [if_neg hrest]
      rfl

/-- A text without an opening bracket has no faulty tag. -/
theorem shows_untagged (h : '[' ∉ markup.toList) : Shows markup := by
  refine Fits.shows ?_
  rw [Fits, piecesFrom_untagged h]
  split
  · exact ⟨_, rfl⟩
  · exact ⟨_, rfl⟩

/-! ## Parts that leave the open tags as they are -/

/-- Whatever stands behind the part fits, or does not, as if the part were not there. -/
def Passes (s : List Char) : Prop :=
  ∀ opened position tail, Fits opened position (s ++ tail) ↔ Fits opened (position + s.length) tail

theorem Passes.shows (h : Passes markup.toList) : Shows markup := by
  refine Fits.shows ?_
  rw [← List.append_nil markup.toList]
  exact (h [] 0 []).mpr fits_nil

theorem Passes.append (h : Passes s) (h' : Passes t) : Passes (s ++ t) := by
  intro opened position tail
  rw [List.append_assoc, h, h', List.length_append, Nat.add_assoc]

/-- Text in front makes no difference. -/
theorem fits_consPlain {c : Char} {pieces : List Piece} :
    (∃ text, textOf opened (consPlain c pieces) = .ok text) ↔
      ∃ text, textOf opened pieces = .ok text := by
  have hmap {text : List Char} {result : Except Fault (List Char)} :
      (∃ whole, result.map (text ++ ·) = .ok whole) ↔ ∃ whole, result = .ok whole := by
    cases result <;> simp [Except.map]
  unfold consPlain
  split
  · exact hmap.trans hmap.symm
  · exact hmap

/-- A character with no tag behind it, nor behind backslashes from it on, is text. -/
theorem fits_cons {c : Char}
    (hnone : tagContent? ((c :: t).dropWhile (· == '\\')) = none) :
    Fits opened position (c :: t) ↔ Fits opened (position + 1) t := by
  have hpieces : piecesFrom position 0 (c :: t) = consPlain c (piecesFrom (position + 1) 0 t) := by
    rw [piecesFrom, Text.drop_takeWhile, hnone]
  unfold Fits
  rw [hpieces, fits_consPlain]

theorem tagContent?_cons {c : Char} (h : c ≠ '[') : tagContent? (c :: t) = none := by
  unfold tagContent?
  split
  · rename_i heq
    exact absurd (List.cons.inj heq).1 h
  · rfl

/-- Characters that begin no tag and take none back. -/
def IsBare (s : List Char) : Prop := ∀ c ∈ s, c ≠ '[' ∧ c ≠ '\\'

theorem isBare_iff : IsBare s ↔ (s.all fun c => c != '[' && c != '\\') = true := by
  simp [IsBare]

instance (s : List Char) : Decidable (IsBare s) := decidable_of_iff _ isBare_iff.symm

theorem passes_bare (h : IsBare s) : Passes s := by
  induction s with
  | nil =>
    intro opened position tail
    exact Iff.rfl
  | cons c rest ih =>
    intro opened position tail
    obtain ⟨hbracket, hbackslash⟩ := h c List.mem_cons_self
    have hnone : tagContent? ((c :: (rest ++ tail)).dropWhile (· == '\\')) = none := by
      rw [List.dropWhile_cons_of_neg (by simpa using hbackslash)]
      exact tagContent?_cons hbracket
    refine (fits_cons hnone).trans ?_
    refine (ih (fun other hmem => h other (List.mem_cons_of_mem c hmem)) opened _ tail).trans ?_
    rw [List.length_cons, Nat.add_right_comm, Nat.add_assoc]

/-! ## Parts between tags -/

theorem piecesFrom_skip (s tail : List Char) (position : Nat) :
    piecesFrom position s.length (s ++ tail) = piecesFrom (position + s.length) 0 tail := by
  induction s generalizing position with
  | nil => rfl
  | cons c rest ih =>
    rw [List.length_cons, List.cons_append, piecesFrom, ih, Nat.add_right_comm, Nat.add_assoc]

/-- A tag is looked at before what stands behind it. -/
theorem fits_tag {content tail : List Char} {now : List String}
    (hcontent : tagContent? ('[' :: content ++ ']' :: tail) = some content)
    (hnow : afterTag position content opened = .ok now) :
    Fits opened position ('[' :: content ++ ']' :: tail) ↔
      Fits now (position + content.length + 2) tail := by
  have hskip : piecesFrom (position + 1) (content.length + 1) (content ++ ']' :: tail) =
      piecesFrom (position + content.length + 2) 0 tail := by
    have hpieces := piecesFrom_skip (content ++ [']']) tail (position + 1)
    simp only [List.length_append, List.length_singleton, List.append_assoc,
      List.singleton_append] at hpieces
    rw [hpieces]
    congr 1
    omega
  have hpieces : piecesFrom position 0 ('[' :: content ++ ']' :: tail) =
      .literal [] :: .tag position content ::
        piecesFrom (position + content.length + 2) 0 tail := by
    rw [← hskip, List.cons_append, piecesFrom, List.takeWhile_cons_of_neg (by decide)]
    rw [List.cons_append] at hcontent
    simp only [List.length_nil, List.drop_zero, hcontent, tagPieces, Nat.zero_add]
    rfl
  have htext (rest : List Piece) : textOf opened (.literal [] :: .tag position content :: rest) =
      (textOf now rest).map (withEmoji [] ++ ·) := by
    rw [textOf, textOf, hnow]
    rfl
  unfold Fits
  rw [hpieces, htext]
  cases textOf now (piecesFrom (position + content.length + 2) 0 tail) <;> simp [Except.map]

/-- The content of a tag that stands for a style: it begins like a tag, has neither parameters nor
white space around it, and its normal form is the name. -/
structure IsTag (content : List Char) (name : String) : Prop where
  starts : content.head?.any startsTag = true
  simple : (content.all fun c => c != '[' && c != ']' && c != '=' && c != '/') = true
  visible : Text.isBlankText (String.ofList content) = false
  trimmed : Text.trim content = content
  named : (normalName content).toOption = some name

instance (content : List Char) (name : String) : Decidable (IsTag content name) :=
  decidable_of_iff (content.head?.any startsTag = true ∧
      (content.all fun c => c != '[' && c != ']' && c != '=' && c != '/') = true ∧
      Text.isBlankText (String.ofList content) = false ∧ Text.trim content = content ∧
      (normalName content).toOption = some name)
    ⟨fun ⟨h1, h2, h3, h4, h5⟩ => ⟨h1, h2, h3, h4, h5⟩, fun ⟨h1, h2, h3, h4, h5⟩ => ⟨h1, h2, h3, h4, h5⟩⟩

namespace IsTag

variable {content : List Char} {name : String}

theorem normal (h : IsTag content name) : normalName content = .ok name := by
  have hnamed := h.named
  cases hnormal : normalName content with
  | ok found =>
    rw [hnormal] at hnamed
    exact congrArg Except.ok (Option.some.inj hnamed)
  | error fault =>
    rw [hnormal] at hnamed
    cases hnamed

theorem mem (h : IsTag content name) {c : Char} (hmem : c ∈ content) :
    c ≠ '[' ∧ c ≠ ']' ∧ c ≠ '=' ∧ c ≠ '/' := by
  simpa [and_assoc] using List.all_eq_true.mp h.simple c hmem

end IsTag

/-- What begins like a tag and has no brackets in it is the content of a tag. -/
theorem tagContent?_eq {c : Char} {inner : List Char} (hstarts : startsTag c = true)
    (hinner : ∀ d ∈ inner, d ≠ '[' ∧ d ≠ ']') (tail : List Char) :
    tagContent? ('[' :: (c :: inner) ++ ']' :: tail) = some (c :: inner) := by
  have hspan : (inner ++ ']' :: tail).takeWhile (fun d => d != '[' && d != ']') = inner := by
    rw [List.takeWhile_append_of_pos fun d hmem => by simpa using hinner d hmem]
    rw [List.takeWhile_cons_of_neg (by decide), List.append_nil]
  rw [List.cons_append, List.cons_append, tagContent?]
  simp only [hspan, hstarts]
  rw [if_pos (by simp)]

namespace IsTag

variable {content : List Char} {name : String}

theorem tagContent?_opening (h : IsTag content name) (tail : List Char) :
    tagContent? ('[' :: content ++ ']' :: tail) = some content := by
  have hstarts := h.starts
  cases content with
  | nil => cases hstarts
  | cons c inner =>
    refine tagContent?_eq hstarts (fun d hmem => ?_) tail
    obtain ⟨hopen, hclose, -⟩ := h.mem (List.mem_cons_of_mem c hmem)
    exact ⟨hopen, hclose⟩

theorem tagContent?_closing (h : IsTag content name) (tail : List Char) :
    tagContent? ('[' :: ('/' :: content) ++ ']' :: tail) = some ('/' :: content) := by
  refine tagContent?_eq (by decide) (fun d hmem => ?_) tail
  obtain ⟨hopen, hclose, -⟩ := h.mem hmem
  exact ⟨hopen, hclose⟩

theorem takeWhile_eq (h : IsTag content name) : content.takeWhile (· != '=') = content := by
  have hspan : (content ++ []).takeWhile (· != '=') = content ++ [].takeWhile (· != '=') :=
    List.takeWhile_append_of_pos fun c hmem => by simpa using (h.mem hmem).2.2.1
  simpa using hspan

theorem afterTag_opening (h : IsTag content name) (position : Nat) (opened : List String) :
    afterTag position content opened = .ok (name :: opened) := by
  unfold afterTag
  rw [h.takeWhile_eq]
  split
  · exact absurd rfl (h.mem List.mem_cons_self).2.2.2
  · rw [h.normal]
    rfl

theorem afterTag_closing (h : IsTag content name) (hopen : name ∈ opened) (position : Nat) :
    afterTag position ('/' :: content) opened = .ok (opened.erase name) := by
  unfold afterTag
  rw [List.takeWhile_cons_of_pos (by decide), h.takeWhile_eq]
  show (if Text.isBlankText (String.ofList content) = true then _ else _) = _
  rw [if_neg (by simp [h.visible]), h.trimmed, h.normal]
  show (if opened.contains name = true then _ else _) = _
  rw [if_pos (by simpa using hopen)]
  rfl

end IsTag

theorem Passes.tagged {content : List Char} {name : String} (htag : IsTag content name)
    (h : Passes s) : Passes ('[' :: content ++ ']' :: s ++ '[' :: ('/' :: content) ++ [']']) := by
  intro opened position tail
  have hshape : '[' :: content ++ ']' :: s ++ '[' :: ('/' :: content) ++ [']'] ++ tail =
      '[' :: content ++ ']' :: (s ++ ('[' :: ('/' :: content) ++ ']' :: tail)) := by simp
  rw [hshape, fits_tag (htag.tagContent?_opening _) (htag.afterTag_opening _ _), h,
    fits_tag (htag.tagContent?_closing _) (htag.afterTag_closing List.mem_cons_self _),
    List.erase_cons_head]
  have hlength : position + content.length + 2 + s.length + ('/' :: content).length + 2 =
      position + ('[' :: content ++ ']' :: s ++ '[' :: ('/' :: content) ++ [']']).length := by
    simp only [List.length_cons, List.length_append, List.length_nil]
    omega
  rw [hlength]

/-! ## A text up to its closing tag -/

section Closed

variable {content : List Char} {name : String}

/-- Backslashes before a closing tag are halved, and one that is left over makes it text. -/
theorem fits_backslashes (htag : IsTag content name) (hopen : name ∈ opened) {c : Char}
    (h : ∀ d ∈ c :: s, d = '\\') :
    Fits opened position (c :: s ++ ('[' :: ('/' :: content) ++ [']'])) := by
  have hfront : (c :: s ++ ('[' :: ('/' :: content) ++ [']'])).takeWhile (· == '\\') = c :: s := by
    have hstop : ('[' :: ('/' :: content) ++ [']']).takeWhile (· == '\\') = [] :=
      List.takeWhile_cons_of_neg (by decide)
    rw [List.takeWhile_append_of_pos fun d hmem => by simpa using h d hmem, hstop, List.append_nil]
  have hskip : piecesFrom (position + 1) ((c :: s).length + ('/' :: content).length + 1)
      (s ++ ('[' :: ('/' :: content) ++ [']'])) = [] := by
    have hall := piecesFrom_skip (s ++ ('[' :: ('/' :: content) ++ [']'])) [] (position + 1)
    rw [List.append_nil] at hall
    rw [← show (s ++ ('[' :: ('/' :: content) ++ [']'])).length =
      (c :: s).length + ('/' :: content).length + 1 by simp; omega, hall]
    rfl
  have hpieces : piecesFrom position 0 (c :: s ++ ('[' :: ('/' :: content) ++ [']'])) =
      tagPieces position (c :: s).length ('/' :: content) := by
    rw [List.cons_append, piecesFrom, ← List.cons_append, hfront, List.drop_left,
      htag.tagContent?_closing []]
    simp only [hskip, List.append_nil]
  unfold Fits
  rw [hpieces, tagPieces]
  split
  · exact ⟨_, rfl⟩
  · rw [textOf, textOf, htag.afterTag_closing hopen]
    exact ⟨_, rfl⟩

/-- A text without an opening bracket fits up to the tag that closes an open one. -/
theorem fits_closed (htag : IsTag content name) (hopen : name ∈ opened) (h : '[' ∉ s)
    (position : Nat) : Fits opened position (s ++ ('[' :: ('/' :: content) ++ [']'])) := by
  induction s generalizing position with
  | nil =>
    exact (fits_tag (htag.tagContent?_closing []) (htag.afterTag_closing hopen _)).mpr fits_nil
  | cons c rest ih =>
    cases hbehind : (c :: rest).dropWhile (· == '\\') with
    | nil =>
      exact fits_backslashes htag hopen fun d hmem => by
        simpa using List.dropWhile_eq_nil_iff.mp hbehind d hmem
    | cons d more =>
      have hmem : d ∈ c :: rest :=
        ((c :: rest).dropWhile_suffix (· == '\\')).subset (hbehind ▸ List.mem_cons_self)
      have hnone : tagContent? ((c :: (rest ++ ('[' :: ('/' :: content) ++ [']']))).dropWhile
          (· == '\\')) = none := by
        rw [← List.cons_append, List.dropWhile_append, hbehind]
        exact tagContent?_cons fun heq => h (heq ▸ hmem)
      exact (fits_cons hnone).mpr (ih (fun hrest => h (List.mem_cons_of_mem c hrest)) _)

/-- A text without an opening bracket can be shown between a tag and the tag that closes it. -/
theorem fits_enclosed (htag : IsTag content name) (h : '[' ∉ s) :
    Fits opened position ('[' :: content ++ ']' :: (s ++ ('[' :: ('/' :: content) ++ [']']))) :=
  (fits_tag (htag.tagContent?_opening _) (htag.afterTag_opening _ _)).mpr
    (fits_closed htag List.mem_cons_self h _)

end Closed

end CommitStyle.Markup
