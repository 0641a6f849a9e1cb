import CommitStyle.KeyFile.Statements
import CommitStyle.Proofs.Text.Trimming
import Mathlib.Data.List.Infix
import Mathlib.Data.List.TakeWhile

/-! Scanners look no further than the end of a line, but for those that look for a closing
quote. Where a text is put behind a line end in place of another, a scanner that stopped
in front of it stops there still and one that failed still fails, as long as quotes that
were left open, for want of a closing one, still are; a text without quotes sees to that.
What a scanner leaves of a text is the end of it. -/

namespace CommitStyle.KeyFile

variable {α β : Type} {front rest other s : List Char}

/-! ## Line ends and quotes -/

/-- A text that begins where a line ends. -/
def AtLineEnd (s : List Char) : Prop := s = [] ∨ ∃ behind, s = '\n' :: behind

theorem atLineEnd_nil : AtLineEnd [] := .inl rfl

theorem atLineEnd_feed (s : List Char) : AtLineEnd ('\n' :: s) := .inr ⟨s, rfl⟩

theorem AtLineEnd.head (h : AtLineEnd rest) {c : Char} (hc : c ∈ rest.head?) : c = '\n' := by
  obtain rfl | ⟨behind, rfl⟩ := h
  · cases hc
  · exact (Option.some.inj hc).symm

theorem dropWhile_lineEnd (s : List Char) : AtLineEnd (s.dropWhile (· != '\n')) := by
  cases hs : s.dropWhile (· != '\n') with
  | nil => exact atLineEnd_nil
  | cons c behind =>
    have hc := List.head?_dropWhile_not (· != '\n') s
    rw [hs] at hc
    obtain rfl : c = '\n' := by simpa using hc
    exact atLineEnd_feed behind

/-- The quotes that a value can stand in. -/
def IsQuote (c : Char) : Prop := c = '\x27' ∨ c = '"'

theorem IsQuote.ne_feed {quote : Char} (h : IsQuote quote) : '\n' ≠ quote := by
  obtain rfl | rfl := h <;> decide

/-- Quotes that find no closing one in the first text find none in the second. -/
structure LeavesOpen (s t : List Char) : Prop where
  names : '\x27' ∉ s → '\x27' ∉ t
  values : ∀ quote, IsQuote quote → upToQuote? quote s = none → upToQuote? quote t = none

section Quoted

variable {quote c : Char}

theorem upToQuote?_close (s : List Char) : upToQuote? quote (quote :: s) = some ([], s) := by
  rw [upToQuote?.eq_def]
  simp

/-- A character after a backslash closes nothing. -/
theorem upToQuote?_pair (hquote : '\\' ≠ quote) (d : Char) (s : List Char) :
    upToQuote? quote ('\\' :: d :: s) =
      (upToQuote? quote s).map fun (text, rest) => ('\\' :: d :: text, rest) := by
  rw [upToQuote?.eq_def]
  simp [hquote]

theorem upToQuote?_cons (hquote : c ≠ quote) (hc : c ≠ '\\') (s : List Char) :
    upToQuote? quote (c :: s) =
      (upToQuote? quote s).map fun (text, rest) => (c :: text, rest) := by
  rw [upToQuote?.eq_def]
  simp [hquote, hc]

end Quoted

theorem IsQuote.ne_backslash {quote : Char} (h : IsQuote quote) : '\\' ≠ quote := by
  obtain rfl | rfl := h <;> decide

theorem upToQuote?_feed_eq_none {quote : Char} (h : IsQuote quote) :
    upToQuote? quote ('\n' :: s) = none ↔ upToQuote? quote s = none := by
  rw [upToQuote?_cons h.ne_feed (by decide), Option.map_eq_none_iff]

/-- A backslash at the end of a line takes up no quote. -/
theorem upToQuote?_backslash {quote : Char} (hquote : IsQuote quote) (h : AtLineEnd rest) :
    upToQuote? quote ('\\' :: rest) =
      (upToQuote? quote rest).map fun (text, left) => ('\\' :: text, left) := by
  obtain rfl | ⟨behind, rfl⟩ := h
  · rw [upToQuote?.eq_def]
    simp [hquote.ne_backslash, upToQuote?]
  · rw [upToQuote?_pair hquote.ne_backslash, upToQuote?_cons hquote.ne_feed (by decide),
      Option.map_map]
    rfl

theorem LeavesOpen.feed (h : LeavesOpen rest other) :
    LeavesOpen ('\n' :: rest) ('\n' :: other) := by
  refine ⟨?_, ?_⟩
  · simpa using h.names
  · intro quote hquote
    rw [upToQuote?_feed_eq_none hquote, upToQuote?_feed_eq_none hquote]
    exact h.values quote hquote

/-! ## Scanners that stay on their line -/

theorem takeWhile_front {ofClass : Char → Bool} (hclass : ofClass '\n' = false)
    (h : AtLineEnd rest) (front : List Char) :
    (front ++ rest).takeWhile ofClass = front.takeWhile ofClass := by
  induction front with
  | nil =>
    obtain rfl | ⟨behind, rfl⟩ := h
    · rfl
    · simp [hclass]
  | cons c more ih => simp only [List.cons_append, List.takeWhile_cons, ih]

theorem dropWhile_front {ofClass : Char → Bool} (hclass : ofClass '\n' = false)
    (h : AtLineEnd rest) (front : List Char) :
    (front ++ rest).dropWhile ofClass = front.dropWhile ofClass ++ rest := by
  induction front with
  | nil =>
    obtain rfl | ⟨behind, rfl⟩ := h
    · rfl
    · simp [hclass]
  | cons c more ih =>
    simp only [List.cons_append, List.dropWhile_cons, ih]
    split <;> rfl

theorem skipInline_front (h : AtLineEnd rest) (front : List Char) :
    skipInline (front ++ rest) = skipInline front ++ rest := dropWhile_front rfl h front

theorem head?_front (h : AtLineEnd rest) {c : Char} (hc : c ≠ '\n') :
    (front ++ rest).head? = some c ↔ front.head? = some c := by
  cases front with
  | nil =>
    obtain rfl | ⟨behind, rfl⟩ := h
    · exact Iff.rfl
    · simp [Ne.symm hc]
  | cons d more => exact Iff.rfl

theorem toLineEnd_front (h : AtLineEnd rest) (front : List Char) :
    (front ++ rest).dropWhile (· != '\n') = front.dropWhile (· != '\n') ++ rest :=
  dropWhile_front (by simp) h front

theorem skipComment_front (h : AtLineEnd rest) (front : List Char) :
    skipComment (front ++ rest) = skipComment front ++ rest := by
  have hhead : ((skipInline front ++ rest).head? == some '#') =
      ((skipInline front).head? == some '#') := by
    rw [Bool.eq_iff_iff, beq_iff_eq, beq_iff_eq]
    exact head?_front h (by decide)
  simp only [skipComment, skipInline_front h, hhead, toLineEnd_front h]
  split <;> rfl

theorem isPrefixOf_front {word : List Char} (hword : '\n' ∉ word) (h : AtLineEnd rest)
    (front : List Char) : word.isPrefixOf (front ++ rest) = word.isPrefixOf front := by
  induction word generalizing front with
  | nil => rfl
  | cons c more ih =>
    obtain ⟨hc, hmore⟩ := not_or.mp (mt List.mem_cons.mpr hword)
    cases front with
    | nil =>
      obtain rfl | ⟨behind, rfl⟩ := h
      · rfl
      · have hne : (c == '\n') = false := by simpa using Ne.symm hc
        simp [List.isPrefixOf, hne]
    | cons d left => simp only [List.cons_append, List.isPrefixOf_cons_cons, ih hmore]

theorem skipExport_front (h : AtLineEnd rest) (front : List Char) :
    skipExport (front ++ rest) = skipExport front ++ rest := by
  unfold skipExport
  rw [isPrefixOf_front (by decide) h]
  split
  · rename_i hexport
    have hlength : 6 ≤ front.length := (List.isPrefixOf_iff_prefix.mp hexport).length_le
    dsimp only
    rw [List.drop_append_of_le_length hlength, skipInline_front h, List.length_append,
      List.length_append]
    simp only [Nat.add_lt_add_iff_right]
    split <;> rfl
  · rfl

theorem run?_front {ofClass : Char → Bool} (hclass : ofClass '\n' = false) (h : AtLineEnd rest)
    (front : List Char) : run? ofClass (front ++ rest) =
      (run? ofClass front).map fun (run, left) => (run, left ++ rest) := by
  unfold run?
  dsimp only
  rw [takeWhile_front hclass h]
  have hlength := (List.takeWhile_sublist ofClass (l := front)).length_le
  split
  · rfl
  · simp [List.drop_append_of_le_length hlength]

/-! ## Scanners that may cross lines -/

/-- The same reading with `other` behind in place of `rest`: it fails as before, or stops at the
same place with the same result, unless it went on beyond the beginning of `rest`. -/
inductive Steady (rest other : List Char) :
    Option (α × List Char) → Option (α × List Char) → Prop
  | fails : Steady rest other none none
  | stops (a : α) (left : List Char) :
      Steady rest other (some (a, left ++ rest)) (some (a, left ++ other))
  | beyond {a : α} {left : List Char} (h : left.length < rest.length)
      (result : Option (α × List Char)) : Steady rest other (some (a, left)) result

namespace Steady

theorem map {x y : Option (α × List Char)} (h : Steady rest other x y) (f : α → β) :
    Steady rest other (x.map fun (a, left) => (f a, left))
      (y.map fun (a, left) => (f a, left)) := by
  cases h with
  | fails => exact .fails
  | stops a left => exact .stops (f a) left
  | beyond hbeyond result => exact .beyond hbeyond _

/-- A scanner that stays in front stops at the same place. -/
theorem of_front (x : Option (α × List Char)) :
    Steady rest other (x.map fun (a, left) => (a, left ++ rest))
      (x.map fun (a, left) => (a, left ++ other)) := by
  cases x with
  | none => exact .fails
  | some result => exact .stops result.1 result.2

theorem eq_none {x y : Option (α × List Char)} (h : Steady rest other x y) (hx : x = none) :
    y = none := by
  cases h with
  | fails => rfl
  | stops a left => cases hx
  | beyond hbeyond result => cases hx

end Steady

/-- A name in quotes has a character at least. -/
theorem name?_quoted {name : List Char} (hname : '\x27' ∉ name) (left : List Char) :
    name? ('\x27' :: (name ++ '\x27' :: left)) =
      if name.isEmpty then none else some (some name, left) := by
  have hall : ∀ c ∈ name, (c != '\x27') = true := by
    intro c hc
    exact bne_iff_ne.mpr fun heq => hname (heq ▸ hc)
  have htake : (name ++ '\x27' :: left).takeWhile (· != '\x27') = name := by
    rw [List.takeWhile_append_of_pos hall]
    simp
  simp only [name?, run?, htake, List.drop_left]
  cases name <;> rfl

theorem name?_open (h : '\x27' ∉ s) : name? ('\x27' :: s) = none := by
  have hall : ∀ c ∈ s, (c != '\x27') = true := by
    intro c hc
    exact bne_iff_ne.mpr fun heq => h (heq ▸ hc)
  simp only [name?, run?, List.takeWhile_eq_self_iff.mpr hall, List.drop_length]
  cases s <;> rfl

theorem name?_bare (hcomment : s.head? ≠ some '#') (hquoted : s.head? ≠ some '\x27') :
    name? s = (run? isNameChar s).map fun (name, left) => (some name, left) := by
  unfold name?
  split
  · simp at hcomment
  · simp at hquoted
  · rfl

theorem value?_bare (hsingle : s.head? ≠ some '\x27') (hdouble : s.head? ≠ some '"') :
    value? s = some (Text.trimEnd (withoutComment (s.takeWhile (· != '\n'))),
      s.dropWhile (· != '\n')) := by
  unfold value?
  split
  · simp at hsingle
  · simp at hdouble
  · simp only [Text.drop_takeWhile]

theorem assigned?_front (h : AtLineEnd rest) (front : List Char) :
    assigned? (front ++ rest) =
      if (skipInline front).head? = some '#' ∧ (skipInline front).length < front.length then
        some ([], skipInline front ++ rest)
      else value? (skipInline front ++ rest) := by
  simp only [assigned?, skipInline_front h, List.length_append, Nat.add_lt_add_iff_right,
    Bool.and_eq_true, beq_iff_eq, decide_eq_true_eq, head?_front h (show '#' ≠ '\n' by decide)]

section Crossing

variable (hrest : AtLineEnd rest) (hother : AtLineEnd other) (hopen : LeavesOpen rest other)
include hopen

/-- A quote that is still open where the front ends. -/
theorem steady_openQuote {quote : Char} (hquote : IsQuote quote) :
    Steady rest other (upToQuote? quote rest) (upToQuote? quote other) := by
  cases hfound : upToQuote? quote rest with
  | none =>
    rw [hopen.values quote hquote hfound]
    exact .fails
  | some result => exact .beyond (length_upToQuote?_lt hfound) _

include hrest

theorem steady_quotedName (front : List Char) :
    Steady rest other (name? ('\x27' :: (front ++ rest))) (name? ('\x27' :: (front ++ other))) := by
  by_cases hfront : '\x27' ∈ front
  · obtain ⟨name, left, rfl, hname⟩ := List.eq_append_cons_of_mem hfront
    rw [List.append_assoc, List.append_assoc, List.cons_append, List.cons_append,
      name?_quoted hname, name?_quoted hname]
    split
    · exact .fails
    · exact .stops _ _
  by_cases hbehind : '\x27' ∈ rest
  · obtain ⟨more, left, rfl, hmore⟩ := List.eq_append_cons_of_mem hbehind
    have hnonempty : more ≠ [] := by
      rintro rfl
      exact absurd (hrest.head rfl) (by decide)
    rw [← List.append_assoc, name?_quoted (by simp [hfront, hmore])]
    rw [if_neg (by simp [hnonempty])]
    exact .beyond (by simp; omega) _
  · have hothers := hopen.names hbehind
    rw [name?_open (by simp [hfront, hbehind]), name?_open (by simp [hfront, hothers])]
    exact .fails

include hother

theorem steady_upToQuote? {quote : Char} (hquote : IsQuote quote) (front : List Char) :
    Steady rest other (upToQuote? quote (front ++ rest)) (upToQuote? quote (front ++ other)) := by
  fun_induction upToQuote? quote front with
  | case1 => exact steady_openQuote hopen hquote
  | case2 c more hc =>
    obtain rfl := beq_iff_eq.mp hc
    rw [List.cons_append, List.cons_append, upToQuote?_close, upToQuote?_close]
    exact .stops [] more
  | case3 c hc hbackslash =>
    obtain rfl := beq_iff_eq.mp hbackslash
    simp only [List.cons_append, List.nil_append, upToQuote?_backslash hquote hrest,
      upToQuote?_backslash hquote hother]
    exact (steady_openQuote hopen hquote).map ('\\' :: ·)
  | case4 c hc hbackslash d more ih =>
    obtain rfl := beq_iff_eq.mp hbackslash
    have hne := hquote.ne_backslash
    simp only [List.cons_append, upToQuote?_pair hne]
    exact ih.map fun text => '\\' :: d :: text
  | case5 c more hc hbackslash ih =>
    have hne : c ≠ quote := by simpa using hc
    have hplain : c ≠ '\\' := by simpa using hbackslash
    simp only [List.cons_append, upToQuote?_cons hne hplain]
    exact ih.map (c :: ·)

theorem steady_name? (front : List Char) :
    Steady rest other (name? (front ++ rest)) (name? (front ++ other)) := by
  by_cases hcomment : front.head? = some '#'
  · obtain ⟨more, rfl⟩ := List.head?_eq_some_iff.mp hcomment
    exact .stops none ('#' :: more)
  by_cases hquoted : front.head? = some '\x27'
  · obtain ⟨more, rfl⟩ := List.head?_eq_some_iff.mp hquoted
    exact steady_quotedName hrest hopen more
  have hbare {t : List Char} (h : AtLineEnd t) : name? (front ++ t) =
      ((run? isNameChar front).map fun (name, left) => (name, left ++ t)).map
        fun (name, left) => (some name, left) := by
    rw [name?_bare (mt (head?_front h (by decide)).mp hcomment)
      (mt (head?_front h (by decide)).mp hquoted), run?_front rfl h]
  rw [hbare hrest, hbare hother]
  exact (Steady.of_front (run? isNameChar front)).map some

theorem steady_value? (front : List Char) :
    Steady rest other (value? (front ++ rest)) (value? (front ++ other)) := by
  by_cases hsingle : front.head? = some '\x27'
  · obtain ⟨more, rfl⟩ := List.head?_eq_some_iff.mp hsingle
    exact (steady_upToQuote? hrest hother hopen (.inl rfl) more).map (unescape singleQuoteEscapes)
  by_cases hdouble : front.head? = some '"'
  · obtain ⟨more, rfl⟩ := List.head?_eq_some_iff.mp hdouble
    exact (steady_upToQuote? hrest hother hopen (.inr rfl) more).map (unescape doubleQuoteEscapes)
  have hbare {t : List Char} (h : AtLineEnd t) : value? (front ++ t) =
      some (Text.trimEnd (withoutComment (front.takeWhile (· != '\n'))),
        front.dropWhile (· != '\n') ++ t) := by
    rw [value?_bare (mt (head?_front h (by decide)).mp hsingle)
      (mt (head?_front h (by decide)).mp hdouble), takeWhile_front (by simp) h,
      toLineEnd_front h]
  rw [hbare hrest, hbare hother]
  exact .stops _ _

theorem steady_assigned? (front : List Char) :
    Steady rest other (assigned? (front ++ rest)) (assigned? (front ++ other)) := by
  rw [assigned?_front hrest, assigned?_front hother]
  split
  · exact .stops _ _
  · exact steady_value? hrest hother hopen (skipInline front)

end Crossing

/-! ## Quotes that stay open -/

theorem LeavesOpen.refl (s : List Char) : LeavesOpen s s := ⟨id, fun _ _ => id⟩

/-- Quotes that were left open in a text were left open behind each line of it. -/
theorem upToQuote?_behind {quote : Char} (hquote : IsQuote quote) (s : List Char) {t : List Char}
    (h : upToQuote? quote (s ++ '\n' :: t) = none) : upToQuote? quote t = none := by
  fun_induction upToQuote? quote s with
  | case1 => exact (upToQuote?_feed_eq_none hquote).mp h
  | case2 c more hc =>
    rw [beq_iff_eq.mp hc, List.cons_append, upToQuote?_close] at h
    cases h
  | case3 c hc hbackslash =>
    obtain rfl := beq_iff_eq.mp hbackslash
    rw [List.cons_append, List.nil_append, upToQuote?_pair hquote.ne_backslash] at h
    exact Option.map_eq_none_iff.mp h
  | case4 c hc hbackslash d more ih =>
    obtain rfl := beq_iff_eq.mp hbackslash
    rw [List.cons_append, List.cons_append, upToQuote?_pair hquote.ne_backslash] at h
    exact ih (Option.map_eq_none_iff.mp h)
  | case5 c more hc hbackslash ih =>
    rw [List.cons_append, upToQuote?_cons (by simpa using hc) (by simpa using hbackslash)] at h
    exact ih (Option.map_eq_none_iff.mp h)

/-- A text that opens and closes no quote. -/
structure Unquoted (s : List Char) : Prop where
  quotes : ∀ quote, IsQuote quote → quote ∉ s
  backslash : '\\' ∉ s

theorem Unquoted.upToQuote?_append {quote : Char} (h : Unquoted s) (hquote : IsQuote quote)
    (t : List Char) : upToQuote? quote (s ++ t) = none ↔ upToQuote? quote t = none := by
  obtain ⟨hquotes, hbackslash⟩ := h
  have hnot := hquotes quote hquote
  induction s with
  | nil => exact Iff.rfl
  | cons c rest ih =>
    simp only [List.mem_cons, not_or] at hnot hbackslash
    rw [List.cons_append, upToQuote?_cons (Ne.symm hnot.1) (Ne.symm hbackslash.1),
      Option.map_eq_none_iff]
    exact ih (fun quote hquote hmem => hquotes quote hquote (List.mem_cons_of_mem c hmem))
      hbackslash.2 hnot.2

theorem LeavesOpen.append (h : LeavesOpen rest other) (hrest : AtLineEnd rest)
    (hother : AtLineEnd other) (front : List Char) :
    LeavesOpen (front ++ rest) (front ++ other) := by
  refine ⟨?_, fun quote hquote => ?_⟩
  · simp only [List.mem_append, not_or]
    exact fun hnames => ⟨hnames.1, h.names hnames.2⟩
  · exact (steady_upToQuote? hrest hother h hquote front).eq_none

/-- What stands on the lines in front may give way to a text without quotes. -/
theorem LeavesOpen.replace_front {line t : List Char} (h : LeavesOpen (rest.drop 1) t)
    (hrest : AtLineEnd rest) (hline : Unquoted line) (front : List Char) :
    LeavesOpen (front ++ rest) (line ++ t) := by
  have hnoQuote := hline.quotes '\x27' (.inl rfl)
  refine ⟨fun hnames => ?_, fun quote hquote hnone => ?_⟩
  · have hbehind : '\x27' ∉ rest.drop 1 := fun hmem =>
      hnames (List.mem_append_right front (List.mem_of_mem_drop hmem))
    simp [hnoQuote, h.names hbehind]
  · rw [hline.upToQuote?_append hquote]
    refine h.values quote hquote ?_
    obtain rfl | ⟨behind, rfl⟩ := hrest
    · rfl
    · exact upToQuote?_behind hquote front hnone

/-- Behind a line end, a text without quotes leaves open what was open. -/
theorem Unquoted.leavesOpen {t : List Char} (ht : Unquoted t) : LeavesOpen [] ('\n' :: t) := by
  refine ⟨fun _ => ?_, fun quote hquote _ => ?_⟩
  · simpa using ht.quotes '\x27' (.inl rfl)
  · rw [upToQuote?_feed_eq_none hquote, ← List.append_nil t, ht.upToQuote?_append hquote]
    rfl

/-! ## What is left of a text -/

theorem skipInline_suffix (s : List Char) : skipInline s <:+ s := List.dropWhile_suffix _

theorem skipExport_suffix (s : List Char) : skipExport s <:+ s := by
  unfold skipExport
  dsimp only
  split
  · split
    · exact (skipInline_suffix _).trans (List.drop_suffix 6 s)
    · exact List.suffix_refl s
  · exact List.suffix_refl s

theorem suffix_of_run? {ofClass : Char → Bool} {run : List Char}
    (h : run? ofClass s = some (run, rest)) : rest <:+ s := by
  unfold run? at h
  dsimp only at h
  split at h
  · cases h
  · obtain ⟨-, rfl⟩ := Prod.mk.inj (Option.some.inj h)
    exact List.drop_suffix _ s

theorem suffix_of_name? {name : Option (List Char)} (h : name? s = some (name, rest)) :
    rest <:+ s := by
  unfold name? at h
  split at h
  · obtain ⟨-, rfl⟩ := Prod.mk.inj (Option.some.inj h)
    exact List.suffix_refl _
  · split at h
    · rename_i hrun
      obtain ⟨-, rfl⟩ := Prod.mk.inj (Option.some.inj h)
      exact ((List.suffix_cons _ _).trans (suffix_of_run? hrun)).trans (List.suffix_cons _ _)
    · cases h
  · obtain ⟨⟨run, left⟩, hrun, heq⟩ := Option.map_eq_some_iff.mp h
    obtain ⟨-, rfl⟩ := Prod.mk.inj heq
    exact suffix_of_run? hrun

/-- A closing quote stands between the text in quotes and what is left. -/
theorem eq_of_upToQuote? {quote : Char} {text : List Char}
    (h : upToQuote? quote s = some (text, rest)) : s = text ++ quote :: rest := by
  fun_induction upToQuote? quote s generalizing text with
  | case1 => cases h
  | case2 c more hc =>
    cases h
    rw [beq_iff_eq.mp hc]
    rfl
  | case3 => cases h
  | case4 c hc hbackslash d more ih =>
    obtain ⟨⟨inner, left⟩, hinner, heq⟩ := Option.map_eq_some_iff.mp h
    cases heq
    rw [ih hinner]
    rfl
  | case5 c more hc hbackslash ih =>
    obtain ⟨⟨inner, left⟩, hinner, heq⟩ := Option.map_eq_some_iff.mp h
    cases heq
    rw [ih hinner]
    rfl

/-- A value stands in quotes, or it goes to the end of the line. -/
theorem value?_cases {value : List Char} (h : value? s = some (value, rest)) :
    (∃ quote text, s = quote :: (text ++ quote :: rest) ∧
      (value = unescape singleQuoteEscapes text ∨ value = unescape doubleQuoteEscapes text)) ∨
    (value = Text.trimEnd (withoutComment (s.takeWhile (· != '\n'))) ∧
      rest = s.dropWhile (· != '\n')) := by
  unfold value? at h
  split at h
  · obtain ⟨⟨text, left⟩, htext, heq⟩ := Option.map_eq_some_iff.mp h
    cases heq
    exact .inl ⟨'\x27', text, congrArg _ (eq_of_upToQuote? htext), .inl rfl⟩
  · obtain ⟨⟨text, left⟩, htext, heq⟩ := Option.map_eq_some_iff.mp h
    cases heq
    exact .inl ⟨'"', text, congrArg _ (eq_of_upToQuote? htext), .inr rfl⟩
  · obtain ⟨rfl, rfl⟩ := Prod.mk.inj (Option.some.inj h)
    exact .inr ⟨rfl, Text.drop_takeWhile _ s⟩

theorem suffix_of_value? {value : List Char} (h : value? s = some (value, rest)) : rest <:+ s := by
  obtain ⟨quote, text, rfl, -⟩ | ⟨-, rfl⟩ := value?_cases h
  · exact (List.suffix_cons _ _).trans ((List.suffix_append text _).trans (List.suffix_cons _ _))
  · exact List.dropWhile_suffix _

theorem suffix_of_assigned? {value : List Char} (h : assigned? s = some (value, rest)) :
    rest <:+ s := by
  unfold assigned? at h
  dsimp only at h
  split at h
  · obtain ⟨-, rfl⟩ := Prod.mk.inj (Option.some.inj h)
    exact skipInline_suffix s
  · exact (suffix_of_value? h).trans (skipInline_suffix s)

/-- The place that is reached behind the value, or where reading stops. -/
def placeOf : Except (List Char) (α × List Char) → List Char
  | .error stop => stop
  | .ok (_, here) => here

theorem suffix_of_valuePart (s : List Char) : placeOf (valuePart s) <:+ s := by
  unfold valuePart
  split
  · rename_i more
    split
    · rename_i hvalue
      exact (suffix_of_assigned? hvalue).trans (List.suffix_cons _ _)
    · exact (skipInline_suffix more).trans (List.suffix_cons _ _)
  · exact List.suffix_refl s

end CommitStyle.KeyFile
