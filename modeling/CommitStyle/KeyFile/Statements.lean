import CommitStyle.KeyFile.Binding

/-! The statements of a text. Reading a statement takes up at least one character,
whether it succeeds or a line is skipped, so a text has finitely many of them. -/

namespace CommitStyle.KeyFile

theorem length_skipInline_le (s : List Char) : (skipInline s).length ≤ s.length :=
  (List.dropWhile_sublist _).length_le

theorem length_afterLine_le (s : List Char) : (afterLine s).length ≤ s.length - 1 := by
  have h : (s.dropWhile (· != '\n')).length ≤ s.length := (List.dropWhile_sublist _).length_le
  simp only [afterLine, List.length_drop]
  omega

theorem length_skipExport_le (s : List Char) : (skipExport s).length ≤ s.length := by
  have h := length_skipInline_le (s.drop 6)
  simp only [List.length_drop] at h
  simp only [skipExport]
  repeat' split
  all_goals omega

theorem length_run?_lt {ofClass : Char → Bool} {s run rest : List Char}
    (h : run? ofClass s = some (run, rest)) : rest.length < s.length := by
  simp only [run?] at h
  split at h
  · simp at h
  · rename_i hne
    simp only [Option.some.injEq, Prod.mk.injEq] at h
    obtain ⟨-, rfl⟩ := h
    have hle : (s.takeWhile ofClass).length ≤ s.length := (List.takeWhile_sublist _).length_le
    have : 0 < (s.takeWhile ofClass).length := by
      cases hs : s.takeWhile ofClass <;> simp_all
    simp only [List.length_drop]
    omega

/-- A name takes up at least one character; without a name a comment begins. -/
theorem length_name?_lt {s rest : List Char} {name : Option (List Char)}
    (h : name? s = some (name, rest)) :
    rest.length < s.length ∨ (rest = s ∧ s.head? = some '#') := by
  unfold name? at h
  split at h
  · simp only [Option.some.injEq, Prod.mk.injEq] at h
    exact .inr ⟨h.2.symm, rfl⟩
  · split at h
    · rename_i hrun
      have := length_run?_lt hrun
      simp only [Option.some.injEq, Prod.mk.injEq] at h
      obtain ⟨-, rfl⟩ := h
      simp only [List.length_cons] at this ⊢
      exact .inl (by omega)
    · simp at h
  · simp only [Option.map_eq_some_iff, Prod.mk.injEq, Prod.exists] at h
    obtain ⟨_, _, hrun, -, rfl⟩ := h
    exact .inl (length_run?_lt hrun)

theorem length_upToQuote?_lt {quote : Char} {s text rest : List Char}
    (h : upToQuote? quote s = some (text, rest)) : rest.length < s.length := by
  fun_induction upToQuote? quote s generalizing text rest with
  | case1 => simp at h
  | case2 c s' hc =>
    simp only [Option.some.injEq, Prod.mk.injEq] at h
    simp [← h.2]
  | case3 => simp at h
  | case4 c hc hb d s' ih =>
    simp only [Option.map_eq_some_iff, Prod.mk.injEq, Prod.exists] at h
    obtain ⟨_, _, hs, -, rfl⟩ := h
    have := ih hs
    simp only [List.length_cons]
    omega
  | case5 c s' hc hb ih =>
    simp only [Option.map_eq_some_iff, Prod.mk.injEq, Prod.exists] at h
    obtain ⟨_, _, hs, -, rfl⟩ := h
    have := ih hs
    simp only [List.length_cons]
    omega

theorem length_value?_le {s value rest : List Char} (h : value? s = some (value, rest)) :
    rest.length ≤ s.length := by
  unfold value? at h
  split at h
  · simp only [Option.map_eq_some_iff, Prod.mk.injEq, Prod.exists] at h
    obtain ⟨_, _, hs, -, rfl⟩ := h
    have := length_upToQuote?_lt hs
    simp only [List.length_cons]
    omega
  · simp only [Option.map_eq_some_iff, Prod.mk.injEq, Prod.exists] at h
    obtain ⟨_, _, hs, -, rfl⟩ := h
    have := length_upToQuote?_lt hs
    simp only [List.length_cons]
    omega
  · simp only [Option.some.injEq, Prod.mk.injEq] at h
    simp only [← h.2, List.length_drop]
    omega

theorem length_assigned?_le {s value rest : List Char} (h : assigned? s = some (value, rest)) :
    rest.length ≤ s.length := by
  have hs := length_skipInline_le s
  simp only [assigned?] at h
  split at h
  · simp only [Option.some.injEq, Prod.mk.injEq] at h
    simp [← h.2, hs]
  · exact Nat.le_trans (length_value?_le h) hs

theorem length_skipComment_le (s : List Char) : (skipComment s).length ≤ s.length := by
  have hs := length_skipInline_le s
  simp only [skipComment]
  split
  · exact Nat.le_trans (List.dropWhile_sublist _).length_le hs
  · exact Nat.le_refl _

theorem length_lineEnd?_le {s rest : List Char} (h : lineEnd? s = some rest) :
    rest.length ≤ s.length := by
  have hs := Nat.le_trans (length_skipInline_le (skipComment s)) (length_skipComment_le s)
  unfold lineEnd? at h
  split at h
  · simp [← Option.some.inj h]
  · rename_i heq
    rw [heq] at hs
    simp only [Option.some.injEq] at h
    subst h
    simp only [List.length_cons] at hs
    omega
  · simp at h

/-- The end of a line that begins with a comment is further on. -/
theorem length_lineEnd?_lt_of_comment {s rest : List Char} (hs : s.head? = some '#')
    (h : lineEnd? s = some rest) : rest.length < s.length := by
  obtain ⟨s, rfl⟩ : ∃ t, s = '#' :: t := by
    cases s with
    | nil => simp at hs
    | cons c t => exact ⟨t, by simpa using hs⟩
  have hstay : skipInline ('#' :: s) = '#' :: s := by
    have : Text.isInlineBlank '#' = false := by decide
    simp [skipInline, this]
  have hskip : skipComment ('#' :: s) = s.dropWhile (· != '\n') := by
    simp [skipComment, hstay]
  have hle := length_skipInline_le (s.dropWhile (· != '\n'))
  have hle' : (s.dropWhile (· != '\n')).length ≤ s.length := (List.dropWhile_sublist _).length_le
  unfold lineEnd? at h
  rw [hskip] at h
  split at h
  · simp [← Option.some.inj h]
  · rename_i heq
    rw [heq] at hle
    simp only [Option.some.injEq] at h
    subst h
    simp only [List.length_cons] at hle ⊢
    omega
  · simp at h

theorem length_valuePart_le {s rest : List Char} {value : Option (List Char)}
    (h : valuePart s = .ok (value, rest)) : rest.length ≤ s.length := by
  unfold valuePart at h
  split at h
  · split at h
    · rename_i hassigned
      have := length_assigned?_le hassigned
      simp only [Except.ok.injEq, Prod.mk.injEq] at h
      simp only [← h.2, List.length_cons]
      omega
    · simp at h
  · simp only [Except.ok.injEq, Prod.mk.injEq] at h
    simp [← h.2]

theorem length_valuePart_stop_le {s stop : List Char} (h : valuePart s = .error stop) :
    stop.length ≤ s.length := by
  unfold valuePart at h
  split at h
  · rename_i rest
    split at h
    · simp at h
    · simp only [Except.error.injEq] at h
      have := length_skipInline_le rest
      simp only [← h, List.length_cons]
      omega
  · simp at h

theorem skipInline_of_comment {s : List Char} (hs : s.head? = some '#') : skipInline s = s := by
  cases s with
  | nil => simp at hs
  | cons c t =>
    obtain rfl : c = '#' := by simpa using hs
    have : Text.isInlineBlank '#' = false := by decide
    simp [skipInline, this]

theorem valuePart_of_comment {s : List Char} (hs : s.head? = some '#') :
    valuePart (skipInline s) = .ok (none, s) := by
  rw [skipInline_of_comment hs]
  cases s with
  | nil => simp at hs
  | cons c t =>
    obtain rfl : c = '#' := by simpa using hs
    rfl

/-- A statement takes up at least one character. -/
theorem length_statement_lt {s rest : List Char} {name value : Option (List Char)}
    (h : statement s = .ok (name, value, rest)) : rest.length < s.length := by
  have hexport := length_skipExport_le s
  unfold statement at h
  split at h
  · simp at h
  · rename_i here hname
    split at h
    · simp at h
    · rename_i value' here' hvalue
      split at h
      · simp at h
      · rename_i hend
        simp only [Except.ok.injEq, Prod.mk.injEq] at h
        obtain ⟨-, -, rfl⟩ := h
        rcases length_name?_lt hname with hlt | ⟨heq, hcomment⟩
        · have hinline := length_skipInline_le here
          have hpart := length_valuePart_le hvalue
          have hrest := length_lineEnd?_le hend
          omega
        · subst heq
          rw [valuePart_of_comment hcomment] at hvalue
          simp only [Except.ok.injEq, Prod.mk.injEq] at hvalue
          rw [← hvalue.2] at hend
          have := length_lineEnd?_lt_of_comment hcomment hend
          omega

theorem length_statement_stop_le {s stop : List Char} (h : statement s = .error stop) :
    stop.length ≤ s.length := by
  have hexport := length_skipExport_le s
  unfold statement at h
  split at h
  · simp only [Except.error.injEq] at h
    simp [← h, hexport]
  · rename_i here hname
    have hle : here.length ≤ (skipExport s).length := by
      rcases length_name?_lt hname with hlt | ⟨heq, -⟩
      · omega
      · simp [heq]
    have hinline := length_skipInline_le here
    split at h
    · rename_i hvalue
      have := length_valuePart_stop_le hvalue
      simp only [Except.error.injEq] at h
      subst h
      omega
    · rename_i hvalue
      have := length_valuePart_le hvalue
      split at h
      · simp only [Except.error.injEq] at h
        subst h
        omega
      · simp at h

/-- Reading leaves less of a text than there was. -/
theorem Binding.length_read_lt {s : List Char} (hs : s ≠ []) :
    (Binding.read s).2.length < s.length := by
  have hpos : 0 < s.length := List.length_pos_iff.mpr hs
  have htrim : (Text.trimStart s).length ≤ s.length := (List.dropWhile_sublist _).length_le
  simp only [Binding.read]
  split
  · exact hpos
  · split
    · rename_i h
      have := length_statement_lt h
      simp only
      omega
    · rename_i here h
      have := length_afterLine_le here
      have := length_statement_stop_le h
      simp only
      omega

/-- The statements of a text, in order. -/
def bindings (s : List Char) : List Binding :=
  if _h : s = [] then []
  else (Binding.read s).1 :: bindings (Binding.read s).2
termination_by s.length
decreasing_by exact Binding.length_read_lt (by assumption)

end CommitStyle.KeyFile
