import CommitStyle.Proofs.KeyFile.Scanning

/-! Reading a statement looks no further than the line that it ends on. What comes behind
that line may be put in place of something else without changing what was read, as long
as quotes that were left open, for want of a closing one, still are. So a statement can
be read apart from the rest of its file, also one that is malformed. -/

namespace CommitStyle.KeyFile

variable {α : Type} {front rest other s : List Char}

/-! ## Statements -/

/-- The name and the value of a statement, unless reading stops, and the place that is reached. -/
def assignment (s : List Char) :
    Except (List Char) ((Option (List Char) × Option (List Char)) × List Char) :=
  match name? (skipExport s) with
  | none => .error (skipExport s)
  | some (name, here) =>
    match valuePart (skipInline here) with
    | .error stop => .error stop
    | .ok (value, here) => .ok ((name, value), here)

theorem statement_eq (s : List Char) :
    statement s = match assignment s with
      | .error stop => .error stop
      | .ok ((name, value), here) =>
        match lineEnd? here with
        | none => .error here
        | some rest => .ok (name, value, rest) := by
  unfold statement assignment
  cases name? (skipExport s) with
  | none => rfl
  | some found =>
    obtain ⟨name, here⟩ := found
    dsimp only
    cases valuePart (skipInline here) with
    | error stop => rfl
    | ok part => rfl

theorem suffix_of_assignment (s : List Char) : placeOf (assignment s) <:+ s := by
  have hexport := skipExport_suffix s
  unfold assignment
  split
  · exact hexport
  · rename_i name here hname
    have hhere := ((skipInline_suffix here).trans (suffix_of_name? hname)).trans hexport
    have hplace := (suffix_of_valuePart (skipInline here)).trans hhere
    split
    · rename_i hvalue
      rwa [hvalue] at hplace
    · rename_i hvalue
      rwa [hvalue] at hplace

theorem length_placeOf_valuePart_le (s : List Char) :
    (placeOf (valuePart s)).length ≤ s.length := (suffix_of_valuePart s).length_le

/-- Like `Steady`, for a reading that says where it stopped. -/
inductive SteadyPlace (rest other : List Char) :
    Except (List Char) (α × List Char) → Except (List Char) (α × List Char) → Prop
  | fails (left : List Char) :
      SteadyPlace rest other (.error (left ++ rest)) (.error (left ++ other))
  | stops (a : α) (left : List Char) :
      SteadyPlace rest other (.ok (a, left ++ rest)) (.ok (a, left ++ other))
  | beyond {x : Except (List Char) (α × List Char)} (h : (placeOf x).length < rest.length)
      (y : Except (List Char) (α × List Char)) : SteadyPlace rest other x y

section Crossing

variable (hrest : AtLineEnd rest) (hother : AtLineEnd other) (hopen : LeavesOpen rest other)
include hrest hother hopen

theorem steady_valuePart (front : List Char) :
    SteadyPlace rest other (valuePart (front ++ rest)) (valuePart (front ++ other)) := by
  by_cases hequals : front.head? = some '='
  · obtain ⟨more, rfl⟩ := List.head?_eq_some_iff.mp hequals
    have hsteady := steady_assigned? hrest hother hopen more
    simp only [List.cons_append, valuePart, skipInline_front hrest, skipInline_front hother]
    generalize assigned? (more ++ rest) = x at hsteady
    generalize assigned? (more ++ other) = y at hsteady
    cases hsteady with
    | fails => exact .fails (skipInline more)
    | stops value left => exact .stops (some value) left
    | @beyond value left hbeyond result => exact .beyond (x := .ok (some value, left)) hbeyond _
  · have hnone {t : List Char} (h : AtLineEnd t) :
        valuePart (front ++ t) = .ok (none, front ++ t) := by
      have hhead := mt (head?_front h (show '=' ≠ '\n' by decide)).mp hequals
      unfold valuePart
      split
      · rename_i heq
        rw [heq] at hhead
        exact absurd rfl hhead
      · rfl
    rw [hnone hrest, hnone hother]
    exact .stops none front

theorem steady_assignment (front : List Char) :
    SteadyPlace rest other (assignment (front ++ rest)) (assignment (front ++ other)) := by
  have hname := steady_name? hrest hother hopen (skipExport front)
  unfold assignment
  rw [skipExport_front hrest, skipExport_front hother]
  generalize name? (skipExport front ++ rest) = x at hname
  generalize name? (skipExport front ++ other) = y at hname
  cases hname with
  | fails => exact .fails (skipExport front)
  | stops name left =>
    have hvalue := steady_valuePart hrest hother hopen (skipInline left)
    simp only [skipInline_front hrest, skipInline_front hother]
    generalize valuePart (skipInline left ++ rest) = x at hvalue
    generalize valuePart (skipInline left ++ other) = y at hvalue
    cases hvalue with
    | fails left => exact .fails left
    | stops value left => exact .stops (name, value) left
    | beyond hbeyond result =>
      refine .beyond ?_ _
      cases x <;> exact hbeyond
  | @beyond name here hbeyond result =>
    -- the value is looked for behind the name
    refine .beyond ?_ _
    have hplace := length_placeOf_valuePart_le (skipInline here)
    have hinline := length_skipInline_le here
    dsimp only
    split
    · rename_i hvalue
      rw [hvalue] at hplace
      exact Nat.lt_of_le_of_lt (Nat.le_trans hplace hinline) hbeyond
    · rename_i hvalue
      rw [hvalue] at hplace
      exact Nat.lt_of_le_of_lt (Nat.le_trans hplace hinline) hbeyond

end Crossing

/-! ## The end of the line -/

theorem skipComment_suffix (s : List Char) : skipComment s <:+ s := by
  unfold skipComment
  dsimp only
  split
  · exact (List.dropWhile_suffix _).trans (skipInline_suffix s)
  · exact List.suffix_refl s

/-- A statement may end with its line where nothing but white space and a comment is left. -/
theorem lineEnd?_front (h : AtLineEnd rest) (hfront : '\n' ∉ front) :
    lineEnd? (front ++ rest) =
      if skipInline (skipComment front) = [] then some (rest.drop 1) else none := by
  unfold lineEnd?
  rw [skipComment_front h, skipInline_front h]
  have hsuffix := (skipInline_suffix (skipComment front)).trans (skipComment_suffix front)
  cases hleft : skipInline (skipComment front) with
  | nil =>
    obtain rfl | ⟨behind, rfl⟩ := h
    · rfl
    · rfl
  | cons c more =>
    have hmem : c ∈ front := hsuffix.subset (hleft ▸ List.mem_cons_self)
    rw [List.cons_append, if_neg (by simp)]
    split
    · simp_all
    · simp_all
    · rfl

theorem afterLine_front (h : AtLineEnd rest) (hfront : '\n' ∉ front) :
    afterLine (front ++ rest) = rest.drop 1 := by
  have hnone : front.dropWhile (· != '\n') = [] := by
    rw [List.dropWhile_eq_nil_iff]
    intro c hc
    simpa using fun heq : c = '\n' => hfront (heq ▸ hc)
  rw [afterLine, toLineEnd_front h, hnone, List.nil_append]

theorem eq_afterLine (h : lineEnd? s = some rest) : rest = afterLine s := by
  have hfront : '\n' ∉ s.takeWhile (· != '\n') := fun hmem => by
    simpa using List.mem_takeWhile_imp hmem
  have hbehind := dropWhile_lineEnd s
  rw [← s.takeWhile_append_dropWhile (p := (· != '\n')), lineEnd?_front hbehind hfront] at h
  rw [← s.takeWhile_append_dropWhile (p := (· != '\n')), afterLine_front hbehind hfront]
  split at h
  · exact (Option.some.inj h).symm
  · cases h

/-! ## A statement in its file -/

/-- The variable that a statement is on, with its value if it gives one. -/
def Binding.gives? (binding : Binding) : Option (String × Option String) :=
  binding.name.map fun name => (name, binding.value)

/-- The variable of an assignment that ends with its line. -/
def entryOf : Except (List Char) ((Option (List Char) × Option (List Char)) × List Char) →
    Option (String × Option String)
  | .ok ((some name, value), here) =>
    if (lineEnd? here).isSome then some (String.ofList name, value.map String.ofList) else none
  | _ => none

theorem read_blank (h : Text.trimStart s = []) :
    Binding.read s = (⟨none, none, s, true⟩, []) := by
  unfold Binding.read
  dsimp only
  rw [h]
  rfl

/-- Reading takes up the line on which it stops, whether it ended a statement there or not. -/
theorem read_eq (h : Text.trimStart s ≠ []) :
    (Binding.read s).1.gives? = entryOf (assignment (Text.trimStart s)) ∧
      (Binding.read s).2 = afterLine (placeOf (assignment (Text.trimStart s))) := by
  unfold Binding.read
  dsimp only
  rw [if_neg (by simpa using h), statement_eq]
  cases hassigned : assignment (Text.trimStart s) with
  | error stop => exact ⟨rfl, rfl⟩
  | ok result =>
    obtain ⟨⟨name, value⟩, here⟩ := result
    dsimp only [placeOf]
    cases hend : lineEnd? here with
    | none => cases name <;> simp [entryOf, hend, Binding.gives?]
    | some rest => cases name <;> simp [entryOf, hend, Binding.gives?, eq_afterLine hend]

/-- The text of a statement and what it leaves make up the whole. -/
theorem source_append_read (s : List Char) :
    (Binding.read s).1.source ++ (Binding.read s).2 = s := by
  have htake {rest : List Char} (h : rest <:+ s) :
      s.take (s.length - rest.length) ++ rest = s := by
    obtain ⟨front, rfl⟩ := h
    simp
  by_cases hblank : Text.trimStart s = []
  · rw [read_blank hblank]
    simp
  have hrest : (Binding.read s).2 <:+ s := by
    rw [(read_eq hblank).2]
    exact ((List.drop_suffix 1 _).trans (List.dropWhile_suffix _)).trans
      ((suffix_of_assignment _).trans (List.dropWhile_suffix _))
  have hsource : (Binding.read s).1.source =
      s.take (s.length - (Binding.read s).2.length) := by
    unfold Binding.read
    dsimp only
    rw [if_neg (by simpa using hblank)]
    split <;> rfl
  rw [hsource, htake hrest]

/-- The statement at the beginning of a text stands in front of a line end, and it is read there
in the same way whatever comes behind. -/
structure StandsIn (front rest s : List Char) : Prop where
  text : s = front ++ rest
  lineEnd : AtLineEnd rest
  left : (Binding.read s).2 = rest.drop 1
  settled : ∀ other, AtLineEnd other → LeavesOpen rest other →
    (Binding.read (front ++ other)).1.gives? = (Binding.read s).1.gives? ∧
      (Binding.read (front ++ other)).2 = other.drop 1

theorem StandsIn.source (h : StandsIn front rest s) :
    (Binding.read s).1.source = front ++ rest.take 1 := by
  have hwhole := source_append_read s
  rw [h.left] at hwhole
  refine List.append_cancel_right (hwhole.trans ?_)
  rw [List.append_assoc, List.take_append_drop]
  exact h.text

/-- A statement that ended on its line is the same with something else behind. -/
theorem SteadyPlace.settled
    {x y : Except (List Char) ((Option (List Char) × Option (List Char)) × List Char)}
    (h : SteadyPlace rest other x y) (hrest : AtLineEnd rest) (hother : AtLineEnd other)
    (hfront : '\n' ∉ front) (hplace : placeOf x = front ++ rest) :
    entryOf y = entryOf x ∧ afterLine (placeOf y) = other.drop 1 := by
  cases h with
  | fails left =>
    obtain rfl : left = front := List.append_cancel_right hplace
    exact ⟨rfl, afterLine_front hother hfront⟩
  | stops result left =>
    obtain rfl : left = front := List.append_cancel_right hplace
    refine ⟨?_, afterLine_front hother hfront⟩
    obtain ⟨name, value⟩ := result
    cases name with
    | none => rfl
    | some name =>
      simp only [entryOf, lineEnd?_front hrest hfront, lineEnd?_front hother hfront]
      split <;> rfl
  | beyond hbeyond =>
    rw [hplace, List.length_append] at hbeyond
    omega

theorem trimStart_blanks {blanks : List Char} (h : ∀ c ∈ blanks, Text.isBlank c = true)
    (s : List Char) : Text.trimStart (blanks ++ s) = Text.trimStart s :=
  List.dropWhile_append_of_pos h

/-- An assignment, or the place where reading stops, is settled by what stands in front of some
line end. -/
theorem exists_settled (s : List Char) : ∃ front rest, s = front ++ rest ∧ AtLineEnd rest ∧
    ∀ other, AtLineEnd other → LeavesOpen rest other →
      entryOf (assignment (front ++ other)) = entryOf (assignment s) ∧
        afterLine (placeOf (assignment (front ++ other))) = other.drop 1 := by
  have hline : '\n' ∉ (placeOf (assignment s)).takeWhile (· != '\n') := fun hmem => by
    simpa using List.mem_takeWhile_imp hmem
  have hplace := (List.takeWhile_append_dropWhile (p := (· != '\n'))
    (l := placeOf (assignment s))).symm
  have hrest := dropWhile_lineEnd (placeOf (assignment s))
  obtain ⟨front, hfront⟩ : (placeOf (assignment s)).dropWhile (· != '\n') <:+ s :=
    (List.dropWhile_suffix _).trans (suffix_of_assignment s)
  refine ⟨front, _, hfront.symm, hrest, fun other hother hopen => ?_⟩
  have hsteady := steady_assignment hrest hother hopen front
  rw [hfront] at hsteady
  exact hsteady.settled hrest hother hline hplace

/-- Each text that is not blank begins with a statement of its own. -/
theorem exists_standsIn (h : Text.trimStart s ≠ []) : ∃ front rest, StandsIn front rest s := by
  obtain ⟨hentry, hleft⟩ := read_eq h
  obtain ⟨front, rest, hstart, hrest, hsettled⟩ := exists_settled (Text.trimStart s)
  have hblanks : ∀ c ∈ s.takeWhile Text.isBlank, Text.isBlank c = true := fun c hc =>
    List.mem_takeWhile_imp hc
  have hs : s = s.takeWhile Text.isBlank ++ front ++ rest := by
    rw [List.append_assoc, ← hstart]
    exact List.takeWhile_append_dropWhile.symm
  -- the first character is not blank, and so no line end
  obtain ⟨c, more, rfl, hc⟩ : ∃ c more, front = c :: more ∧ Text.isBlank c = false := by
    have hhead := List.head?_dropWhile_not Text.isBlank s
    cases hfront : front with
    | nil =>
      rw [hfront, List.nil_append] at hstart
      obtain rfl | ⟨behind, rfl⟩ := hrest
      · exact absurd hstart h
      · rw [show s.dropWhile Text.isBlank = _ from hstart] at hhead
        cases hhead
    | cons c more =>
      rw [show s.dropWhile Text.isBlank = _ from hstart, hfront] at hhead
      exact ⟨c, more, rfl, by simpa using hhead⟩
  have htrim (other : List Char) :
      Text.trimStart (s.takeWhile Text.isBlank ++ c :: more ++ other) = c :: more ++ other := by
    rw [List.append_assoc, trimStart_blanks hblanks]
    exact List.dropWhile_cons_of_neg (by simp [hc])
  refine ⟨s.takeWhile Text.isBlank ++ c :: more, rest, hs, hrest, ?_, fun other hother hopen => ?_⟩
  · have hbehind := (hsettled rest hrest (.refl rest)).2
    rw [← hstart] at hbehind
    exact hleft.trans hbehind
  · have hread := read_eq (s := s.takeWhile Text.isBlank ++ c :: more ++ other) (by rw [htrim]; simp)
    rw [htrim] at hread
    rw [hread.1, hread.2, hentry]
    exact hsettled other hother hopen

end CommitStyle.KeyFile
