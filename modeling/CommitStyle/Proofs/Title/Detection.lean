import CommitStyle.Proofs.Text.Trimming
import CommitStyle.Title.Detect

/-! Which titles have a built-in shape. A title of a shape is its opening, which holds
the type and the scope, and then white space and a line. What opens a text leaves
only one shape for it, so no title has two and the order in which they are tried
decides nothing. -/

namespace CommitStyle.TitleParts

/-! ## Runs and lines -/

theorem run?_eq_some {ofClass : Char → Bool} {s run rest : List Char} :
    run? ofClass s = some (run, rest) ↔ s = run ++ rest ∧ run ≠ [] ∧
      (∀ c ∈ run, ofClass c = true) ∧ ∀ c, rest.head? = some c → ofClass c = false := by
  constructor
  · intro h
    unfold run? at h
    simp only [List.isEmpty_iff] at h
    split at h
    · cases h
    · rename_i hne
      cases h
      have hsplit := List.prefix_iff_eq_append.mp (List.takeWhile_prefix (l := s) ofClass)
      refine ⟨hsplit.symm, hne, List.all_eq_true.mp List.all_takeWhile, fun c hc => ?_⟩
      have hdrop : s.drop (s.takeWhile ofClass).length = s.dropWhile ofClass :=
        List.append_cancel_left (hsplit.trans List.takeWhile_append_dropWhile.symm)
      have hhead := List.head?_dropWhile_not ofClass s
      rwa [← hdrop, hc] at hhead
  · rintro ⟨rfl, hne, hall, hhead⟩
    have hnone : rest.takeWhile ofClass = [] := by
      cases rest with
      | nil => rfl
      | cons c rest => simp [hhead c rfl]
    simp [run?, List.takeWhile_append_of_pos hall, hnone, hne]

theorem stops_cons {ofClass : Char → Bool} {d : Char} (h : ofClass d = false)
    (rest : List Char) : ∀ c, (d :: rest).head? = some c → ofClass c = false := by
  intro c hc
  cases hc
  exact h

theorem enclosed?_eq_some {s inner rest : List Char} :
    enclosed? s = some (inner, rest) ↔ s = '(' :: (inner ++ ')' :: rest) ∧ inner ≠ [] ∧
      ∀ c ∈ inner, isEnclosedChar c = true := by
  constructor
  · intro h
    unfold enclosed? at h
    split at h
    · rename_i s
      obtain ⟨⟨run, tail⟩, hrun, hclose⟩ := Option.bind_eq_some_iff.mp h
      obtain ⟨rfl, hne, hall, -⟩ := run?_eq_some.mp hrun
      simp only at hclose
      split at hclose
      · cases hclose
        exact ⟨rfl, hne, hall⟩
      · cases hclose
    · cases h
  · rintro ⟨rfl, hne, hall⟩
    have hrun : run? isEnclosedChar (inner ++ ')' :: rest) = some (inner, ')' :: rest) :=
      run?_eq_some.mpr ⟨rfl, hne, hall, stops_cons rfl _⟩
    simp [enclosed?, hrun]

/-- The text ends with the line, or with it and a line feed. -/
def EndsWith (s line : List Char) : Prop :=
  ∃ before after, s = before ++ line ++ after ∧ line ≠ [] ∧ '\n' ∉ line ∧
    (after = [] ∨ after = ['\n'])

theorem EndsWith.cons {s line : List Char} (h : EndsWith s line) (c : Char) :
    EndsWith (c :: s) line := by
  obtain ⟨before, after, rfl, hline⟩ := h
  exact ⟨c :: before, after, rfl, hline⟩

theorem line?_eq_some {s line : List Char} (h : line? s = some line) : EndsWith s line := by
  unfold line? at h
  simp only at h
  split at h
  · rename_i hline
    cases h
    simp only [Bool.and_eq_true, Bool.or_eq_true, Bool.not_eq_true', List.isEmpty_eq_false_iff,
      List.isEmpty_iff, beq_iff_eq] at hline
    refine ⟨[], _, (List.prefix_iff_eq_append.mp (List.takeWhile_prefix _)).symm, hline.1, ?_,
      hline.2⟩
    intro hmem
    have hfeed := List.all_eq_true.mp List.all_takeWhile _ hmem
    simp at hfeed
  · cases h

theorem line?_self {line : List Char} (hne : line ≠ []) (h : '\n' ∉ line) :
    line? line = some line := by
  have htake : line.takeWhile (· != '\n') = line :=
    List.takeWhile_eq_self_iff.mpr fun c hc => by
      rw [bne_iff_ne]
      rintro rfl
      exact h hc
  simp [line?, htake, hne]

theorem lineAfterBlanks?_eq_some {s line : List Char} (h : lineAfterBlanks? s = some line) :
    EndsWith s line := by
  induction s with
  | nil => cases h
  | cons c rest ih =>
    rw [lineAfterBlanks?] at h
    split at h
    · rcases Option.or_eq_some_iff.mp h with hrest | ⟨-, hhere⟩
      · exact (ih hrest).cons c
      · exact line?_eq_some hhere
    · exact line?_eq_some h

theorem lineAfterBlank?_eq_some {s line : List Char} (h : lineAfterBlank? s = some line) :
    EndsWith s line := by
  cases s with
  | nil => cases h
  | cons c rest =>
    rw [lineAfterBlank?] at h
    split at h
    · exact (lineAfterBlanks?_eq_some h).cons c
    · cases h

theorem lineAfterBlanks?_self {line : List Char} (hne : line ≠ []) (h : '\n' ∉ line)
    (hhead : ∀ c, line.head? = some c → Text.isBlank c = false) :
    lineAfterBlanks? line = some line := by
  cases line with
  | nil => exact absurd rfl hne
  | cons c rest => rw [lineAfterBlanks?, hhead c rfl, if_neg (by simp), line?_self hne h]

/-! ## Shapes -/

/-- Everything of a title but its message. -/
def opening : Shape → (type scope : List Char) → List Char
  | .paren, type, _ => '(' :: (type ++ [')'])
  | .colon, type, _ => type ++ [':']
  | .scope, type, scope => type ++ '(' :: (scope ++ [')'])
  | .scopeColon, type, scope => type ++ '(' :: (scope ++ [')', ':'])

/-- The message after an opening; it may follow a colon at once. -/
def message? : Shape → List Char → Option (List Char)
  | .paren | .scope => lineAfterBlank?
  | .colon | .scopeColon => lineAfterBlanks?

def typeClass : Shape → Char → Bool
  | .paren => isEnclosedChar
  | .colon | .scope | .scopeColon => isTypeChar

/-- What an opening may hold. -/
structure Opens (shape : Shape) (type scope : List Char) : Prop where
  type_ne : type ≠ []
  type_class : ∀ c ∈ type, typeClass shape c = true
  scope_ne : shape.hasScope = true → scope ≠ []
  scope_class : shape.hasScope = true → ∀ c ∈ scope, isEnclosedChar c = true

/-- The scope that a shape has room for. -/
def scopeOf {α : Type} (shape : Shape) (scope : α) : Option α :=
  if shape.hasScope then some scope else none

/-- A title of a shape is an opening and a message. -/
theorem ofShape?_eq_some {shape : Shape} {s : List Char} {found : TitleParts} :
    ofShape? shape s = some found ↔ ∃ type scope rest line,
      s = opening shape type scope ++ rest ∧ Opens shape type scope ∧
        message? shape rest = some line ∧ found = parts type (scopeOf shape scope) line := by
  cases shape with
  | paren =>
    simp only [ofShape?, Option.bind_eq_bind, Option.bind_eq_some_iff, Prod.exists,
      enclosed?_eq_some]
    constructor
    · rintro ⟨type, rest, ⟨rfl, hne, hall⟩, line, hline, heq⟩
      exact ⟨type, [], rest, line, by simp [opening], ⟨hne, hall, nofun, nofun⟩, hline,
        (Option.some.inj heq).symm⟩
    · rintro ⟨type, _, rest, line, rfl, ho, hline, rfl⟩
      exact ⟨type, rest, ⟨by simp [opening], ho.type_ne, ho.type_class⟩, line, hline, rfl⟩
  | colon =>
    simp only [ofShape?, Option.bind_eq_bind, Option.bind_eq_some_iff, Prod.exists,
      run?_eq_some]
    constructor
    · rintro ⟨type, rest, ⟨rfl, hne, hall, -⟩, h⟩
      split at h
      · obtain ⟨line, hline, heq⟩ := Option.bind_eq_some_iff.mp h
        exact ⟨type, [], _, line, by simp [opening], ⟨hne, hall, nofun, nofun⟩, hline,
          (Option.some.inj heq).symm⟩
      · cases h
    · rintro ⟨type, _, rest, line, rfl, ho, hline, rfl⟩
      exact ⟨type, ':' :: rest, ⟨by simp [opening], ho.type_ne, ho.type_class, stops_cons rfl _⟩,
        Option.bind_eq_some_iff.mpr ⟨line, hline, rfl⟩⟩
  | scope =>
    simp only [ofShape?, Option.bind_eq_bind, Option.bind_eq_some_iff, Prod.exists,
      run?_eq_some, enclosed?_eq_some]
    constructor
    · rintro ⟨type, _, ⟨rfl, hne, hall, -⟩, scope, rest, ⟨rfl, hne', hall'⟩, line, hline, heq⟩
      exact ⟨type, scope, rest, line, by simp [opening], ⟨hne, hall, fun _ => hne', fun _ => hall'⟩,
        hline, (Option.some.inj heq).symm⟩
    · rintro ⟨type, scope, rest, line, rfl, ho, hline, rfl⟩
      exact ⟨type, _, ⟨by simp [opening], ho.type_ne, ho.type_class, stops_cons rfl _⟩, scope,
        rest, ⟨rfl, ho.scope_ne rfl, ho.scope_class rfl⟩, line, hline, rfl⟩
  | scopeColon =>
    simp only [ofShape?, Option.bind_eq_bind, Option.bind_eq_some_iff, Prod.exists,
      run?_eq_some, enclosed?_eq_some]
    constructor
    · rintro ⟨type, _, ⟨rfl, hne, hall, -⟩, scope, rest, ⟨rfl, hne', hall'⟩, h⟩
      split at h
      · obtain ⟨line, hline, heq⟩ := Option.bind_eq_some_iff.mp h
        exact ⟨type, scope, _, line, by simp [opening],
          ⟨hne, hall, fun _ => hne', fun _ => hall'⟩, hline, (Option.some.inj heq).symm⟩
      · cases h
    · rintro ⟨type, scope, rest, line, rfl, ho, hline, rfl⟩
      exact ⟨type, _, ⟨by simp [opening], ho.type_ne, ho.type_class, stops_cons rfl _⟩, scope,
        ':' :: rest, ⟨rfl, ho.scope_ne rfl, ho.scope_class rfl⟩,
        Option.bind_eq_some_iff.mpr ⟨line, hline, rfl⟩⟩

/-! ## One shape at most -/

/-- The shape that a text has, if it has one. -/
def onlyShape (s : List Char) : Shape :=
  match run? isTypeChar s with
  | none => .paren
  | some (_, rest) =>
    match enclosed? rest with
    | none => .colon
    | some (_, after) => if after.head? = some ':' then .scopeColon else .scope

theorem lineAfterBlank?_head {s line : List Char} (h : lineAfterBlank? s = some line) :
    ∃ c, s.head? = some c ∧ Text.isBlank c = true := by
  cases s with
  | nil => cases h
  | cons c rest =>
    rw [lineAfterBlank?] at h
    split at h
    · rename_i hblank
      exact ⟨c, rfl, hblank⟩
    · cases h

theorem onlyShape_eq {shape : Shape} {s : List Char} {found : TitleParts}
    (h : ofShape? shape s = some found) : onlyShape s = shape := by
  obtain ⟨type, scope, rest, line, rfl, ho, hline, -⟩ := ofShape?_eq_some.mp h
  cases shape with
  | paren => rfl
  | colon =>
    have hrun : run? isTypeChar (opening .colon type scope ++ rest) = some (type, ':' :: rest) :=
      run?_eq_some.mpr ⟨by simp [opening], ho.type_ne, ho.type_class, stops_cons rfl _⟩
    rw [onlyShape, hrun]
    rfl
  | scope =>
    have hrun : run? isTypeChar (opening .scope type scope ++ rest) =
        some (type, '(' :: (scope ++ ')' :: rest)) :=
      run?_eq_some.mpr ⟨by simp [opening], ho.type_ne, ho.type_class, stops_cons rfl _⟩
    have hscope : enclosed? ('(' :: (scope ++ ')' :: rest)) = some (scope, rest) :=
      enclosed?_eq_some.mpr ⟨rfl, ho.scope_ne rfl, ho.scope_class rfl⟩
    have hcolon : rest.head? ≠ some ':' := by
      obtain ⟨c, hc, hblank⟩ := lineAfterBlank?_head hline
      rw [hc]
      rintro ⟨⟩
      cases hblank
    simp only [onlyShape, hrun, hscope, if_neg hcolon]
  | scopeColon =>
    have hrun : run? isTypeChar (opening .scopeColon type scope ++ rest) =
        some (type, '(' :: (scope ++ ')' :: ':' :: rest)) :=
      run?_eq_some.mpr ⟨by simp [opening], ho.type_ne, ho.type_class, stops_cons rfl _⟩
    have hscope : enclosed? ('(' :: (scope ++ ')' :: ':' :: rest)) = some (scope, ':' :: rest) :=
      enclosed?_eq_some.mpr ⟨rfl, ho.scope_ne rfl, ho.scope_class rfl⟩
    simp only [onlyShape, hrun, hscope, List.head?_cons, if_true]

theorem ofShape?_unique {shape other : Shape} {s : List Char} {found again : TitleParts}
    (h : ofShape? shape s = some found) (h' : ofShape? other s = some again) : shape = other :=
  (onlyShape_eq h).symm.trans (onlyShape_eq h')

/-- In whatever order shapes are tried, it is the one the title has that is found. -/
theorem detectIn_eq_some {shapes : List Shape} {title : String} {shape : Shape}
    {found : TitleParts} (hmem : shape ∈ shapes) :
    detectIn shapes title = some (shape, found) ↔
      ofShape? shape title.toList = some found := by
  constructor
  · intro h
    obtain ⟨other, -, ho⟩ := List.exists_of_findSome?_eq_some h
    obtain ⟨again, ha, heq⟩ := Option.map_eq_some_iff.mp ho
    cases heq
    exact ha
  · intro h
    cases hd : detectIn shapes title with
    | none =>
      have hnone := List.findSome?_eq_none_iff.mp hd shape hmem
      rw [h] at hnone
      cases hnone
    | some result =>
      obtain ⟨other, -, ho⟩ := List.exists_of_findSome?_eq_some hd
      obtain ⟨again, ha, rfl⟩ := Option.map_eq_some_iff.mp ho
      obtain rfl := ofShape?_unique h ha
      rw [h] at ha
      cases ha
      rfl

theorem detect?_eq_some {title : String} {shape : Shape} {found : TitleParts} :
    detect? title = some (shape, found) ↔ ofShape? shape title.toList = some found :=
  detectIn_eq_some (by cases shape <;> decide)

end CommitStyle.TitleParts
