import CommitStyle.Pattern.Compile
import CommitStyle.Pattern.Parse
import CommitStyle.Proofs.Entries
import CommitStyle.Proofs.Pattern.Matching
import CommitStyle.Proofs.Text.Trimming

/-! What reading a title back gives. The main statement says when there is a result
at all, which reading of the trimmed title it rests on, and which text of that
reading each value is. -/

namespace CommitStyle.Pattern

/-- The text stands with the first capture that passes. -/
def FirstText (captured : List (Segment × String)) (passes : Segment → Prop)
    (text : String) : Prop :=
  ∃ before segment after, captured = before ++ (segment, text) :: after ∧ passes segment ∧
    ∀ other ∈ before, ¬ passes other.1

/-- What is found is the text of the first capture that passes; nothing, if none does. -/
def IsFirstText (captured : List (Segment × String)) (passes : Segment → Prop)
    (found : Option String) : Prop :=
  ∀ text, found = some text ↔ FirstText captured passes text

def IsKeyword (name : String) (segment : Segment) : Prop := segment.keywordName? = some name

def IsField (label : String) (segment : Segment) : Prop := segment.fieldLabel? = some label

/-- The values that captured texts stand for: each keyword and label has its first text. Type
and description are empty where they have none, the scope is absent; no label is there twice. -/
structure ReadOff (captured : List (Segment × String)) (values : Values) : Prop where
  type : ∃ found, IsFirstText captured (IsKeyword "type") found ∧ values.type = found.getD ""
  description : ∃ found, IsFirstText captured (IsKeyword "description") found ∧
    values.description = found.getD ""
  scope : IsFirstText captured (IsKeyword "scope") values.scope
  fields : ∀ label, IsFirstText captured (IsField label) (values.fields.get? label)
  labels : values.fields.keys.Nodup

theorem isFirstText_find (captured : List (Segment × String)) {passes : Segment → Prop}
    {test : Segment → Bool} (ht : ∀ segment, test segment = true ↔ passes segment) :
    IsFirstText captured passes
      ((captured.find? fun capture => test capture.1).map Prod.snd) := by
  intro text
  constructor
  · intro h
    obtain ⟨⟨segment, _⟩, hf, he⟩ := Option.map_eq_some_iff.mp h
    cases he
    obtain ⟨hp, before, after, hs, hb⟩ := List.find?_eq_some_iff_append.mp hf
    refine ⟨before, segment, after, hs, (ht segment).mp hp, fun other ho hpass => ?_⟩
    have hno := hb other ho
    rw [(ht other.1).mpr hpass] at hno
    contradiction
  · rintro ⟨before, segment, after, rfl, hp, hb⟩
    refine Option.map_eq_some_iff.mpr ⟨(segment, text), ?_, rfl⟩
    refine List.find?_eq_some_iff_append.mpr ⟨(ht segment).mpr hp, before, after, rfl, ?_⟩
    intro other ho
    rw [Bool.not_eq_true', ← Bool.not_eq_true]
    exact fun hpass => hb other ho ((ht other.1).mp hpass)

theorem isFirstText_keyword (captured : List (Segment × String)) (name : String) :
    IsFirstText captured (IsKeyword name) (keywordText? captured name) :=
  isFirstText_find captured fun _ => beq_iff_eq

theorem get?_addFieldText (entries : Entries String) (capture : Segment × String)
    (label : String) :
    (addFieldText entries capture).get? label =
      (entries.get? label).or
        (if capture.1.fieldLabel? = some label then some capture.2 else none) := by
  cases hl : capture.1.fieldLabel? with
  | none => simp [addFieldText, hl]
  | some other => simp [addFieldText, hl, Entries.get?_insertNew]

/-- Entries that are there already win over the texts that follow. -/
theorem get?_foldl_addFieldText (captured : List (Segment × String)) (entries : Entries String)
    (label : String) :
    (captured.foldl addFieldText entries).get? label = (entries.get? label).or
      ((captured.find? fun capture => capture.1.fieldLabel? == some label).map Prod.snd) := by
  induction captured generalizing entries with
  | nil => simp
  | cons capture rest ih =>
    rw [List.foldl_cons, ih, get?_addFieldText, Option.or_assoc, List.find?_cons]
    by_cases hl : capture.1.fieldLabel? = some label
    · simp [hl]
    · rw [if_neg hl, beq_false_of_ne hl, Option.none_or]

theorem isFirstText_fieldTexts (captured : List (Segment × String)) (label : String) :
    IsFirstText captured (IsField label) ((fieldTexts captured).get? label) := by
  rw [fieldTexts, get?_foldl_addFieldText]
  exact isFirstText_find captured fun _ => beq_iff_eq

theorem nodup_fieldTexts (captured : List (Segment × String)) :
    (fieldTexts captured).keys.Nodup := by
  suffices h : ∀ entries : Entries String, entries.keys.Nodup →
      (captured.foldl addFieldText entries).keys.Nodup from h [] List.nodup_nil
  induction captured with
  | nil => exact fun _ h => h
  | cons capture rest ih =>
    intro entries h
    apply ih
    unfold addFieldText
    split
    · exact Entries.nodup_insertNew h _ _
    · exact h

theorem nodup_eraseDups {α : Type} [DecidableEq α] : ∀ xs : List α, xs.eraseDups.Nodup
  | [] => List.nodup_nil
  | x :: rest => by
    rw [List.eraseDups_cons]
    have hshort : (rest.filter fun y => !y == x).length < rest.length + 1 :=
      Nat.lt_add_one_of_le (List.length_filter_le _ rest)
    refine List.nodup_cons.mpr ⟨?_, nodup_eraseDups _⟩
    simp [List.mem_eraseDups]
termination_by xs => xs.length

theorem nodup_fields (p : Pattern) : p.fields.Nodup := nodup_eraseDups _

theorem readOff_valuesOf (captured : List (Segment × String)) :
    ReadOff captured (valuesOf captured) where
  type := ⟨_, isFirstText_keyword captured "type", rfl⟩
  description := ⟨_, isFirstText_keyword captured "description", rfl⟩
  scope := isFirstText_keyword captured "scope"
  fields := isFirstText_fieldTexts captured
  labels := nodup_fieldTexts captured

/-- The result of reading back rests on the first reading of the trimmed title. -/
theorem parse?_eq_some {p : Pattern} {title : String} {values : Values} :
    p.parse? title = some values ↔ ∃ texts,
      FirstReading p.segments (Text.trim title.toList) texts ∧
        values = valuesOf (p.capturedTexts texts) := by
  have hs := Text.not_feed_suffix (Text.trimmed_trim title.toList)
  rw [parse?, Option.map_eq_some_iff]
  constructor
  · rintro ⟨texts, hm, rfl⟩
    exact ⟨texts, (matchParts_eq_some hs).mp hm, rfl⟩
  · rintro ⟨texts, hr, rfl⟩
    exact ⟨texts, (matchParts_eq_some hs).mpr hr, rfl⟩

/-- **A title reads back exactly when it has a reading, and then by its first one.** Its values
are the trimmed texts of that reading, each keyword and label with the first of its own. -/
theorem parse?_exact (source title : String) :
    let p := compile source
    let s := Text.trim title.toList
    ((p.parse? title ≠ none) ↔ ∃ texts, Reading p.segments s texts) ∧
      ∀ values, p.parse? title = some values →
        ∃ texts, FirstReading p.segments s texts ∧ ReadOff (p.capturedTexts texts) values := by
  intro p s
  constructor
  · rw [← matchParts_isSome (Text.not_feed_suffix (Text.trimmed_trim title.toList)), parse?,
      ne_eq, Option.map_eq_none_iff, ← ne_eq, ← Option.isSome_iff_ne_none]
  · intro values h
    obtain ⟨texts, hr, rfl⟩ := parse?_eq_some.mp h
    exact ⟨texts, hr, readOff_valuesOf _⟩

end CommitStyle.Pattern
