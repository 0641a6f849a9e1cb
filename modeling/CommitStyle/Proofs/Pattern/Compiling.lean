import CommitStyle.Pattern.Compile
import CommitStyle.Proofs.Text.AsciiCase
import Mathlib.Data.List.Forall2

/-! What compiling a pattern can give. Its captures are the tokens that were found
in the text, so the casing of a keyword is the one that its spelling shows. Its
name is one that values are known for, unless it is spelled with a letter that only
looks like the one that belongs there. -/

namespace CommitStyle.Pattern

theorem mem_consChar {c : Char} {segment : Segment} {segments : List Segment}
    (hc : segment.isLiteral = false) (h : segment ∈ consChar c segments) :
    segment ∈ segments := by
  unfold consChar at h
  split at h
  · rcases List.mem_cons.mp h with rfl | h
    · cases hc
    · exact List.mem_cons_of_mem _ h
  · rcases List.mem_cons.mp h with rfl | h
    · cases hc
    · exact h

theorem mem_joinPieces {segment : Segment} {pieces : List Piece} (hc : segment.isLiteral = false)
    (h : segment ∈ joinPieces pieces) : .token segment ∈ pieces := by
  induction pieces with
  | nil => cases h
  | cons piece rest ih =>
    cases piece with
    | char c => exact List.mem_cons_of_mem _ (ih (mem_consChar hc h))
    | token other =>
      rcases List.mem_cons.mp h with rfl | h
      · exact List.mem_cons_self
      · exact List.mem_cons_of_mem _ (ih h)

/-- Every token was found at some place of the text. -/
theorem tokenAt?_of_mem_pieces {segment : Segment} {before : Option Char} {skip : Nat}
    {s : List Char} (h : .token segment ∈ pieces before skip s) :
    ∃ previous rest width, rest <:+ s ∧ tokenAt? previous rest = some (segment, width) := by
  induction s generalizing before skip with
  | nil => cases h
  | cons c rest ih =>
    have hlater {before : Option Char} {skip : Nat}
        (h : .token segment ∈ pieces before skip rest) :
        ∃ previous tail width, tail <:+ c :: rest ∧
          tokenAt? previous tail = some (segment, width) := by
      obtain ⟨previous, tail, width, hsuffix, hfound⟩ := ih h
      exact ⟨previous, tail, width, hsuffix.trans (List.suffix_cons c rest), hfound⟩
    cases skip with
    | succ skip => exact hlater h
    | zero =>
      rw [pieces] at h
      split at h
      · rename_i found width hfound
        rcases List.mem_cons.mp h with heq | h
        · cases heq
          exact ⟨_, _, _, List.suffix_refl _, hfound⟩
        · exact hlater h
      · rcases List.mem_cons.mp h with heq | h
        · cases heq
        · exact hlater h

theorem spellings_of_spellsWord {word s : List Char} (h : spellsWord word s = true) :
    List.Forall₂ (fun letter c => spellsLetter letter c = true) word (s.take word.length) := by
  induction word generalizing s with
  | nil => exact .nil
  | cons letter word ih =>
    cases s with
    | nil => cases h
    | cons c rest =>
      rw [spellsWord, Bool.and_eq_true] at h
      exact .cons h.1 (ih h.2)

/-- A token is a label between braces, or a keyword in some spelling. -/
theorem tokenAt?_cases {before : Option Char} {s : List Char} {segment : Segment} {width : Nat}
    (h : tokenAt? before s = some (segment, width)) :
    (∃ label rest, segment = .field (String.ofList label) ∧ width = label.length + 1 ∧
      s = '\x7b' :: label ++ '\x7d' :: rest) ∨
    ∃ word ∈ keywordSpellings, spellsWord word s = true ∧ width = word.length - 1 ∧
      segment = .keyword (Text.lower (String.ofList (s.take word.length)))
        (Casing.detect (String.ofList (s.take word.length))) := by
  unfold tokenAt? at h
  split at h
  · cases h
  · rename_i rest
    unfold fieldAfterBrace? at h
    simp only [beq_iff_eq] at h
    split at h
    · rename_i hclose
      cases h
      obtain ⟨tail, htail⟩ := List.head?_eq_some_iff.mp hclose
      refine .inl ⟨_, tail, rfl, rfl, ?_⟩
      rw [List.cons_append, ← htail,
        List.prefix_iff_eq_append.mp (List.takeWhile_prefix fun c => !isBrace c)]
    · cases h
  · unfold keywordAt? at h
    split at h
    · cases h
    · obtain ⟨word, hword, hw⟩ := Option.map_eq_some_iff.mp h
      have hspells := List.find?_some hword
      rw [Bool.and_eq_true] at hspells
      cases hw
      exact .inr ⟨word, List.mem_of_find?_eq_some hword, hspells.1, rfl, rfl⟩

/-- A keyword is named and cased after its spelling. -/
theorem tokenAt?_keyword {before : Option Char} {s : List Char} {name : String}
    {casing : Casing} {width : Nat} (h : tokenAt? before s = some (.keyword name casing, width)) :
    ∃ spelling, name = Text.lower spelling ∧ casing = Casing.detect spelling := by
  rcases tokenAt?_cases h with ⟨_, _, hfield, -, -⟩ | ⟨_, -, -, -, hkeyword⟩
  · cases hfield
  · cases hkeyword
    exact ⟨_, rfl, rfl⟩

theorem keyword_of_mem_compile {source name : String} {casing : Casing}
    (h : .keyword name casing ∈ (compile source).segments) :
    ∃ spelling, name = Text.lower spelling ∧ casing = Casing.detect spelling := by
  obtain ⟨_, _, _, -, hfound⟩ := tokenAt?_of_mem_pieces (mem_joinPieces rfl h)
  exact tokenAt?_keyword hfound

/-- No spelling of a keyword leaves its values as they are provided. -/
theorem casing_of_mem_compile {source name : String} {casing : Casing}
    (h : .keyword name casing ∈ (compile source).segments) : casing ≠ .asProvided := by
  obtain ⟨spelling, -, rfl⟩ := keyword_of_mem_compile h
  rw [Casing.detect]
  split
  · simp
  · split <;> simp

/-! ## Names -/

/-- The keywords that a title has values for. -/
def keywordNames : List String := ["type", "scope", "description"]

/-- Every keyword has one of the names that values are known for. -/
def Named (p : Pattern) : Prop :=
  ∀ name casing, .keyword name casing ∈ p.segments → name ∈ keywordNames

/-- The letters past ASCII that are taken for a letter of a keyword. -/
def lookalikes : List Char := ['ſ', 'ı', 'İ']

theorem toLower_of_spellsLetter {letter c : Char} (h : spellsLetter letter c = true)
    (hc : c ∉ lookalikes) : c.toLower = letter := by
  simp only [lookalikes, List.mem_cons, List.not_mem_nil, or_false, not_or] at hc
  simpa [spellsLetter, hc.1, hc.2.1, hc.2.2] using h

/-- Without lookalikes the lower case of a spelling is the word. -/
theorem lowerChars_of_spellings {word spelling : List Char}
    (h : List.Forall₂ (fun letter c => spellsLetter letter c = true) word spelling)
    (hword : Text.IsAscii word) (hspelling : ∀ c ∈ spelling, c ∉ lookalikes) :
    Text.lowerChars spelling = word := by
  have hboth : Text.IsAscii spelling ∧ spelling.map Char.toLower = word := by
    induction h with
    | nil => exact ⟨hword, rfl⟩
    | @cons letter c word spelling hletter _ ih =>
      have hlower := toLower_of_spellsLetter hletter (hspelling c (by simp))
      obtain ⟨hascii, hmap⟩ := ih hword.cons.2 fun d hd => hspelling d (by simp [hd])
      refine ⟨fun d hd => ?_, by rw [List.map_cons, hlower, hmap]⟩
      rcases List.mem_cons.mp hd with rfl | hd
      · exact Text.ascii_of_toLower (hlower ▸ hword.cons.1)
      · exact hascii d hd
  rw [Text.lowerChars_ascii hboth.1, hboth.2]

/-- A keyword is misnamed only where it is spelled with a lookalike. -/
theorem named_compile {source : String} (h : ∀ c ∈ source.toList, c ∉ lookalikes) :
    Named (compile source) := by
  intro name casing hmem
  obtain ⟨_, rest, _, hsuffix, hfound⟩ := tokenAt?_of_mem_pieces (mem_joinPieces rfl hmem)
  rcases tokenAt?_cases hfound with ⟨_, _, hfield, -, -⟩ | ⟨word, hword, hspells, -, hkeyword⟩
  · cases hfield
  · have hlower := lowerChars_of_spellings (spellings_of_spellsWord hspells)
      ((by decide : ∀ word ∈ keywordSpellings, Text.IsAscii word) word hword)
      fun c hc => h c (hsuffix.subset (List.mem_of_mem_take hc))
    obtain rfl : name = String.ofList word := by
      rw [Text.lower, String.toList_ofList, hlower] at hkeyword
      exact (Segment.keyword.inj hkeyword).1
    exact (by decide : ∀ word ∈ keywordSpellings, String.ofList word ∈ keywordNames) word hword

end CommitStyle.Pattern
