import CommitStyle.Proofs.Pattern.Compiling
import CommitStyle.Proofs.Pattern.Parsing
import CommitStyle.Proofs.Slug

/-! How a text is cut into the segments of a pattern, said of the text and not of the
reading. A token is a label in braces or a keyword between word boundaries; a literal is
text at no place of which a token begins, as far as the next token. A text can be cut in
one way only, and compiling a pattern does it. -/

namespace CommitStyle.Pattern

variable {before span after s : List Char} {segment : Segment} {segments : List Segment}
  {width : Nat}

/-- A word character stands on one side only. -/
def IsBoundary (before after : List Char) : Prop :=
  before.getLast?.any Text.isWord ≠ after.head?.any Text.isWord

/-- A span of the text with what stands before and after it, and the segment it is the token
of. -/
inductive IsToken (before : List Char) : (span after : List Char) → Segment → Prop
  | field {label after : List Char} (hlabel : ∀ c ∈ label, isBrace c = false) :
      IsToken before ('\x7b' :: (label ++ ['\x7d'])) after (.field (String.ofList label))
  | keyword {word span after : List Char} (hword : word ∈ keywordSpellings)
      (hspells : List.Forall₂ (fun letter c => spellsLetter letter c = true) word span)
      (hstart : IsBoundary before (span ++ after)) (hend : IsBoundary (before ++ span) after) :
      IsToken before span after
        (.keyword (Text.lower (String.ofList span)) (Casing.detect (String.ofList span)))

/-- A token begins between the two texts. -/
def TokenBegins (before text : List Char) : Prop :=
  ∃ span after segment, text = span ++ after ∧ IsToken before span after segment

/-- The text after `before` is cut into spans, one for each segment. Those of literals are not
empty, end where a token begins or the text ends, and have no place where one begins. -/
inductive IsCut : (before text : List Char) → List Segment → Prop
  | nil {before : List Char} : IsCut before [] []
  | literal {before span after : List Char} {segments : List Segment} (hspan : span ≠ [])
      (hnone : ∀ front c back, span = front ++ c :: back →
        ¬ TokenBegins (before ++ front) (c :: (back ++ after)))
      (hnext : ∀ next ∈ segments.head?, next.isLiteral = false)
      (hrest : IsCut (before ++ span) after segments) :
      IsCut before (span ++ after) (.literal (String.ofList span) :: segments)
  | token {before span after : List Char} {segment : Segment} {segments : List Segment}
      (htoken : IsToken before span after segment) (hrest : IsCut (before ++ span) after segments) :
      IsCut before (span ++ after) (segment :: segments)

theorem IsToken.isLiteral (h : IsToken before span after segment) : segment.isLiteral = false := by
  cases h <;> rfl

/-! ## Letters of keywords -/

theorem isWord_of_spellsLetter {letter c : Char} (h : spellsLetter letter c = true)
    (hletter : letter.isLower = true) : Text.isWord c = true := by
  by_cases hc : c ∈ lookalikes
  · have hwords : lookalikes.all Text.isWord = true := by decide
    exact List.all_eq_true.mp hwords c hc
  · have hlower := toLower_of_spellsLetter h hc
    have halpha : letter.isAlpha = true := Bool.or_eq_true_iff.mpr (.inr hletter)
    have halphanum : letter.isAlphanum = true := Bool.or_eq_true_iff.mpr (.inl halpha)
    have hplain : Text.isPlain letter = true := Bool.or_eq_true_iff.mpr (.inl halphanum)
    have hascii := Text.isAscii_of_isPlain hplain
    rw [← hlower] at hascii hletter
    exact Text.forall_ascii (P := fun c => c.toLower.isLower = true → Text.isWord c = true)
      (by decide) (Text.ascii_of_toLower hascii) hletter

theorem isLower_of_mem_keywordSpellings {word : List Char} (h : word ∈ keywordSpellings) :
    word ≠ [] ∧ ∀ letter ∈ word, letter.isLower = true := by
  have hwords : (keywordSpellings.all fun word =>
      !word.isEmpty && word.all Char.isLower) = true := by decide
  simpa using List.all_eq_true.mp hwords word h

theorem isWord_of_spellings {word : List Char}
    (h : List.Forall₂ (fun letter c => spellsLetter letter c = true) word span)
    (hword : ∀ letter ∈ word, letter.isLower = true) : ∀ c ∈ span, Text.isWord c = true := by
  induction h with
  | nil => simp
  | cons hletter _ ih =>
    intro c hc
    rcases List.mem_cons.mp hc with rfl | hc
    · exact isWord_of_spellsLetter hletter (hword _ (by simp))
    · exact ih (fun letter hl => hword letter (by simp [hl])) c hc

theorem IsToken.ne_nil (h : IsToken before span after segment) : span ≠ [] := by
  cases h with
  | field => simp
  | keyword hword hspells =>
    rintro rfl
    cases hspells
    exact (isLower_of_mem_keywordSpellings hword).1 rfl

theorem spellsWord_iff {word : List Char} :
    spellsWord word s = true ↔ ∃ span after, s = span ++ after ∧
      List.Forall₂ (fun letter c => spellsLetter letter c = true) word span := by
  constructor
  · intro h
    exact ⟨s.take word.length, s.drop word.length, (List.take_append_drop _ _).symm,
      spellings_of_spellsWord h⟩
  · rintro ⟨span, after, rfl, h⟩
    induction h with
    | nil => rfl
    | cons hletter _ ih => exact Bool.and_eq_true_iff.mpr ⟨hletter, ih⟩

theorem spellsLetter_unique {letter other c : Char} (h : spellsLetter letter c = true)
    (h' : spellsLetter other c = true) (hletter : letter.isLower = true)
    (hother : other.isLower = true) : letter = other := by
  by_cases hc : c ∈ lookalikes
  · -- The letter of a lookalike is the one it resembles, as it is no lower case letter itself.
    have hlooks : (lookalikes.all fun c => !c.toLower.isLower) = true := by decide
    have hlook : c.toLower.isLower = false := by simpa using List.all_eq_true.mp hlooks c hc
    have hself {letter : Char} (hletter : letter.isLower = true) : (c.toLower == letter) = false :=
      beq_eq_false_iff_ne.mpr fun heq => by simp [← heq, hlook] at hletter
    rw [spellsLetter, hself hletter, Bool.false_or] at h
    rw [spellsLetter, hself hother, Bool.false_or] at h'
    simp only [lookalikes, List.mem_cons, List.not_mem_nil, or_false] at hc
    rcases hc with rfl | rfl | rfl <;> simp_all
  · rw [← toLower_of_spellsLetter h hc, toLower_of_spellsLetter h' hc]

/-- No two keywords begin with the same letter. -/
theorem spellsWord_unique {word other : List Char} (hword : word ∈ keywordSpellings)
    (hother : other ∈ keywordSpellings) (h : spellsWord word s = true)
    (h' : spellsWord other s = true) : word = other := by
  obtain ⟨hne, hlower⟩ := isLower_of_mem_keywordSpellings hword
  obtain ⟨hne', hlower'⟩ := isLower_of_mem_keywordSpellings hother
  obtain ⟨letter, rest, rfl⟩ := List.exists_cons_of_ne_nil hne
  obtain ⟨letter', rest', rfl⟩ := List.exists_cons_of_ne_nil hne'
  cases s with
  | nil => cases h
  | cons c s =>
    have hsame := spellsLetter_unique (Bool.and_eq_true_iff.mp h).1 (Bool.and_eq_true_iff.mp h').1
      (hlower letter (by simp)) (hlower' letter' (by simp))
    exact (by decide : ∀ word ∈ keywordSpellings, ∀ other ∈ keywordSpellings,
      word.head? = other.head? → word = other) _ hword _ hother (congrArg some hsame)

/-! ## Tokens and the reading of them -/

theorem fieldAfterBrace?_iff : fieldAfterBrace? s = some (segment, width) ↔
    ∃ label after, s = label ++ '\x7d' :: after ∧ (∀ c ∈ label, isBrace c = false) ∧
      segment = .field (String.ofList label) ∧ width = label.length + 1 := by
  unfold fieldAfterBrace?
  simp only [beq_iff_eq]
  constructor
  · intro h
    split at h
    · rename_i hclose
      cases h
      obtain ⟨after, hafter⟩ := List.head?_eq_some_iff.mp hclose
      refine ⟨_, after, ?_, fun c hc => ?_, rfl, rfl⟩
      · rw [← hafter, List.prefix_iff_eq_append.mp (List.takeWhile_prefix fun c => !isBrace c)]
      · simpa using (List.mem_takeWhile_imp hc)
    · cases h
  · rintro ⟨label, after, rfl, hlabel, rfl, rfl⟩
    have htake : (label ++ '\x7d' :: after).takeWhile (fun c => !isBrace c) = label := by
      rw [List.takeWhile_append_of_pos fun c hc => by simp [hlabel c hc]]
      simp [isBrace]
    rw [htake, List.drop_left, List.head?_cons, if_pos rfl]

/-- Before and after a word of word characters there is a boundary if no word character stands
there. -/
theorem isBoundary_iff_of_isWord (before after : List Char) (hspan : span ≠ [])
    (hword : ∀ c ∈ span, Text.isWord c = true) :
    (IsBoundary before (span ++ after) ↔ before.getLast?.any Text.isWord = false) ∧
    (IsBoundary (before ++ span) after ↔ after.head?.any Text.isWord = false) := by
  have hfirst : (span ++ after).head?.any Text.isWord = true := by
    obtain ⟨c, rest, rfl⟩ := List.exists_cons_of_ne_nil hspan
    exact hword c (by simp)
  have hlast : (before ++ span).getLast?.any Text.isWord = true := by
    rw [List.getLast?_append_of_ne_nil _ hspan, List.getLast?_eq_some_getLast hspan]
    exact hword _ (List.getLast_mem hspan)
  constructor
  · rw [IsBoundary, hfirst, ne_eq, Bool.not_eq_true]
  · rw [IsBoundary, hlast, ne_comm, ne_eq, Bool.not_eq_true]

theorem keywordAt?_iff : keywordAt? before.getLast? s = some (segment, width) ↔
    ∃ word span after, word ∈ keywordSpellings ∧ s = span ++ after ∧
      List.Forall₂ (fun letter c => spellsLetter letter c = true) word span ∧
      before.getLast?.any Text.isWord = false ∧ after.head?.any Text.isWord = false ∧
      segment = .keyword (Text.lower (String.ofList span)) (Casing.detect (String.ofList span)) ∧
      width = span.length - 1 := by
  unfold keywordAt?
  constructor
  · intro h
    split at h
    · cases h
    · rename_i hbefore
      obtain ⟨word, hfind, hw⟩ := Option.map_eq_some_iff.mp h
      have hfound := List.find?_some hfind
      rw [Bool.and_eq_true, Bool.not_eq_true'] at hfound
      have hspells := spellings_of_spellsWord hfound.1
      cases hw
      refine ⟨word, _, _, List.mem_of_find?_eq_some hfind, (List.take_append_drop _ s).symm,
        hspells, by simpa using hbefore, hfound.2, rfl, ?_⟩
      rw [← hspells.length_eq]
  · rintro ⟨word, span, after, hword, rfl, hspells, hbefore, hafter, rfl, rfl⟩
    have hwhole : spellsWord word (span ++ after) = true :=
      spellsWord_iff.mpr ⟨span, after, rfl, hspells⟩
    have hlength := hspells.length_eq
    have hfind : (keywordSpellings.find? fun word => spellsWord word (span ++ after) &&
        !((span ++ after).drop word.length).head?.any Text.isWord) = some word := by
      cases hfind : keywordSpellings.find? _ with
      | none =>
        have hnot := List.find?_eq_none.mp hfind word hword
        simp [hwhole, hlength, hafter] at hnot
      | some other =>
        have hother := List.find?_some hfind
        rw [Bool.and_eq_true] at hother
        rw [spellsWord_unique (List.mem_of_find?_eq_some hfind) hword hother.1 hwhole]
    rw [if_neg (by simp [hbefore]), hfind, Option.map_some, hlength, List.take_left]

/-- The reading finds exactly the tokens. -/
theorem tokenAt?_iff : tokenAt? before.getLast? s = some (segment, width) ↔
    ∃ span after, s = span ++ after ∧ IsToken before span after segment ∧
      span.length = width + 1 := by
  constructor
  · intro h
    unfold tokenAt? at h
    split at h
    · cases h
    · obtain ⟨label, after, rfl, hlabel, rfl, rfl⟩ := fieldAfterBrace?_iff.mp h
      exact ⟨_, after, by simp, .field hlabel, by simp⟩
    · obtain ⟨word, span, after, hword, rfl, hspells, hbefore, hafter, rfl, rfl⟩ :=
        keywordAt?_iff.mp h
      obtain ⟨hne, hlower⟩ := isLower_of_mem_keywordSpellings hword
      have hlength := hspells.length_eq
      have hpos := List.length_pos_iff.mpr hne
      have hspan : span ≠ [] := List.length_pos_iff.mp (by omega)
      obtain ⟨hstart, hend⟩ := isBoundary_iff_of_isWord before after hspan
        (isWord_of_spellings hspells hlower)
      exact ⟨span, after, rfl, .keyword hword hspells (hstart.mpr hbefore) (hend.mpr hafter),
        by omega⟩
  · rintro ⟨span, after, rfl, htoken, hwidth⟩
    cases htoken with
    | @field label _ hlabel =>
      refine fieldAfterBrace?_iff.mpr ⟨label, after, by simp, hlabel, rfl, ?_⟩
      simpa using hwidth.symm
    | @keyword word _ _ hword hspells hstart hend =>
      obtain ⟨hne, hlower⟩ := isLower_of_mem_keywordSpellings hword
      have hwords := isWord_of_spellings hspells hlower
      have hspan : span ≠ [] := List.length_pos_iff.mp (by omega)
      obtain ⟨hstart', hend'⟩ := isBoundary_iff_of_isWord before after hspan hwords
      have hkeyword := keywordAt?_iff.mpr ⟨word, span, after, hword, rfl, hspells,
        hstart'.mp hstart, hend'.mp hend, rfl, rfl⟩
      rw [show width = span.length - 1 by omega, ← hkeyword]
      obtain ⟨c, rest, rfl⟩ := List.exists_cons_of_ne_nil hspan
      have hbrace : c ≠ '\x7b' := by
        rintro rfl
        exact absurd (hwords '\x7b' (by simp)) (by decide)
      unfold tokenAt?
      split
      · rename_i heq
        cases heq
      · rename_i heq
        exact absurd (List.cons.inj heq).1 hbrace
      · rfl

theorem tokenAt?_eq_none_iff : tokenAt? before.getLast? s = none ↔ ¬ TokenBegins before s := by
  rw [Option.eq_none_iff_forall_ne_some]
  constructor
  · rintro h ⟨span, after, segment, rfl, htoken⟩
    have hpos : 0 < span.length := List.length_pos_iff.mpr htoken.ne_nil
    exact h (segment, span.length - 1) (tokenAt?_iff.mpr ⟨span, after, rfl, htoken, by omega⟩)
  · intro h ⟨segment, width⟩ hfound
    obtain ⟨span, after, rfl, htoken, -⟩ := tokenAt?_iff.mp hfound
    exact h ⟨span, after, segment, rfl, htoken⟩

/-- At one place there is one token at most. -/
theorem IsToken.unique {span' after' : List Char} {segment' : Segment}
    (h : IsToken before span after segment) (h' : IsToken before span' after' segment')
    (heq : span ++ after = span' ++ after') :
    segment = segment' ∧ span = span' ∧ after = after' := by
  have hpos := List.length_pos_iff.mpr h.ne_nil
  have hpos' := List.length_pos_iff.mpr h'.ne_nil
  have hfound := tokenAt?_iff.mpr ⟨span, after, rfl, h, (Nat.sub_add_cancel hpos).symm⟩
  have hfound' := tokenAt?_iff.mpr ⟨span', after', rfl, h', (Nat.sub_add_cancel hpos').symm⟩
  rw [heq, hfound'] at hfound
  obtain ⟨rfl, hwidth⟩ := Prod.mk.inj (Option.some.inj hfound)
  obtain ⟨rfl, rfl⟩ := List.append_inj heq (by omega)
  exact ⟨rfl, rfl, rfl⟩

/-! ## Compiling cuts the text -/

/-- What a token takes is passed over. -/
theorem pieces_skip (before span after : List Char) :
    pieces before.getLast? span.length (span ++ after) =
      pieces (before ++ span).getLast? 0 after := by
  induction span generalizing before with
  | nil => rw [List.append_nil]; rfl
  | cons c span ih =>
    have hlast : (before ++ [c]).getLast? = some c := List.getLast?_concat
    rw [List.length_cons, List.cons_append, pieces, ← hlast, ih, List.append_assoc]
    rfl

theorem isCut_consChar {c : Char} (hnone : ¬ TokenBegins before (c :: s))
    (h : IsCut (before ++ [c]) s segments) : IsCut before (c :: s) (consChar c segments) := by
  have hfirst {span after : List Char} (hrest : ∀ front d back, span = front ++ d :: back →
      ¬ TokenBegins (before ++ [c] ++ front) (d :: (back ++ after)))
      (hhead : ¬ TokenBegins before (c :: (span ++ after))) :
      ∀ front d back, c :: span = front ++ d :: back →
        ¬ TokenBegins (before ++ front) (d :: (back ++ after)) := by
    intro front d back heq
    cases front with
    | nil =>
      obtain ⟨rfl, rfl⟩ := List.cons.inj heq
      rwa [List.append_nil]
    | cons e front =>
      obtain ⟨rfl, htail⟩ := List.cons.inj heq
      have hlater := hrest front d back htail
      rwa [List.append_assoc] at hlater
  cases h with
  | nil => exact .literal (List.cons_ne_nil c []) (hfirst (by simp) hnone) (by simp) .nil
  | @literal _ span after segments hspan hinside hnext hrest =>
    rw [consChar, String.toList_ofList]
    rw [List.append_assoc] at hrest
    exact .literal (by simp) (hfirst hinside hnone) hnext hrest
  | @token _ span after segment segments htoken hrest =>
    have hcapture := htoken.isLiteral
    have hcons : consChar c (segment :: segments) =
        .literal (String.ofList [c]) :: segment :: segments := by
      cases htoken <;> rfl
    rw [hcons]
    exact .literal (List.cons_ne_nil c []) (hfirst (by simp) hnone) (by simpa using hcapture)
      (.token htoken hrest)

theorem isCut_pieces (before s : List Char) :
    IsCut before s (joinPieces (pieces before.getLast? 0 s)) := by
  -- A token takes many characters at once, so the induction is on the length.
  induction hlength : s.length using Nat.strong_induction_on generalizing before s with
  | _ n ih =>
  subst hlength
  cases s with
  | nil => exact .nil
  | cons c rest =>
    rw [pieces]
    cases hfound : tokenAt? before.getLast? (c :: rest) with
    | none =>
      have hrest := ih rest.length (by simp) (before ++ [c]) rest rfl
      rw [List.getLast?_concat] at hrest
      exact isCut_consChar (tokenAt?_eq_none_iff.mp hfound) hrest
    | some found =>
      obtain ⟨segment, width⟩ := found
      obtain ⟨span, after, heq, htoken, hwidth⟩ := tokenAt?_iff.mp hfound
      obtain ⟨d, span, rfl⟩ := List.exists_cons_of_ne_nil htoken.ne_nil
      obtain ⟨rfl, rfl⟩ := List.cons.inj heq
      obtain rfl : span.length = width := by simpa using hwidth
      have hskip := pieces_skip (before ++ [c]) span after
      rw [List.getLast?_concat, List.append_assoc] at hskip
      have hshorter : after.length < (c :: (span ++ after)).length := by
        rw [List.length_cons, List.length_append]
        omega
      have hrest := ih after.length hshorter (before ++ c :: span) after rfl
      show IsCut before (c :: (span ++ after))
        (segment :: joinPieces (pieces (some c) span.length (span ++ after)))
      rw [hskip]
      exact .token htoken hrest

/-! ## There is one way to cut a text -/

/-- A literal ends where the text ends or a token begins. -/
theorem IsCut.ends (h : IsCut before s segments) (hnext : ∀ next ∈ segments.head?,
    next.isLiteral = false) : s = [] ∨ TokenBegins before s := by
  cases h with
  | nil => exact .inl rfl
  | literal => exact absurd (hnext _ rfl) (by simp [Segment.isLiteral])
  | token htoken => exact .inr ⟨_, _, _, rfl, htoken⟩

/-- Of two literals from one place none is longer. -/
theorem literal_unique {span' after' : List Char} (heq : span ++ after = span' ++ after')
    (hnone : ∀ front c back, span' = front ++ c :: back →
      ¬ TokenBegins (before ++ front) (c :: (back ++ after')))
    (hends : after = [] ∨ TokenBegins (before ++ span) after) : span' <+: span := by
  rcases List.append_eq_append_iff.mp heq with ⟨more, rfl, rfl⟩ | ⟨more, rfl, rfl⟩
  · cases more with
    | nil => simp
    | cons c back =>
      rcases hends with hnil | hbegins
      · cases hnil
      · exact absurd hbegins (hnone span c back rfl)
  · exact List.prefix_append _ _

/-- No token begins where a literal does. -/
theorem not_tokenBegins_literal (hspan : span ≠ []) (hnone : ∀ front c back,
    span = front ++ c :: back → ¬ TokenBegins (before ++ front) (c :: (back ++ after))) :
    ¬ TokenBegins before (span ++ after) := by
  obtain ⟨c, back, rfl⟩ := List.exists_cons_of_ne_nil hspan
  have hstart := hnone [] c back rfl
  rwa [List.append_nil] at hstart

theorem IsCut.unique {others : List Segment} (h : IsCut before s segments)
    (h' : IsCut before s others) : segments = others := by
  induction h generalizing others with
  | nil =>
    generalize htext : [] = text at h'
    cases h' with
    | nil => rfl
    | literal hspan => exact absurd (List.append_eq_nil_iff.mp htext.symm).1 hspan
    | token htoken => exact absurd (List.append_eq_nil_iff.mp htext.symm).1 htoken.ne_nil
  | @literal before span after segments hspan hnone hnext hrest ih =>
    have hnot := not_tokenBegins_literal hspan hnone
    generalize htext : span ++ after = text at h'
    cases h' with
    | nil => exact absurd (List.append_eq_nil_iff.mp htext).1 hspan
    | @literal _ span' after' _ hspan' hnone' hnext' hrest' =>
      have hprefix := literal_unique htext hnone' (hrest.ends hnext)
      have hprefix' := literal_unique htext.symm hnone (hrest'.ends hnext')
      obtain rfl : span = span' :=
        hprefix'.eq_of_length (Nat.le_antisymm hprefix'.length_le hprefix.length_le)
      obtain rfl := List.append_cancel_left htext
      rw [ih hrest']
    | token htoken' => exact absurd ⟨_, _, _, htext, htoken'⟩ hnot
  | @token before span after segment segments htoken hrest ih =>
    generalize htext : span ++ after = text at h'
    cases h' with
    | nil => exact absurd (List.append_eq_nil_iff.mp htext).1 htoken.ne_nil
    | literal hspan' hnone' =>
      exact absurd ⟨_, _, _, htext.symm, htoken⟩ (not_tokenBegins_literal hspan' hnone')
    | token htoken' hrest' =>
      obtain ⟨rfl, rfl, rfl⟩ := htoken.unique htoken' htext
      rw [ih hrest']

/-! ## The labels of the fields -/

/-- The list names each of the labels once, in the order in which they first appear. -/
structure ListsFirst (listed labels : List String) : Prop where
  nodup : listed.Nodup
  mem : ∀ label, label ∈ listed ↔ label ∈ labels
  order : ∀ front label back, labels = front ++ label :: back → label ∉ front →
    ∃ earlier later, listed = earlier ++ label :: later ∧
      ∀ other, other ∈ earlier ↔ other ∈ front

theorem listsFirst_eraseDups (labels : List String) : ListsFirst labels.eraseDups labels where
  nodup := nodup_eraseDups labels
  mem label := List.mem_eraseDups
  order := by
    rintro front label back rfl hfirst
    refine ⟨front.eraseDups, ((back.removeAll front).filter fun other => !other == label).eraseDups,
      ?_, fun other => List.mem_eraseDups⟩
    have hkept : (label :: back).removeAll front = label :: back.removeAll front := by
      simp [List.removeAll, hfirst]
    rw [List.eraseDups_append, hkept, List.eraseDups_cons]

/-- **Compiling a pattern is cutting its text.** The segments are those into which the text can be
cut, and there are no others. The fields are the labels of the field tokens, each once. -/
theorem compile_cuts (source : String) :
    (∀ segments, segments = (compile source).segments ↔ IsCut [] source.toList segments) ∧
    ListsFirst (compile source).fields
      ((compile source).segments.filterMap Segment.fieldLabel?) := by
  have hcut : IsCut [] source.toList (compile source).segments := isCut_pieces [] source.toList
  refine ⟨fun segments => ⟨?_, fun h => h.unique hcut⟩, listsFirst_eraseDups _⟩
  rintro rfl
  exact hcut

example : (compile "{a} - TYPE{type}").segments =
    [.field "a", .literal " - ", .keyword "type" .upper, .field "type"] := by
  decide

end CommitStyle.Pattern
