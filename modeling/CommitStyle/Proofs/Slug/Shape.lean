import CommitStyle.Proofs.Slug

/-! What a slug is, said without the words that it is built of: the kept characters of the
text in their order, a dash between two of them where something separates them, and no
dash anywhere else. That says all there is to say about it, so what has these
properties is the slug; and a slug is its own slug. -/

namespace CommitStyle.Slug

variable {preserveCase : Bool} {c d : Char} {gap rest after : List Char}

/-- The text that a slug is made of: in lower case, unless the case is to be preserved. -/
def folded (preserveCase : Bool) (value : String) : List Char :=
  if preserveCase then value.toList else Text.lowerChars value.toList

theorem folded_true (value : String) : folded true value = value.toList := if_pos rfl

theorem folded_false (value : String) : folded false value = Text.lowerChars value.toList :=
  if_neg (by decide)

/-- What stands between two kept characters with a gap between them. -/
def joint (gap : List Char) : List Char := if gap.any isSeparator then ['-'] else []

/-- The slug has the kept characters of the text, in order, and nothing else but dashes. Between
two kept characters with no other between them it has one dash if white space or a dash
separates them, and nothing otherwise. It neither starts nor ends with a dash. -/
structure IsSlug (preserveCase : Bool) (text slug : List Char) : Prop where
  letters : slug.filter (· != '-') = text.filter (isKept preserveCase)
  joints : ∀ before c gap d after, text = before ++ c :: (gap ++ d :: after) →
    isKept preserveCase c = true → isKept preserveCase d = true →
    (∀ e ∈ gap, isKept preserveCase e = false) →
      ∃ first last, slug = first ++ c :: (joint gap ++ d :: last) ∧
        first.filter (· != '-') = before.filter (isKept preserveCase)
  starts : slug.head? ≠ some '-'
  ends : slug.getLast? ≠ some '-'

/-! ## Kept characters -/

theorem ne_dash_of_isKept (h : isKept preserveCase c = true) : c ≠ '-' := by
  rintro rfl
  cases preserveCase <;> cases h

theorem not_isSeparator_of_isKept (h : isKept preserveCase c = true) : isSeparator c = false := by
  have hplain := isPlain_of_isKept h
  have hblank := Text.forall_ascii
    (P := fun c => Text.isPlain c = true → Text.isBlank c = false) (by decide)
    (Text.isAscii_of_isPlain hplain) hplain
  have hdash : (c == '-') = false := beq_eq_false_iff_ne.mpr (ne_dash_of_isKept h)
  rw [isSeparator, hblank, hdash, Bool.or_false]

theorem not_isKept_joint (gap : List Char) : ∀ c ∈ joint gap, isKept preserveCase c = false := by
  intro c hc
  unfold joint at hc
  split at hc
  · rw [List.mem_singleton.mp hc]
    cases preserveCase <;> rfl
  · cases hc

theorem joint_joint (gap : List Char) : joint (joint gap) = joint gap := by
  unfold joint
  split
  · rfl
  · rfl

theorem filter_joint (gap : List Char) : (joint gap).filter (· != '-') = [] := by
  unfold joint
  split <;> rfl

theorem filter_not_kept (h : ∀ e ∈ gap, isKept preserveCase e = false) :
    gap.filter (isKept preserveCase) = [] :=
  List.filter_eq_nil_iff.mpr fun e he => by simp [h e he]

/-- A text is gone through from one kept character to the next. -/
theorem keptInduction (preserveCase : Bool) {motive : List Char → Prop} (nil : motive [])
    (skip : ∀ c rest, isKept preserveCase c = false → motive rest → motive (c :: rest))
    (last : ∀ c gap, isKept preserveCase c = true → (∀ e ∈ gap, isKept preserveCase e = false) →
      motive (c :: gap))
    (next : ∀ c gap d after, isKept preserveCase c = true → isKept preserveCase d = true →
      (∀ e ∈ gap, isKept preserveCase e = false) → motive (gap ++ d :: after) →
        motive (c :: (gap ++ d :: after)))
    (s : List Char) : motive s := by
  induction s with
  | nil => exact nil
  | cons c rest ih =>
    cases hc : isKept preserveCase c with
    | false => exact skip c rest hc ih
    | true =>
      by_cases hnone : ∀ e ∈ rest, isKept preserveCase e = false
      · exact last c rest hc hnone
      have hsome : (rest.find? (isKept preserveCase)).isSome := by
        simpa [List.find?_isSome] using hnone
      obtain ⟨d, hd⟩ := Option.isSome_iff_exists.mp hsome
      obtain ⟨hkept, gap, after, rfl, hgap⟩ := List.find?_eq_some_iff_append.mp hd
      exact next c gap d after hc hkept (fun e he => by simpa using hgap e he) ih

/-! ## What a slug is built like -/

theorem ofChars_skip (h : isKept preserveCase c = false) :
    ofChars preserveCase (c :: rest) = ofChars preserveCase rest := by
  unfold ofChars
  rw [words]
  split
  · rfl
  · cases hwords : words preserveCase rest with
    | nil => exact absurd hwords (words_ne_nil rest)
    | cons word others => simp [h]

theorem words_kept (h : isKept preserveCase c = true) {word : List Char}
    {others : List (List Char)} (hwords : words preserveCase rest = word :: others) :
    words preserveCase (c :: rest) = (c :: word) :: others := by
  rw [words, if_neg (by simp [not_isSeparator_of_isKept h]), hwords]
  simp [h]

/-- A gap with a separator ends a word; one without makes no difference. -/
theorem words_gap (h : ∀ e ∈ gap, isKept preserveCase e = false) (rest : List Char) :
    (gap.any isSeparator = false → words preserveCase (gap ++ rest) = words preserveCase rest) ∧
    (gap.any isSeparator = true → ∃ others, words preserveCase (gap ++ rest) = [] :: others ∧
      others.filter (!·.isEmpty) = (words preserveCase rest).filter (!·.isEmpty)) := by
  induction gap with
  | nil => exact ⟨fun _ => rfl, fun hany => by cases hany⟩
  | cons e gap ih =>
    obtain ⟨hnone, hsome⟩ := ih fun f hf => h f (by simp [hf])
    have he := h e (by simp)
    rw [List.cons_append, words]
    cases hsep : isSeparator e with
    | true =>
      refine ⟨fun hany => by simp [hsep] at hany, fun _ => ⟨_, rfl, ?_⟩⟩
      cases hany : gap.any isSeparator with
      | false => rw [hnone hany]
      | true =>
        obtain ⟨others, hwords, hothers⟩ := hsome hany
        rw [hwords, ← hothers]
        rfl
    | false =>
      constructor
      · intro hany
        rw [← hnone (by simpa [hsep] using hany)]
        cases hwords : words preserveCase (gap ++ rest) with
        | nil => exact absurd hwords (words_ne_nil _)
        | cons word others => simp [he]
      · intro hany
        obtain ⟨others, hwords, hothers⟩ := hsome (by simpa [hsep] using hany)
        refine ⟨others, ?_, hothers⟩
        simp [hwords, he]

theorem ofChars_last (hc : isKept preserveCase c = true)
    (hgap : ∀ e ∈ gap, isKept preserveCase e = false) : ofChars preserveCase (c :: gap) = [c] := by
  obtain ⟨hnone, hsome⟩ := words_gap hgap []
  rw [List.append_nil] at hnone hsome
  unfold ofChars
  cases hany : gap.any isSeparator with
  | false =>
    rw [words_kept hc (hnone hany)]
    rfl
  | true =>
    obtain ⟨others, hwords, hothers⟩ := hsome hany
    rw [words_kept hc hwords, List.filter_cons_of_pos (by simp), hothers]
    rfl

theorem ofChars_next (hc : isKept preserveCase c = true) (hd : isKept preserveCase d = true)
    (hgap : ∀ e ∈ gap, isKept preserveCase e = false) (after : List Char) :
    ofChars preserveCase (c :: (gap ++ d :: after)) =
      c :: (joint gap ++ ofChars preserveCase (gap ++ d :: after)) := by
  obtain ⟨hnone, hsome⟩ := words_gap hgap (d :: after)
  obtain ⟨word, others, hafter⟩ := List.exists_cons_of_ne_nil (words_ne_nil after)
  have hkept := words_kept hd hafter
  unfold ofChars joint
  cases hany : gap.any isSeparator with
  | false =>
    have hwords := hnone hany
    rw [hkept] at hwords
    rw [words_kept hc hwords, hwords, List.filter_cons_of_pos (by simp),
      List.filter_cons_of_pos (by simp)]
    cases others.filter (!·.isEmpty) with
    | nil => simp
    | cons next more => simp [List.intercalate_cons_cons]
  | true =>
    obtain ⟨more, hwords, hmore⟩ := hsome hany
    rw [hkept, List.filter_cons_of_pos (by simp)] at hmore
    rw [words_kept hc hwords, hwords, List.filter_cons_of_pos (by simp),
      List.filter_cons_of_neg (by simp), hmore]
    simp [List.intercalate_cons_cons]

/-! ## What has the shape of a slug -/

theorem eq_nil_of_filter {s : List Char} (h : s.filter (· != '-') = [])
    (hstarts : s.head? ≠ some '-') : s = [] := by
  cases s with
  | nil => rfl
  | cons c rest =>
    have hc : c = '-' := by simpa using List.filter_eq_nil_iff.mp h c (by simp)
    exact absurd (by rw [hc]; rfl) hstarts

theorem eq_cons_of_filter {s others : List Char} (h : s.filter (· != '-') = c :: others)
    (hstarts : s.head? ≠ some '-') : ∃ rest, s = c :: rest := by
  cases s with
  | nil => cases h
  | cons d rest =>
    have hd : d ≠ '-' := by
      rintro rfl
      exact hstarts rfl
    rw [List.filter_cons_of_pos (by simpa using hd)] at h
    exact ⟨rest, by rw [(List.cons.inj h).1]⟩

theorem isSlug_nil {slug : List Char} : IsSlug preserveCase [] slug ↔ slug = [] := by
  constructor
  · intro h
    exact eq_nil_of_filter h.letters h.starts
  · rintro rfl
    exact ⟨rfl, fun before c gap d after h => by simp at h, by simp, by simp⟩

theorem isSlug_skip {slug : List Char} (hc : isKept preserveCase c = false) :
    IsSlug preserveCase (c :: rest) slug ↔ IsSlug preserveCase rest slug := by
  have hfilter (s : List Char) :
      (c :: s).filter (isKept preserveCase) = s.filter (isKept preserveCase) :=
    List.filter_cons_of_neg (by simp [hc])
  constructor
  · intro h
    refine ⟨hfilter rest ▸ h.letters, fun before d gap e after hrest hd he hgap => ?_, h.starts,
      h.ends⟩
    obtain ⟨first, last, hslug, hfirst⟩ :=
      h.joints (c :: before) d gap e after (by rw [hrest]; rfl) hd he hgap
    exact ⟨first, last, hslug, hfirst.trans (hfilter before)⟩
  · intro h
    refine ⟨(hfilter rest).symm ▸ h.letters, fun before d gap e after hrest hd he hgap => ?_,
      h.starts, h.ends⟩
    cases before with
    | nil =>
      obtain ⟨rfl, -⟩ := List.cons.inj hrest
      rw [hc] at hd
      cases hd
    | cons b before =>
      obtain ⟨rfl, htail⟩ := List.cons.inj hrest
      obtain ⟨first, last, hslug, hfirst⟩ := h.joints before d gap e after htail hd he hgap
      exact ⟨first, last, hslug, hfirst.trans (hfilter before).symm⟩

/-- Where the next kept character stands is determined. -/
theorem next_unique {gap' after' : List Char} {d' : Char}
    (h : gap ++ d :: after = gap' ++ d' :: after') (hd : isKept preserveCase d = true)
    (hd' : isKept preserveCase d' = true) (hgap : ∀ e ∈ gap, isKept preserveCase e = false)
    (hgap' : ∀ e ∈ gap', isKept preserveCase e = false) : gap = gap' ∧ d = d' ∧ after = after' := by
  induction gap generalizing gap' with
  | nil =>
    cases gap' with
    | nil =>
      obtain ⟨rfl, rfl⟩ := List.cons.inj h
      exact ⟨rfl, rfl, rfl⟩
    | cons e gap' =>
      obtain ⟨rfl, -⟩ := List.cons.inj h
      exact absurd hd (by simp [hgap' d (by simp)])
  | cons e gap ih =>
    cases gap' with
    | nil =>
      obtain ⟨rfl, -⟩ := List.cons.inj h
      exact absurd hd' (by simp [hgap e (by simp)])
    | cons e' gap' =>
      obtain ⟨rfl, htail⟩ := List.cons.inj h
      obtain ⟨rfl, rfl, rfl⟩ := ih htail (fun f hf => hgap f (by simp [hf]))
        (fun f hf => hgap' f (by simp [hf]))
      exact ⟨rfl, rfl, rfl⟩

/-- After a joint comes a character that is none. -/
theorem joint_left {s first last : List Char} (hd : d ≠ '-')
    (h : joint gap ++ s = first ++ d :: last) :
    ∃ first', first = joint gap ++ first' ∧ s = first' ++ d :: last := by
  unfold joint at h ⊢
  split at h
  · rw [if_pos ‹_›]
    cases first with
    | nil => exact absurd (List.cons.inj h).1.symm hd
    | cons e first =>
      obtain ⟨rfl, htail⟩ := List.cons.inj h
      exact ⟨first, rfl, htail⟩
  · rw [if_neg ‹_›]
    exact ⟨first, rfl, h⟩

theorem isSlug_last {slug : List Char} (hc : isKept preserveCase c = true)
    (hgap : ∀ e ∈ gap, isKept preserveCase e = false) :
    IsSlug preserveCase (c :: gap) slug ↔ slug = [c] := by
  have hfilter : (c :: gap).filter (isKept preserveCase) = [c] := by
    rw [List.filter_cons_of_pos hc, filter_not_kept hgap]
  have hdash : c ≠ '-' := ne_dash_of_isKept hc
  constructor
  · intro h
    have hletters := h.letters.trans hfilter
    obtain ⟨rest, rfl⟩ := eq_cons_of_filter hletters h.starts
    rw [List.filter_cons_of_pos (by simpa using hdash)] at hletters
    have hrest := (List.cons.inj hletters).2
    -- What follows holds dashes only, and does not end with one.
    cases hlast : rest.getLast? with
    | none => rw [List.getLast?_eq_none_iff.mp hlast]
    | some e =>
      have he : e = '-' := by
        simpa using List.filter_eq_nil_iff.mp hrest e (List.mem_of_getLast? hlast)
      exact absurd (by rw [List.getLast?_cons, hlast, he]; rfl) h.ends
  · rintro rfl
    refine ⟨?_, fun before d gap' e after hrest hd he hgap' => ?_, by simpa using hdash,
      by simpa using hdash⟩
    · rw [hfilter]
      simpa using hdash
    · have hkept := congrArg (fun s => (s.filter (isKept preserveCase)).length) hrest
      simp only [hfilter, List.filter_append, List.filter_cons_of_pos hd,
        List.filter_cons_of_pos he, List.length_append, List.length_cons] at hkept
      simp at hkept
      omega

theorem filter_joined (hc : isKept preserveCase c = true) (gap rest : List Char) :
    (c :: (joint gap ++ rest)).filter (· != '-') = c :: rest.filter (· != '-') := by
  rw [List.filter_cons_of_pos (by simpa using ne_dash_of_isKept hc), List.filter_append,
    filter_joint, List.nil_append]

/-- What stands behind the first joint of a slug is the slug of what stands behind the gap. -/
theorem IsSlug.behind {last : List Char} (hc : isKept preserveCase c = true)
    (hd : isKept preserveCase d = true)
    (h : IsSlug preserveCase (c :: (gap ++ d :: after)) (c :: (joint gap ++ d :: last))) :
    IsSlug preserveCase (gap ++ d :: after) (d :: last) := by
  refine ⟨?_, fun before e gap' f after' hrest he hf hgap' => ?_,
    by simpa using ne_dash_of_isKept hd, fun hend => h.ends ?_⟩
  · have hall := h.letters
    rw [filter_joined hc, List.filter_cons_of_pos hc] at hall
    exact (List.cons.inj hall).2
  · obtain ⟨first, last', hslug, hfirst⟩ :=
      h.joints (c :: before) e gap' f after' (by rw [hrest]; rfl) he hf hgap'
    rw [List.filter_cons_of_pos hc] at hfirst
    cases first with
    | nil => cases hfirst
    | cons b first =>
      obtain ⟨rfl, htail⟩ := List.cons.inj hslug
      obtain ⟨first', rfl, hlast⟩ := joint_left (ne_dash_of_isKept he) htail
      rw [filter_joined hc] at hfirst
      exact ⟨first', last', hlast, (List.cons.inj hfirst).2⟩
  · rw [List.getLast?_cons, List.getLast?_append, hend]
    rfl

/-- A kept character and the joint of the gap behind it go before a slug. -/
theorem IsSlug.next {last : List Char} (hc : isKept preserveCase c = true)
    (hd : isKept preserveCase d = true) (hgap : ∀ e ∈ gap, isKept preserveCase e = false)
    (h : IsSlug preserveCase (gap ++ d :: after) (d :: last)) :
    IsSlug preserveCase (c :: (gap ++ d :: after)) (c :: (joint gap ++ d :: last)) := by
  refine ⟨?_, fun before e gap' f after' hrest he hf hgap' => ?_,
    by simpa using ne_dash_of_isKept hc, fun hend => h.ends ?_⟩
  · rw [filter_joined hc, h.letters, List.filter_cons_of_pos hc]
  · cases before with
    | nil =>
      obtain ⟨rfl, htail⟩ := List.cons.inj hrest
      obtain ⟨rfl, rfl, rfl⟩ := next_unique htail hd hf hgap hgap'
      exact ⟨[], last, rfl, rfl⟩
    | cons b before =>
      obtain ⟨rfl, htail⟩ := List.cons.inj hrest
      obtain ⟨first, last', hslug, hfirst⟩ := h.joints before e gap' f after' htail he hf hgap'
      refine ⟨c :: (joint gap ++ first), last', ?_, ?_⟩
      · rw [hslug, List.cons_append, List.append_assoc]
      · rw [filter_joined hc, hfirst, List.filter_cons_of_pos hc]
  · rw [List.getLast?_cons, List.getLast?_append] at hend
    cases hlast : (d :: last).getLast? with
    | none => simp at hlast
    | some e => simpa [hlast] using hend

theorem isSlug_next {slug : List Char} (hc : isKept preserveCase c = true)
    (hd : isKept preserveCase d = true) (hgap : ∀ e ∈ gap, isKept preserveCase e = false) :
    IsSlug preserveCase (c :: (gap ++ d :: after)) slug ↔
      ∃ rest, slug = c :: (joint gap ++ rest) ∧ IsSlug preserveCase (gap ++ d :: after) rest := by
  constructor
  · intro h
    obtain ⟨first, last, hslug, hfirst⟩ := h.joints [] c gap d after rfl hc hd hgap
    obtain rfl : first = [] := eq_nil_of_filter hfirst fun hstart => h.starts <| by
      rw [hslug, List.head?_append, hstart]
      rfl
    rw [List.nil_append] at hslug
    subst hslug
    exact ⟨d :: last, rfl, h.behind hc hd⟩
  · rintro ⟨rest, rfl, h⟩
    have hfilter : (gap ++ d :: after).filter (isKept preserveCase) =
        d :: after.filter (isKept preserveCase) := by
      rw [List.filter_append, filter_not_kept hgap, List.nil_append, List.filter_cons_of_pos hd]
    obtain ⟨last, rfl⟩ := eq_cons_of_filter (h.letters.trans hfilter) h.starts
    exact h.next hc hd hgap

/-- The slug is the one text of its shape. -/
theorem isSlug_iff {text slug : List Char} :
    IsSlug preserveCase text slug ↔ slug = ofChars preserveCase text := by
  induction text using keptInduction preserveCase generalizing slug with
  | nil => exact isSlug_nil
  | skip c rest hc ih => rw [isSlug_skip hc, ofChars_skip hc, ih]
  | last c gap hc hgap => rw [isSlug_last hc hgap, ofChars_last hc hgap]
  | next c gap d after hc hd hgap ih =>
    rw [isSlug_next hc hd hgap, ofChars_next hc hd hgap]
    constructor
    · rintro ⟨rest, rfl, hrest⟩
      rw [ih.mp hrest]
    · rintro rfl
      exact ⟨_, rfl, ih.mpr rfl⟩

/-! ## The slug of a slug -/

theorem ofChars_gap (hgap : ∀ e ∈ gap, isKept preserveCase e = false) (rest : List Char) :
    ofChars preserveCase (gap ++ rest) = ofChars preserveCase rest := by
  induction gap with
  | nil => rfl
  | cons e gap ih =>
    rw [List.cons_append, ofChars_skip (hgap e (by simp)), ih fun f hf => hgap f (by simp [hf])]

theorem ofChars_starts (hd : isKept preserveCase d = true) (after : List Char) :
    ∃ rest, ofChars preserveCase (d :: after) = d :: rest := by
  have hslug : IsSlug preserveCase (d :: after) _ := isSlug_iff.mpr rfl
  exact eq_cons_of_filter (hslug.letters.trans (List.filter_cons_of_pos hd)) hslug.starts

theorem ofChars_ofChars (s : List Char) :
    ofChars preserveCase (ofChars preserveCase s) = ofChars preserveCase s := by
  induction s using keptInduction preserveCase with
  | nil => rfl
  | skip c rest hc ih => rw [ofChars_skip hc, ih]
  | last c gap hc hgap => rw [ofChars_last hc hgap, ofChars_last hc (by simp)]
  | next c gap d after hc hd hgap ih =>
    rw [ofChars_next hc hd hgap]
    obtain ⟨rest, hrest⟩ := ofChars_starts hd after
    rw [ofChars_gap hgap, hrest] at ih ⊢
    rw [ofChars_next hc hd (not_isKept_joint gap), joint_joint,
      ofChars_gap (not_isKept_joint gap), ih]

/-! ## The case of a slug -/

theorem isKept_of_toLower (h : c.toNat < 0x80) :
    isKept false c.toLower = isKept true c ∧ isSeparator c.toLower = isSeparator c :=
  Text.forall_ascii (P := fun c => isKept false c.toLower = isKept true c ∧
    isSeparator c.toLower = isSeparator c) (by decide) h

theorem joint_map_toLower (h : Text.IsAscii gap) : joint (gap.map Char.toLower) = joint gap := by
  have hany : (gap.map Char.toLower).any isSeparator = gap.any isSeparator := by
    rw [List.any_map, Bool.eq_iff_iff, List.any_eq_true, List.any_eq_true]
    exact exists_congr fun c => and_congr_right fun hc => by
      rw [Function.comp_apply, (isKept_of_toLower (h c hc)).2]
  rw [joint, joint, hany]

/-- Of an ASCII text the lower-case slug is the other one in lower case. -/
theorem ofChars_map_toLower {s : List Char} (h : Text.IsAscii s) :
    ofChars false (s.map Char.toLower) = (ofChars true s).map Char.toLower := by
  have hlower {gap : List Char} (hascii : Text.IsAscii gap)
      (hgap : ∀ e ∈ gap, isKept true e = false) :
      ∀ e ∈ gap.map Char.toLower, isKept false e = false := by
    intro e he
    obtain ⟨f, hf, rfl⟩ := List.mem_map.mp he
    rw [(isKept_of_toLower (hascii f hf)).1, hgap f hf]
  induction s using keptInduction true with
  | nil => rfl
  | skip c rest hc ih =>
    have hkept := (isKept_of_toLower h.cons.1).1.trans hc
    rw [List.map_cons, ofChars_skip hkept, ofChars_skip hc, ih h.cons.2]
  | last c gap hc hgap =>
    have hkept := (isKept_of_toLower h.cons.1).1.trans hc
    rw [List.map_cons, ofChars_last hkept (hlower h.cons.2 hgap), ofChars_last hc hgap]
    rfl
  | next c gap d after hc hd hgap ih =>
    have hrest := ih h.cons.2
    have hasciiGap : Text.IsAscii gap := fun e he => h e (by simp [he])
    have hkept := (isKept_of_toLower h.cons.1).1.trans hc
    have hkept' := (isKept_of_toLower (h d (by simp))).1.trans hd
    rw [List.map_append, List.map_cons] at hrest
    rw [List.map_cons, List.map_append, List.map_cons,
      ofChars_next hkept hkept' (hlower hasciiGap hgap), hrest, joint_map_toLower hasciiGap,
      ofChars_next hc hd hgap, List.map_cons, List.map_append]
    unfold joint
    split <;> rfl

theorem map_toLower_ofChars (s : List Char) :
    (ofChars false s).map Char.toLower = ofChars false s := by
  have hslug : IsSlug false s _ := isSlug_iff.mpr rfl
  refine (List.map_congr_left fun c hc => ?_).trans (List.map_id _)
  by_cases hdash : c = '-'
  · rw [hdash]
    rfl
  have hmem : c ∈ (ofChars false s).filter (· != '-') := List.mem_filter.mpr ⟨hc, by simpa⟩
  rw [hslug.letters] at hmem
  have hkept := (List.mem_filter.mp hmem).2
  exact Text.forall_ascii (P := fun c => isKept false c = true → c.toLower = c)
    (by decide) (Text.isAscii_of_isPlain (isPlain_of_isKept hkept)) hkept

theorem isAscii_ofChars (s : List Char) : Text.IsAscii (ofChars preserveCase s) := fun _ hc =>
  Text.isAscii_of_isPlain (isPlain_of_mem_ofChars hc)

theorem toList_sanitize (value : String) (preserveCase : Bool) :
    (sanitize value preserveCase).toList = ofChars preserveCase (folded preserveCase value) :=
  String.toList_ofList

/-- A slug is its own slug. -/
theorem sanitize_sanitize (value : String) (preserveCase : Bool) :
    sanitize (sanitize value preserveCase) preserveCase = sanitize value preserveCase := by
  have hfolded : folded preserveCase (sanitize value preserveCase) =
      ofChars preserveCase (folded preserveCase value) := by
    cases preserveCase with
    | true => rw [folded_true, toList_sanitize]
    | false =>
      rw [folded_false, toList_sanitize, Text.lowerChars_ascii (isAscii_ofChars _),
        map_toLower_ofChars]
  apply String.toList_inj.mp
  rw [toList_sanitize, hfolded, ofChars_ofChars, toList_sanitize]

theorem sanitize_lower {value : String} (h : Text.IsAscii value.toList) :
    sanitize value false = Text.lower (sanitize value true) := by
  apply String.toList_inj.mp
  rw [toList_sanitize, folded_false, Text.lowerChars_ascii h, ofChars_map_toLower h, Text.lower,
    String.toList_ofList, toList_sanitize, folded_true, Text.lowerChars_ascii (isAscii_ofChars _)]

/-- **A slug is determined by its shape.** It has the kept characters of the text in order, one
dash where something separates two of them, and nothing else. So a slug is its own slug, and that
of an ASCII text in lower case is the one that preserves the case in lower case. -/
theorem sanitize_characterized (value : String) (preserveCase : Bool) :
    (∀ slug : String, slug = sanitize value preserveCase ↔
      IsSlug preserveCase (folded preserveCase value) slug.toList) ∧
    sanitize (sanitize value preserveCase) preserveCase = sanitize value preserveCase ∧
    (Text.IsAscii value.toList → sanitize value false = Text.lower (sanitize value true)) := by
  refine ⟨fun slug => ?_, sanitize_sanitize value preserveCase, sanitize_lower⟩
  rw [isSlug_iff, ← toList_sanitize, String.toList_inj]

theorem sanitize_characterized_spaced :
    Text.IsAscii " Fix: the  BUG-".toList ∧
    sanitize " Fix: the  BUG-" false = Text.lower (sanitize " Fix: the  BUG-" true) :=
  have h : Text.IsAscii " Fix: the  BUG-".toList := by decide
  ⟨h, (sanitize_characterized " Fix: the  BUG-" true).2.2 h⟩

end CommitStyle.Slug
