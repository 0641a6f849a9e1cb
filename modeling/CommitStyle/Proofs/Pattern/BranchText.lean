import CommitStyle.Proofs.Pattern.Usability
import CommitStyle.Proofs.Slug
import CommitStyle.Proofs.Success
import CommitStyle.Title.Compose
import Mathlib.Data.List.Chain

/-! What a branch name must not hold, and why a name that a checked pattern renders does
not hold it. The check looks at each literal alone, and a pair of dots or slashes
could stand half in one text and half in the next. It cannot: between two literals there
is a value, values are plain and none is empty, so of any two neighbours from
different texts one is plain. -/

namespace CommitStyle

/-! ## Safe names -/

/-- No white space, no character that git gives a meaning of its own, no two dots or slashes in a
row. -/
structure SafeName (s : List Char) : Prop where
  clean : ∀ c ∈ s, Text.isBlank c = false ∧ c ∉ ['~', '^', ':', '?', '*', '[', '\\']
  dots : ¬ ['.', '.'] <:+: s
  slashes : ¬ ['/', '/'] <:+: s

theorem not_pair_iff {c : Char} {s : List Char} :
    ¬ [c, c] <:+: s ↔ s.IsChain fun d e => ¬ (d = c ∧ e = c) := by
  rw [List.isChain_iff_forall_rel_of_append_cons_cons]
  constructor
  · rintro h d e before after rfl ⟨rfl, rfl⟩
    exact h ⟨before, after, by simp⟩
  · rintro h ⟨before, after, heq⟩
    exact h (by simpa using heq.symm) ⟨rfl, rfl⟩

/-- Where two texts meet, one has a plain character. -/
def MeetPlainly (s t : List Char) : Prop :=
  ∀ c ∈ s.getLast?, ∀ d ∈ t.head?, Text.isPlain c = true ∨ Text.isPlain d = true

theorem not_pair_append {c : Char} {s t : List Char} (hc : Text.isPlain c = false)
    (hs : ¬ [c, c] <:+: s) (ht : ¬ [c, c] <:+: t) (hmeet : MeetPlainly s t) :
    ¬ [c, c] <:+: s ++ t := by
  rw [not_pair_iff] at hs ht ⊢
  refine List.isChain_append.mpr ⟨hs, ht, ?_⟩
  rintro d hd e he ⟨rfl, rfl⟩
  rcases hmeet _ hd _ he with hplain | hplain
  · simp [hc] at hplain
  · simp [hc] at hplain

namespace SafeName

variable {s t : List Char}

theorem nil : SafeName [] := ⟨by simp, by simp, by simp⟩

protected theorem append (hs : SafeName s) (ht : SafeName t) (hmeet : MeetPlainly s t) :
    SafeName (s ++ t) := by
  refine ⟨fun c hc => ?_, not_pair_append (by decide) hs.dots ht.dots hmeet,
    not_pair_append (by decide) hs.slashes ht.slashes hmeet⟩
  rcases List.mem_append.mp hc with hc | hc
  · exact hs.clean c hc
  · exact ht.clean c hc

theorem of_isPart (h : Text.IsPart s) : SafeName s := by
  have hpair (c : Char) (hc : Text.isPlain c = false) : ¬ [c, c] <:+: s := by
    intro hwithin
    have hplain := h.plain c (hwithin.subset (by simp))
    simp [hc] at hplain
  refine ⟨fun c hc => ?_, hpair '.' (by decide), hpair '/' (by decide)⟩
  have hplain := h.plain c hc
  exact Text.forall_ascii (P := fun c => Text.isPlain c = true →
    Text.isBlank c = false ∧ c ∉ ['~', '^', ':', '?', '*', '[', '\\']) (by decide)
    (Text.isAscii_of_isPlain hplain) hplain

theorem partAppend (hs : Text.IsPart s) (ht : SafeName t) : SafeName (s ++ t) :=
  (of_isPart hs).append ht fun c hc _ _ => .inl (hs.plain c (List.mem_of_mem_getLast? hc))

theorem appendPart (hs : SafeName s) (ht : Text.IsPart t) : SafeName (s ++ t) :=
  hs.append (of_isPart ht) fun _ _ d hd => .inr (ht.plain d (List.mem_of_mem_head? hd))

/-- A part with a text on either side. -/
theorem between {part : List Char} (hs : SafeName s) (hpart : Text.IsPart part)
    (ht : SafeName t) : SafeName (s ++ (part ++ t)) := by
  refine hs.append (.partAppend hpart ht) fun _ _ d hd => .inr ?_
  rw [List.head?_append_of_ne_nil _ hpart.ne_nil] at hd
  exact hpart.plain d (List.mem_of_mem_head? hd)

end SafeName

namespace Pattern

/-! ## Checked literals -/

theorem contains_eq_true_iff {text part : List Char} :
    contains text part = true ↔ part <:+: text := by
  induction text with
  | nil => simp [contains]
  | cons c rest ih => simp [contains, ih, List.infix_cons_iff]

theorem safeName_of_separatorFault? {text : String} (h : separatorFault? text = none) :
    SafeName text.toList := by
  unfold separatorFault? at h
  split at h
  · cases h
  rename_i hblank
  rw [Option.map_eq_none_iff, List.find?_eq_none] at h
  have habsent (found : String) (hfound : found ∈ illegalInBranch) :
      ¬ found.toList <:+: text.toList := by
    rw [← contains_eq_true_iff]
    exact h found hfound
  refine ⟨fun c hc => ⟨?_, fun hmem => ?_⟩, ?_, ?_⟩
  · simpa using fun hc' => hblank (List.any_eq_true.mpr ⟨c, hc, hc'⟩)
  · have hsingle : String.ofList [c] ∈ illegalInBranch := by
      simp only [List.mem_cons, List.not_mem_nil, or_false] at hmem
      rcases hmem with rfl | rfl | rfl | rfl | rfl | rfl | rfl <;> decide
    obtain ⟨before, after, heq⟩ := List.append_of_mem hc
    refine habsent _ hsingle ?_
    rw [String.toList_ofList, heq]
    exact ⟨before, after, by simp⟩
  · exact habsent ".." (by decide)
  · exact habsent "//" (by decide)

/-! ## Literals apart -/

/-- Of two segments in a row one is no literal. -/
def Alternating (segments : List Segment) : Prop :=
  segments.IsChain fun segment next => segment.isLiteral = false ∨ next.isLiteral = false

theorem alternating_consChar (c : Char) {segments : List Segment} (h : Alternating segments) :
    Alternating (consChar c segments) := by
  unfold consChar
  split
  · exact List.isChain_cons.mpr (List.isChain_cons.mp h)
  · rename_i hcapture
    refine List.isChain_cons.mpr ⟨fun next hnext => .inr ?_, h⟩
    obtain ⟨rest, rfl⟩ := List.head?_eq_some_iff.mp hnext
    cases next with
    | literal text => exact absurd rfl (hcapture text rest)
    | keyword _ _ | field _ => rfl

theorem alternating_pieces (before : Option Char) (skip : Nat) (s : List Char) :
    Alternating (joinPieces (pieces before skip s)) := by
  induction s generalizing before skip with
  | nil => exact .nil
  | cons c rest ih =>
    cases skip with
    | succ skip => exact ih _ _
    | zero =>
      rw [pieces]
      split
      · rename_i segment width htoken
        exact List.isChain_cons.mpr ⟨fun _ _ => .inl (tokenAt?_takes htoken).1, ih _ _⟩
      · exact alternating_consChar c (ih _ _)

theorem alternating_compile (source : String) : Alternating (compile source).segments :=
  alternating_pieces none 0 source.toList

/-! ## Rendering -/

theorem safeName_join {segments : List Segment} {values : Values} {texts : List String}
    (halternating : Alternating segments)
    (hliteral : ∀ segment ∈ segments, literalFault? segment = none)
    (hcapture : ∀ segment ∈ segments, segment.isLiteral = false → ∀ text,
      segment.render .branch values = .ok text → Text.IsPart text.toList)
    (h : List.Forall₂ (fun segment text => segment.render .branch values = .ok text)
      segments texts) : SafeName (String.join texts).toList := by
  induction h with
  | nil => exact .nil
  | @cons segment text rest others htext hothers ih =>
    obtain ⟨hnext, hrest⟩ := List.isChain_cons.mp halternating
    have hsafe := ih hrest (fun other ho => hliteral other (by simp [ho]))
      fun other ho => hcapture other (by simp [ho])
    rw [String.join_cons, String.toList_append]
    by_cases hseg : segment.isLiteral = false
    · exact .partAppend (hcapture segment (by simp) hseg text htext) hsafe
    cases segment with
    | keyword _ _ | field _ => exact absurd rfl hseg
    | literal fixed =>
      cases htext
      have hfixed : literalFault? (.literal text) = none := hliteral _ (by simp)
      refine .append (safeName_of_separatorFault? hfixed) hsafe ?_
      -- what follows a literal is empty or begins with a value
      cases hothers with
      | nil => simp [MeetPlainly]
      | @cons next value _ _ hvalue _ =>
        have hpart := hcapture next (by simp) ((hnext next rfl).resolve_left hseg) value hvalue
        intro c _ d hd
        rw [String.join_cons, String.toList_append,
          List.head?_append_of_ne_nil _ hpart.ne_nil] at hd
        exact .inr (hpart.plain d (List.mem_of_mem_head? hd))

theorem literalFault?_of_fault? {source : String} (h : fault? source .branch = none)
    {segment : Segment} (hsegment : segment ∈ (compile source).segments) :
    literalFault? segment = none := by
  unfold fault? at h
  split at h
  · cases h
  dsimp only at h
  split at h
  · cases h
  split at h
  · cases h
  rw [Option.or_eq_none_iff, Option.or_eq_none_iff] at h
  exact List.findSome?_eq_none_iff.mp h.2.2 segment hsegment

end Pattern

/-- What a branch name is made of is plain: its type, its description, its fields, and its scope
where it has one. -/
structure PlainValues (hasScope : Bool) (labels : List String) (values : Values) : Prop where
  type : Text.IsPart values.type.toList
  scope : hasScope = true → Text.IsPart (values.scope.getD "").toList
  description : Text.IsPart (Slug.sanitize values.description false).toList
  fields : ∀ label ∈ labels, Text.IsPart (fieldValue .branch values label).toList

namespace Pattern

theorem isPart_render {p : Pattern} {values : Values}
    (hvalues : PlainValues p.hasScope p.fields values) {segment : Segment}
    (hsegment : segment ∈ p.segments) (hcapture : segment.isLiteral = false) {text : String}
    (h : segment.render .branch values = .ok text) : Text.IsPart text.toList := by
  cases segment with
  | literal _ => cases hcapture
  | field label =>
    cases h
    refine hvalues.fields label (List.mem_eraseDups.mpr ?_)
    exact List.mem_filterMap.mpr ⟨_, hsegment, rfl⟩
  | keyword name casing =>
    obtain ⟨value, hvalue, rfl⟩ := Success.map_eq_ok.mp h
    refine .apply ?_ casing
    unfold keywordValue at hvalue
    split at hvalue
    · cases hvalue
      exact hvalues.type
    split at hvalue
    · rename_i hname
      cases hvalue
      refine hvalues.scope (List.any_eq_true.mpr ⟨_, hsegment, ?_⟩)
      simpa [Segment.keywordName?] using hname
    split at hvalue
    · cases hvalue
      exact hvalues.description
    · cases hvalue

/-- A checked pattern renders a safe name of plain values. -/
theorem safeName_render {source name : String} {values : Values}
    (hfault : fault? source .branch = none)
    (hvalues : PlainValues (compile source).hasScope (compile source).fields values)
    (h : (compile source).render .branch values = .ok name) : SafeName name.toList := by
  obtain ⟨texts, htexts, rfl⟩ := Success.map_eq_ok.mp h
  exact safeName_join (alternating_compile source) (fun _ => literalFault?_of_fault? hfault)
    (fun _ hsegment hcapture _ => isPart_render hvalues hsegment hcapture)
    (Success.mapM_eq_ok.mp htexts)

end Pattern

/-- So does a built-in format. -/
theorem BranchFormat.safeName_compose {format : BranchFormat} {pattern : Option Pattern}
    {labels : List String} {values : Values} {name : String} (hformat : format ≠ .custom)
    (hvalues : PlainValues format.hasScope labels values)
    (h : format.compose pattern values = .ok name) : SafeName name.toList := by
  have hslash : SafeName "/".toList := by
    refine ⟨fun c hc => ?_, by decide, by decide⟩
    rw [show c = '/' by simpa using hc]
    decide
  cases format with
  | custom => exact absurd rfl hformat
  | typeDescription =>
    cases h
    simp only [String.toList_append]
    exact (SafeName.partAppend hvalues.type hslash).appendPart hvalues.description
  | typeScopeDescription =>
    cases h
    simp only [String.toList_append, List.append_assoc]
    rw [← List.append_assoc]
    exact (SafeName.partAppend hvalues.type hslash).between (hvalues.scope rfl)
      (hslash.appendPart hvalues.description)

end CommitStyle
