import CommitStyle.Proofs.Pattern.Usability
import CommitStyle.Proofs.Title.Settling

/-! The example of a title, which the user and the suggestion service are shown. It is
composed of the first type and scope of the vocabulary, a fixed description and the
labels of the fields in their braces. The pattern reads it, but like any title it is
read with as little as possible for each capture but the last one. So the example is
accepted as it is where no separator occurs early in it; elsewhere something else may
be taken for its type or scope. -/

namespace CommitStyle.Config

open Pattern

/-- The values that the example is composed of. -/
def sampleValues (config : Config) (p : Pattern) : Values where
  type := (config.types.head?.map (·.value)).getD "type"
  description := exampleDescription
  scope := some ((config.scopes.head?.map (·.value)).getD "scope")
  fields := p.fields.map fun label => (label, "\x7b" ++ label ++ "\x7d")

/-- A valid ASCII pattern without white space at its ends, and a vocabulary of plain ASCII words
with a type and a scope in it. -/
structure Exemplary (config : Config) (source : String) : Prop where
  format : config.format = .custom
  pattern : config.customFormat = .str (.whole source)
  valid : fault? source .commit = none
  ascii : Text.IsAscii source.toList
  trimmed : Text.strip source = source
  types : config.types ≠ []
  typeValues : ∀ entry ∈ config.types, Plain entry.value ∧ Text.IsAscii entry.value.toList
  scopes : config.scopes ≠ []
  scopeValues : ∀ entry ∈ config.scopes, Plain entry.value ∧ Text.IsAscii entry.value.toList

variable {config : Config} {source : String} {p : Pattern}

/-! ## The values of the example -/

theorem exampleTitle_eq (hformat : config.format = .custom)
    (hpattern : config.commitPattern = .ok (some p)) :
    config.exampleTitle [] = p.render .commit (config.sampleValues p) := by
  have hcustom : config.format.isCustom = true := by rw [hformat]; rfl
  rw [exampleTitle, hpattern]
  exact if_pos hcustom

theorem get?_sample {label : String} (h : label ∈ p.fields) :
    (config.sampleValues p).fields.get? label = some ("\x7b" ++ label ++ "\x7d") := by
  have hkeys : (config.sampleValues p).fields.keys = p.fields := by
    simp [sampleValues, Entries.keys, Function.comp_def]
  exact Entries.get?_of_mem (hkeys ▸ nodup_fields p) (List.mem_map.mpr ⟨label, h, rfl⟩)

theorem plain_braced {label : String} (h : '\n' ∉ label.toList) :
    Plain ("\x7b" ++ label ++ "\x7d") := by
  have htext : ("\x7b" ++ label ++ "\x7d").toList = '\x7b' :: (label.toList ++ ['\x7d']) := by simp
  refine ⟨fun hempty => ?_, Text.strip_eq_self.mpr ⟨fun c hc => ?_, fun c hc => ?_⟩, ?_⟩
  · rw [hempty] at htext
    cases htext
  · rw [htext] at hc
    cases hc
    rfl
  · rw [htext, ← List.cons_append, List.getLast?_append_of_ne_nil _ (by simp)] at hc
    cases hc
    rfl
  · rw [htext]
    simpa using h

namespace Exemplary

theorem source_ne_nil (h : Exemplary config source) : source.toList ≠ [] := by
  intro hnil
  have hvalid := h.valid
  rw [String.toList_eq_nil_iff.mp hnil] at hvalid
  cases hvalid

theorem commitPattern (h : Exemplary config source) :
    config.commitPattern = .ok (some (compile source)) := by
  have hsource : source ≠ "" := fun heq => h.source_ne_nil (heq ▸ rfl)
  have htruthy : (Json.str (.whole source)).isTruthy = true := by
    simpa [Json.isTruthy, JsonText.isEmpty] using hsource
  simp only [Config.commitPattern, h.format, h.pattern, patternOf, htruthy]
  rfl

theorem type_mem (h : Exemplary config source) :
    ∃ entry ∈ config.types, (config.sampleValues p).type = entry.value := by
  obtain ⟨entry, rest, htypes⟩ := List.exists_cons_of_ne_nil h.types
  exact ⟨entry, by simp [htypes], by simp [sampleValues, htypes]⟩

theorem scope_mem (h : Exemplary config source) :
    ∃ entry ∈ config.scopes, (config.sampleValues p).scope = some entry.value := by
  obtain ⟨entry, rest, hscopes⟩ := List.exists_cons_of_ne_nil h.scopes
  exact ⟨entry, by simp [hscopes], by simp [sampleValues, hscopes]⟩

theorem filled (h : Exemplary config source) (hlabels : ∀ label ∈ p.fields, '\n' ∉ label.toList) :
    Filled p (config.sampleValues p) where
  type := by
    obtain ⟨entry, hentry, heq⟩ := h.type_mem
    exact heq ▸ (h.typeValues entry hentry).1
  description := (by decide : Plain exampleDescription)
  scope := by
    obtain ⟨entry, hentry, heq⟩ := h.scope_mem
    exact ⟨entry.value, heq, (h.scopeValues entry hentry).1⟩
  fields label hlabel := ⟨_, get?_sample hlabel, plain_braced (hlabels label hlabel)⟩

theorem named (h : Exemplary config source) : Named (compile source) := by
  refine named_compile fun c hc hlike => ?_
  have hpast : ∀ d ∈ lookalikes, ¬ d.toNat < 0x80 := by simp [lookalikes]
  exact hpast c hlike (h.ascii c hc)

end Exemplary

/-! ## The verdict on the example -/

/-- Of a title that is read, the vocabulary may know no type or scope. -/
theorem normalize_unresolved {title : String} {read : Values} {given : Entries String}
    {rejection : Rejection} (hpattern : config.commitPattern = .ok (some p))
    (hne : Text.strip title ≠ "") (hread : p.parse? title = some read)
    (hres : config.resolve read.type read.scope = .error rejection) :
    config.normalize title given = .ok (.error rejection) := by
  rw [← parse?_strip] at hread
  have hempty : (Text.strip title).isEmpty = false := by simpa using hne
  simp only [normalize, hempty, format_of_commitPattern hpattern, normalizeCustom, hpattern]
  simp [bind, Except.bind, pure, Except.pure, hread, hres]

/-- **The example has the format, and it is accepted as it is where it reads back.** With labels
of one line each the pattern always reads its example. Whether that is accepted is for the
vocabulary to say: it may not know what was read for the type or the scope, and if it does, the
pattern is filled with what was read. When the first reading of the example has the texts that
were written, as it has when no separator occurs early, the example itself comes out. -/
theorem normalize_exampleTitle (h : Exemplary config source)
    (hlabels : ∀ label ∈ (compile source).fields, '\n' ∉ label.toList) :
    ∃ sample written read, config.exampleTitle [] = .ok sample ∧
      (compile source).written .commit (config.sampleValues (compile source)) = .ok written ∧
      (compile source).parse? sample = some read ∧
      (∀ rejection, config.resolve read.type read.scope = .error rejection →
        config.normalize sample [] = .ok (.error rejection) ∧
          rejection.kind = .unknownVocabulary) ∧
      (∀ type scope, config.resolve read.type read.scope = .ok (type, scope) →
        ∃ title, (compile source).render .commit { read with type, scope } = .ok title ∧
          config.normalize sample [] = .ok (.ok title)) ∧
      ((compile source).ReadsBack [] written sample →
        config.normalize sample [] = .ok (.ok sample)) ∧
      (Separated (compile source).segments sample.toList (written.map String.toList) →
        (compile source).ReadsBack [] written sample) := by
  obtain ⟨sample, hrender⟩ := render_exists_iff.mpr h.named
  obtain ⟨written, hwritten, -⟩ := render_eq_ok.mp hrender
  have hfilled := h.filled hlabels
  have hends := keepsEnds_rendered hfilled hrender
  have hstrip : Text.strip sample = sample :=
    Text.strip_eq_self.mpr (hends.trimmed (Text.strip_eq_self.mp h.trimmed))
  have hne : Text.strip sample ≠ "" := by
    rw [hstrip]
    exact fun hempty => h.source_ne_nil (hends.nil_iff.mpr (hempty ▸ rfl))
  obtain ⟨read, hread⟩ :=
    Option.ne_none_iff_exists'.mp ((parse?_rendered hfilled hrender).mpr h.trimmed)
  refine ⟨sample, written, read, ?_, hwritten, hread, ?_, ?_, ?_, ?_⟩
  · rw [exampleTitle_eq h.format h.commitPattern, hrender]
  · intro rejection hres
    exact ⟨normalize_unresolved h.commitPattern hne hread hres, kind_of_resolve hres⟩
  · intro type scope hres
    have hagain : config.reworked? (compile source) sample [] = some { read with type, scope } :=
      reworked?_eq_some.mpr ⟨read, type, scope, hread, hres, rfl⟩
    obtain ⟨title, htitle⟩ := render_exists_iff.mpr h.named
    exact ⟨title, htitle, (normalize_custom h.commitPattern).mpr ⟨hne, _, hagain, htitle⟩⟩
  · intro hback
    have hsettled := settled_of_ascii hwritten (hasKeyword_of_valid h.valid) h.type_mem
      (fun _ => h.scope_mem)
      (fun entry hentry => (h.typeValues entry hentry).2)
      (fun entry hentry => (h.scopeValues entry hentry).2)
      (by decide : Text.IsAscii exampleDescription.toList)
    obtain ⟨again, hagain, hsame⟩ :=
      reworked?_of_readsBack hwritten (by simp [Entries.keys]) (by simp [Entries.get?]) hback
        hsettled
    exact (normalize_custom h.commitPattern).mpr ⟨hne, again, hagain, hsame.trans hrender⟩
  · exact readsBack_of_separated hrender hwritten (hfilled.written hwritten) hstrip

/-! ## Two examples that are not accepted -/

/-- The usual types, a scope, and a pattern of one's own. -/
def withPattern (source : String) : Config where
  format := .custom
  customFormat := .str (.whole source)
  scopes := [⟨"api", "Programming interface"⟩]

theorem exemplary_withPattern {source : String} (hvalid : fault? source .commit = none)
    (hascii : Text.IsAscii source.toList) (htrimmed : Text.strip source = source) :
    Exemplary (withPattern source) source where
  format := rfl
  pattern := rfl
  valid := hvalid
  ascii := hascii
  trimmed := htrimmed
  types := List.cons_ne_nil _ _
  typeValues := (by decide : ∀ entry ∈ defaultTypes, _)
  scopes := List.cons_ne_nil _ _
  scopeValues := (by decide : ∀ entry ∈ [Choice.mk "api" "Programming interface"], _)

/-- A pattern with an issue, a type, a scope and a description. -/
def fullSource : String := "\x7bIssue ID\x7d - TYPE(scope): Description"

theorem normalize_exampleTitle_full :
    Exemplary (withPattern fullSource) fullSource ∧
    (∀ label ∈ (compile fullSource).fields, '\n' ∉ label.toList) ∧
    (withPattern fullSource).exampleTitle [] =
      .ok "\x7bIssue ID\x7d - FEAT(api): Example change description" ∧
    (withPattern fullSource).normalize "\x7bIssue ID\x7d - FEAT(api): Example change description"
      [] = .ok (.ok "\x7bIssue ID\x7d - FEAT(api): Example change description") := by
  have h : Exemplary (withPattern fullSource) fullSource :=
    exemplary_withPattern (by rfl) (by decide) (by decide)
  have hlabels : ∀ label ∈ (compile fullSource).fields, '\n' ∉ label.toList := by decide
  have hsample : (withPattern fullSource).exampleTitle [] =
      .ok "\x7bIssue ID\x7d - FEAT(api): Example change description" := by rfl
  have htexts : (compile fullSource).written .commit
      ((withPattern fullSource).sampleValues (compile fullSource)) =
      .ok ["\x7bIssue ID\x7d", "FEAT", "api", "Example change description"] := by rfl
  obtain ⟨sample, written, read, hexample, hwritten, -, -, -, hsame, hsep⟩ :=
    normalize_exampleTitle h hlabels
  rw [hsample] at hexample
  cases hexample
  rw [htexts] at hwritten
  cases hwritten
  exact ⟨h, hlabels, hsample, hsame (hsep (by decide))⟩

/-- The label of the first field has the separator behind it inside, so that the rest of it goes
to the type; and a label of two lines is no text that a field can have. -/
theorem normalize_exampleTitle_rejected :
    (Exemplary (withPattern "\x7bIssue ID\x7d type: description")
        "\x7bIssue ID\x7d type: description" ∧
      (withPattern "\x7bIssue ID\x7d type: description").exampleTitle [] =
        .ok "\x7bIssue ID\x7d feat: example change description" ∧
      (withPattern "\x7bIssue ID\x7d type: description").normalize
        "\x7bIssue ID\x7d feat: example change description" [] =
        .ok (.error (.unknownType "ID\x7d feat"
          ["feat", "fix", "core", "test", "config", "doc"]))) ∧
    (Exemplary (withPattern "type: description \x7ba\nb\x7d") "type: description \x7ba\nb\x7d" ∧
      (withPattern "type: description \x7ba\nb\x7d").exampleTitle [] =
        .ok "feat: example change description \x7ba\nb\x7d" ∧
      (withPattern "type: description \x7ba\nb\x7d").normalize
        "feat: example change description \x7ba\nb\x7d" [] =
        .ok (.error (.wrongFormat "feat: example change description \x7ba\nb\x7d"))) :=
  ⟨⟨exemplary_withPattern (by rfl) (by decide) (by decide), by rfl, by rfl⟩,
    exemplary_withPattern (by rfl) (by decide) (by decide), by rfl, by rfl⟩

end CommitStyle.Config
