import CommitStyle.Pattern.Validate
import CommitStyle.Proofs.Pattern.Compiling
import CommitStyle.Proofs.Text.AsciiCase
import CommitStyle.Proofs.Title.Recomposition

/-! When the casing of a title is settled. Within ASCII it always is: a word of the
vocabulary is found again however it was cased, and casing it once more gives
what was written. -/

namespace CommitStyle

open Text

/-- A word that was written cased is found in the vocabulary, as an entry that is written
alike. -/
theorem findChoice_cased {choices : List Choice}
    (hascii : ∀ choice ∈ choices, IsAscii choice.value.toList) {entry : Choice}
    (hentry : entry ∈ choices) (casing : Casing) :
    ∃ found, Config.findChoice choices (casing.apply entry.value) = some found ∧
      ∀ other : Casing, other ≠ .asProvided →
        other.apply found.value = other.apply entry.value := by
  have hlower := Casing.lower_apply casing (hascii entry hentry)
  cases hf : Config.findChoice choices (casing.apply entry.value) with
  | none =>
    have hnone := List.find?_eq_none.mp hf entry hentry
    rw [hlower] at hnone
    exact absurd (beq_self_eq_true _) hnone
  | some found =>
    have hsame := List.find?_some hf
    have hmem := List.mem_of_find?_eq_some hf
    rw [hlower, beq_iff_eq] at hsame
    exact ⟨found, rfl, fun other ho =>
      Casing.apply_congr ho (hascii found hmem) (hascii entry hentry) hsame⟩

/-- A valid pattern of commit titles has a type. -/
theorem Pattern.hasKeyword_of_valid {source : String} (h : fault? source .commit = none) :
    (compile source).hasKeyword "type" = true := by
  unfold fault? at h
  split at h
  · cases h
  dsimp only at h
  split at h
  · cases h
  · rename_i htype
    simpa using htype

variable {config : Config} {source : String} {values : Values} {written : List String}

/-- The pattern of a configuration was compiled from a source, which has a type if it is valid. -/
theorem compiled_of_valid {p : Pattern} (hpattern : config.commitPattern = .ok (some p))
    (hvalid : patternFaultOf config.customFormat .commit = .ok none) :
    ∃ source, p = Pattern.compile source ∧ (Pattern.compile source).hasKeyword "type" = true := by
  have hcustom : config.format.isCustom = true := by
    rw [Config.format_of_commitPattern hpattern]
    rfl
  rw [Config.commitPattern, if_pos hcustom] at hpattern
  unfold patternOf at hpattern
  unfold patternFaultOf at hvalid
  split at hvalid
  · cases hvalid
  rename_i htruthy
  rw [if_neg htruthy] at hpattern
  split at hvalid
  · rename_i text htext
    rw [htext] at hpattern
    cases hpattern
    exact ⟨text.toString, rfl, Pattern.hasKeyword_of_valid (Except.ok.inj hvalid)⟩
  · cases hvalid

/-- Titles in ASCII are settled, when the type and the scope are from the vocabulary. -/
theorem settled_of_ascii (hwritten : (Pattern.compile source).written .commit values = .ok written)
    (hkeyword : (Pattern.compile source).hasKeyword "type" = true)
    (htype : ∃ entry ∈ config.types, values.type = entry.value)
    (hscope : (Pattern.compile source).hasScope = true →
      ∃ entry ∈ config.scopes, values.scope = some entry.value)
    (htypes : ∀ entry ∈ config.types, IsAscii entry.value.toList)
    (hscopes : ∀ entry ∈ config.scopes, IsAscii entry.value.toList)
    (hdescription : IsAscii values.description.toList) :
    Settled config (Pattern.compile source) values written where
  type := by
    obtain ⟨_, hmem⟩ := Pattern.keyword_of_hasKeyword hkeyword
    obtain ⟨text, htext⟩ := Pattern.keywordText?_zip (Pattern.written_count hwritten) hmem
    obtain ⟨cased, value, -, hvalue, rfl⟩ := Pattern.keywordText?_written hwritten htext
    obtain ⟨entry, hentry, he⟩ := htype
    obtain rfl : entry.value = value := he.symm.trans (Except.ok.inj hvalue)
    obtain ⟨found, hfound, halike⟩ := findChoice_cased htypes hentry cased
    refine ⟨found, ?_, fun other ho => ?_⟩
    · rw [Pattern.valuesOf, htext]
      exact hfound
    · rw [he]
      exact halike other (Pattern.casing_of_mem_compile ho)
  scope := by
    intro scope hread
    obtain ⟨cased, value, hmem, hvalue, rfl⟩ := Pattern.keywordText?_written hwritten hread
    obtain ⟨entry, hentry, he⟩ := hscope
      (List.any_eq_true.mpr ⟨_, hmem, by simp [Segment.keywordName?]⟩)
    have hv : values.scope.getD "" = value := Except.ok.inj hvalue
    rw [he, Option.getD_some] at hv
    subst hv
    obtain ⟨found, hfound, halike⟩ := findChoice_cased hscopes hentry cased
    refine ⟨found, hfound, fun other ho => ?_⟩
    rw [he, Option.getD_some]
    exact halike other (Pattern.casing_of_mem_compile ho)
  description := by
    intro casing hmem
    obtain ⟨text, htext⟩ := Pattern.keywordText?_zip (Pattern.written_count hwritten) hmem
    obtain ⟨cased, value, -, hvalue, rfl⟩ := Pattern.keywordText?_written hwritten htext
    obtain rfl : values.description = value := Except.ok.inj hvalue
    rw [Pattern.valuesOf, htext, Option.getD_some]
    exact Casing.apply_apply (Pattern.casing_of_mem_compile hmem) cased hdescription

/-- So are the values that an accepted title is composed of. -/
theorem settled_of_reworked {title : String} {given : Entries String}
    (h : config.reworked? (Pattern.compile source) title given = some values)
    (hwritten : (Pattern.compile source).written .commit values = .ok written)
    (hkeyword : (Pattern.compile source).hasKeyword "type" = true)
    (htypes : ∀ entry ∈ config.types, IsAscii entry.value.toList)
    (hscopes : ∀ entry ∈ config.scopes, IsAscii entry.value.toList)
    (hdescription : IsAscii values.description.toList) :
    Settled config (Pattern.compile source) values written :=
  settled_of_ascii hwritten hkeyword (Config.reworked?_vocabulary h).1
    (Config.reworked?_vocabulary h).2 htypes hscopes hdescription

end CommitStyle
