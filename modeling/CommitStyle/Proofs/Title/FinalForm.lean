import CommitStyle.Proofs.Text.AsciiCase
import CommitStyle.Proofs.Title.Builtin
import CommitStyle.Proofs.Title.Verdict

/-! Titles in their final form. A built-in title whose words are spelled as in the
vocabulary and whose message is cased already is normalized to itself. What acceptance
makes of a title is of that form, and so is what is composed of such words; it takes a
message in ASCII, since casing past it may change a text more than once. -/

namespace CommitStyle

/-- How the message of a style is cased. -/
def Style.casing : Style → Casing
  | .sentence => .capitalize
  | .lower => .lower

theorem Style.apply_eq (style : Style) (message : String) :
    style.apply message = style.casing.apply message := by
  cases style <;> rfl

theorem Style.apply_apply (style : Style) {message : String} (h : Text.IsAscii message.toList) :
    style.apply (style.apply message) = style.apply message := by
  rw [style.apply_eq, style.apply_eq]
  exact Casing.apply_apply (by cases style <;> decide) _ h

namespace TitleParts

open Pattern (Plain)

variable {shape : Shape} {type word other : String} {scope : Option String}

/-- The spelling of a word does not change what it is made of, if only delimiters are kept out. -/
theorem Clean.of_lower {ofClass : Char → Bool}
    (hclass : ∀ c, ofClass c = false → Text.isDelimiter c = true)
    (hlower : Text.lower other = Text.lower word) (h : Clean ofClass word) :
    Clean ofClass other := by
  have hchars : Text.lowerChars other.toList = Text.lowerChars word.toList :=
    String.ofList_injective hlower
  refine ⟨Text.strip_eq_self.mpr ?_, fun c hc => ?_⟩
  · exact Text.trimmed_of_lowerChars_eq hchars (Text.strip_eq_self.mp h.trimmed)
  · cases hout : ofClass c with
    | true => rfl
    | false =>
      have hword := (Text.mem_iff_of_lowerChars_eq hchars (hclass c hout)).mp hc
      rw [h.chars c hword] at hout
      cases hout

theorem isTypeChar_eq (c : Char) : isTypeChar c = !Text.isDelimiter c := by
  simp [isTypeChar, Text.isDelimiter, bne]

theorem isDelimiter_of_not_enclosed {c : Char} (h : isEnclosedChar c = false) :
    Text.isDelimiter c = true := by
  simp [isEnclosedChar, Text.isDelimiter] at h ⊢
  tauto

theorem isDelimiter_of_not_typeClass {c : Char} (h : typeClass shape c = false) :
    Text.isDelimiter c = true := by
  cases shape with
  | paren => exact isDelimiter_of_not_enclosed h
  | colon | scope | scopeColon => simpa [typeClass, isTypeChar_eq] using h

/-- Parts still fit when their words are spelled as in the vocabulary. -/
theorem Fits.resolved {config : Config} {found : TitleParts} {message : String}
    (h : Fits shape found)
    (hres : config.resolve found.type found.scope = .ok (type, scope)) (hmessage : Plain message) :
    Fits shape ⟨type, scope, message⟩ := by
  obtain ⟨entry, hentry, rfl, hscope⟩ := Config.resolve_eq_ok_iff.mp hres
  obtain ⟨word, hword, hclean⟩ := h.scope
  refine ⟨h.type.of_lower (fun _ => isDelimiter_of_not_typeClass)
    (Config.findChoice_lower hentry).2, ?_, hmessage⟩
  rw [scopeOf] at hword
  split at hword
  · rename_i hs
    rcases hscope with ⟨hnone, -⟩ | ⟨written, known, hwritten, hknown, rfl⟩
    · rw [hnone] at hword
      cases hword
    · rw [hword] at hwritten
      cases hwritten
      refine ⟨known.value, by rw [scopeOf, if_pos hs], fun _ => ?_⟩
      exact (hclean hs).of_lower (fun _ => isDelimiter_of_not_enclosed)
        (Config.findChoice_lower hknown).2
  · rename_i hs
    rcases hscope with ⟨-, rfl⟩ | ⟨written, _, hwritten, -, -⟩
    · exact ⟨"", by rw [scopeOf, if_neg hs], fun h => absurd h hs⟩
    · rw [hword] at hwritten
      cases hwritten

end TitleParts

namespace Config

open Pattern (Plain)
open TitleParts (Fits)

variable {config : Config} {shape : Shape} {style : Style} {given : Entries String}

/-- Parts of which nothing changes when their title is accepted. -/
structure Final (config : Config) (shape : Shape) (style : Style) (parts : TitleParts) :
    Prop where
  fits : Fits shape parts
  type_ne : parts.type ≠ ""
  scope_ne : parts.scope ≠ some ""
  resolved : config.resolve parts.type parts.scope = .ok (parts.type, parts.scope)
  cased : style.apply parts.message = parts.message

theorem Final.detected {parts : TitleParts} (h : config.Final shape style parts) :
    TitleParts.detect? (shape.compose parts.type parts.scope parts.message) =
      some (shape, parts) :=
  TitleParts.detect?_compose h.fits h.type_ne h.scope_ne

/-- A title in its final form is normalized to itself. -/
theorem Final.normalize {parts : TitleParts} (hformat : config.format = .builtin shape style)
    (h : config.Final shape style parts) :
    config.normalize (shape.compose parts.type parts.scope parts.message) given =
      .ok (.ok (shape.compose parts.type parts.scope parts.message)) := by
  have htrim := TitleParts.strip_compose h.fits h.type_ne
  refine (normalize_builtin hformat).mpr ⟨?_, parts, parts.type, parts.scope, ?_, h.resolved, ?_⟩
  · intro hempty
    have hnil := String.toList_eq_nil_iff.mpr (htrim.symm.trans hempty)
    rw [TitleParts.toList_compose] at hnil
    simp at hnil
  · rw [htrim]
    exact h.detected
  · rw [h.cased]

/-- Normalizing gives a title its final form, as far as its message is in ASCII. -/
theorem final_of_normalize {title normalized : String}
    (hformat : config.format = .builtin shape style)
    (htypes : ∀ entry ∈ config.types, entry.value ≠ "")
    (hscopes : ∀ entry ∈ config.scopes, entry.value ≠ "")
    (hascii : Text.IsAscii title.toList)
    (h : config.normalize title given = .ok (.ok normalized)) :
    ∃ parts, config.Final shape style parts ∧
      normalized = shape.compose parts.type parts.scope parts.message := by
  obtain ⟨-, found, type, scope, hfound, hres, rfl⟩ := (normalize_builtin hformat).mp h
  have hfits := TitleParts.fits_of_detect? (Text.trimmed_strip title) hfound
  have hmessage : Text.IsAscii found.message.toList := by
    intro c hc
    have hmem := TitleParts.mem_of_mem_message hfound hc
    rw [Text.toList_strip] at hmem
    exact hascii c (Text.mem_of_mem_trim hmem)
  obtain ⟨⟨entry, hentry, htype⟩, hscope, -⟩ := resolve_eq_ok hres
  refine ⟨⟨type, scope, style.apply found.message⟩, ?_, rfl⟩
  refine ⟨hfits.resolved hres ?_, htype ▸ htypes entry hentry, fun hempty => ?_,
    resolve_resolved hres, style.apply_apply hmessage⟩
  · rw [style.apply_eq]
    exact hfits.message.apply _
  · obtain ⟨other, hother, hvalue⟩ := hscope "" hempty
    exact hscopes other hother hvalue.symm

/-- **Accepting an accepted title changes nothing.** The first text may be any in ASCII, with
white space and parentheses wherever they can stand. -/
theorem accept_again {text normalized : String}
    (hformat : config.format = .builtin shape style)
    (htypes : ∀ entry ∈ config.types, entry.value ≠ "")
    (hscopes : ∀ entry ∈ config.scopes, entry.value ≠ "")
    (hascii : Text.IsAscii text.toList)
    (h : config.accept text given = .ok (.ok normalized)) :
    config.accept normalized given = .ok (.ok normalized) := by
  obtain ⟨hnormalized, hlength⟩ := accept_eq_ok_iff.mp h
  obtain ⟨parts, hfinal, rfl⟩ :=
    final_of_normalize hformat htypes hscopes hascii hnormalized
  exact accept_eq_ok_iff.mpr ⟨hfinal.normalize hformat, hlength⟩

theorem accept_again_scoped :
    let config : Config :=
      { format := .builtin .scopeColon .sentence, scopes := [⟨"API", "Interface"⟩] }
    config.format = .builtin .scopeColon .sentence ∧ (∀ entry ∈ config.types, entry.value ≠ "") ∧
      (∀ entry ∈ config.scopes, entry.value ≠ "") ∧
      Text.IsAscii "FEAT( api ):ADD (x): y".toList ∧
      config.accept "FEAT( api ):ADD (x): y" [] = .ok (.ok "feat(API): Add (x): y") ∧
      config.accept "feat(API): Add (x): y" [] = .ok (.ok "feat(API): Add (x): y") := by
  intro config
  have htypes : ∀ entry ∈ config.types, entry.value ≠ "" := by decide
  have hscopes : ∀ entry ∈ config.scopes, entry.value ≠ "" := by decide
  have hascii : Text.IsAscii "FEAT( api ):ADD (x): y".toList := by decide
  have haccept : config.accept "FEAT( api ):ADD (x): y" [] = .ok (.ok "feat(API): Add (x): y") := by
    rfl
  exact ⟨rfl, htypes, hscopes, hascii, haccept, accept_again rfl htypes hscopes hascii haccept⟩

/-! ## Composed titles -/

/-- An entry that a title can name as its type. -/
structure TypeWord (config : Config) (entry : Choice) : Prop where
  found : config.findType entry.value = some entry
  ne_empty : entry.value ≠ ""
  clean : ∀ c ∈ entry.value.toList, Text.isDelimiter c = false

/-- An entry that a title can name as its scope. -/
structure ScopeWord (config : Config) (entry : Choice) : Prop where
  found : config.findScope entry.value = some entry
  ne_empty : entry.value ≠ ""
  trimmed : Text.strip entry.value = entry.value
  opening : '(' ∉ entry.value.toList
  closing : ')' ∉ entry.value.toList

variable {type scope : Choice} {description : String}

theorem TypeWord.clean_type (h : config.TypeWord type) :
    TitleParts.Clean (TitleParts.typeClass shape) type.value := by
  refine ⟨Text.strip_eq_self.mpr (.of_forall fun c hc => ?_), fun c hc => ?_⟩
  · have hclean := h.clean c hc
    simp only [Text.isDelimiter, Bool.or_eq_false_iff] at hclean
    exact hclean.1.1.1
  · rw [← Bool.not_eq_false]
    intro hout
    have hdelimiter := TitleParts.isDelimiter_of_not_typeClass hout
    rw [h.clean c hc] at hdelimiter
    cases hdelimiter

theorem ScopeWord.clean_scope (h : config.ScopeWord scope) :
    TitleParts.Clean TitleParts.isEnclosedChar scope.value := by
  refine ⟨h.trimmed, fun c hc => ?_⟩
  have hopening : c ≠ '(' := fun he => h.opening (he ▸ hc)
  have hclosing : c ≠ ')' := fun he => h.closing (he ▸ hc)
  simp [TitleParts.isEnclosedChar, hopening, hclosing]

/-- Words of the vocabulary and a message in ASCII have a title in its final form. -/
theorem final_of_words (htype : config.TypeWord type)
    (hscope : shape.hasScope = true → config.ScopeWord scope)
    (hplain : Plain description) (hascii : Text.IsAscii description.toList) :
    config.Final shape style
      ⟨type.value, TitleParts.scopeOf shape scope.value, style.apply description⟩ where
  fits := by
    refine ⟨htype.clean_type, ⟨scope.value, rfl, fun hs => (hscope hs).clean_scope⟩, ?_⟩
    rw [style.apply_eq]
    exact hplain.apply _
  type_ne := htype.ne_empty
  scope_ne := by
    rw [TitleParts.scopeOf]
    split
    · exact fun he => (hscope ‹_›).ne_empty (Option.some.inj he)
    · simp
  resolved := by
    refine resolve_eq_ok_iff.mpr ⟨type, htype.found, rfl, ?_⟩
    rw [TitleParts.scopeOf]
    split
    · exact .inr ⟨scope.value, scope, rfl, (hscope ‹_›).found, rfl⟩
    · exact .inl ⟨rfl, rfl⟩
  cased := style.apply_apply hascii

/-- A shape without room for a scope leaves it out. -/
theorem compose_scopeOf (shape : Shape) (type scope message : String) :
    shape.compose type (TitleParts.scopeOf shape scope) message =
      shape.compose type (some scope) message := by
  cases shape <;> rfl

/-- **A composed title is accepted as it is, and has the parts it was composed of.** Whatever
separators the description contains, they are not taken for those of the title. -/
theorem composed_final (hformat : config.format = .builtin shape style)
    (htype : config.TypeWord type) (hscope : shape.hasScope = true → config.ScopeWord scope)
    (hplain : Plain description) (hascii : Text.IsAscii description.toList) :
    ∃ title, config.format.compose none ⟨type.value, description, some scope.value, []⟩ =
        .ok title ∧
      config.normalize title given = .ok (.ok title) ∧
      TitleParts.detect? title = some (shape, ⟨type.value,
        TitleParts.scopeOf shape scope.value, style.apply description⟩) := by
  have hfinal : config.Final shape style _ := final_of_words htype hscope hplain hascii
  refine ⟨_, ?_, hfinal.normalize hformat, hfinal.detected⟩
  rw [hformat, compose_scopeOf]
  rfl

theorem composed_final_scoped :
    let config : Config := { format := .builtin .scope .lower, scopes := [⟨"Web API", ""⟩] }
    let type : Choice := ⟨"feat", "New feature(s)"⟩
    let scope : Choice := ⟨"Web API", ""⟩
    config.format = .builtin .scope .lower ∧ config.TypeWord type ∧ config.ScopeWord scope ∧
      Plain "Fix(a): (b) c): d" ∧ Text.IsAscii "Fix(a): (b) c): d".toList ∧
      config.normalize "feat(Web API) fix(a): (b) c): d" [] =
        .ok (.ok "feat(Web API) fix(a): (b) c): d") ∧
      TitleParts.detect? "feat(Web API) fix(a): (b) c): d" =
        some (.scope, ⟨"feat", some "Web API", "fix(a): (b) c): d"⟩) := by
  intro config type scope
  have hclean : type.value.toList.any Text.isDelimiter = false := by decide
  have htype : config.TypeWord type :=
    ⟨by decide, by decide, by simpa using List.any_eq_false.mp hclean⟩
  have hscope : config.ScopeWord scope :=
    ⟨by decide, by decide, by decide, by decide, by decide⟩
  have hplain : Plain "Fix(a): (b) c): d" := by decide
  have hascii : Text.IsAscii "Fix(a): (b) c): d".toList := by decide
  have htitle : Shape.scope.compose "feat" (some "Web API") (Style.lower.apply "Fix(a): (b) c): d") =
      "feat(Web API) fix(a): (b) c): d" := by decide
  have hmessage : Style.lower.apply "Fix(a): (b) c): d" = "fix(a): (b) c): d" := by decide
  have hformat : config.format = .builtin .scope .lower := rfl
  obtain ⟨title, hcompose, hnormalize, hdetect⟩ :=
    composed_final hformat htype (fun _ => hscope) hplain hascii
  obtain rfl : _ = title := htitle.symm.trans (Except.ok.inj hcompose)
  rw [hmessage] at hdetect
  exact ⟨hformat, htype, hscope, hplain, hascii, hnormalize, hdetect⟩

end Config

end CommitStyle
