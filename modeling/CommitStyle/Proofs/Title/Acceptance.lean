import CommitStyle.Proofs.Title.Settling

/-! Whether acceptance leaves a custom title alone. It always keeps the fields that
were chosen, but type, scope and description are read off the title, and they are
cased again. So a title comes out as it went in when it reads back as it was
composed and its casing is settled, as it is where no separator occurs early and all
is ASCII; other titles may come out changed, or may not come through a second time. -/

namespace CommitStyle

namespace Config

open Pattern

/-- The usual settings with a pattern of one's own for commit titles. -/
def ofPattern (source : String) : Config :=
  { format := .custom, customFormat := .str (.whole source) }

/-- A title composed by a valid pattern from a type and a scope of the vocabulary, a description
and a value for every field of the pattern. -/
structure Composed (config : Config) (p : Pattern) (values : Values) (title : String) : Prop where
  pattern : config.commitPattern = .ok (some p)
  valid : patternFaultOf config.customFormat .commit = .ok none
  type : ∃ entry ∈ config.types, values.type = entry.value
  scope : p.hasScope = true → ∃ entry ∈ config.scopes, values.scope = some entry.value
  description : Plain values.description
  labels : values.fields.keys = p.fields
  fields : ∀ entry ∈ values.fields, Plain entry.2
  title : config.format.compose (some p) values = .ok title

variable {config : Config} {p : Pattern} {values : Values} {title text normalized : String}
  {given : Entries String}

theorem Composed.dict (h : Composed config p values title) : values.fields.keys.Nodup := by
  rw [h.labels]
  exact nodup_fields p

theorem Composed.render (h : Composed config p values title) :
    p.render .commit values = .ok title := by
  have ht := h.title
  rwa [format_of_commitPattern h.pattern] at ht

/-- **A composed title that is accepted keeps its fields, and all of it if it reads back.** What
comes out is the pattern rendered with the fields that were chosen and with the type, scope and
description that the title is read to have. It is the composed title itself when the first
reading of that title has the type, scope and description that were written, as it has when no
separator occurs early, and when their casing is settled, as it is when the vocabulary and the
description are ASCII. -/
theorem accept_composed (hc : Composed config p values title)
    (haccept : config.accept title values.fields = .ok (.ok normalized)) :
    ∃ again written, config.reworked? p title values.fields = some again ∧
      p.render .commit again = .ok normalized ∧
      (∀ label ∈ p.fields, again.fields.get? label = values.fields.get? label) ∧
      p.written .commit values = .ok written ∧
      (p.ReadsBack values.fields written title → Settled config p values written →
        normalized = title) ∧
      ((∀ text ∈ written, Plain text) → Text.strip title = title →
        Separated p.segments title.toList (written.map String.toList) →
        p.ReadsBack values.fields written title) ∧
      ((∀ entry ∈ config.types, Text.IsAscii entry.value.toList) →
        (∀ entry ∈ config.scopes, Text.IsAscii entry.value.toList) →
        Text.IsAscii values.description.toList → Settled config p values written) := by
  obtain ⟨-, ⟨again, hagain, hrender⟩, -⟩ := (accept_eq_ok hc.pattern).mp haccept
  obtain ⟨written, hwritten, -⟩ := render_eq_ok.mp hc.render
  refine ⟨again, written, hagain, hrender, ?_, hwritten, ?_, ?_, ?_⟩
  · intro label hl
    obtain ⟨value, hv⟩ := Entries.get?_of_mem_keys (hc.labels ▸ hl)
    rw [hv, reworked?_given hagain hc.dict hv]
  · intro hback hs
    obtain ⟨same, hsame, hr⟩ := reworked?_of_readsBack hwritten hc.dict (fun _ _ h => h) hback hs
    rw [hagain] at hsame
    cases hsame
    rw [hrender, hc.render] at hr
    exact Except.ok.inj hr
  · exact readsBack_of_separated hc.render hwritten
  · obtain ⟨source, rfl, hkeyword⟩ := compiled_of_valid hc.pattern hc.valid
    exact settled_of_ascii hwritten hkeyword hc.type hc.scope

theorem issue_composed :
    Composed (ofPattern issueSource) (compile issueSource) issueValues issueTitle where
  pattern := by rfl
  valid := by rfl
  type := ⟨⟨"feat", "New feature(s)"⟩, by decide, by decide⟩
  scope := by decide
  description := by decide
  labels := by decide
  fields := by decide
  title := by rfl

theorem accept_composed_issue :
    Composed (ofPattern issueSource) (compile issueSource) issueValues issueTitle ∧
    ∃ normalized, (ofPattern issueSource).accept issueTitle issueValues.fields =
        .ok (.ok normalized) ∧
      normalized = issueTitle := by
  have haccept : (ofPattern issueSource).accept issueTitle issueValues.fields =
      .ok (.ok "PROJ-1 - feat: Add x - y: z") := by rfl
  obtain ⟨again, written, -, -, -, hwritten, hsame, hback, hsettled⟩ :=
    accept_composed issue_composed haccept
  cases issue_written.symm.trans hwritten
  exact ⟨issue_composed, _, haccept,
    hsame (hback issue_plain issue_trimmed issue_separated)
      (hsettled (by decide) (by decide) (by decide))⟩

theorem shifting_composed : Composed (ofPattern "\x7bIssue ID\x7d - type - description")
    (compile "\x7bIssue ID\x7d - type - description")
    ⟨"feat", "add thing", none, [("Issue ID", "A - fix")]⟩ "A - fix - feat - add thing" where
  pattern := by rfl
  valid := by rfl
  type := ⟨⟨"feat", "New feature(s)"⟩, by decide, by decide⟩
  scope := by decide
  description := by decide
  labels := by decide
  fields := by decide
  title := by rfl

theorem sharp_composed : Composed (ofPattern "type: Description")
    (compile "type: Description") ⟨"fix", "ßeta", none, []⟩ "fix: SSeta" where
  pattern := by rfl
  valid := by rfl
  type := ⟨⟨"fix", "Issue(s) fixing"⟩, by decide, by decide⟩
  scope := by decide
  description := by decide
  labels := by decide
  fields := by decide
  title := by rfl

/-- Two composed titles that come out changed: a field with a separator and a word of the
vocabulary moves the type, and what capitalizing makes of a sharp s is capitalized once more. -/
theorem accept_composed_changed :
    (Composed (ofPattern "\x7bIssue ID\x7d - type - description")
        (compile "\x7bIssue ID\x7d - type - description")
        ⟨"feat", "add thing", none, [("Issue ID", "A - fix")]⟩ "A - fix - feat - add thing" ∧
      (ofPattern "\x7bIssue ID\x7d - type - description").accept "A - fix - feat - add thing"
        [("Issue ID", "A - fix")] = .ok (.ok "A - fix - fix - feat - add thing") ∧
      "A - fix - fix - feat - add thing" ≠ "A - fix - feat - add thing") ∧
    (Composed (ofPattern "type: Description") (compile "type: Description")
        ⟨"fix", "ßeta", none, []⟩ "fix: SSeta" ∧
      (ofPattern "type: Description").accept "fix: SSeta" [] = .ok (.ok "fix: Sseta") ∧
      "fix: Sseta" ≠ "fix: SSeta") :=
  ⟨⟨shifting_composed, by rfl, by decide⟩, sharp_composed, by rfl, by decide⟩

/-- **An accepted title that reads back is accepted again unchanged.** It was composed of its
reworked values; when its first reading has the texts that were written for them, as it has when
no separator occurs early, and their casing is settled, as it is by a valid pattern when the
vocabulary and the description are ASCII, accepting it once more gives it as it is. -/
theorem accept_accepted (hpattern : config.commitPattern = .ok (some p))
    (hdict : given.keys.Nodup) (haccept : config.accept text given = .ok (.ok normalized)) :
    ∃ values written, config.reworked? p text given = some values ∧
      p.render .commit values = .ok normalized ∧ p.written .commit values = .ok written ∧
      (p.ReadsBack given written normalized → Settled config p values written →
        config.accept normalized given = .ok (.ok normalized)) ∧
      ((∀ text ∈ written, Plain text) → Text.strip normalized = normalized →
        Separated p.segments normalized.toList (written.map String.toList) →
        p.ReadsBack given written normalized) ∧
      (patternFaultOf config.customFormat .commit = .ok none →
        (∀ entry ∈ config.types, Text.IsAscii entry.value.toList) →
        (∀ entry ∈ config.scopes, Text.IsAscii entry.value.toList) →
        Text.IsAscii values.description.toList → Settled config p values written) := by
  obtain ⟨hne, ⟨values, hvalues, hrender⟩, hlength⟩ := (accept_eq_ok hpattern).mp haccept
  obtain ⟨written, hwritten, -⟩ := render_eq_ok.mp hrender
  refine ⟨values, written, hvalues, hrender, hwritten, fun hback hs => ?_, ?_, fun hvalid => ?_⟩
  · obtain ⟨again, hagain, hr⟩ := reworked?_of_readsBack hwritten hdict
      (fun _ _ h => reworked?_given hvalues hdict h) hback hs
    refine (accept_eq_ok hpattern).mpr ⟨fun hempty => hne ?_, ⟨again, hagain, hr.trans hrender⟩,
      hlength⟩
    -- the pattern cannot read the empty title as well as the one that was accepted
    obtain ⟨texts, hreading⟩ := reworked?_reading hagain
    obtain ⟨others, hother⟩ := reworked?_reading hvalues
    rw [hempty] at hreading
    exact String.toList_eq_nil_iff.mp (hreading.eq_nil hother)
  · exact readsBack_of_separated hrender hwritten
  · obtain ⟨source, rfl, hkeyword⟩ := compiled_of_valid hpattern hvalid
    exact settled_of_reworked hvalues hwritten hkeyword

theorem accept_accepted_issue :
    (ofPattern issueSource).commitPattern = .ok (some (compile issueSource)) ∧
    issueValues.fields.keys.Nodup ∧
    (ofPattern issueSource).accept "proj-9 - FEAT: ADD x - y: z" issueValues.fields =
      .ok (.ok issueTitle) ∧
    (ofPattern issueSource).accept issueTitle issueValues.fields = .ok (.ok issueTitle) := by
  have haccept : (ofPattern issueSource).accept "proj-9 - FEAT: ADD x - y: z" issueValues.fields =
      .ok (.ok issueTitle) := by rfl
  have hreworked : (ofPattern issueSource).reworked? (compile issueSource)
      "proj-9 - FEAT: ADD x - y: z" issueValues.fields = some issueValues := by rfl
  obtain ⟨values, written, hvalues, -, hwritten, hagain, hback, hsettled⟩ :=
    accept_accepted issue_composed.pattern issue_composed.dict haccept
  cases hreworked.symm.trans hvalues
  cases issue_written.symm.trans hwritten
  exact ⟨issue_composed.pattern, issue_composed.dict, haccept,
    hagain (hback issue_plain issue_trimmed issue_separated)
      (hsettled issue_composed.valid (by decide) (by decide) (by decide))⟩

/-- Three accepted titles, with values for all fields of the valid pattern, that do not come out
as they are when they go in again. The last one is not even accepted: its description was blank,
so that nothing is left of it. -/
theorem accept_accepted_changed :
    (patternFaultOf (ofPattern "\x7bIssue ID\x7d - type - description").customFormat .commit =
        .ok none ∧
      (ofPattern "\x7bIssue ID\x7d - type - description").accept "A - feat - add thing"
        [("Issue ID", "A - fix")] = .ok (.ok "A - fix - feat - add thing") ∧
      (ofPattern "\x7bIssue ID\x7d - type - description").accept "A - fix - feat - add thing"
        [("Issue ID", "A - fix")] = .ok (.ok "A - fix - fix - feat - add thing")) ∧
    (patternFaultOf (ofPattern "type: Description").customFormat .commit = .ok none ∧
      (ofPattern "type: Description").accept "fix: ßeta" [] = .ok (.ok "fix: SSeta") ∧
      (ofPattern "type: Description").accept "fix: SSeta" [] = .ok (.ok "fix: Sseta")) ∧
    (patternFaultOf (ofPattern "type - description - \x7bNote\x7d").customFormat .commit =
        .ok none ∧
      (ofPattern "type - description - \x7bNote\x7d").accept "fix -   - checked"
        [("Note", "checked")] = .ok (.ok "fix -  - checked") ∧
      (ofPattern "type - description - \x7bNote\x7d").accept "fix -  - checked"
        [("Note", "checked")] =
        .ok (.error (.wrongFormat "feat - example change description - checked"))) := by
  refine ⟨⟨?_, ?_, ?_⟩, ⟨?_, ?_, ?_⟩, ⟨?_, ?_, ?_⟩⟩ <;> rfl

end Config

end CommitStyle
