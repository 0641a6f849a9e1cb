import CommitStyle.Proofs.Success
import CommitStyle.Title.Accept

/-! The verdict on a title, step by step: what the vocabulary resolves, what either kind
of format makes of a title, and the length that comes last. Only a title that was
normalized can have the wrong length. -/

namespace CommitStyle

namespace Config

variable {config : Config} {title normalized : String} {given : Entries String}
  {rejection : Rejection}

/-! ## The vocabulary -/

theorem findChoice_lower {choices : List Choice} {value : String} {entry : Choice}
    (h : findChoice choices value = some entry) :
    entry ∈ choices ∧ Text.lower entry.value = Text.lower value := by
  have hsame := List.find?_some h
  exact ⟨List.mem_of_find?_eq_some h, beq_iff_eq.mp hsame⟩

/-- An entry that was found is found by its own value as well. -/
theorem findChoice_value {choices : List Choice} {value : String} {entry : Choice}
    (h : findChoice choices value = some entry) :
    findChoice choices entry.value = some entry := by
  have hlower := (findChoice_lower h).2
  unfold findChoice at h ⊢
  rwa [hlower]

theorem resolve_eq_ok_iff {type foundType : String} {scope foundScope : Option String} :
    config.resolve type scope = .ok (foundType, foundScope) ↔
      ∃ entry, config.findType type = some entry ∧ foundType = entry.value ∧
        ((scope = none ∧ foundScope = none) ∨ ∃ written other, scope = some written ∧
          config.findScope written = some other ∧ foundScope = some other.value) := by
  constructor
  · intro h
    unfold resolve at h
    split at h
    · cases h
    · rename_i entry hentry
      split at h
      · cases h
        exact ⟨entry, hentry, rfl, .inl ⟨rfl, rfl⟩⟩
      · split at h
        · cases h
        · split at h
          · cases h
          · rename_i other hother
            cases h
            exact ⟨entry, hentry, rfl, .inr ⟨_, other, rfl, hother, rfl⟩⟩
  · rintro ⟨entry, hentry, rfl, ⟨rfl, rfl⟩ | ⟨written, other, rfl, hother, rfl⟩⟩
    · simp [resolve, hentry]
    · have hne : config.scopes.isEmpty = false := by
        cases hc : config.scopes with
        | nil => simp [findScope, findChoice, hc] at hother
        | cons _ _ => rfl
      simp [resolve, hentry, hother, hne]

/-- What is resolved is spelled as in the vocabulary, and has a scope if there was one. -/
theorem resolve_eq_ok {type foundType : String} {scope foundScope : Option String}
    (h : config.resolve type scope = .ok (foundType, foundScope)) :
    (∃ entry ∈ config.types, foundType = entry.value) ∧
      (∀ found, foundScope = some found → ∃ entry ∈ config.scopes, found = entry.value) ∧
      foundScope.isSome = scope.isSome := by
  obtain ⟨entry, hentry, rfl, hscope⟩ := resolve_eq_ok_iff.mp h
  refine ⟨⟨entry, (findChoice_lower hentry).1, rfl⟩, ?_⟩
  rcases hscope with ⟨rfl, rfl⟩ | ⟨written, other, rfl, hother, rfl⟩
  · exact ⟨by simp, rfl⟩
  · refine ⟨fun found hf => ⟨other, (findChoice_lower hother).1, ?_⟩, rfl⟩
    exact (Option.some.inj hf).symm

/-- The vocabulary's own spelling is left alone. -/
theorem resolve_resolved {type foundType : String} {scope foundScope : Option String}
    (h : config.resolve type scope = .ok (foundType, foundScope)) :
    config.resolve foundType foundScope = .ok (foundType, foundScope) := by
  obtain ⟨entry, hentry, rfl, hscope⟩ := resolve_eq_ok_iff.mp h
  refine resolve_eq_ok_iff.mpr ⟨entry, findChoice_value hentry, rfl, ?_⟩
  rcases hscope with ⟨-, rfl⟩ | ⟨_, other, -, hother, rfl⟩
  · exact .inl ⟨rfl, rfl⟩
  · exact .inr ⟨_, other, rfl, findChoice_value hother, rfl⟩

theorem kind_of_resolve {type : String} {scope : Option String}
    (h : config.resolve type scope = .error rejection) :
    rejection.kind = .unknownVocabulary := by
  unfold resolve at h
  split at h
  · cases h
    rfl
  · split at h
    · cases h
    · split at h
      · cases h
        rfl
      · split at h
        · cases h
          rfl
        · cases h

/-! ## Normalizing -/

theorem kind_of_wrongFormat (h : config.wrongFormat given = .ok (.error rejection)) :
    rejection.kind = .formatMismatch := by
  obtain ⟨sample, -, hs⟩ := Success.bind_eq_ok.mp h
  cases hs
  rfl

theorem kind_of_normalizeCustom (h : config.normalizeCustom title given = .ok (.error rejection)) :
    rejection.kind ≠ .lengthViolation := by
  obtain ⟨pattern, -, h⟩ := Success.bind_eq_ok.mp h
  split at h
  · cases h
    simp [Rejection.kind]
  · split at h
    · simp [kind_of_wrongFormat h]
    · split at h
      · rename_i hres
        cases h
        simp [kind_of_resolve hres]
      · obtain ⟨text, -, h⟩ := Success.bind_eq_ok.mp h
        cases h

theorem kind_of_normalizeBuiltin {shape : Shape} {style : Style}
    (h : config.normalizeBuiltin shape style title = .ok (.error rejection)) :
    rejection.kind ≠ .lengthViolation := by
  unfold normalizeBuiltin at h
  split at h
  · simp [kind_of_wrongFormat h]
  · split at h
    · simp only [pure, Except.pure, Except.ok.injEq] at h
      simp [kind_of_resolve (Success.map_eq_error.mp h)]
    · obtain ⟨sample, -, h⟩ := Success.bind_eq_ok.mp h
      cases h
      simp [Rejection.kind]

theorem kind_of_normalize (h : config.normalize title given = .ok (.error rejection)) :
    rejection.kind ≠ .lengthViolation := by
  unfold normalize at h
  simp only at h
  split at h
  · cases h
    simp [Rejection.kind]
  · split at h
    · exact kind_of_normalizeCustom h
    · exact kind_of_normalizeBuiltin h

theorem normalizeBuiltin_eq_ok {shape : Shape} {style : Style} :
    config.normalizeBuiltin shape style title = .ok (.ok normalized) ↔
      ∃ found type scope, TitleParts.detect? title = some (shape, found) ∧
        config.resolve found.type found.scope = .ok (type, scope) ∧
        normalized = shape.compose type scope (style.apply found.message) := by
  constructor
  · intro h
    unfold normalizeBuiltin at h
    split at h
    · obtain ⟨_, _, hs⟩ := Success.bind_eq_ok.mp h
      cases hs
    · rename_i other found hd
      split at h
      · rename_i hshape
        obtain rfl := beq_iff_eq.mp hshape
        obtain ⟨⟨type, scope⟩, hres, rfl⟩ := Success.map_eq_ok.mp (Except.ok.inj h)
        exact ⟨found, type, scope, hd, hres, rfl⟩
      · obtain ⟨_, _, hs⟩ := Success.bind_eq_ok.mp h
        cases hs
  · rintro ⟨found, type, scope, hd, hres, rfl⟩
    simp only [normalizeBuiltin, hd, hres, beq_self_eq_true, if_true]
    rfl

/-- A title in a built-in format is composed again of its resolved parts. -/
theorem normalize_builtin {shape : Shape} {style : Style}
    (hformat : config.format = .builtin shape style) :
    config.normalize title given = .ok (.ok normalized) ↔ Text.strip title ≠ "" ∧
      ∃ found type scope, TitleParts.detect? (Text.strip title) = some (shape, found) ∧
        config.resolve found.type found.scope = .ok (type, scope) ∧
        normalized = shape.compose type scope (style.apply found.message) := by
  have hbuiltin : config.normalizeBuiltin shape style (Text.strip title) =
      .ok (.ok normalized) ↔ _ := normalizeBuiltin_eq_ok
  rw [← hbuiltin]
  simp only [normalize, hformat, String.isEmpty_iff]
  by_cases hempty : Text.strip title = ""
  · simp [hempty, pure, Except.pure]
  · simp [hempty]

/-! ## Messages -/

/-- Whatever is wrong with an answer is said. -/
theorem message_of_answerFault (fault : AnswerFault) : fault.message ≠ "" := by
  unfold AnswerFault.message
  split <;> simp [String.append_eq_empty_iff, toString]

/-- A rejection comes with a reason. -/
theorem message_of_rejection (rejection : Rejection) : rejection.message ≠ "" := by
  unfold Rejection.message
  split
  case h_8 => exact message_of_answerFault _
  all_goals simp [String.append_eq_empty_iff, toString]

/-! ## Accepting -/

theorem titleFault?_eq_none {least most : Int} :
    Answer.titleFault? title least most = none ↔ least ≤ title.length ∧ title.length ≤ most := by
  unfold Answer.titleFault?
  split
  · simp; omega
  · split
    · simp; omega
    · simp; omega

/-- A title is accepted as what it is normalized to, if that has the right length. -/
theorem accept_eq_ok_iff :
    config.accept title given = .ok (.ok normalized) ↔
      config.normalize title given = .ok (.ok normalized) ∧
        Answer.titleFault? normalized config.minLength config.maxLength = none := by
  rw [accept, Success.bind_eq_ok]
  constructor
  · rintro ⟨verdict, hv, hrest⟩
    cases verdict with
    | error rejection => cases hrest
    | ok text =>
      simp only at hrest
      split at hrest
      · cases hrest
      · rename_i hnone
        cases hrest
        exact ⟨hv, hnone⟩
  · rintro ⟨hv, hnone⟩
    refine ⟨_, hv, ?_⟩
    simp only [hnone]
    rfl

/-- It is rejected as it was when normalized, or else for its length. -/
theorem accept_eq_error (h : config.accept title given = .ok (.error rejection)) :
    config.normalize title given = .ok (.error rejection) ∨
      ∃ text fault, config.normalize title given = .ok (.ok text) ∧
        rejection = .length fault := by
  obtain ⟨verdict, hv, hrest⟩ := Success.bind_eq_ok.mp h
  cases verdict with
  | error other =>
    cases hrest
    exact .inl hv
  | ok text =>
    simp only at hrest
    split at hrest
    · rename_i fault _
      cases hrest
      exact .inr ⟨text, fault, hv, rfl⟩
    · cases hrest

end Config

end CommitStyle
