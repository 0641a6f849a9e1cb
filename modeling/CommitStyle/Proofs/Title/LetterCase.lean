import CommitStyle.Proofs.Title.FinalForm
import CommitStyle.Proofs.Title.Renderable
import CommitStyle.Proofs.Title.Soundness

/-! The letter case in which a built-in title is typed. No character that sets the parts of
a title apart is a letter, so a title with its ASCII letters made small has the same shape,
and its parts are those of the title made small. The vocabulary is looked up in lower case
and the message is cased anew, so that nothing is left of the difference but in the text of
a rejection. -/

namespace CommitStyle

namespace Text

/-- A text with its ASCII letters small. -/
def small (s : List Char) : List Char := s.map Char.toLower

def smallText (s : String) : String := String.ofList (small s.toList)

/-- Only ASCII letters have another small form here, so what holds of all ASCII characters
decides. -/
theorem toLower_invariant {α : Type} {f : Char → α}
    (h : ∀ n < 0x80, f (Char.ofNat n).toLower = f (Char.ofNat n)) (c : Char) :
    f c.toLower = f c := by
  by_cases hc : c.toNat < 0x80
  · exact forall_ascii (P := fun c => f c.toLower = f c) h hc
  · rw [toLower_of_not_ascii hc]

theorem isBlank_toLower (c : Char) : isBlank c.toLower = isBlank c :=
  toLower_invariant (by decide) c

theorem isDelimiter_toLower_eq (c : Char) : isDelimiter c.toLower = isDelimiter c :=
  toLower_invariant (by decide) c

/-- A delimiter is the small form of itself and of nothing else. -/
theorem toLower_eq_iff {c d : Char} (hd : isDelimiter d = true) : c.toLower = d ↔ c = d := by
  have hself (h : isDelimiter c = true) : c.toLower = c := by
    by_cases hc : c.toNat < 0x80
    · exact (isDelimiter_toLower hc).2 h
    · exact toLower_of_not_ascii hc
  constructor
  · rintro rfl
    exact (hself (isDelimiter_toLower_eq c ▸ hd)).symm
  · rintro rfl
    exact hself hd

theorem trim_small (s : List Char) : trim (small s) = small (trim s) := by
  have hblank : isBlank ∘ Char.toLower = isBlank := funext isBlank_toLower
  simp only [trim, trimStart, trimEnd, small, List.dropWhile_map, ← List.map_reverse, hblank]

theorem strip_smallText (s : String) : strip (smallText s) = smallText (strip s) := by
  simp only [strip, smallText, String.toList_ofList, trim_small]

/-! ## Casing -/

theorem meetsCased_small (s : List Char) : meetsCased (small s) = meetsCased s := by
  have hignored : isCaseIgnorable ∘ Char.toLower = isCaseIgnorable :=
    funext (toLower_invariant (by decide))
  have hcased := toLower_invariant (f := isCased) (by decide)
  simp only [meetsCased, small, List.dropWhile_map, hignored]
  cases s.dropWhile isCaseIgnorable with
  | nil => rfl
  | cons c rest => exact hcased c

theorem lowerBetween_small (before : List Char) (c : Char) (after : List Char) :
    lowerBetween (small before) c.toLower (small after) = lowerBetween before c after := by
  have hsigma := toLower_invariant (f := (· == 'Σ')) (by decide) c
  have hlower := toLower_invariant (f := lowerChar) (by decide) c
  simp only [lowerBetween, meetsCased_small, hsigma, hlower]

theorem lowerAfter_small (before s : List Char) :
    lowerAfter (small before) (small s) = lowerAfter before s := by
  induction s generalizing before with
  | nil => rfl
  | cons c rest ih =>
    show lowerBetween (small before) c.toLower (small rest) ++
      lowerAfter (small (c :: before)) (small rest) = _
    rw [lowerBetween_small, ih, lowerAfter]

theorem lower_smallText (s : String) : lower (smallText s) = lower s := by
  rw [lower, smallText, String.toList_ofList]
  exact congrArg String.ofList (lowerAfter_small [] s.toList)

theorem smallText_ascii {s : String} (h : IsAscii s.toList) : smallText s = lower s := by
  rw [smallText, lower, lowerChars_ascii h, small]

end Text

theorem Style.apply_smallText (style : Style) (message : String) :
    style.apply (Text.smallText message) = style.apply message := by
  cases style with
  | lower => exact Text.lower_smallText message
  | sentence =>
    have hupper := Text.toLower_invariant (f := Text.upperChar) (by decide)
    rw [Style.apply, Style.apply, Casing.apply, Casing.apply, Text.smallText,
      String.toList_ofList]
    cases message.toList with
    | nil => rfl
    | cons c rest =>
      show String.ofList (Text.upperChar c.toLower ++ Text.lowerAfter (Text.small [])
        (Text.small rest)) = _
      rw [hupper, Text.lowerAfter_small]
      rfl

namespace TitleParts

open Text (small smallText)

/-! ## Runs and lines -/

/-- The class holds a letter in both cases or in none. -/
def IgnoresCase (ofClass : Char → Bool) : Prop := ∀ c : Char, ofClass c.toLower = ofClass c

theorem isEnclosedChar_ignoresCase : IgnoresCase isEnclosedChar :=
  Text.toLower_invariant (by decide)

theorem isTypeChar_ignoresCase : IgnoresCase isTypeChar :=
  Text.toLower_invariant (by decide)

theorem takeWhile_small {ofClass : Char → Bool} (h : IgnoresCase ofClass) (s : List Char) :
    (small s).takeWhile ofClass = small (s.takeWhile ofClass) := by
  rw [small, List.takeWhile_map, show ofClass ∘ Char.toLower = ofClass from funext h, small]

theorem run?_small {ofClass : Char → Bool} (h : IgnoresCase ofClass) (s : List Char) :
    run? ofClass (small s) = (run? ofClass s).map (Prod.map small small) := by
  rw [run?, takeWhile_small h, run?]
  by_cases he : s.takeWhile ofClass = []
  · simp [small, he]
  · simp [small, he, List.map_drop]

theorem small_cons_ne {c d : Char} (hd : Text.isDelimiter d = true) (hc : c ≠ d) :
    c.toLower ≠ d := (Text.toLower_eq_iff hd).not.mpr hc

theorem enclosed?_small (s : List Char) :
    enclosed? (small s) = (enclosed? s).map (Prod.map small small) := by
  cases s with
  | nil => rfl
  | cons c rest =>
    by_cases hc : c = '('
    · subst hc
      show enclosed? ('(' :: small rest) = _
      simp only [enclosed?, run?_small isEnclosedChar_ignoresCase]
      cases run? isEnclosedChar rest with
      | none => rfl
      | some found =>
        obtain ⟨inner, behind⟩ := found
        cases behind with
        | nil => rfl
        | cons d behind =>
          by_cases hd : d = ')'
          · subst hd
            rfl
          · simp [small, hd, small_cons_ne (by decide) hd]
    · simp [enclosed?, small, hc, small_cons_ne (by decide) hc]

theorem line?_small (s : List Char) : line? (small s) = (line? s).map small := by
  have hclass : IgnoresCase (· != '\n') :=
    Text.toLower_invariant (f := (· != '\n')) (by decide)
  have hafter (after : List Char) : (small after == ['\n']) = (after == ['\n']) := by
    rw [Bool.eq_iff_iff, beq_iff_eq, beq_iff_eq, small, List.map_eq_singleton_iff]
    simp [Text.toLower_eq_iff (d := '\n') (by decide)]
  have hdrop (n : Nat) : (small s).drop n = small (s.drop n) := List.map_drop.symm
  have hempty (after : List Char) : (small after).isEmpty = after.isEmpty := List.isEmpty_map
  have hlength (line : List Char) : (small line).length = line.length := List.length_map _
  simp only [line?, takeWhile_small hclass, hlength, hdrop, hempty, hafter]
  split <;> rfl

theorem lineAfterBlanks?_small (s : List Char) :
    lineAfterBlanks? (small s) = (lineAfterBlanks? s).map small := by
  induction s with
  | nil => rfl
  | cons c rest ih =>
    show lineAfterBlanks? (c.toLower :: small rest) = _
    rw [lineAfterBlanks?, lineAfterBlanks?, Text.isBlank_toLower, ih]
    have hline : line? (c.toLower :: small rest) = (line? (c :: rest)).map small :=
      line?_small (c :: rest)
    rw [hline]
    split
    · cases lineAfterBlanks? rest <;> rfl
    · rfl

theorem lineAfterBlank?_small (s : List Char) :
    lineAfterBlank? (small s) = (lineAfterBlank? s).map small := by
  cases s with
  | nil => rfl
  | cons c rest =>
    show lineAfterBlank? (c.toLower :: small rest) = _
    rw [lineAfterBlank?, lineAfterBlank?, Text.isBlank_toLower, lineAfterBlanks?_small]
    split <;> rfl

/-! ## Shapes -/

/-- Parts with their ASCII letters small. -/
def inSmall (parts : TitleParts) : TitleParts :=
  ⟨smallText parts.type, parts.scope.map smallText, smallText parts.message⟩

theorem parts_small (type : List Char) (scope : Option (List Char)) (message : List Char) :
    parts (small type) (scope.map small) (small message) = (parts type scope message).inSmall := by
  simp [parts, inSmall, smallText, Text.trim_small, Function.comp_def]

/-- A message is found behind the same opening. -/
theorem messageParts_small {message : List Char → Option (List Char)}
    (h : ∀ s, message (small s) = (message s).map small) (type : List Char)
    (scope : Option (List Char)) (s : List Char) :
    (do return parts (small type) (scope.map small) (← message (small s))) =
      (do return parts type scope (← message s)).map inSmall := by
  rw [h]
  cases message s with
  | none => rfl
  | some line => exact congrArg some (parts_small type scope line)

/-- What follows a colon follows it in small letters. -/
theorem behindColon_small {next nextSmall : List Char → Option TitleParts}
    (h : ∀ s, nextSmall (small s) = (next s).map inSmall) (s : List Char) :
    (match small s with
      | ':' :: rest => nextSmall rest
      | _ => none) =
    (match s with
      | ':' :: rest => next rest
      | _ => none).map inSmall := by
  cases s with
  | nil => rfl
  | cons c rest =>
    by_cases hc : c = ':'
    · subst hc
      exact h rest
    · simp [small, hc, small_cons_ne (by decide) hc]

theorem ofShape?_small (shape : Shape) (s : List Char) :
    ofShape? shape (small s) = (ofShape? shape s).map inSmall := by
  cases shape with
  | paren =>
    simp only [ofShape?, enclosed?_small]
    cases enclosed? s with
    | none => rfl
    | some found => exact messageParts_small lineAfterBlank?_small found.1 none found.2
  | colon =>
    simp only [ofShape?, run?_small isTypeChar_ignoresCase]
    cases run? isTypeChar s with
    | none => rfl
    | some found =>
      exact behindColon_small (messageParts_small lineAfterBlanks?_small found.1 none) found.2
  | scope =>
    simp only [ofShape?, run?_small isTypeChar_ignoresCase]
    cases run? isTypeChar s with
    | none => rfl
    | some found =>
      simp only [Option.map_some, Prod.map, Option.bind_eq_bind, Option.bind_some, enclosed?_small]
      cases enclosed? found.2 with
      | none => rfl
      | some inner => exact messageParts_small lineAfterBlank?_small found.1 (some inner.1) inner.2
  | scopeColon =>
    simp only [ofShape?, run?_small isTypeChar_ignoresCase]
    cases run? isTypeChar s with
    | none => rfl
    | some found =>
      simp only [Option.map_some, Prod.map, Option.bind_eq_bind, Option.bind_some, enclosed?_small]
      cases enclosed? found.2 with
      | none => rfl
      | some inner =>
        exact behindColon_small
          (messageParts_small lineAfterBlanks?_small found.1 (some inner.1)) inner.2

/-- Detecting a title and writing its letters small can be done in either order. -/
theorem detect?_small (title : String) :
    detect? (smallText title) = (detect? title).map fun found => (found.1, found.2.inSmall) := by
  simp only [detect?, detectIn, smallText, String.toList_ofList, List.map_findSome?, ofShape?_small,
    Option.map_map, Function.comp_def]

end TitleParts

/-- The title that was accepted, or the kind of the rejection. -/
def Verdict.outcome (verdict : Verdict) : Except RejectionKind String :=
  verdict.mapError Rejection.kind

namespace Config

open Text (smallText)

variable {config : Config} {shape : Shape} {style : Style}

theorem findChoice_smallText (choices : List Choice) (value : String) :
    findChoice choices (smallText value) = findChoice choices value := by
  simp only [findChoice, Text.lower_smallText]

theorem resolve_inSmall (parts : TitleParts) :
    (config.resolve parts.inSmall.type parts.inSmall.scope).mapError Rejection.kind =
      (config.resolve parts.type parts.scope).mapError Rejection.kind := by
  obtain ⟨type, scope, message⟩ := parts
  simp only [resolve, TitleParts.inSmall, findType, findScope, findChoice_smallText]
  cases findChoice config.types type with
  | none => rfl
  | some entry =>
    cases scope with
    | none => rfl
    | some written =>
      simp only [Option.map_some, findChoice_smallText]
      split
      · rfl
      · cases findChoice config.scopes written <;> rfl

theorem normalizeBuiltin_smallText (expected : Shape) (title : String) :
    (config.normalizeBuiltin expected style (smallText title)).map Verdict.outcome =
      (config.normalizeBuiltin expected style title).map Verdict.outcome := by
  simp only [normalizeBuiltin, TitleParts.detect?_small]
  cases TitleParts.detect? title with
  | none => rfl
  | some detected =>
    obtain ⟨found, parts⟩ := detected
    simp only [Option.map_some]
    split
    · have hmessage : style.apply parts.inSmall.message = style.apply parts.message :=
        style.apply_smallText parts.message
      rw [hmessage]
      show Except.ok (((config.resolve _ _).map _).mapError _) =
        Except.ok (((config.resolve _ _).map _).mapError _)
      rw [Success.mapError_map, Success.mapError_map, resolve_inSmall]
    · rfl

theorem normalize_smallText (hformat : config.format = .builtin shape style) (title : String)
    (given : Entries String) :
    (config.normalize (smallText title) given).map Verdict.outcome =
      (config.normalize title given).map Verdict.outcome := by
  have hempty : (smallText (Text.strip title)).isEmpty = (Text.strip title).isEmpty := by
    rw [Bool.eq_iff_iff, String.isEmpty_iff, String.isEmpty_iff, smallText,
      String.ofList_eq_empty_iff, Text.small, List.map_eq_nil_iff, String.toList_eq_nil_iff]
  simp only [normalize, hformat, Text.strip_smallText, hempty]
  split
  · rfl
  · exact normalizeBuiltin_smallText shape _

/-- What the bounds on the length make of the outcome of normalizing. -/
def withinLength (config : Config) : Except RejectionKind String → Except RejectionKind String
  | .error kind => .error kind
  | .ok normalized =>
    if (Answer.titleFault? normalized config.minLength config.maxLength).isSome then
      .error .lengthViolation
    else .ok normalized

theorem outcome_accept (title : String) (given : Entries String) :
    (config.accept title given).map Verdict.outcome =
      ((config.normalize title given).map Verdict.outcome).map config.withinLength := by
  rw [accept]
  cases config.normalize title given with
  | error failure => rfl
  | ok verdict =>
    cases verdict with
    | error rejection => rfl
    | ok normalized =>
      show _ = Except.ok (withinLength config (.ok normalized))
      rw [withinLength]
      cases hfault : Answer.titleFault? normalized config.minLength config.maxLength with
      | none =>
        simp only [bind, Except.bind, hfault]
        rfl
      | some fault =>
        simp only [bind, Except.bind, hfault]
        rfl

/-- The case of its ASCII letters does not decide whether a title is accepted, nor as what. -/
theorem outcome_smallText (hformat : config.format = .builtin shape style) (title : String)
    (given : Entries String) :
    (config.accept (smallText title) given).map Verdict.outcome =
      (config.accept title given).map Verdict.outcome := by
  rw [outcome_accept, outcome_accept, normalize_smallText hformat]

theorem renderable_builtin (hformat : config.format = .builtin shape style) :
    config.Renderable :=
  ⟨none, commitPattern_builtin hformat, nofun⟩

/-- **Titles that differ only in letter case are accepted alike.** Either both are accepted as the
same title, or both are rejected for reasons of the same kind. -/
theorem accept_letterCase {x y : String} (hformat : config.format = .builtin shape style)
    (hx : Text.IsAscii x.toList) (hy : Text.IsAscii y.toList) (hlower : Text.lower x = Text.lower y)
    (given : Entries String) :
    ∃ verdict other, config.accept x given = .ok verdict ∧ config.accept y given = .ok other ∧
      Verdict.outcome verdict = Verdict.outcome other := by
  have halike : (config.accept x given).map Verdict.outcome =
      (config.accept y given).map Verdict.outcome := by
    rw [← outcome_smallText hformat x, ← outcome_smallText hformat y, Text.smallText_ascii hx,
      Text.smallText_ascii hy, hlower]
  have hnever (title : String) : ∃ verdict, config.accept title given = .ok verdict := by
    cases h : config.accept title given with
    | error failure => exact absurd h (accept_ne_error (renderable_builtin hformat))
    | ok verdict => exact ⟨verdict, rfl⟩
  obtain ⟨verdict, hverdict⟩ := hnever x
  obtain ⟨other, hother⟩ := hnever y
  rw [hverdict, hother] at halike
  exact ⟨verdict, other, hverdict, hother, Except.ok.inj halike⟩

/-- Entries that differ only in case, and one whose capital is no ASCII letter. -/
theorem accept_letterCase_kelvin :
    let config : Config :=
      { format := .builtin .scopeColon .sentence, types := [⟨"\u212aey", ""⟩],
        scopes := [⟨"API", ""⟩, ⟨"api", ""⟩] }
    config.format = .builtin .scopeColon .sentence ∧ Text.IsAscii "KEY(api): ADD x".toList ∧
      Text.IsAscii "key(Api): add X".toList ∧
      Text.lower "KEY(api): ADD x" = Text.lower "key(Api): add X" ∧
      config.accept "KEY(api): ADD x" [] = .ok (.ok "\u212aey(API): Add x") ∧
      config.accept "key(Api): add X" [] = .ok (.ok "\u212aey(API): Add x") := by
  intro config
  have hx : Text.IsAscii "KEY(api): ADD x".toList := by decide
  have hy : Text.IsAscii "key(Api): add X".toList := by decide
  have hlower : Text.lower "KEY(api): ADD x" = Text.lower "key(Api): add X" := by decide
  have haccept : config.accept "KEY(api): ADD x" [] = .ok (.ok "\u212aey(API): Add x") := by rfl
  have hformat : config.format = .builtin .scopeColon .sentence := rfl
  obtain ⟨verdict, other, hverdict, hother, houtcome⟩ :=
    accept_letterCase hformat hx hy hlower []
  obtain rfl : .ok "\u212aey(API): Add x" = verdict :=
    Except.ok.inj (haccept.symm.trans hverdict)
  obtain rfl : other = .ok "\u212aey(API): Add x" := by
    cases other <;> cases houtcome
    rfl
  exact ⟨hformat, hx, hy, hlower, haccept, hother⟩

end Config

end CommitStyle
