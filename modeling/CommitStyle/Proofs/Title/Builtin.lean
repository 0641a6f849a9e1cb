import CommitStyle.Proofs.Pattern.RoundTrip
import CommitStyle.Proofs.Title.Detection
import CommitStyle.Title.Compose

/-! Built-in titles, composed and detected. Detecting a title undoes composing it, when
its parts are such that they can be detected at all; and what is detected are such
parts, but for a type or a scope of which nothing is left when it is trimmed. -/

namespace CommitStyle.TitleParts

open Pattern (Plain)

/-- A text that trimming leaves alone, of characters of a class. -/
structure Clean (ofClass : Char → Bool) (text : String) : Prop where
  trimmed : Text.strip text = text
  chars : ∀ c ∈ text.toList, ofClass c = true

/-- Parts as a title of the shape has them. -/
structure Fits (shape : Shape) (parts : TitleParts) : Prop where
  type : Clean (typeClass shape) parts.type
  scope : ∃ word, parts.scope = scopeOf shape word ∧
    (shape.hasScope = true → Clean isEnclosedChar word)
  message : Plain parts.message

theorem toList_compose (shape : Shape) (type : String) (scope : Option String)
    (message : String) : (shape.compose type scope message).toList =
      opening shape type.toList (scope.getD "").toList ++ ' ' :: message.toList := by
  cases shape <;> simp [Shape.compose, opening]

theorem message?_blank (shape : Shape) {message : String} (h : Plain message) :
    message? shape (' ' :: message.toList) = some message.toList := by
  have hline : lineAfterBlanks? message.toList = some message.toList :=
    lineAfterBlanks?_self (fun he => h.ne_empty (String.toList_eq_nil_iff.mp he)) h.noFeed
      (Text.strip_eq_self.mp h.trimmed).head
  have hblank : Text.isBlank ' ' = true := by decide
  cases shape <;> simp [message?, lineAfterBlank?, lineAfterBlanks?, hblank, hline]

variable {shape : Shape} {type message : String} {scope : Option String}

/-- Detecting a composed title gives the parts it was composed of. -/
theorem detect?_compose (h : Fits shape ⟨type, scope, message⟩) (htype : type ≠ "")
    (hscope : scope ≠ some "") :
    detect? (shape.compose type scope message) = some (shape, ⟨type, scope, message⟩) := by
  obtain ⟨word, hword, hclean⟩ := h.scope
  have hscoped (hs : shape.hasScope = true) : scope = some word := by
    rwa [scopeOf, if_pos hs] at hword
  refine detect?_eq_some.mpr (ofShape?_eq_some.mpr ⟨type.toList, (scope.getD "").toList,
    ' ' :: message.toList, message.toList, toList_compose .., ⟨?_, h.type.chars, ?_, ?_⟩,
    message?_blank shape h.message, ?_⟩)
  · exact mt String.toList_eq_nil_iff.mp htype
  · intro hs
    rw [hscoped hs, Option.getD_some]
    exact mt String.toList_eq_nil_iff.mp fun he => hscope (by rw [hscoped hs, he])
  · intro hs
    rw [hscoped hs]
    exact (hclean hs).chars
  · have hread : (scopeOf shape (scope.getD "").toList).map
        (fun s => String.ofList (Text.trim s)) = scope := by
      by_cases hs : shape.hasScope = true
      · rw [scopeOf, if_pos hs, hscoped hs]
        exact congrArg some (hclean hs).trimmed
      · rw [scopeOf, if_neg hs] at hword ⊢
        exact hword.symm
    rw [parts, hread]
    exact congrArg₂ (TitleParts.mk · scope ·) h.type.trimmed.symm h.message.trimmed.symm

theorem head?_opening {type scope rest : List Char} (hne : type ≠ []) {c : Char}
    (h : (opening shape type scope ++ rest).head? = some c) : c = '(' ∨ type.head? = some c := by
  cases shape with
  | paren =>
    cases h
    exact .inl rfl
  | colon | scope | scopeColon =>
    rw [opening, List.append_assoc, List.head?_append_of_ne_nil _ hne] at h
    exact .inr h

theorem strip_compose (h : Fits shape ⟨type, scope, message⟩) (htype : type ≠ "") :
    Text.strip (shape.compose type scope message) = shape.compose type scope message := by
  have hne : message.toList ≠ [] := mt String.toList_eq_nil_iff.mp h.message.ne_empty
  rw [Text.strip_eq_self, toList_compose]
  constructor
  · intro c hc
    rcases head?_opening (mt String.toList_eq_nil_iff.mp htype) hc with rfl | hhead
    · decide
    · exact (Text.strip_eq_self.mp h.type.trimmed).head c hhead
  · intro c hc
    rw [List.getLast?_append_of_ne_nil _ (by simp), ← List.singleton_append,
      List.getLast?_append_of_ne_nil _ hne] at hc
    exact (Text.strip_eq_self.mp h.message.trimmed).last c hc

/-! ## Detected parts -/

theorem clean_trim {ofClass : Char → Bool} {s : List Char} (h : ∀ c ∈ s, ofClass c = true) :
    Clean ofClass (String.ofList (Text.trim s)) := by
  constructor
  · rw [Text.strip, String.toList_ofList, Text.trim_trim]
  · intro c hc
    rw [String.toList_ofList] at hc
    exact h c (Text.mem_of_mem_trim hc)

theorem message?_eq_some {s line : List Char} (h : message? shape s = some line) :
    EndsWith s line := by
  cases shape with
  | paren | scope => exact lineAfterBlank?_eq_some h
  | colon | scopeColon => exact lineAfterBlanks?_eq_some h

/-- The message of a trimmed title is what its last line leaves when it is trimmed. -/
theorem plain_message {title rest line : List Char} (htrim : Text.Trimmed (title ++ rest))
    (h : message? shape rest = some line) : Plain (String.ofList (Text.trim line)) := by
  obtain ⟨blanks, after, rfl, hne, hfeed, hafter⟩ := message?_eq_some h
  -- a trimmed title has no line feed after its line
  have hnil : after = [] := by
    rcases hafter with rfl | rfl
    · rfl
    · refine absurd ?_ (Text.not_feed_suffix htrim)
      rw [← List.append_assoc]
      exact List.suffix_append _ _
  subst hnil
  have hclean : Clean (fun _ => true) (String.ofList (Text.trim line)) := clean_trim (by simp)
  refine ⟨fun he => ?_, hclean.trimmed, fun hm => ?_⟩
  · have hblank := Text.trim_eq_nil_iff.mp (String.ofList_eq_empty_iff.mp he)
    have hlast := htrim.last (line.getLast hne) (by
      rw [List.append_nil, ← List.append_assoc, List.getLast?_append_of_ne_nil _ hne,
        List.getLast?_eq_some_getLast hne])
    rw [hblank _ (List.getLast_mem hne)] at hlast
    cases hlast
  · rw [String.toList_ofList] at hm
    exact hfeed (Text.mem_of_mem_trim hm)

/-- What is detected fits its shape. -/
theorem fits_of_detect? {title : String} {found : TitleParts}
    (htrim : Text.Trimmed title.toList) (h : detect? title = some (shape, found)) :
    Fits shape found := by
  obtain ⟨type, scope, rest, line, htitle, ho, hline, rfl⟩ :=
    ofShape?_eq_some.mp (detect?_eq_some.mp h)
  rw [htitle] at htrim
  refine ⟨clean_trim ho.type_class, ⟨String.ofList (Text.trim scope), ?_, ?_⟩,
    plain_message htrim hline⟩
  · simp only [parts, scopeOf]
    split <;> rfl
  · exact fun hs => clean_trim (ho.scope_class hs)

theorem mem_of_mem_message {title : String} {found : TitleParts}
    (h : detect? title = some (shape, found)) {c : Char} (hc : c ∈ found.message.toList) :
    c ∈ title.toList := by
  obtain ⟨type, scope, rest, line, htitle, -, hline, rfl⟩ :=
    ofShape?_eq_some.mp (detect?_eq_some.mp h)
  obtain ⟨blanks, after, rfl, -⟩ := message?_eq_some hline
  have hmem : c ∈ line := by
    rw [parts, String.toList_ofList] at hc
    exact Text.mem_of_mem_trim hc
  rw [htitle]
  simp [hmem]

end CommitStyle.TitleParts
