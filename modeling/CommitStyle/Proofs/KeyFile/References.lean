import CommitStyle.KeyFile.Variables
import CommitStyle.Proofs.KeyFile.Rewriting

/-! Values without references. Where no reference begins in a text, none begins in a value
that is read from it, as undoing escapes joins no dollar sign to a brace. Such values are
taken as they stand, so the variables of the text are its entries, the last on each key. -/

namespace CommitStyle.KeyFile

variable {s t rest : List Char}

/-- No reference to a variable begins in the text. -/
def NoReference (s : List Char) : Prop := ¬ ['$', '{'] <:+: s

theorem NoReference.of_infix (h : NoReference s) (ht : t <:+: s) : NoReference t :=
  fun hreference => h (hreference.trans ht)

theorem NoReference.tail {c : Char} (h : NoReference (c :: s)) : NoReference s :=
  h.of_infix (List.suffix_cons c s).isInfix

theorem noReference_nil : NoReference [] := by
  intro h
  simpa using h.length_le

theorem noReference_cons {c : Char} :
    NoReference (c :: s) ↔ ¬ (c = '$' ∧ s.head? = some '{') ∧ NoReference s := by
  have hbegin : ['$', '{'] <+: c :: s ↔ c = '$' ∧ s.head? = some '{' := by
    cases s <;> simp [List.cons_prefix_cons, eq_comm]
  rw [NoReference, List.infix_cons_iff, not_or, hbegin, NoReference]

/-! ## Filling in -/

theorem reference?_none {c : Char} (h : NoReference (c :: s)) : reference? (c :: s) = none := by
  have hbegin := (noReference_cons.mp h).1
  unfold reference?
  split
  · simp_all
  · rfl

theorem fillFrom_noReference (valueOf : Reference → String) (h : NoReference s) :
    fillFrom valueOf 0 s = s := by
  induction s with
  | nil => rfl
  | cons c rest ih => rw [fillFrom, reference?_none h, ih h.tail]

theorem fill_noReference (valueOf : Reference → String) {value : String}
    (h : NoReference value.toList) : fill valueOf value = value := by
  rw [fill, fillFrom_noReference valueOf h, String.ofList_toList]

/-! ## Values that are read -/

/-- Escapes that stand for none of the signs of a reference. -/
def Harmless (escapes : List (Char × Char)) : Prop :=
  ∀ escape ∈ escapes, escape.2 ≠ '$' ∧ escape.2 ≠ '{'

section Escapes

variable {escapes : List (Char × Char)} (hescapes : Harmless escapes)
include hescapes

theorem Harmless.of_lookup {c meant : Char} (h : escapes.lookup c = some meant) :
    meant ≠ '$' ∧ meant ≠ '{' := by
  obtain ⟨front, behind, rfl, -⟩ := List.lookup_eq_some_iff.mp h
  exact hescapes (c, meant) (by simp)

theorem head?_unescape (h : (unescape escapes s).head? = some '{') : s.head? = some '{' := by
  unfold unescape at h
  split at h
  · exact h
  · split at h
    · rename_i hmeant
      exact absurd (Option.some.inj h) (hescapes.of_lookup hmeant).2
    · cases h
  · exact h

/-- Undoing escapes makes no reference. -/
theorem noReference_unescape (h : NoReference s) : NoReference (unescape escapes s) := by
  fun_induction unescape escapes s with
  | case1 => exact h
  | case2 d more meant hmeant ih =>
    have hne := (hescapes.of_lookup hmeant).1
    exact noReference_cons.mpr ⟨fun hbegin => hne hbegin.1, ih h.tail.tail⟩
  | case3 d more hnone ih =>
    exact noReference_cons.mpr ⟨fun hbegin => absurd hbegin.1 (by decide), ih h.tail⟩
  | case4 c more hc ih =>
    obtain ⟨hbegin, hmore⟩ := noReference_cons.mp h
    exact noReference_cons.mpr
      ⟨fun ⟨hdollar, hbrace⟩ => hbegin ⟨hdollar, head?_unescape hescapes hbrace⟩, ih hmore⟩

end Escapes

theorem prefix_withoutComment (s : List Char) : withoutComment s <+: s := by
  induction s with
  | nil => exact List.prefix_rfl
  | cons c rest ih =>
    rw [withoutComment]
    split
    · exact List.nil_prefix
    · exact List.cons_prefix_cons.mpr ⟨rfl, ih⟩

theorem prefix_trimEnd (s : List Char) : Text.trimEnd s <+: s := by
  have hsuffix := List.dropWhile_suffix (l := s.reverse) Text.isBlank
  rw [← List.reverse_prefix, List.reverse_reverse] at hsuffix
  exact hsuffix

theorem noReference_value? {value : List Char} (h : value? s = some (value, rest))
    (hs : NoReference s) : NoReference value := by
  obtain ⟨quote, text, rfl, hvalue⟩ | ⟨rfl, -⟩ := value?_cases h
  · have htext : NoReference text := hs.tail.of_infix (List.prefix_append _ _).isInfix
    obtain rfl | rfl := hvalue
    · exact noReference_unescape (by unfold Harmless; decide) htext
    · exact noReference_unescape (by unfold Harmless; decide) htext
  · have hbare := (prefix_trimEnd _).trans ((prefix_withoutComment _).trans
      (List.takeWhile_prefix (l := s) (· != '\n')))
    exact hs.of_infix hbare.isInfix

theorem noReference_assigned? {value : List Char} (h : assigned? s = some (value, rest))
    (hs : NoReference s) : NoReference value := by
  unfold assigned? at h
  dsimp only at h
  split at h
  · obtain ⟨rfl, -⟩ := Prod.mk.inj (Option.some.inj h)
    exact noReference_nil
  · exact noReference_value? h (hs.of_infix (skipInline_suffix s).isInfix)

theorem noReference_assignment {name : Option (List Char)} {value here : List Char}
    (h : assignment s = .ok ((name, some value), here)) (hs : NoReference s) :
    NoReference value := by
  unfold assignment at h
  split at h
  · cases h
  · rename_i found left hname
    split at h
    · cases h
    · rename_i given place hvalue
      cases h
      have hleft := ((skipInline_suffix left).trans (suffix_of_name? hname)).trans
        (skipExport_suffix s)
      unfold valuePart at hvalue
      split at hvalue
      · rename_i more hequals
        rw [hequals] at hleft
        split at hvalue
        · rename_i hassigned
          cases hvalue
          exact noReference_assigned? hassigned (hs.of_infix hleft.isInfix).tail
        · cases hvalue
      · cases hvalue

/-- No value that a statement gives holds a reference. -/
theorem noReference_entry {name value : String} (hs : NoReference s)
    (h : (Binding.read s).1.gives? = some (name, some value)) : NoReference value.toList := by
  by_cases hblank : Text.trimStart s = []
  · rw [read_blank hblank] at h
    cases h
  rw [(read_eq hblank).1] at h
  unfold entryOf at h
  split at h
  · rename_i bare given here hassigned
    split at h
    · obtain ⟨-, hvalue⟩ := Prod.mk.inj (Option.some.inj h)
      obtain ⟨chars, rfl, rfl⟩ := Option.map_eq_some_iff.mp hvalue
      rw [String.toList_ofList]
      exact noReference_assignment hassigned (hs.of_infix (List.dropWhile_suffix _).isInfix)
    · cases h
  · cases h

/-- Values that are taken as they stand. -/
def Literal (entries : Variables) : Prop :=
  ∀ name value, (name, some value) ∈ entries → NoReference value.toList

theorem literal_entriesOf (hs : NoReference s) : Literal (entriesOf s) := by
  intro name value hmem
  induction s using bindings.induct with
  | case1 =>
    rw [entriesOf_nil] at hmem
    cases hmem
  | case2 s hne ih =>
    rw [entriesOf_eq] at hmem
    rcases List.mem_append.mp hmem with hentry | hbehind
    · exact noReference_entry hs (Option.mem_toList.mp hentry)
    · have hrest : (Binding.read s).2 <:+ s := ⟨_, source_append_read s⟩
      exact ih (hs.of_infix hrest.isInfix) hbehind

theorem IsBare.noReference {value : String} (h : IsBare value) : NoReference value.toList := by
  intro hreference
  have hdollar : '$' ∈ value.toList := hreference.subset (by simp)
  exact absurd (h.chars _ hdollar) (by decide)

theorem Literal.stored {key value : String} (h : Literal (entriesOf s)) (hkey : IsKey key)
    (hvalue : IsBare value) : Literal (entriesOf (KeyFile.stored key value s)) := by
  intro name given hmem
  rw [entriesOf_stored hkey hvalue] at hmem
  split at hmem
  · obtain ⟨entry, hentry, heq⟩ := List.mem_map.mp hmem
    split at heq
    · cases heq
      exact hvalue.noReference
    · exact h name given (heq ▸ hentry)
  · rcases List.mem_append.mp hmem with hentry | hlast
    · exact h name given hentry
    · cases List.mem_singleton.mp hlast
      exact hvalue.noReference

/-! ## The variables of a text -/

/-- Statements whose values are taken as they stand add their entries. -/
theorem foldl_extend (environment : Entries String) {statements : List Binding}
    (h : Literal (statements.filterMap Binding.gives?)) (known : Variables) :
    statements.foldl (Variables.extend environment) known =
      Entries.update known (statements.filterMap Binding.gives?) := by
  induction statements generalizing known with
  | nil => rfl
  | cons binding rest ih =>
    rw [List.foldl_cons, List.filterMap_cons]
    rw [List.filterMap_cons] at h
    obtain ⟨name, given, source, wellFormed⟩ := binding
    cases name with
    | none => exact ih h known
    | some name =>
      rw [ih fun other value hmem => h other value (List.mem_cons_of_mem _ hmem)]
      cases given with
      | none => rfl
      | some value =>
        have hvalue := h name value List.mem_cons_self
        simp only [Variables.extend, Option.map_some, fill_noReference _ hvalue]
        rfl

/-- A variable is what the last entry on it says, whatever the environment is. -/
theorem get?_variablesOf (environment : Entries String) (h : Literal (entriesOf s))
    (name : String) : Entries.get? (variablesOf environment (bindings s)) name =
      Entries.get? (entriesOf s).reverse name := by
  rw [variablesOf, foldl_extend environment h, Entries.get?_update_reverse]
  exact Option.or_none

end CommitStyle.KeyFile
