import CommitStyle.Proofs.Flow.Titles
import CommitStyle.Proofs.Title.Renderable
import Mathlib.Data.List.Induction
import Mathlib.Data.List.Nodup

/-! Which titles are left of the suggestions. Each suggestion adds the title that it is
accepted as, unless that title is there already, so that the titles stand in the order of the
first suggestions that yield them. A suggestion that adds nothing can be left out. All this is
said of suggestions that are whole texts; the halves of characters in others are replaced
before they are looked at. -/

namespace CommitStyle.Suggestion

open CommitStyle.Flow

variable (config : Config) (fields : Entries String)

/-- The suggestion is accepted as this title. -/
def Yields (suggestion title : String) : Prop :=
  config.accept suggestion fields = .ok (.ok title)

/-- The suggestion is accepted or rejected. -/
def Decided (suggestion : String) : Prop :=
  ∃ verdict, config.accept suggestion fields = .ok verdict

/-- The suggestion is rejected, or one before it was accepted as the same title. -/
def Spare (before : List String) (suggestion : String) : Prop :=
  ∀ title, Yields config fields suggestion title →
    ∃ earlier ∈ before, Yields config fields earlier title

/-- The titles are those that the suggestions are accepted as, each once: where a suggestion is
the first to yield a title, just the titles of the suggestions before it come first. -/
structure Gathers (suggestions titles : List String) : Prop where
  nodup : titles.Nodup
  mem : ∀ title, title ∈ titles ↔ ∃ suggestion ∈ suggestions, Yields config fields suggestion title
  order : ∀ front suggestion back title, suggestions = front ++ suggestion :: back →
    Yields config fields suggestion title →
    (∀ earlier ∈ front, ¬ Yields config fields earlier title) →
    ∃ before after, titles = before ++ title :: after ∧
      ∀ other, other ∈ before ↔ ∃ earlier ∈ front, Yields config fields earlier other

/-- The titles after one more suggestion. -/
def withTitle (titles : List String) (suggestion : String) : List String :=
  match config.accept suggestion fields with
  | .ok (.ok title) => if titles.contains title then titles else titles ++ [title]
  | _ => titles

/-- The titles that are left of the suggestions. -/
def gathered (suggestions : List String) : List String :=
  suggestions.foldl (withTitle config fields) []

variable {config : Config} {fields : Entries String} {suggestion title : String}
  {suggestions before after titles : List String}

/-! ## One suggestion -/

theorem Yields.unique {other : String} (h : Yields config fields suggestion title)
    (h' : Yields config fields suggestion other) : title = other :=
  Except.ok.inj (Except.ok.inj (h.symm.trans h'))

theorem withTitle_rejected (h : ∀ title, ¬ Yields config fields suggestion title) :
    withTitle config fields titles suggestion = titles := by
  unfold withTitle
  split
  · rename_i title htitle
    exact absurd htitle (h title)
  · rfl

theorem withTitle_known (h : Yields config fields suggestion title) (hmem : title ∈ titles) :
    withTitle config fields titles suggestion = titles := by
  rw [withTitle, h]
  exact if_pos (List.contains_iff_mem.mpr hmem)

theorem withTitle_new (h : Yields config fields suggestion title) (hmem : title ∉ titles) :
    withTitle config fields titles suggestion = titles ++ [title] := by
  rw [withTitle, h]
  exact if_neg fun hcontains => hmem (List.contains_iff_mem.mp hcontains)

/-- There is a verdict on every suggestion where titles can be written in the format. -/
theorem decided (h : config.Renderable) (fields : Entries String) (suggestion : String) :
    Decided config fields suggestion := by
  unfold Decided
  cases hverdict : config.accept suggestion fields with
  | ok verdict => exact ⟨verdict, rfl⟩
  | error failure => exact absurd hverdict (Config.accept_ne_error h)

/-- Taking up a suggestion never fails where there is a verdict on it. -/
theorem runs_takeUp {suggestion : JsonText} (h : Decided config fields suggestion.toString)
    (titles : List String) (session : Session) :
    ∃ last, Runs (takeUp config fields titles suggestion) session
      (.ok (withTitle config fields titles suggestion.toString)) last := by
  obtain ⟨verdict, hverdict⟩ := h
  obtain ⟨middle, hexamine⟩ := runs_examine hverdict session
  unfold withTitle
  rw [hverdict]
  cases verdict with
  | ok title => exact ⟨middle, hexamine.andThen (runs_pure.mpr ⟨rfl, rfl⟩)⟩
  | error rejection =>
    obtain ⟨events, hlog⟩ := runs_log .debug _ middle
    exact ⟨_, hexamine.andThen (hlog.andThen (runs_pure.mpr ⟨rfl, rfl⟩))⟩

/-! ## All suggestions -/

theorem runs_foldTakeUp {suggestions : List JsonText}
    (h : ∀ suggestion ∈ suggestions, Decided config fields suggestion.toString)
    (titles : List String) (session : Session) :
    ∃ last, Runs (suggestions.foldlM (takeUp config fields) titles) session
      (.ok ((suggestions.map JsonText.toString).foldl (withTitle config fields) titles)) last := by
  induction suggestions generalizing titles session with
  | nil => exact ⟨session, runs_pure.mpr ⟨rfl, rfl⟩⟩
  | cons suggestion suggestions ih =>
    obtain ⟨hfirst, hrest⟩ := List.forall_mem_cons.mp h
    obtain ⟨middle, htake⟩ := runs_takeUp hfirst titles session
    obtain ⟨last, hfold⟩ := ih hrest _ middle
    rw [List.foldlM_cons, List.map_cons, List.foldl_cons]
    exact ⟨last, htake.andThen hfold⟩

theorem runs_acceptable {suggestions : List JsonText}
    (h : ∀ suggestion ∈ suggestions, Decided config fields suggestion.toString)
    (session : Session) :
    ∃ last, Runs (acceptable config suggestions fields) session
      (.ok (gathered config fields (suggestions.map JsonText.toString))) last :=
  runs_foldTakeUp h [] session

theorem runs_acceptable_whole (h : ∀ suggestion ∈ suggestions, Decided config fields suggestion)
    (session : Session) :
    ∃ last, Runs (acceptable config (suggestions.map .whole) fields) session
      (.ok (gathered config fields suggestions)) last := by
  have hwhole : (suggestions.map JsonText.whole).map JsonText.toString = suggestions := by
    rw [List.map_map]
    exact List.map_id suggestions
  have hdecided : ∀ suggestion ∈ suggestions.map JsonText.whole,
      Decided config fields suggestion.toString := List.forall_mem_map.mpr h
  have hruns := runs_acceptable hdecided session
  rwa [hwhole] at hruns

/-- A place in a list with one more element is a place before it, or the last one. -/
theorem split_snoc {α : Type} {before front back : List α} {last place : α}
    (h : before ++ [last] = front ++ place :: back) :
    (before = front ∧ last = place) ∨ ∃ rest, before = front ++ place :: rest := by
  rcases List.eq_nil_or_concat back with rfl | ⟨rest, other, rfl⟩
  · obtain ⟨hfront, hplace⟩ := List.append_inj' h rfl
    exact .inl ⟨hfront, List.singleton_inj.mp hplace⟩
  · rw [List.concat_eq_append, ← List.cons_append, ← List.append_assoc] at h
    exact .inr ⟨rest, (List.append_inj' h rfl).1⟩

theorem yields_snoc :
    (∃ other ∈ before ++ [suggestion], Yields config fields other title) ↔
      (∃ earlier ∈ before, Yields config fields earlier title) ∨
        Yields config fields suggestion title := by
  simp [or_and_right, exists_or]

namespace Gathers

protected theorem nil : Gathers config fields [] [] := by
  refine ⟨.nil, by simp, ?_⟩
  rintro front suggestion back title hnil
  simp at hnil

/-- Where the last suggestion adds nothing, the titles are those of the suggestions before it. -/
theorem spare (h : Gathers config fields before titles)
    (hspare : Spare config fields before suggestion) :
    Gathers config fields (before ++ [suggestion]) titles := by
  refine ⟨h.nodup, fun title => ?_, ?_⟩
  · rw [yields_snoc, h.mem, or_iff_left_of_imp (hspare title)]
  · intro front first back title hsplit hyields hfirst
    rcases split_snoc hsplit with ⟨rfl, rfl⟩ | ⟨rest, hbefore⟩
    · obtain ⟨earlier, hearlier, hknown⟩ := hspare title hyields
      exact absurd hknown (hfirst earlier hearlier)
    · exact h.order front first rest title hbefore hyields hfirst

/-- Where the last suggestion is the first to yield a title, that title comes last. -/
theorem new (h : Gathers config fields before titles) (hnew : title ∉ titles)
    (hyields : Yields config fields suggestion title) :
    Gathers config fields (before ++ [suggestion]) (titles ++ [title]) := by
  refine ⟨?_, fun other => ?_, ?_⟩
  · rw [← List.concat_eq_append]
    exact .concat hnew h.nodup
  · have hlast : Yields config fields suggestion other ↔ other = title :=
      ⟨fun hother => hother.unique hyields, fun heq => heq ▸ hyields⟩
    rw [yields_snoc, List.mem_append, List.mem_singleton, h.mem, hlast]
  · intro front first back other hsplit hother hfirst
    rcases split_snoc hsplit with ⟨rfl, rfl⟩ | ⟨rest, hbefore⟩
    · obtain rfl := hother.unique hyields
      exact ⟨titles, [], rfl, h.mem⟩
    · obtain ⟨above, below, rfl, habove⟩ := h.order front first rest other hbefore hother hfirst
      exact ⟨above, below ++ [title], by simp, habove⟩

theorem withTitle_spare (h : Gathers config fields before titles)
    (hspare : Spare config fields before suggestion) :
    withTitle config fields titles suggestion = titles := by
  by_cases hyields : ∃ title, Yields config fields suggestion title
  · obtain ⟨title, hyields⟩ := hyields
    exact withTitle_known hyields ((h.mem title).mpr (hspare title hyields))
  · exact withTitle_rejected (not_exists.mp hyields)

/-- One more suggestion. -/
theorem step (h : Gathers config fields before titles) :
    Gathers config fields (before ++ [suggestion]) (withTitle config fields titles suggestion) := by
  by_cases hspare : Spare config fields before suggestion
  · rw [h.withTitle_spare hspare]
    exact h.spare hspare
  · simp only [Spare, not_forall] at hspare
    obtain ⟨title, hyields, hfirst⟩ := hspare
    have hnew : title ∉ titles := fun hmem => hfirst ((h.mem title).mp hmem)
    rw [withTitle_new hyields hnew]
    exact h.new hnew hyields

end Gathers

theorem gathered_snoc (before : List String) (suggestion : String) :
    gathered config fields (before ++ [suggestion]) =
      withTitle config fields (gathered config fields before) suggestion := List.foldl_concat ..

theorem gathers_gathered (suggestions : List String) :
    Gathers config fields suggestions (gathered config fields suggestions) := by
  -- each suggestion is taken up after those before it, so the last one is split off
  induction suggestions using List.reverseRecOn with
  | nil => exact .nil
  | append_singleton before suggestion ih =>
    rw [gathered_snoc]
    exact ih.step

/-- A suggestion that adds nothing can be left out. -/
theorem gathered_spare (h : Spare config fields before suggestion) :
    gathered config fields (before ++ suggestion :: after) =
      gathered config fields (before ++ after) := by
  have hstep : withTitle config fields (gathered config fields before) suggestion =
      gathered config fields before := (gathers_gathered before).withTitle_spare h
  unfold gathered at hstep ⊢
  rw [List.foldl_append, List.foldl_cons, hstep, List.foldl_append]

/-- **Suggestions are filtered without loss and without repetition.** Of whole texts with a verdict
on each of them, the titles that are left are those that the suggestions are accepted as, each
once, in the order of the first suggestions that yield them; a suggestion that is rejected
or yields a title once more can be left out. -/
theorem acceptable_gathers (h : ∀ suggestion ∈ suggestions, Decided config fields suggestion) :
    ∃ titles, Gathers config fields suggestions titles ∧
      (∀ session, ∃ last,
        Runs (acceptable config (suggestions.map .whole) fields) session (.ok titles) last) ∧
      ∀ before suggestion after, suggestions = before ++ suggestion :: after →
        Spare config fields before suggestion → ∀ session, ∃ last,
          Runs (acceptable config ((before ++ after).map .whole) fields) session
            (.ok titles) last := by
  refine ⟨gathered config fields suggestions, gathers_gathered suggestions,
    fun session => runs_acceptable_whole h session, ?_⟩
  intro before suggestion after hsuggestions hspare session
  subst hsuggestions
  have hothers : ∀ other ∈ before ++ after, Decided config fields other := fun other hother =>
    h other ((List.sublist_cons_self suggestion after).append_left before |>.mem hother)
  rw [gathered_spare hspare]
  exact runs_acceptable_whole hothers session

/-- One suggestion is rejected, and the last one repeats the first. -/
theorem acceptable_gathers_repeated :
    let config : Config := { format := .builtin .colon .sentence }
    let suggestions := ["feat: add login", "chore: bump deps", "FIX: resolve crash"]
    let repeated := "feat: Add login"
    (∀ suggestion ∈ suggestions ++ [repeated], Decided config [] suggestion) ∧
      Spare config [] suggestions repeated ∧
      ∃ titles, Gathers config [] (suggestions ++ [repeated]) titles ∧
        "feat: Add login" ∈ titles ∧ "fix: Resolve crash" ∈ titles ∧
        (∀ session, ∃ last,
          Runs (acceptable config ((suggestions ++ [repeated]).map .whole) []) session
            (.ok titles) last) ∧
        ∀ session, ∃ last,
          Runs (acceptable config (suggestions.map .whole) []) session (.ok titles) last := by
  intro config suggestions repeated
  have hdecided : ∀ suggestion ∈ suggestions ++ [repeated], Decided config [] suggestion :=
    fun suggestion _ => decided ⟨none, rfl, by simp⟩ [] suggestion
  have hfeat : Yields config [] "feat: add login" "feat: Add login" := by
    unfold Yields
    rfl
  have hagain : Yields config [] "feat: Add login" "feat: Add login" := by
    unfold Yields
    rfl
  have hfix : Yields config [] "FIX: resolve crash" "fix: Resolve crash" := by
    unfold Yields
    rfl
  have hspare : Spare config [] suggestions repeated := by
    intro title hyields
    rw [← hagain.unique hyields]
    exact ⟨_, List.mem_cons_self, hfeat⟩
  obtain ⟨titles, hgathers, hruns, hshorter⟩ := acceptable_gathers hdecided
  have hfewer := hshorter suggestions repeated [] rfl hspare
  rw [List.append_nil] at hfewer
  exact ⟨hdecided, hspare, titles, hgathers, (hgathers.mem _).mpr ⟨_, by simp [repeated], hagain⟩,
    (hgathers.mem _).mpr ⟨_, by simp [suggestions], hfix⟩, hruns, hfewer⟩

end CommitStyle.Suggestion
