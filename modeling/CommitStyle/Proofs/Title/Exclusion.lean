import CommitStyle.Proofs.Title.Detection
import CommitStyle.Proofs.Title.Verdict
import Mathlib.Data.List.Nodup

/-! One built-in shape at most. What opens a title settles the shape, so that of the shapes
no two fit and the order in which they are tried decides nothing. A title is therefore
normalized in the formats of one shape only, whatever the vocabulary. -/

namespace CommitStyle.TitleParts

/-- Whether a title has the shape. -/
def fitsShape (title : String) (shape : Shape) : Bool := (ofShape? shape title.toList).isSome

theorem onlyShape_of_fitsShape {title : String} {shape : Shape}
    (h : fitsShape title shape = true) : shape = onlyShape title.toList := by
  obtain ⟨found, hfound⟩ := Option.isSome_iff_exists.mp h
  exact (onlyShape_eq hfound).symm

theorem countP_fitsShape_le {shapes : List Shape} (hnodup : shapes.Nodup) (title : String) :
    shapes.countP (fitsShape title) ≤ 1 := by
  have hmono : shapes.countP (fitsShape title) ≤ shapes.count (onlyShape title.toList) :=
    List.countP_mono_left fun shape _ h => beq_iff_eq.mpr (onlyShape_of_fitsShape h)
  exact hmono.trans (List.nodup_iff_count_le_one.mp hnodup _)

/-- Wherever all shapes are tried, the same one is found. -/
theorem detectIn_eq_detect? {shapes : List Shape} (hall : ∀ shape, shape ∈ shapes)
    (title : String) : detectIn shapes title = detect? title := by
  refine Option.ext fun ⟨shape, found⟩ => ?_
  rw [detectIn_eq_some (hall shape), detect?_eq_some]

theorem mem_shapesTried (shape : Shape) : shape ∈ shapesTried := by cases shape <;> decide

/-- What is normalized has the shape of the configured format. -/
theorem onlyShape_of_normalize {config : Config} {shape : Shape} {style : Style}
    {title normalized : String} {given : Entries String}
    (hformat : config.format = .builtin shape style)
    (h : config.normalize title given = .ok (.ok normalized)) :
    shape = onlyShape (Text.strip title).toList := by
  obtain ⟨-, found, -, -, hfound, -⟩ := (Config.normalize_builtin hformat).mp h
  exact (onlyShape_eq (detect?_eq_some.mp hfound)).symm

/-- **A title has one shape at most.** So it is detected alike in whatever order the shapes are
tried, and the built-in formats in which it can be normalized have one shape in common. -/
theorem shapes_exclusive (title : String) :
    shapesTried.countP (fitsShape title) ≤ 1 ∧
    (∀ shapes, shapes.Perm shapesTried → detectIn shapes title = detect? title) ∧
    ∃ only, ∀ (config : Config) (given : Entries String) (shape : Shape) (style : Style)
      (normalized : String), config.format = .builtin shape style →
        config.normalize title given = .ok (.ok normalized) → shape = only := by
  refine ⟨countP_fitsShape_le (by decide) title, fun shapes hperm => ?_,
    onlyShape (Text.strip title).toList, fun _ _ _ _ _ => onlyShape_of_normalize⟩
  exact detectIn_eq_detect? (fun shape => hperm.mem_iff.mpr (mem_shapesTried shape)) title

/-- A scope over two lines and a message that looks like a shape of its own. -/
theorem shapes_exclusive_nested :
    let config : Config :=
      { format := .builtin .scopeColon .lower, scopes := [⟨"a:\n b", ""⟩] }
    shapesTried.reverse.Perm shapesTried ∧
      detectIn shapesTried.reverse "Feat(a:\n b):(x): Y" =
        some (.scopeColon, ⟨"Feat", some "a:\n b", "(x): Y"⟩) ∧
      config.normalize "Feat(a:\n b):(x): Y" [] = .ok (.ok "feat(a:\n b): (x): y") ∧
      ∀ shape style normalized,
        { config with format := .builtin shape style }.normalize "Feat(a:\n b):(x): Y" [] =
          .ok (.ok normalized) → shape = .scopeColon := by
  intro config
  have hnormalize : config.normalize "Feat(a:\n b):(x): Y" [] =
      .ok (.ok "feat(a:\n b): (x): y") := by rfl
  obtain ⟨-, horder, only, honly⟩ := shapes_exclusive "Feat(a:\n b):(x): Y"
  have hscoped : Shape.scopeColon = only := honly config [] _ _ _ rfl hnormalize
  refine ⟨List.reverse_perm _, ?_, hnormalize, fun shape style normalized h => ?_⟩
  · rw [horder _ (List.reverse_perm _)]
    decide
  · rw [hscoped]
    exact honly _ _ _ _ _ rfl h

end CommitStyle.TitleParts
