import CommitStyle.IgnoreFile
import CommitStyle.Proofs.Files.Apart
import CommitStyle.Proofs.KeyFile.Lookup

/-! Flows that write to some paths and leave another alone. The list of ignored paths and the
key file are written to while a configuration is set up; a file elsewhere stays as it
is, and every path goes on leading where it led. -/

namespace CommitStyle

namespace Flow

variable {α β : Type} {path other : String} {others : List String} {flow : Flow α}
  {next : α → Flow β}

/-- Nothing that was said is taken back, and the path stays as it is where it leads to none of
the others. -/
def Spares (path : String) (others : List String) (flow : Flow α) : Prop :=
  ∀ before result after, Runs flow before result after →
    (∃ added, after.events = before.events ++ added) ∧
      ((∀ other ∈ others, before.files.Apart path other) →
        Files.Keeps path before.files after.files)

namespace Spares

theorem stay (h : OnlyLocal flow) : Spares path others flow := by
  intro before result after hrun
  obtain ⟨added, hadds, -⟩ := h _ _ _ hrun
  exact ⟨⟨added, hadds.events⟩, fun _ => hadds.files ▸ .refl _⟩

protected theorem bind (h : Spares path others flow) (h' : ∀ a, Spares path others (next a)) :
    Spares path others (flow >>= next) := by
  intro before result after hrun
  rcases runs_bind.mp hrun with ⟨a, middle, hfirst, hrest⟩ | ⟨failure, hfirst, -⟩
  · obtain ⟨⟨added, hadded⟩, hkeeps⟩ := h _ _ _ hfirst
    obtain ⟨⟨more, hmore⟩, hkeeps'⟩ := h' a _ _ _ hrest
    refine ⟨⟨added ++ more, by rw [hmore, hadded, List.append_assoc]⟩, fun hapart => ?_⟩
    have hfirst := hkeeps hapart
    exact hfirst.trans (hkeeps' fun other hother => hfirst.apart (hapart other hother))
  · exact h _ _ _ hfirst

theorem afterLift {value : Except Failure α}
    (h : ∀ a, value = .ok a → Spares path others (next a)) :
    Spares path others ((liftM value : Flow α) >>= next) := by
  intro before result after hrun
  rcases runs_bind.mp hrun with ⟨a, middle, hlift, hrest⟩ | ⟨failure, hlift, -⟩
  · obtain ⟨hvalue, rfl⟩ := runs_lift.mp hlift
    exact h a hvalue.symm _ _ _ hrest
  · exact stay (.lift value) _ _ _ hlift

/-- The files are changed by a step that keeps the path, or they stay as they are. -/
theorem change (step : Files → Except Failure Files) (hother : other ∈ others)
    (h : ∀ files written, files.Apart path other → step files = .ok written →
      Files.Keeps path files written) :
    Spares path others (do
      let files ← step (← get).files
      modify fun session => { session with files }) := by
  intro before result after hrun
  rcases runs_bind.mp (runs_getThen.mp hrun) with ⟨written, middle, hstep, hmodify⟩ |
    ⟨failure, hstep, -⟩
  · obtain ⟨hwritten, rfl⟩ := runs_lift.mp hstep
    obtain ⟨-, rfl⟩ := runs_modify.mp hmodify
    exact ⟨⟨[], by simp⟩, fun hapart => h _ _ (hapart other hother) hwritten.symm⟩
  · obtain ⟨-, rfl⟩ := runs_lift.mp hstep
    exact ⟨⟨[], by simp⟩, fun _ => .refl _⟩

theorem writeText (hother : other ∈ others) (content : String) :
    Spares path others (writeText other content) :=
  change (·.write other content) hother fun _ _ hapart hwritten => .write hwritten hapart

theorem touch (hother : other ∈ others) : Spares path others (touch other) :=
  change (·.touch other) hother fun _ _ hapart htouched => .touch htouched hapart

end Spares

end Flow

open CommitStyle.Flow

variable {path : String} {others : List String}

end CommitStyle
