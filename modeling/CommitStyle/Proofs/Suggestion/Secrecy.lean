import CommitStyle.Proofs.Session.Twins
import CommitStyle.Suggestion.Service

/-! The key of a suggestion service goes into one header of the request and nowhere else.
Two runs that differ in nothing but the key, and that get the same replies, come to the
same end; nothing that reaches the outside differs but that header. -/

namespace CommitStyle.Suggestion

open CommitStyle.Flow

/-- The same event, or requests for the same with one key each in the header for the key. -/
inductive Alike (key other : String) : Event → Event → Prop
  | same (event : Event) : Alike key other event event
  | request (provider : Provider) (url : String) (body : Json) (timeout : Nat) :
    Alike key other
      (.request { url, headers := provider.fixedHeaders ++ [provider.keyHeader key], body, timeout })
      (.request
        { url, headers := provider.fixedHeaders ++ [provider.keyHeader other], body, timeout })

variable {alike : Event → Event → Prop} (hrefl : ∀ event, alike event event)

/-! ## Steps that have no key -/

include hrefl in
theorem inStep_titlesIn (answer : Json) : InStep alike (titlesIn answer) (titlesIn answer) := by
  unfold titlesIn
  split
  · dsimp only
    split
    · exact .bind (.log hrefl _ _) fun _ => .lift _
    · exact .lift _
  · exact .throw _

include hrefl in
theorem inStep_examine (config : Config) (title : String) (fields : Entries String) :
    InStep alike (config.examine title fields) (config.examine title fields) := by
  unfold Config.examine
  split
  · exact .bind (.log hrefl _ _) fun _ => .lift _
  · exact .lift _

include hrefl in
theorem inStep_acceptable (config : Config) (titles : List JsonText) (fields : Entries String) :
    InStep alike (acceptable config titles fields) (acceptable config titles fields) := by
  refine .foldlM (fun accepted suggestion => ?_) _
  refine .bind (inStep_examine hrefl config _ fields) fun verdict => ?_
  split
  · split
    · exact .pure _
    · exact .pure _
  · exact .bind (.log hrefl _ _) fun _ => .pure _

/-! ## The request -/

variable {key other : String}

theorem inStep_complete (ai : AiSettings) (instructions : String) :
    InStep (Alike key other) (complete ai key instructions) (complete ai other instructions) := by
  refine .bind (.logOn .same _ _ _) fun _ => ?_
  cases Provider.ofName? ai.provider with
  | none => exact .throw _
  | some provider =>
    exact .bind (.lift _) fun url => .bind (.send (.request provider url _ _)) fun reply => .lift _

theorem inStep_generate (config : Config) (instructions : String) (fields : Entries String) :
    InStep (Alike key other) (generate config key instructions fields)
      (generate config other instructions fields) :=
  .bind (inStep_complete config.ai instructions) fun answer =>
    .bind (inStep_titlesIn .same answer) fun titles => inStep_acceptable .same config titles fields

theorem requireKey_eq_ok (hkey : key ≠ "") (ai : AiSettings) : requireKey ai key = .ok () := by
  unfold requireKey
  exact if_neg (by simpa using hkey)

theorem inStep_titlesFor (hkey : key ≠ "") (hother : other ≠ "") (config : Config)
    (staged : StagedDiff) (fields : Entries String) (given : Option String) :
    InStep (Alike key other) (titlesFor config key staged fields given)
      (titlesFor config other staged fields given) := by
  unfold titlesFor
  rw [requireKey_eq_ok hkey, requireKey_eq_ok hother]
  exact .bind (.lift _) fun _ => .bind (.lift _) fun prompt => inStep_generate config prompt fields

/-- **The key makes no difference but in its header.** With any two keys, neither of them empty,
the same titles come back or the same failure, with the same message. The same events happen,
except that a request carries the one key or the other in the header for it: its address, its
body and the time it is given are the same. The rest of the session is left the same. -/
theorem key_only_in_header (hkey : key ≠ "") (hother : other ≠ "") (config : Config)
    (staged : StagedDiff) (fields : Entries String) (given : Option String) (session : Session) :
    ∃ result after twin, Runs (titlesFor config key staged fields given) session result after ∧
      Runs (titlesFor config other staged fields given) session result twin ∧
      List.Forall₂ (Alike key other) after.events twin.events ∧
      twin = { after with events := twin.events } := by
  obtain ⟨hresult, htwins⟩ := inStep_titlesFor hkey hother config staged fields given
    session session (.refl .same session)
  refine ⟨_, _, _, runs_runOn _ _, ?_, htwins.events, htwins.rest⟩
  rw [hresult]
  exact runs_runOn _ _

/-- A service that knows neither key. -/
theorem key_only_in_header_refused : "first" ≠ "" ∧ "second" ≠ "" ∧
    ∃ result after twin,
      Runs (titlesFor {} "first" { stats := "", diff := "" } [] none)
        { replies := [.answered 401 "unknown key"], verbose := true } result after ∧
      Runs (titlesFor {} "second" { stats := "", diff := "" } [] none)
        { replies := [.answered 401 "unknown key"], verbose := true } result twin ∧
      List.Forall₂ (Alike "first" "second") after.events twin.events ∧
      twin = { after with events := twin.events } :=
  ⟨by decide, by decide, key_only_in_header (by decide) (by decide) {} _ [] none _⟩

end CommitStyle.Suggestion
