import CommitStyle.Proofs.Markup.Fitting
import CommitStyle.Proofs.Session.Conversation

/-! Notices. What is printed is looked at for tags first: a text whose tags fit is one event,
and any other fails before anything is printed. A notice is shown whatever it says without an
opening bracket. -/

namespace CommitStyle.Dialog

open CommitStyle.Flow CommitStyle.Markup

variable {markup message : String} {before after : Session} {result : Except Failure Unit}

theorem tell_eq_emit (h : Shows markup) : tell markup = Flow.emit (.print markup) := by
  obtain ⟨text, htext⟩ := h
  rw [tell, htext]
  rfl

theorem tell_eq_throw {fault : Fault} (h : plain markup = .error fault) :
    tell markup = throw (.markup fault) := by
  rw [tell, h]
  rfl

/-- A text is printed, or its tags do not fit. -/
theorem runs_tell : Runs (tell markup) before result after ↔
    (Shows markup ∧ result = .ok () ∧
      after = { before with events := before.events ++ [.print markup] }) ∨
    ∃ fault, plain markup = .error fault ∧ result = .error (.markup fault) ∧ after = before := by
  cases htext : plain markup with
  | ok text =>
    have hshows : Shows markup := ⟨text, htext⟩
    rw [tell_eq_emit hshows]
    refine runs_modify.trans ⟨fun h => .inl ⟨hshows, h⟩, fun h => ?_⟩
    rcases h with ⟨-, h⟩ | ⟨fault, hfault, -⟩
    · exact h
    · cases hfault
  | error fault =>
    rw [tell_eq_throw htext]
    refine runs_throw.trans ⟨fun h => .inr ⟨fault, rfl, h⟩, fun h => ?_⟩
    rcases h with ⟨⟨text, hshows⟩, -⟩ | ⟨other, hfault, h⟩
    · cases htext.symm.trans hshows
    · cases hfault
      exact h

theorem runs_told (h : Shows markup) (session : Session) : Runs (tell markup) session (.ok ())
    { session with events := session.events ++ [.print markup] } :=
  runs_tell.mpr (.inl ⟨h, rfl, rfl⟩)

theorem runs_untold {fault : Fault} (h : plain markup = .error fault) (session : Session) :
    Runs (tell markup) session (.error (.markup fault)) session :=
  runs_tell.mpr (.inr ⟨fault, h, rfl, rfl⟩)

theorem onlyNotes_tell (markup : String) : OnlyNotes (tell markup) :=
  .bind (.lift _) fun _ => .emit rfl rfl

theorem onlyTalks_tell (markup : String) : OnlyTalks (tell markup) :=
  (onlyNotes_tell markup).converses.talks

/-- A text whose tags fit is printed without fail. -/
theorem fails_tell {P : Failure → Prop} (h : Shows markup) : Fails (tell markup) P := by
  rw [tell_eq_emit h]
  exact .emit _

/-! ## Tags of notices -/

/-- The styles of all that is told. -/
def styles : List String := ["bold green", "bold red", "bold blue", "bold yellow", "cyan", "dim"]

-- all at once, as the names of the colours are cut out of their table only once then
theorem isTag_styles : ∀ style ∈ styles, IsTag style.toList style := by decide +kernel

theorem isTag_success : IsTag "bold green".toList "bold green" := isTag_styles _ (by simp [styles])

theorem isTag_error : IsTag "bold red".toList "bold red" := isTag_styles _ (by simp [styles])

theorem isTag_info : IsTag "bold blue".toList "bold blue" := isTag_styles _ (by simp [styles])

theorem isTag_warning : IsTag "bold yellow".toList "bold yellow" :=
  isTag_styles _ (by simp [styles])

theorem isTag_number : IsTag "cyan".toList "cyan" := isTag_styles _ (by simp [styles])

theorem isTag_label : IsTag "dim".toList "dim" := isTag_styles _ (by simp [styles])

/-- A line that says something in a style. -/
theorem shows_line {style name said : String} (htag : IsTag style.toList name)
    (h : '[' ∉ said.toList) (hline : markup.toList = '\n' :: ('[' :: style.toList ++ ']' ::
      (said.toList ++ ('[' :: ('/' :: style.toList) ++ [']'])))) : Shows markup := by
  have hfeed : Passes ['\n'] := passes_bare (by decide)
  refine Fits.shows ?_
  rw [hline]
  exact (hfeed [] 0 _).mpr (fits_enclosed htag h)

theorem shows_notice {style name sign : String} (htag : IsTag style.toList name)
    (hsign : '[' ∉ sign.toList) (h : '[' ∉ message.toList) :
    Shows (notice style sign message) := by
  have hsaid : '[' ∉ (sign ++ " " ++ message).toList := by simp [hsign, h]
  exact shows_line htag hsaid (by simp [notice, toString])

theorem info_untagged (h : '[' ∉ message.toList) :
    info message = Flow.emit (.print (notice "bold blue" "ℹ️" message)) :=
  tell_eq_emit (shows_notice isTag_info (by decide) h)

/-! ## Numbered lists -/

theorem shows_listHead (h : '[' ∉ message.toList) : Shows (listHead message) :=
  shows_line isTag_info h (by simp [listHead, toString])

theorem isBare_number (n : Nat) : IsBare (toString n).toList := by
  intro c hmem
  rw [Nat.toString_eq_ofList_toDigits, String.toList_ofList] at hmem
  have hdigit := Nat.isDigit_of_mem_toDigits (by decide) (by decide) hmem
  constructor
  · intro heq
    rw [heq] at hdigit
    cases hdigit
  · intro heq
    rw [heq] at hdigit
    cases hdigit

theorem shows_listEntry (number : Nat) {value label : String} (hvalue : Passes value.toList)
    (hlabel : Passes label.toList) : Shows (listEntry number value label) := by
  have hnumber : Passes ("  ".toList ++ ('[' :: "cyan".toList ++ ']' ::
      ((toString number).toList ++ ".".toList) ++ '[' :: ('/' :: "cyan".toList) ++ [']'])) :=
    (passes_bare (by decide)).append
      (((passes_bare (isBare_number number)).append (passes_bare (by decide))).tagged isTag_number)
  have hentry : Passes (" ".toList ++ value.toList) := (passes_bare (by decide)).append hvalue
  refine Passes.shows ?_
  unfold listEntry
  by_cases hsame : (label.isEmpty || label == value) = true
  · rw [if_pos hsame]
    simpa [toString] using hnumber.append hentry
  · have hnote : Passes (" ".toList ++ ('[' :: "dim".toList ++ ']' ::
        ("- ".toList ++ label.toList) ++ '[' :: ('/' :: "dim".toList) ++ [']'])) :=
      (passes_bare (by decide)).append
        (((passes_bare (by decide)).append hlabel).tagged isTag_label)
    rw [if_neg hsame]
    simpa [toString] using hnumber.append (hentry.append hnote)

/-- The words of a list can be shown as they are. -/
def IsPlainList (choices : List (String × String)) : Prop :=
  ∀ choice ∈ choices, IsBare choice.1.toList ∧ IsBare choice.2.toList

instance (choices : List (String × String)) : Decidable (IsPlainList choices) :=
  inferInstanceAs (Decidable (∀ choice ∈ choices, _))

/-- Asks for a number of a list that is written out. -/
def askNumber (choices : List (String × String)) (default : Option String) : Flow String := do
  let defaultNumber := (default.map (numberOf choices)).getD 1
  let question ← prompt "Choose" "" (some (toString defaultNumber))
  let number ← askUntil question false fun line => do
    if line.isEmpty then return some defaultNumber
    else match (List.range choices.length).find? fun i => toString (i + 1) == Text.strip line with
      | some index => return some (index + 1)
      | none => refuse "[prompt.invalid.choice]Please select one of the available options"
  match choices[number - 1]? with
  | some choice => return choice.1
  | none => throw .nothingToChoose

theorem forM_congr {α : Type} {items : List α} {f g : α → Flow PUnit}
    (h : ∀ item ∈ items, f item = g item) : items.forM f = items.forM g := by
  induction items with
  | nil => rfl
  | cons item rest ih =>
    have hrest := ih fun other hmem => h other (List.mem_cons_of_mem item hmem)
    show (f item >>= fun _ => rest.forM f) = g item >>= fun _ => rest.forM g
    rw [h item List.mem_cons_self, hrest]

/-- A list of words that can be shown is written out line by line. -/
theorem choose_listed {choices : List (String × String)} (hmessage : '[' ∉ message.toList)
    (hchoices : IsPlainList choices) (default : Option String) :
    choose message choices default = (do
      Flow.emit (.print (listHead message))
      choices.zipIdx.forM fun entry =>
        Flow.emit (.print (listEntry (entry.2 + 1) entry.1.1 entry.1.2))
      askNumber choices default) := by
  have hentries : (choices.zipIdx.forM fun entry =>
      tell (listEntry (entry.2 + 1) entry.1.1 entry.1.2)) = choices.zipIdx.forM fun entry =>
        Flow.emit (.print (listEntry (entry.2 + 1) entry.1.1 entry.1.2)) := by
    refine forM_congr fun entry hmem => ?_
    obtain ⟨hvalue, hlabel⟩ := hchoices entry.1 (List.fst_mem_of_mem_zipIdx hmem)
    exact tell_eq_emit (shows_listEntry _ (passes_bare hvalue) (passes_bare hlabel))
  have hhead := tell_eq_emit (shows_listHead hmessage)
  rw [← hhead, ← hentries]
  rfl

/-! ## Prompts -/

theorem prompt_untagged {message : String} (h : '[' ∉ message.toList) (answers : String)
    (default : Option String) : ∃ question, prompt message answers default = .ok question := by
  obtain ⟨text, htext⟩ := Markup.shows_untagged h
  unfold prompt
  rw [htext]
  exact ⟨_, rfl⟩

end CommitStyle.Dialog
