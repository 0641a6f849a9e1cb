import CommitStyle.Proofs.Session.Talking

/-! Questions that are answered with an empty line. Each takes one line and gives its
default, if the default passes the question's own test. How many lines a flow takes adds
up over its steps, so the lines behind them are left open. -/

namespace CommitStyle

open CommitStyle.Flow

namespace Flow

variable {α β : Type} {rules : List CommandRule}

/-- With so many empty lines to read, and commands answered by these rules, every run of the flow
gives the value and changes no file; it reads just those lines. -/
def Accepts (rules : List CommandRule) (lines : Nat) (flow : Flow α) (a : α) : Prop :=
  ∀ session rest, session.rules = rules →
    session.input = List.replicate lines (some "") ++ rest →
      ∃ events, Runs flow session (.ok a) { session with input := rest, events }

namespace Accepts

variable {flow : Flow α} {next : α → Flow β} {a : α} {b : β} {lines more : Nat}

protected theorem pure (a : α) : Accepts rules 0 (pure a) a := by
  intro session rest hrules hinput
  exact ⟨session.events, runs_pure.mpr ⟨rfl, by rw [← show session.input = rest from hinput]⟩⟩

protected theorem bind (h : Accepts rules lines flow a) (h' : Accepts rules more (next a) b) :
    Accepts rules (lines + more) (flow >>= next) b := by
  intro session rest hrules hinput
  rw [← List.replicate_append_replicate, List.append_assoc] at hinput
  obtain ⟨said, hfirst⟩ := h session _ hrules hinput
  obtain ⟨added, hrest⟩ := h' { session with
    input := List.replicate more (some "") ++ rest, events := said } rest hrules rfl
  exact ⟨added, hfirst.andThen hrest⟩

/-- A step that reads no line comes first. -/
theorem after (h : Accepts rules 0 flow a) (h' : Accepts rules lines (next a) b) :
    Accepts rules lines (flow >>= next) b := by
  have hboth := h.bind h'
  rwa [Nat.zero_add] at hboth

/-- A step that reads no line comes last. -/
theorem thenQuiet (h : Accepts rules lines flow a) (h' : Accepts rules 0 (next a) b) :
    Accepts rules lines (flow >>= next) b := h.bind h'

theorem lift {value : Except Failure α} (h : value = .ok a) :
    Accepts rules 0 (liftM value : Flow α) a := by
  intro session rest hrules hinput
  exact ⟨session.events, runs_lift.mpr ⟨h.symm, by rw [← show session.input = rest from hinput]⟩⟩

theorem emit (event : Event) : Accepts rules 0 (Flow.emit event) ⟨⟩ := by
  intro session rest hrules hinput
  exact ⟨_, runs_modify.mpr ⟨rfl, by rw [← show session.input = rest from hinput]⟩⟩

theorem log (level : LogLevel) (text : String) : Accepts rules 0 (Flow.log level text) ⟨⟩ := by
  intro session rest hrules hinput
  obtain ⟨events, hlog⟩ := runs_log level text session
  exact ⟨events, by rwa [show rest = session.input from hinput.symm]⟩

theorem command {words : List String} {code : Int} {output errors : String}
    (h : CommitStyle.Outcome.ofRules rules words = .exited code output errors) :
    Accepts rules 0 (Flow.command words) (code, output, errors) := by
  intro session rest hrules hinput
  refine ⟨session.events ++ [.command words], ?_⟩
  refine runs_modifyThen.mpr (runs_getThen.mpr ?_)
  dsimp only
  rw [hrules, h]
  exact runs_pure.mpr ⟨rfl, by rw [← show session.input = rest from hinput]⟩

theorem tryCatch {handler : Failure → Flow α} (h : Accepts rules lines flow a) :
    Accepts rules lines (tryCatch flow handler) a := by
  intro session rest hrules hinput
  obtain ⟨events, hrun⟩ := h session rest hrules hinput
  exact ⟨events, runs_tryCatch.mpr (.inl ⟨a, hrun, rfl⟩)⟩

theorem forM {items : List α} {body : α → Flow PUnit}
    (h : ∀ item ∈ items, Accepts rules 0 (body item) ⟨⟩) :
    Accepts rules 0 (items.forM body) ⟨⟩ := by
  induction items with
  | nil => exact .pure _
  | cons item rest ih =>
    exact (h item List.mem_cons_self).after (ih fun other hmem => h other (List.mem_cons_of_mem _ hmem))

end Accepts

end Flow

namespace Dialog

variable {α β : Type} {rules : List CommandRule}

/-- An empty line is read and settled. -/
theorem accepts_askUntil {question : String} {secret : Bool} {settle : String → Flow (Option α)}
    {a : α} (h : Accepts rules 0 (settle "") (some a)) :
    Accepts rules 1 (askUntil question secret settle) a := by
  intro session rest hrules hinput
  obtain ⟨events, hsettle⟩ := h (asked question secret rest session) rest hrules rfl
  refine ⟨events, runs_getThen.mpr ?_⟩
  rw [show session.input = some "" :: rest from hinput]
  exact runs_askLines_some.mpr (.inl ⟨a, hsettle, rfl⟩)

/-- A question that is asked without fault takes one line. -/
theorem accepts_question {secret : Bool} {message : String} (h : '[' ∉ message.toList)
    {answers : String} {default : Option String} {settle : String → Flow (Option α)} {a : α}
    (hsettle : Accepts rules 0 (settle "") (some a)) :
    Accepts rules 1 ((liftM (prompt message answers default) : Flow String) >>= fun question =>
      askUntil question secret settle) a := by
  obtain ⟨question, hquestion⟩ := prompt_untagged h answers default
  exact (Accepts.lift hquestion).after (accepts_askUntil hsettle)

theorem accepts_confirm {message : String} (h : '[' ∉ message.toList) (default : Bool) :
    Accepts rules 1 (confirm message default) default :=
  accepts_question (by simpa [toString] using h) (.pure _)

/-- The number of a value that is in the list leads to its entry. -/
theorem numberOf_entry {choices : List (String × String)} {value : String}
    (h : value ∈ choices.map Prod.fst) :
    ∃ label, choices[numberOf choices value - 1]? = some (value, label) := by
  obtain ⟨choice, hmem, rfl⟩ := List.mem_map.mp h
  have hsome : (choices.findIdx? fun other => other.1 == choice.1).isSome = true := by
    rw [List.findIdx?_isSome]
    exact List.any_eq_true.mpr ⟨choice, hmem, beq_self_eq_true _⟩
  obtain ⟨index, hindex⟩ := Option.isSome_iff_exists.mp hsome
  obtain ⟨hlt, hfound, -⟩ := List.findIdx?_eq_some_iff_getElem.mp hindex
  refine ⟨choices[index].2, ?_⟩
  rw [numberOf, hindex]
  simp only [Option.getD_some, Nat.add_sub_cancel, List.getElem?_eq_getElem hlt]
  rw [← beq_iff_eq.mp hfound]

theorem accepts_choose {message : String} {choices : List (String × String)} {value : String}
    (hmessage : '[' ∉ message.toList) (hchoices : IsPlainList choices)
    (h : value ∈ choices.map Prod.fst) :
    Accepts rules 1 (choose message choices (some value)) value := by
  obtain ⟨label, hentry⟩ := numberOf_entry h
  rw [choose_listed hmessage hchoices]
  refine .after (.emit _) (.after (.forM fun _ _ => .emit _) ?_)
  have hmessage : '[' ∉ "Choose".toList := by decide
  obtain ⟨question, hquestion⟩ :=
    prompt_untagged hmessage "" (some (toString (numberOf choices value)))
  refine .after (.lift hquestion) ?_
  refine .thenQuiet (accepts_askUntil (.pure _)) ?_
  simp only [Option.map_some, Option.getD_some, hentry]
  exact .pure _

/-- An answer without fault stands. -/
theorem accepts_settleBy {judge : Judge α β} {answer : α} {made : β}
    (h : Accepts rules 0 (judge answer) (.ok made)) :
    Accepts rules 0 (settleBy judge answer) (some made) :=
  .after h (.pure _)

theorem accepts_refusing {fault? : α → Option String} {answer : α} (h : fault? answer = none) :
    Accepts rules 0 (refusing fault? answer) (.ok answer) := by
  have hpure : refusing fault? answer = pure (.ok answer) := by rw [refusing, h]
  rw [hpure]
  exact .pure _

/-- A text is offered as it is, without the white space around it. -/
theorem accepts_askText {message : String} (hmessage : '[' ∉ message.toList)
    {judge : Judge String β} {text : String} {made : β}
    (h : Accepts rules 0 (judge (Text.strip text)) (.ok made)) :
    Accepts rules 1 (askText message judge (some (.str (.whole text)))) made := by
  refine accepts_question hmessage ?_
  refine .after (a := Text.strip text) ?_ (accepts_settleBy h)
  show Accepts rules 0 (defaultText (.str (.whole text))) _
  unfold defaultText
  split
  · rename_i hempty
    have htext : text = "" := by simpa [Json.isTruthy, JsonText.isEmpty] using hempty
    rw [htext]
    exact .pure _
  · exact .pure _

theorem accepts_askWhole {message : String} (hmessage : '[' ∉ message.toList)
    {judge : Judge Int β} {value : Int} {made : β}
    (h : Accepts rules 0 (judge value) (.ok made)) :
    Accepts rules 1 (askWhole message judge (some value)) made :=
  accepts_question hmessage (accepts_settleBy h)

end Dialog

end CommitStyle
