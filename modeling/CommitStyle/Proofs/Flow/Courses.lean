import CommitStyle.Npm
import CommitStyle.Proofs.Session.Talking

/-! Courses of commands. A course lists commands in their order, each with the outcomes
after which the course goes on. What has been run follows a course when it
is a beginning of it and every command but the last one let the course go on: so
where a command stands, all that stands before it in the course has passed. -/

namespace CommitStyle

/-- The command runs to its end and exits with the code. -/
def Exits (rules : List CommandRule) (words : List String) (code : Int) : Prop :=
  ∃ output errors, Outcome.ofRules rules words = .exited code output errors

/-- The command succeeds, and this is what it writes. -/
def Answers (rules : List CommandRule) (words : List String) (output : String) : Prop :=
  ∃ errors, Outcome.ofRules rules words = .exited 0 output errors

theorem Answers.exits {rules : List CommandRule} {words : List String} {output : String}
    (h : Answers rules words output) : Exits rules words 0 :=
  ⟨output, h⟩

theorem Answers.unique {rules : List CommandRule} {words : List String} {output other : String}
    (h : Answers rules words output) (h' : Answers rules words other) : output = other := by
  obtain ⟨_, he⟩ := h
  obtain ⟨_, he'⟩ := h'
  exact (Outcome.exited.inj (he.symm.trans he')).2.1

namespace Flow

/-- A command of a course, and after which outcomes the course goes on. -/
structure Step where
  words : List String
  goesOn : Outcome → Prop

/-- A command that has to succeed. -/
def Step.must (words : List String) : Step :=
  ⟨words, fun outcome => ∃ output errors, outcome = .exited 0 output errors⟩

/-- A command that has to fail. -/
def Step.mustNot (words : List String) : Step :=
  ⟨words, fun outcome => ∃ code output errors, outcome = .exited code output errors ∧ code ≠ 0⟩

/-- A command after which the course goes on in any case. -/
def Step.anyway (words : List String) : Step := ⟨words, fun _ => True⟩

def Step.Passed (rules : List CommandRule) (step : Step) : Prop :=
  step.goesOn (Outcome.ofRules rules step.words)

variable {rules : List CommandRule} {course later : List Step} {ran more : List (List String)}

/-- All commands of the course were run, and let it go on. -/
structure Completes (rules : List CommandRule) (course : List Step) (ran : List (List String)) :
    Prop where
  ran_eq : ran = course.map Step.words
  passed : ∀ step ∈ course, step.Passed rules

/-- The commands are those of the course up to the place where it stopped. -/
def Follows (rules : List CommandRule) (course : List Step) (ran : List (List String)) : Prop :=
  ∃ done, done <+: course ∧ ran = done.map Step.words ∧ ∀ step ∈ done.dropLast, step.Passed rules

theorem Completes.append (h : Completes rules course ran) (h' : Completes rules later more) :
    Completes rules (course ++ later) (ran ++ more) := by
  refine ⟨by rw [h.ran_eq, h'.ran_eq, List.map_append], fun step hstep => ?_⟩
  rcases List.mem_append.mp hstep with hs | hs
  · exact h.passed step hs
  · exact h'.passed step hs

theorem Follows.nil : Follows rules course [] := ⟨[], List.nil_prefix, rfl, by simp⟩

theorem Completes.follows (h : Completes rules course ran) : Follows rules course ran :=
  ⟨course, List.prefix_rfl, h.ran_eq, fun step hs => h.passed step (List.dropLast_subset _ hs)⟩

/-- What was run so far may be the whole of it. -/
theorem Follows.extend (h : Follows rules course ran) : Follows rules (course ++ later) ran := by
  obtain ⟨done, hdone, hran, hpassed⟩ := h
  exact ⟨done, hdone.trans (List.prefix_append _ _), hran, hpassed⟩

theorem Completes.thenFollows (h : Completes rules course ran) (h' : Follows rules later more) :
    Follows rules (course ++ later) (ran ++ more) := by
  obtain ⟨done, hdone, hran, hpassed⟩ := h'
  refine ⟨course ++ done, List.prefix_append_right_inj course |>.mpr hdone, ?_, ?_⟩
  · rw [h.ran_eq, hran, List.map_append]
  · intro step hs
    cases done with
    | nil =>
      rw [List.append_nil] at hs
      exact h.passed step (List.dropLast_subset _ hs)
    | cons first rest =>
      rw [List.dropLast_append_of_ne_nil (by simp)] at hs
      rcases List.mem_append.mp hs with hs | hs
      · exact h.passed step hs
      · exact hpassed step hs

/-- A single command follows its step, however it ends. -/
theorem Follows.single (step : Step) : Follows rules [step] [step.words] :=
  ⟨[step], List.prefix_rfl, rfl, by simp⟩

theorem Completes.single {step : Step} (h : step.Passed rules) :
    Completes rules [step] [step.words] :=
  ⟨rfl, by simpa using h⟩

theorem Completes.anyway (ran : List (List String)) :
    Completes rules (ran.map Step.anyway) ran := by
  refine ⟨by simp [Function.comp_def, Step.anyway], fun step hstep => ?_⟩
  obtain ⟨words, -, rfl⟩ := List.mem_map.mp hstep
  trivial

/-! ## What has passed -/

theorem Follows.mem (h : Follows rules course ran) {words : List String} (hw : words ∈ ran) :
    ∃ step ∈ course, words = step.words := by
  obtain ⟨done, hdone, rfl, -⟩ := h
  obtain ⟨step, hstep, rfl⟩ := List.mem_map.mp hw
  exact ⟨step, hdone.subset hstep, rfl⟩

/-- What was run is a beginning of the course. -/
theorem Follows.begins (h : Follows rules course ran) : ran <+: course.map Step.words := by
  obtain ⟨done, hdone, rfl, -⟩ := h
  exact hdone.map Step.words

/-- The place in the course of a command that was run. -/
theorem Follows.place {before after : List (List String)} {words : List String}
    (h : Follows rules course (before ++ words :: after)) :
    ∃ earlier step others, before = earlier.map Step.words ∧ words = step.words ∧
      after = others.map Step.words ∧ earlier ++ step :: others <+: course ∧
      ∀ step' ∈ (earlier ++ step :: others).dropLast, step'.Passed rules := by
  obtain ⟨done, hdone, hran, hpassed⟩ := h
  obtain ⟨earlier, rest, rfl, hbefore, hrest⟩ := List.map_eq_append_iff.mp hran.symm
  obtain ⟨step, others, rfl, hwords, hafter⟩ := List.map_eq_cons_iff.mp hrest
  exact ⟨earlier, step, others, hbefore.symm, hwords.symm, hafter.symm, hdone, hpassed⟩

/-- Every command but the last one has passed. -/
theorem Follows.passed {before after : List (List String)} {words : List String}
    (h : Follows rules course (before ++ words :: after)) (hafter : after ≠ []) :
    ∃ step ∈ course, words = step.words ∧ step.Passed rules := by
  obtain ⟨earlier, step, others, -, hwords, rfl, hbegins, hpassed⟩ := h.place
  have hothers : others ≠ [] := by
    rintro rfl
    exact hafter rfl
  refine ⟨step, hbegins.subset (by simp), hwords, hpassed step ?_⟩
  rw [List.dropLast_append_of_ne_nil (by simp), List.dropLast_cons_of_ne_nil hothers]
  simp

/-- A command of the later part comes after the whole earlier part, all of which has passed. -/
theorem Follows.earlier {before after : List (List String)} {words : List String}
    (h : Follows rules (course ++ later) (before ++ words :: after))
    (hnew : words ∉ course.map Step.words) {step : Step} (hstep : step ∈ course) :
    step.words ∈ before ∧ step.Passed rules := by
  obtain ⟨earlier, last, others, rfl, rfl, -, hbegins, hpassed⟩ := h.place
  have hcourse : course <+: course ++ later := List.prefix_append _ _
  have hlength : course.length ≤ earlier.length := by
    by_contra hlt
    have hshort : earlier ++ [last] <+: course := by
      refine List.prefix_of_prefix_length_le ?_ hcourse (by simp; omega)
      exact List.IsPrefix.trans ⟨others, by simp⟩ hbegins
    exact hnew (List.mem_map_of_mem (hshort.subset (by simp)))
  have hearlier : course <+: earlier :=
    List.prefix_of_prefix_length_le hcourse ((List.prefix_append _ _).trans hbegins) hlength
  have hmem := hearlier.subset hstep
  refine ⟨List.mem_map_of_mem hmem, hpassed step ?_⟩
  rw [List.dropLast_append_of_ne_nil (by simp)]
  exact List.mem_append_left _ hmem

/-- A command that is none of the earlier part belongs to the later one. -/
theorem Follows.mem_later {before after : List (List String)} {words : List String}
    (h : Follows rules (course ++ later) (before ++ words :: after))
    (hnew : words ∉ course.map Step.words) : ∃ step ∈ later, words = step.words := by
  obtain ⟨step, hstep, rfl⟩ := h.mem (List.mem_append_right before List.mem_cons_self)
  rcases List.mem_append.mp hstep with hstep | hstep
  · exact absurd (List.mem_map_of_mem hstep) hnew
  · exact ⟨step, hstep, rfl⟩

/-! ## Commands of flows -/

/-- The command is run, and has an answer where the flow goes on. -/
def Issues (rules : List CommandRule) (words : List String) (deeds : List Event)
    (result : Except Failure String) : Prop :=
  deeds = [.command words] ∧ ∀ output, result = .ok output → Answers rules words output

theorem does_run (words : List String) (action : String) :
    Does rules (Git.run words action) (Issues rules words) := by
  refine .afterNotice (.log _ _) (.log _ _) fun _ => .bind (.command words) ?_ ?_
  · rintro ⟨code, output, errors⟩ deeds ⟨rfl, hexited⟩
    dsimp only
    split
    · rename_i hcode
      refine .pure ⟨by simp, fun text htext => ?_⟩
      cases htext
      exact ⟨errors, beq_iff_eq.mp hcode ▸ hexited _ _ _ rfl⟩
    · exact .throw ⟨by simp, by simp⟩
  · rintro failure deeds ⟨rfl, -⟩
    exact ⟨rfl, by simp⟩

/-- A command that has to succeed is run, and the flow goes on along the rest of the course. -/
theorem does_must {α β : Type} {flow : Flow α} {next : α → Flow β} {words : List String}
    (h : Does rules flow fun deeds result => deeds = [.command words] ∧
      ∀ a, result = .ok a → Exits rules words 0)
    (hnext : ∀ a, Does rules (next a) fun more _ => Follows rules later (commandsOf more)) :
    Does rules (flow >>= next) fun deeds _ =>
      Follows rules (.must words :: later) (commandsOf deeds) := by
  refine .bind h (fun a deeds hdeeds => ?_) ?_
  · obtain ⟨rfl, hexits⟩ := hdeeds
    have hmust : Completes rules [.must words] [words] := .single (hexits a rfl)
    exact (hnext a).mono fun more _ hmore => hmust.thenFollows hmore
  · rintro failure deeds ⟨rfl, -⟩
    have hmust : Follows rules [.must words] [words] := .single _
    exact hmust.extend

/-- A command that has to fail is run, and the flow goes on along the rest of the course where it
failed. -/
theorem does_mustNot {β : Type} {next : Int × String × String → Flow β} (words : List String)
    (hstops : ∀ output errors, OnlyTalks (next (0, output, errors)))
    (hnext : ∀ code output errors, code ≠ 0 →
      Does rules (next (code, output, errors)) fun more _ =>
        Follows rules later (commandsOf more)) :
    Does rules (Flow.command words >>= next) fun deeds _ =>
      Follows rules (.mustNot words :: later) (commandsOf deeds) := by
  have hran : Follows rules (.mustNot words :: later) [words] :=
    Follows.extend (.single (.mustNot words))
  refine .bind (.command words) ?_ ?_
  · rintro ⟨code, output, errors⟩ deeds ⟨rfl, hexited⟩
    by_cases hcode : code = 0
    · rw [hcode]
      exact .talk (hstops output errors) fun _ => hran
    · have hpassed : Completes rules [.mustNot words] [words] :=
        .single ⟨code, output, errors, hexited _ _ _ rfl, hcode⟩
      exact (hnext code output errors hcode).mono fun more _ hmore => hpassed.thenFollows hmore
  · rintro failure deeds ⟨rfl, -⟩
    exact hran

theorem does_runThen {β : Type} {next : String → Flow β} (words : List String) (action : String)
    (hnext : ∀ output, Does rules (next output) fun more _ =>
      Follows rules later (commandsOf more)) :
    Does rules (Git.run words action >>= next) fun deeds _ =>
      Follows rules (.must words :: later) (commandsOf deeds) := by
  refine does_must ((does_run words action).mono fun deeds result hissues => ?_) hnext
  exact ⟨hissues.1, fun output houtput => (hissues.2 output houtput).exits⟩

/-- Talk is no part of a course. -/
theorem does_afterTalk {α β : Type} {flow : Flow α} {next : α → Flow β} (h : OnlyTalks flow)
    (hnext : ∀ a, Does rules (next a) fun more _ => Follows rules later (commandsOf more)) :
    Does rules (flow >>= next) fun deeds _ => Follows rules later (commandsOf deeds) :=
  .afterAnyTalk h hnext fun _ => .nil

end Flow

namespace Git

/-! ## The words of commands -/

def headWords : List String := ["git", "rev-parse", "--abbrev-ref", "HEAD"]

def stageWords : List String := ["git", "add", "-A"]

def statsWords : List String := ["git", "diff", "--cached", "--stat"]

def diffWords : List String :=
  ["git", "diff", "--cached", "--no-color", "--unified=1", "--", "."] ++ diffExcludes

def checkWords : List String := ["git", "diff", "--cached", "--quiet"]

/-- A description that is empty is left out. -/
def commitWords (title description : String) : List String :=
  ["git", "commit", "-m", title] ++ if description.isEmpty then [] else ["-m", description]

def pushWords (branch : String) : List String := ["git", "push", "-u", "origin", branch]

def statusWords : List String := ["git", "status"]

end Git

end CommitStyle
