import CommitStyle.Config.Store
import CommitStyle.Proofs.Files
import CommitStyle.Proofs.Json.Ascii
import CommitStyle.Proofs.Session.Running

/-! Settings that were saved are loaded again. A setting that is left out when it is empty is
read as the empty one; the others are always written, each under a name of its own,
and none of them is a value that reading replaces by a default. -/

namespace CommitStyle

/-! ## Settings that can be stored -/

/-- A text that is not empty. -/
def Json.IsWord (value : Json) : Prop := ∃ text, text ≠ "" ∧ value = .str (.whole text)

/-- A number of no more digits than may be read. -/
def FitsDigits (n : Int) : Prop := n.natAbs < 10 ^ Number.digitLimit

/-- A choice with a name and some description. -/
def Choice.Storable (choice : Choice) : Prop :=
  (∃ name, name ≠ "" ∧ choice.name = .whole name) ∧ ∃ note, choice.note = .whole note

structure AiSettings.Storable (ai : AiSettings) : Prop where
  provider : ai.provider ∈ providerModels.map Prod.fst
  model : ai.model.IsWord
  envPath : ∃ text, ai.envPath = .str (.whole text)
  envKeyName : ai.envKeyName = .null ∨ ai.envKeyName.IsWord
  threshold : FitsDigits ai.largeDiffTokenThreshold

structure Config.Storable (config : Config) : Prop where
  customFormat : config.customFormat = .null ∨ config.customFormat.IsWord
  customBranchFormat : config.customBranchFormat = .null ∨ config.customBranchFormat.IsWord
  types_ne_nil : config.types ≠ []
  types : ∀ choice ∈ config.types, choice.Storable
  scopes : ∀ choice ∈ config.scopes, choice.Storable
  minLength : FitsDigits config.minLength
  maxLength : FitsDigits config.maxLength
  changeVersion : config.changeVersion ∈ changeVersionModes
  releaseBranch : config.releaseBranch.IsWord
  ai : config.ai.Storable

theorem FitsDigits.of_natAbs_lt {n : Int} {width : Nat} (h : n.natAbs < 10 ^ width)
    (hwidth : width ≤ Number.digitLimit) : FitsDigits n :=
  h.trans_le (Nat.pow_le_pow_right (by decide) hwidth)

theorem Choice.storable_of_words {name note : String} (h : name ≠ "") :
    Choice.Storable ⟨name, note⟩ := ⟨⟨name, h, rfl⟩, note, rfl⟩

theorem storable_defaultTypes : ∀ choice ∈ defaultTypes, choice.Storable := by
  simp only [defaultTypes, List.forall_mem_cons]
  exact ⟨Choice.storable_of_words (by decide), Choice.storable_of_words (by decide),
    Choice.storable_of_words (by decide), Choice.storable_of_words (by decide),
    Choice.storable_of_words (by decide), Choice.storable_of_words (by decide), by simp⟩

/-- The settings that stand in for absent ones can themselves be stored. -/
theorem AiSettings.storable_default : AiSettings.Storable {} where
  provider := by simp [providerModels]
  model := ⟨_, by decide, rfl⟩
  envPath := ⟨_, rfl⟩
  envKeyName := .inl rfl
  threshold := .of_natAbs_lt (by decide : (20000 : Int).natAbs < 10 ^ 5) (by decide)

theorem Config.storable_default : Config.Storable {} where
  customFormat := .inl rfl
  customBranchFormat := .inl rfl
  types_ne_nil := List.cons_ne_nil _ _
  types := storable_defaultTypes
  scopes := by simp
  minLength := .of_natAbs_lt (by decide : (8 : Int).natAbs < 10 ^ 2) (by decide)
  maxLength := .of_natAbs_lt (by decide : (80 : Int).natAbs < 10 ^ 2) (by decide)
  changeVersion := by simp [changeVersionModes]
  releaseBranch := ⟨_, by decide, rfl⟩
  ai := AiSettings.storable_default

/-! ## Members -/

namespace Json

theorem getD_of_mem {members : List (JsonText × Json)} (hkeys : (Entries.keys members).Nodup)
    {name : String} {value : Json} (h : (.whole name, value) ∈ members) (fallback : Json) :
    (Json.obj members).getD name fallback = value := by
  rw [getD, get?, Entries.get?_of_mem hkeys h]
  rfl

theorem getD_of_absent {members : List (JsonText × Json)} {name : String}
    (h : .whole name ∉ Entries.keys members) (fallback : Json) :
    (Json.obj members).getD name fallback = fallback := by
  rw [getD, get?, Entries.get?_eq_none h]
  rfl

end Json

/-- Settings as they are written: the ones that always are, and those that may be left out. -/
def writtenSettings (always : List (JsonText × Json)) (optional : List (String × Json)) :
    List (JsonText × Json) :=
  always ++ optional.flatMap fun setting => optionalMember setting.1 setting.2

/-- The names of all the settings, whether they are left out or not. -/
def settingNames (always : List (JsonText × Json)) (optional : List (String × Json)) :
    List JsonText :=
  Entries.keys always ++ optional.map fun setting => .whole setting.1

section Settings

variable {always : List (JsonText × Json)} {optional : List (String × Json)}
  (hnames : (settingNames always optional).Nodup)
  {name : String} {value : Json}

omit hnames in
theorem mem_optionalMember {member : JsonText × Json} :
    member ∈ optionalMember name value ↔ value.isTruthy = true ∧ member = (.whole name, value) := by
  unfold optionalMember
  split <;> simp_all

omit hnames in
theorem keys_optional_sublist (optional : List (String × Json)) :
    (Entries.keys (optional.flatMap fun setting => optionalMember setting.1 setting.2)).Sublist
      (optional.map fun setting => JsonText.whole setting.1) := by
  induction optional with
  | nil => exact .refl _
  | cons setting rest ih =>
    rw [List.flatMap_cons, Entries.keys, List.map_append]
    refine List.Sublist.append (?_ : List.Sublist _ [JsonText.whole setting.1]) ih
    unfold optionalMember
    split
    · exact .refl _
    · exact List.nil_sublist _

include hnames

theorem nodup_writtenSettings : (Entries.keys (writtenSettings always optional)).Nodup := by
  refine List.Sublist.nodup ?_ hnames
  rw [writtenSettings, Entries.keys, List.map_append]
  exact (List.Sublist.refl _).append (keys_optional_sublist optional)

/-- A setting that is always written is found. -/
theorem getD_always : ∀ setting ∈ always, ∀ name, setting.1 = .whole name → ∀ fallback,
    (Json.obj (writtenSettings always optional)).getD name fallback = setting.2 := by
  rintro ⟨_, value⟩ hmem name rfl fallback
  exact Json.getD_of_mem (nodup_writtenSettings hnames) (List.mem_append_left _ hmem) fallback

/-- A setting that may be left out is found unless it is empty. -/
theorem getD_optional : ∀ setting ∈ optional, ∀ fallback,
    (Json.obj (writtenSettings always optional)).getD setting.1 fallback =
      if setting.2.isTruthy then setting.2 else fallback := by
  rintro ⟨name, value⟩ h fallback
  obtain ⟨-, hoptional, hapart⟩ := List.nodup_append.mp hnames
  have hname : .whole name ∈ optional.map fun setting => JsonText.whole setting.1 :=
    List.mem_map_of_mem h
  split
  · refine Json.getD_of_mem (nodup_writtenSettings hnames) (List.mem_append_right _ ?_) fallback
    exact List.mem_flatMap.mpr ⟨_, h, mem_optionalMember.mpr ⟨‹_›, rfl⟩⟩
  · rename_i hempty
    refine Json.getD_of_absent ?_ fallback
    rw [writtenSettings, Entries.keys, List.map_append, List.mem_append, not_or]
    refine ⟨fun hmem => hapart _ hmem _ hname rfl, fun hmem => ?_⟩
    obtain ⟨member, hmem, hkey⟩ := List.mem_map.mp hmem
    obtain ⟨setting, hsetting, hmem⟩ := List.mem_flatMap.mp hmem
    obtain ⟨htruthy, rfl⟩ := mem_optionalMember.mp hmem
    have hsame := List.inj_on_of_nodup_map hoptional hsetting h hkey
    rw [hsame] at htruthy
    exact hempty htruthy

end Settings

/-! ## Reading one setting -/

theorem Json.IsWord.isTruthy {value : Json} (h : value.IsWord) : value.isTruthy = true := by
  obtain ⟨text, hne, rfl⟩ := h
  simpa [Json.isTruthy, JsonText.isEmpty] using hne

theorem settingOr_word {value : Json} (h : value.IsWord) (fallback : Json) :
    settingOr value fallback = value := if_pos h.isTruthy

/-- A setting that may be left out is null when it is. -/
theorem optional_eq {value : Json} (h : value = .null ∨ value.IsWord) :
    (if value.isTruthy then value else .null) = value := by
  rcases h with rfl | h
  · rfl
  · exact if_pos h.isTruthy

theorem formatOf_commitCode (key : String) (format : CommitFormat) :
    formatOf CommitFormat.ofCode? key format.code = .ok format := by
  rcases format with ⟨_ | _ | _ | _, _ | _⟩ | _ <;> rfl

theorem formatOf_branchCode (key : String) (format : BranchFormat) :
    formatOf BranchFormat.ofCode? key format.code = .ok format := by
  cases format <;> rfl

theorem changeVersionOf_mode {mode : String} (h : mode ∈ changeVersionModes) :
    changeVersionOf (.str (.whole mode)) = .ok mode := by
  simp only [changeVersionModes, List.mem_cons, List.not_mem_nil, or_false] at h
  rcases h with rfl | rfl | rfl | rfl <;> rfl

theorem Choice.ofJson_toJson {choice : Choice} (h : choice.Storable) :
    Choice.ofJson choice.toJson = .ok choice := by
  obtain ⟨⟨name, hname, heq⟩, note, hnote⟩ := h
  obtain ⟨_, _⟩ := choice
  cases heq
  cases hnote
  have htruthy : (Json.str (.whole name)).isTruthy = true := Json.IsWord.isTruthy ⟨name, hname, rfl⟩
  show (if (Json.str (.whole name)).isTruthy = true then _ else _) = _
  rw [if_pos htruthy]
  rfl

theorem choicesOf_map {choices : List Choice} (hne : choices ≠ [])
    (h : ∀ choice ∈ choices, choice.Storable) (fallback : List Choice) :
    choicesOf (.arr (choices.map Choice.toJson)) fallback = .ok choices := by
  have htruthy : (Json.arr (choices.map Choice.toJson)).isTruthy = true := by
    simpa [Json.isTruthy] using hne
  have hchoices : (choices.map Choice.toJson).mapM Choice.ofJson = .ok choices :=
    Success.mapM_eq_ok.mpr (List.forall₂_map_left_iff.mpr
      (List.forall₂_same.mpr fun choice hmem => Choice.ofJson_toJson (h choice hmem)))
  rw [choicesOf, if_pos htruthy]
  exact hchoices

theorem providerOf_known {provider : String} (h : provider ∈ providerModels.map Prod.fst) :
    ∃ model, providerOf (.str (.whole provider)) = .ok (provider, model) := by
  simp only [providerModels, List.map_cons, List.map_nil, List.mem_cons, List.not_mem_nil,
    or_false] at h
  rcases h with rfl | rfl | rfl <;> exact ⟨_, rfl⟩

theorem AiSettings.toJson_eq (ai : AiSettings) :
    ai.toJson = .obj (writtenSettings ai.members [("envKeyName", ai.envKeyName)]) := by
  simp [AiSettings.toJson, writtenSettings]

theorem AiSettings.nodup_settingNames (ai : AiSettings) :
    (settingNames ai.members [("envKeyName", ai.envKeyName)]).Nodup := by
  simp [settingNames, AiSettings.members, Entries.keys]

theorem AiSettings.ofJson_toJson {ai : AiSettings} (h : ai.Storable) :
    AiSettings.ofJson ai.toJson = .ok ai := by
  have halways := getD_always (nodup_settingNames ai)
  have hoptional := getD_optional (nodup_settingNames ai)
  have hfull : (Json.obj (writtenSettings ai.members [("envKeyName", ai.envKeyName)])).isTruthy =
      true := by
    simp [Json.isTruthy, writtenSettings, AiSettings.members]
  obtain ⟨model, hprovider⟩ := providerOf_known h.provider
  rw [AiSettings.toJson_eq]
  generalize writtenSettings ai.members [("envKeyName", ai.envKeyName)] = settings at *
  simp only [AiSettings.members, List.forall_mem_cons, JsonText.whole.injEq, forall_eq'] at halways
  simp only [List.forall_mem_cons] at hoptional
  rw [AiSettings.ofJson, hfull]
  simp only [Bool.not_true, Bool.false_eq_true, if_false, halways, hoptional, hprovider,
    settingOr_word h.model, optional_eq h.envKeyName]
  rfl

namespace Config

variable {config : Config}

/-- The settings that may be left out. -/
def optional (config : Config) : List (String × Json) :=
  [("customFormat", config.customFormat), ("customBranchFormat", config.customBranchFormat),
    ("scopes", .arr (config.scopes.map Choice.toJson))]

theorem toJson_eq (config : Config) :
    config.toJson = .obj (writtenSettings config.members config.optional) := by
  simp [toJson, writtenSettings, optional]

theorem nodup_settingNames (config : Config) :
    (settingNames config.members config.optional).Nodup := by
  simp [settingNames, members, optional, Entries.keys]

/-- Scopes that were left out are read as none. -/
theorem choicesOf_scopes (h : ∀ choice ∈ config.scopes, choice.Storable) :
    choicesOf (if (Json.arr (config.scopes.map Choice.toJson)).isTruthy then
      .arr (config.scopes.map Choice.toJson) else .null) [] = .ok config.scopes := by
  by_cases hscopes : config.scopes = []
  · rw [hscopes]
    rfl
  · rw [if_pos (by simpa [Json.isTruthy] using hscopes), choicesOf_map hscopes h]

/-- Settings that can be stored are read back from what is written of them. -/
theorem ofJson_toJson (h : config.Storable) : Config.ofJson config.toJson = .ok config := by
  have halways := getD_always (nodup_settingNames config)
  have hoptional := getD_optional (nodup_settingNames config)
  rw [toJson_eq]
  generalize writtenSettings config.members config.optional = settings at *
  simp only [members, List.forall_mem_cons, JsonText.whole.injEq, forall_eq'] at halways
  simp only [optional, List.forall_mem_cons] at hoptional
  rw [Config.ofJson]
  simp only [halways, hoptional, changeVersionOf_mode h.changeVersion, formatOf_commitCode,
    formatOf_branchCode, choicesOf_map h.types_ne_nil h.types, choicesOf_scopes h.scopes,
    AiSettings.ofJson_toJson h.ai, settingOr_word h.releaseBranch, optional_eq h.customFormat,
    optional_eq h.customBranchFormat]
  rfl

end Config

/-! ## What is written is plain -/

theorem plain_word (text : String) : (Json.str (.whole text)).Plain :=
  .str (Json.isProper_whole text)

theorem Json.IsWord.plain {value : Json} (h : value.IsWord) : value.Plain := by
  obtain ⟨text, -, rfl⟩ := h
  exact plain_word text

theorem plain_optional {value : Json} (h : value = .null ∨ value.IsWord) : value.Plain := by
  rcases h with rfl | h
  · exact .null
  · exact h.plain

theorem plain_digit {n : Int} (h : n.natAbs < 10) : (Json.int n).Plain :=
  .int (h.trans_le (Nat.le_self_pow (by decide) 10))

theorem plain_commitCode (format : CommitFormat) : format.code.Plain := by
  rcases format with ⟨_ | _ | _ | _, _ | _⟩ | _
  all_goals first
    | exact plain_digit (by decide)
    | exact plain_word _

theorem plain_branchCode (format : BranchFormat) : format.code.Plain := by
  cases format
  · exact plain_digit (by decide)
  · exact plain_digit (by decide)
  · exact plain_word _

/-- A choice with texts that are written without loss. -/
structure Choice.IsPlain (choice : Choice) : Prop where
  name : Json.IsProper choice.name
  note : Json.IsProper choice.note

theorem Choice.IsPlain.toJson {choice : Choice} (h : choice.IsPlain) : choice.toJson.Plain := by
  refine .obj (by simp [Entries.keys]) (by simp [Json.isProper_whole]) ?_
  simp only [List.forall_mem_cons]
  exact ⟨.str h.name, .str h.note, by simp⟩

theorem Choice.Storable.isPlain {choice : Choice} (h : choice.Storable) : choice.IsPlain := by
  obtain ⟨⟨name, -, hname⟩, note, hnote⟩ := h
  exact ⟨hname ▸ Json.isProper_whole name, hnote ▸ Json.isProper_whole note⟩

theorem plain_choices {choices : List Choice} (h : ∀ choice ∈ choices, choice.IsPlain) :
    (Json.arr (choices.map Choice.toJson)).Plain := by
  refine .arr fun item hmem => ?_
  obtain ⟨choice, hchoice, rfl⟩ := List.mem_map.mp hmem
  exact (h choice hchoice).toJson

/-- Settings are plain if their names are texts, each its own, and their values are plain. -/
theorem plain_writtenSettings {always : List (JsonText × Json)} {optional : List (String × Json)}
    (hnames : (settingNames always optional).Nodup)
    (halways : ∀ setting ∈ always, (∃ text, setting.1 = .whole text) ∧ setting.2.Plain)
    (hoptional : ∀ setting ∈ optional, setting.2.Plain) :
    (Json.obj (writtenSettings always optional)).Plain := by
  have hall : ∀ setting ∈ writtenSettings always optional,
      Json.IsProper setting.1 ∧ setting.2.Plain := by
    intro setting hmem
    rcases List.mem_append.mp hmem with hmem | hmem
    · obtain ⟨⟨name, hname⟩, hvalue⟩ := halways setting hmem
      exact ⟨hname ▸ Json.isProper_whole name, hvalue⟩
    · obtain ⟨source, hsource, hmem⟩ := List.mem_flatMap.mp hmem
      obtain ⟨-, rfl⟩ := mem_optionalMember.mp hmem
      exact ⟨Json.isProper_whole _, hoptional source hsource⟩
  exact .obj (nodup_writtenSettings hnames) (fun setting hmem => (hall setting hmem).1)
    fun setting hmem => (hall setting hmem).2

/-- Settings for suggestions that are written without loss. -/
structure AiSettings.IsPlain (ai : AiSettings) : Prop where
  model : ai.model.Plain
  envPath : ai.envPath.Plain
  envKeyName : ai.envKeyName.Plain
  threshold : FitsDigits ai.largeDiffTokenThreshold

theorem AiSettings.IsPlain.toJson {ai : AiSettings} (h : ai.IsPlain) : ai.toJson.Plain := by
  rw [AiSettings.toJson_eq]
  refine plain_writtenSettings (nodup_settingNames ai) ?_ ?_
  · simp only [AiSettings.members, List.forall_mem_cons]
    exact ⟨⟨⟨_, rfl⟩, .bool _⟩, ⟨⟨_, rfl⟩, plain_word _⟩, ⟨⟨_, rfl⟩, h.model⟩,
      ⟨⟨_, rfl⟩, h.envPath⟩, ⟨⟨_, rfl⟩, .int h.threshold⟩, by simp⟩
  · simpa using h.envKeyName

theorem AiSettings.Storable.isPlain {ai : AiSettings} (h : ai.Storable) : ai.IsPlain where
  model := h.model.plain
  envPath := by
    obtain ⟨path, hpath⟩ := h.envPath
    exact hpath ▸ plain_word path
  envKeyName := plain_optional h.envKeyName
  threshold := h.threshold

/-- Settings that are written without loss. -/
structure Config.IsPlain (config : Config) : Prop where
  customFormat : config.customFormat.Plain
  customBranchFormat : config.customBranchFormat.Plain
  types : ∀ choice ∈ config.types, choice.IsPlain
  scopes : ∀ choice ∈ config.scopes, choice.IsPlain
  minLength : FitsDigits config.minLength
  maxLength : FitsDigits config.maxLength
  releaseBranch : config.releaseBranch.Plain
  ai : config.ai.IsPlain

theorem Config.IsPlain.toJson {config : Config} (h : config.IsPlain) : config.toJson.Plain := by
  rw [Config.toJson_eq]
  refine plain_writtenSettings (Config.nodup_settingNames config) ?_ ?_
  · simp only [Config.members, List.forall_mem_cons]
    exact ⟨⟨⟨_, rfl⟩, plain_commitCode _⟩, ⟨⟨_, rfl⟩, plain_branchCode _⟩,
      ⟨⟨_, rfl⟩, plain_choices h.types⟩, ⟨⟨_, rfl⟩, .int h.minLength⟩,
      ⟨⟨_, rfl⟩, .int h.maxLength⟩, ⟨⟨_, rfl⟩, plain_word _⟩, ⟨⟨_, rfl⟩, h.releaseBranch⟩,
      ⟨⟨_, rfl⟩, .bool _⟩, ⟨⟨_, rfl⟩, .bool _⟩, ⟨⟨_, rfl⟩, h.ai.toJson⟩, by simp⟩
  · simp only [Config.optional, List.forall_mem_cons]
    exact ⟨h.customFormat, h.customBranchFormat, plain_choices h.scopes, by simp⟩

theorem Config.Storable.isPlain {config : Config} (h : config.Storable) : config.IsPlain where
  customFormat := plain_optional h.customFormat
  customBranchFormat := plain_optional h.customBranchFormat
  types choice hmem := (h.types choice hmem).isPlain
  scopes choice hmem := (h.scopes choice hmem).isPlain
  minLength := h.minLength
  maxLength := h.maxLength
  releaseBranch := h.releaseBranch.plain
  ai := h.ai.isPlain

/-! ## Saving and loading -/

namespace Config

open CommitStyle.Flow

variable {config : Config}

theorem ofText_fileText (h : config.IsPlain) (path : String) :
    ofText path (String.ofList (Text.unifyLineEnds config.fileText.toList)) =
      .ok config.toJson := by
  rw [ofText, fileText, Json.read_pretty_line h.toJson]

/-- What is in the files after saving. -/
theorem files_of_save {path : String} {session saved : Session}
    (h : Runs (config.save path) session (.ok ()) saved) :
    session.files.write path config.fileText = .ok saved.files := by
  rcases runs_bind.mp h with ⟨⟨⟩, middle, hwrite, hlog⟩ | ⟨failure, -, heq⟩
  · obtain ⟨written, hwritten, rfl⟩ := runs_writeText.mp hwrite
    rw [hwritten, (OnlyTalks.log .debug _ _ _ _ hlog).files]
  · cases heq

theorem save_exists {path : String} {session : Session} (h : session.files.IsWritable path) :
    ∃ saved, Runs (config.save path) session (.ok ()) saved := by
  obtain ⟨written, hwritten⟩ := h.write config.fileText
  obtain ⟨events, hlog⟩ := runs_log .debug s!"Saved configuration to {path}"
    { session with files := written }
  exact ⟨_, (runs_writeText.mpr ⟨written, hwritten, rfl⟩).andThen hlog⟩

theorem read_of_readText {files : Files} {path text : String}
    (h : readText files path = .ok text) : files.read path = .ok text := by
  unfold readText at h
  split at h
  · cases h
  · exact h

/-- Loading reads the settings that the text at the path gives. -/
theorem runs_load {path : String} {session after : Session}
    (h : Runs (load path) session (.ok config) after) :
    ∃ text data, readText session.files path = .ok text ∧ ofText path text = .ok data ∧
      Config.ofJson data = .ok config := by
  obtain ⟨text, htext, h⟩ := runs_liftThen (runs_getThen.mp h)
  obtain ⟨data, hdata, h⟩ := runs_liftThen h
  obtain ⟨_, _, -, hlast⟩ := runs_bind_ok h
  exact ⟨text, data, htext, hdata, (runs_lift.mp hlast).1.symm⟩

theorem load_exists {path text : String} {data : Json} {session : Session}
    (htext : readText session.files path = .ok text) (hdata : ofText path text = .ok data)
    (hconfig : Config.ofJson data = .ok config) :
    ∃ events, Runs (load path) session (.ok config) { session with events } := by
  obtain ⟨events, hlog⟩ := runs_log .debug s!"Loaded configuration from {path}" session
  refine ⟨events, runs_getThen.mpr ?_⟩
  refine (runs_lift.mpr ⟨htext.symm, rfl⟩).andThen ?_
  refine (runs_lift.mpr ⟨hdata.symm, rfl⟩).andThen ?_
  exact hlog.andThen (runs_lift.mpr ⟨hconfig.symm, rfl⟩)

/-- A file that holds the text of a configuration is loaded as what its value is read as. -/
theorem load_fileText (h : config.IsPlain) {found : Config}
    (hfound : Config.ofJson config.toJson = .ok found) {path : String} {session : Session}
    (hfile : session.files.read path =
      .ok (String.ofList (Text.unifyLineEnds config.fileText.toList))) :
    ∃ events, Runs (load path) session (.ok found) { session with events } :=
  load_exists (by rw [readText, hfile]) (ofText_fileText h path) hfound

/-- Settings that can be stored are read back from the value that is written of them. A path
that can be written to takes them, and whenever they were saved, any later session with the
same files loads them from there. -/
theorem load_save (h : config.Storable) :
    Config.ofJson config.toJson = .ok config ∧
    ∀ path session,
      (session.files.IsWritable path → ∃ saved, Runs (config.save path) session (.ok ()) saved) ∧
      ∀ saved, Runs (config.save path) session (.ok ()) saved →
        ∀ later : Session, later.files = saved.files →
          ∃ after, Runs (load path) later (.ok config) after := by
  refine ⟨ofJson_toJson h, fun path session => ⟨save_exists, fun saved hsave later hfiles => ?_⟩⟩
  have hread := Files.read_written (files_of_save hsave)
  obtain ⟨events, hload⟩ := load_fileText h.isPlain (ofJson_toJson h) (hfiles ▸ hread)
  exact ⟨_, hload⟩

/-- Settings with texts that need escapes, past the first plane too, and a number below zero. -/
def escapedConfig : Config :=
  { customFormat := .str "\"é\"\n😀", scopes := [⟨"ui", "\t\\"⟩], minLength := -3 }

theorem load_save_escapes :
    escapedConfig.Storable ∧ Config.ofJson escapedConfig.toJson = .ok escapedConfig ∧
      ∃ saved after, Runs (escapedConfig.save "commit-config.json") {} (.ok ()) saved ∧
        Runs (load "commit-config.json") saved (.ok escapedConfig) after := by
  have hstorable : escapedConfig.Storable :=
    { storable_default with
      customFormat := .inr ⟨_, by decide, rfl⟩
      scopes := by simpa [escapedConfig] using Choice.storable_of_words (by decide)
      minLength := .of_natAbs_lt (by decide : (-3 : Int).natAbs < 10 ^ 1) (by decide) }
  obtain ⟨hjson, hfile⟩ := load_save hstorable
  obtain ⟨hsave, hload⟩ := hfile "commit-config.json" {}
  obtain ⟨saved, hsaved⟩ := hsave ⟨["commit-config.json"], by rfl, by decide⟩
  obtain ⟨after, hloaded⟩ := hload saved hsaved saved rfl
  exact ⟨hstorable, hjson, saved, after, hsaved, hloaded⟩

end Config

end CommitStyle
