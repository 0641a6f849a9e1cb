import CommitStyle.Proofs.Config.RoundTrip
import CommitStyle.Proofs.Json.Plainness

/-! Settings that were loaded can be written again without loss: each of them is a value that
was read, a part of one, or a default. Another branch of releases changes nothing in how the
others are read back. -/

namespace CommitStyle

open CommitStyle.Success

/-! ## Whole numbers -/

theorem Number.spanDigits_lt {pending : Bool} {s rest : List Char} {ds : List Nat}
    (h : Number.spanDigits pending s = some (ds, rest)) : ∀ d ∈ ds, d < 10 := by
  induction s generalizing pending ds rest with
  | nil =>
    rw [spanDigits] at h
    split at h
    · cases h
    · cases h
      simp
  | cons c s ih =>
    rw [spanDigits] at h
    split at h
    · rename_i d hd
      obtain ⟨⟨more, last⟩, hmore, heq⟩ := Option.map_eq_some_iff.mp h
      cases heq
      exact List.forall_mem_cons.mpr ⟨Json.decimalValue?_lt hd, ih hmore⟩
    · split at h
      · split at h
        · cases h
        · exact ih h
      · split at h
        · cases h
        · cases h
          simp

theorem fitsDigits_readWhole {text : String} {n : Int} (h : Number.readWhole text = .ok n) :
    FitsDigits n := by
  unfold Number.readWhole at h
  dsimp only at h
  split at h
  · cases h
  rename_i digits rest hspan
  split at h
  · cases h
  rename_i hshort
  split at h
  · cases h
  cases h
  have hdigits : ∀ d ∈ digits, d < 10 := by
    split at hspan
    · cases hspan
    · exact Number.spanDigits_lt hspan
  have hvalue : Number.ofDigits digits < 10 ^ Number.digitLimit :=
    (Json.ofDigits_lt hdigits).trans_le (Nat.pow_le_pow_right (by decide) (by omega))
  unfold FitsDigits
  split <;> omega

theorem fitsDigits_truncate {negative : Bool} {m : Nat} {e : Int}
    (h : Number.Binary64.IsStored (.finite negative m e)) :
    FitsDigits (Number.Binary64.truncate negative m e) := by
  obtain ⟨hcoefficient, -, hexponent, -⟩ := h
  have hwhole : (if 0 ≤ e then m * Nat.pow 2 e.toNat else m / Nat.pow 2 (-e).toNat) <
      10 ^ Number.digitLimit := by
    split
    · calc m * 2 ^ e.toNat
        _ < 2 ^ 53 * 2 ^ e.toNat := Nat.mul_lt_mul_of_pos_right hcoefficient (by positivity)
        _ = 2 ^ (53 + e.toNat) := (pow_add 2 53 _).symm
        _ ≤ 2 ^ Number.digitLimit := Nat.pow_le_pow_right (by decide) (by
          rw [Number.digitLimit]
          omega)
        _ ≤ 10 ^ Number.digitLimit := Nat.pow_le_pow_left (by decide) _
    · calc m / Nat.pow 2 (-e).toNat
        _ ≤ m := Nat.div_le_self _ _
        _ < 2 ^ 53 := hcoefficient
        _ ≤ 10 ^ 53 := Nat.pow_le_pow_left (by decide) _
        _ ≤ 10 ^ Number.digitLimit := Nat.pow_le_pow_right (by decide) (by decide)
  unfold FitsDigits Number.Binary64.truncate
  dsimp only
  split <;> omega

theorem fitsDigits_wholeOf {setting : Json} (h : setting.Plain) {n : Int}
    (hwhole : wholeOf setting = .ok n) : FitsDigits n := by
  unfold wholeOf at hwhole
  split at hwhole
  · cases hwhole
    cases h with
    | int h => exact h
  · cases hwhole
    refine .of_natAbs_lt (?_ : _ < 10 ^ 1) (by decide)
    split <;> decide
  · cases hwhole
    cases h with
    | float h => exact fitsDigits_truncate h
  · cases hwhole
  · cases hwhole
  · split at hwhole
    · rename_i hread
      cases hwhole
      exact fitsDigits_readWhole hread
    · cases hwhole
    · cases hwhole
  · cases hwhole

/-! ## Values in values -/

theorem Json.Plain.getD {value : Json} (h : value.Plain) (key : String) {fallback : Json}
    (hfallback : fallback.Plain) : (value.getD key fallback).Plain := by
  unfold Json.getD
  cases hfound : value.get? key with
  | none => exact hfallback
  | some found =>
    cases h with
    | obj hkeys hnames hvalues =>
      obtain ⟨member, hmember, rfl⟩ := Option.map_eq_some_iff.mp hfound
      exact hvalues member (List.mem_of_find?_eq_some hmember)
    | _ => cases hfound

theorem Json.Plain.settingOr {setting fallback : Json} (h : setting.Plain)
    (hfallback : fallback.Plain) : (settingOr setting fallback).Plain := by
  unfold CommitStyle.settingOr
  split
  · exact h
  · exact hfallback

theorem Json.Plain.isProper_asText {value : Json} (h : value.Plain) {text : JsonText}
    (htext : value.asText = .ok text) : Json.IsProper text := by
  unfold Json.asText at htext
  split at htext
  · cases htext
    cases h with
    | str h => exact h
  · obtain ⟨shown, -, hshown⟩ := bind_eq_ok.mp htext
    cases hshown
    exact Json.isProper_whole _

/-- A refusal gives nothing, whatever it shows. -/
theorem refuse_ne_ok {α β : Type} {shown : Except Failure β} {fault : β → ConfigFault} {a : α} :
    (shown >>= fun text => refuse (fault text)) ≠ .ok a := by
  intro h
  obtain ⟨text, -, hrefused⟩ := bind_eq_ok.mp h
  cases hrefused

/-! ## The vocabulary -/

theorem Choice.isPlain_ofJson {entry : Json} (h : entry.Plain) {choice : Choice}
    (hread : Choice.ofJson entry = .ok choice) : choice.IsPlain := by
  unfold Choice.ofJson at hread
  split at hread
  · cases hread
    cases h with
    | str h => exact ⟨h, Json.isProper_whole _⟩
  · dsimp only at hread
    split at hread
    · obtain ⟨name, hname, hread⟩ := bind_eq_ok.mp hread
      obtain ⟨note, hnote, hread⟩ := bind_eq_ok.mp hread
      cases hread
      exact ⟨(h.getD "value" .null).isProper_asText (mapError_eq_ok.mp hname),
        (h.getD "description" (plain_word "")).isProper_asText (mapError_eq_ok.mp hnote)⟩
    · exact absurd hread refuse_ne_ok
  · exact absurd hread refuse_ne_ok

theorem plain_entriesOf {setting : Json} (h : setting.Plain) {entries : List Json}
    (hread : entriesOf setting = .ok entries) : ∀ entry ∈ entries, entry.Plain := by
  unfold entriesOf at hread
  split at hread
  · cases hread
    cases h with
    | arr h => exact h
  · cases hread
    cases h with
    | str h =>
      intro entry hmem
      obtain ⟨character, hcharacter, rfl⟩ := List.mem_map.mp hmem
      exact .str (Json.isProper_of_mem_characters h hcharacter)
  · cases hread
    cases h with
    | obj hkeys hnames hvalues =>
      intro entry hmem
      obtain ⟨member, hmember, rfl⟩ := List.mem_map.mp hmem
      exact .str (hnames member hmember)
  · cases hread

theorem isPlain_choicesOf {setting : Json} (h : setting.Plain) {fallback choices : List Choice}
    (hfallback : ∀ choice ∈ fallback, choice.IsPlain)
    (hread : choicesOf setting fallback = .ok choices) : ∀ choice ∈ choices, choice.IsPlain := by
  unfold choicesOf at hread
  split at hread
  · obtain ⟨entries, hentries, hchoices⟩ := bind_eq_ok.mp hread
    intro choice hmem
    obtain ⟨entry, hentry, hmade⟩ := exists_of_mapM hchoices hmem
    exact Choice.isPlain_ofJson (plain_entriesOf h hentries entry hentry) hmade
  · cases hread
    exact hfallback

/-! ## All settings -/

theorem AiSettings.isPlain_ofJson {setting : Json} (h : setting.Plain) {ai : AiSettings}
    (hread : AiSettings.ofJson setting = .ok ai) : ai.IsPlain := by
  unfold AiSettings.ofJson at hread
  split at hread
  · cases hread
    exact storable_default.isPlain
  split at hread
  · obtain ⟨⟨provider, model⟩, -, hread⟩ := bind_eq_ok.mp hread
    obtain ⟨threshold, hthreshold, hread⟩ := bind_eq_ok.mp hread
    cases hread
    exact {
      model := (h.getD "model" .null).settingOr (plain_word model)
      envPath := h.getD "envPath" (plain_word ".env")
      envKeyName := h.getD "envKeyName" .null
      threshold := fitsDigits_wholeOf
        (h.getD _ (.int (storable_default.threshold : FitsDigits 20000))) hthreshold }
  · cases hread

theorem mem_changeVersionOf {setting : Json} {mode : String}
    (h : changeVersionOf setting = .ok mode) : mode ∈ changeVersionModes := by
  unfold changeVersionOf at h
  split at h
  · rename_i hmode
    cases h
    exact List.mem_of_find?_eq_some hmode
  · exact absurd h refuse_ne_ok

namespace Config

/-- Settings that were read from a plain value are plain, and name a known change of version. -/
theorem isPlain_ofJson {data : Json} (h : data.Plain) {config : Config}
    (hread : Config.ofJson data = .ok config) :
    config.IsPlain ∧ config.changeVersion ∈ changeVersionModes := by
  unfold Config.ofJson at hread
  split at hread
  · obtain ⟨changeVersion, hmode, hread⟩ := bind_eq_ok.mp hread
    obtain ⟨format, -, hread⟩ := bind_eq_ok.mp hread
    obtain ⟨branchFormat, -, hread⟩ := bind_eq_ok.mp hread
    obtain ⟨types, htypes, hread⟩ := bind_eq_ok.mp hread
    obtain ⟨scopes, hscopes, hread⟩ := bind_eq_ok.mp hread
    obtain ⟨minLength, hleast, hread⟩ := bind_eq_ok.mp hread
    obtain ⟨maxLength, hmost, hread⟩ := bind_eq_ok.mp hread
    obtain ⟨ai, hai, hread⟩ := bind_eq_ok.mp hread
    cases hread
    have hdefault := storable_default.isPlain
    refine ⟨?_, mem_changeVersionOf hmode⟩
    exact {
      customFormat := h.getD "customFormat" .null
      customBranchFormat := h.getD "customBranchFormat" .null
      types := isPlain_choicesOf (h.getD "types" .null) hdefault.types htypes
      scopes := isPlain_choicesOf (h.getD "scopes" .null) (by simp) hscopes
      minLength := fitsDigits_wholeOf (h.getD _ (.int hdefault.minLength)) hleast
      maxLength := fitsDigits_wholeOf (h.getD _ (.int hdefault.maxLength)) hmost
      releaseBranch := (h.getD "releaseBranch" .null).settingOr (plain_word "main")
      ai := AiSettings.isPlain_ofJson (h.getD "ai" .null) hai }
  · cases hread

theorem plain_ofText {path text : String} {data : Json} (h : ofText path text = .ok data) :
    data.Plain := by
  unfold ofText at h
  split at h
  · cases h
    exact Json.plain_read ‹_›
  · cases h
  · cases h

variable {config found : Config}

theorem isPlain_of_load {path : String} {session after : Session}
    (h : Flow.Runs (load path) session (.ok config) after) :
    config.IsPlain ∧ config.changeVersion ∈ changeVersionModes := by
  obtain ⟨text, data, -, hdata, hconfig⟩ := runs_load h
  exact isPlain_ofJson (plain_ofText hdata) hconfig

/-! ## Another branch of releases -/


theorem toJson_releaseBranch (config : Config) (value : Json) : ∃ members,
    config.toJson = .obj members ∧ { config with releaseBranch := value }.toJson =
      .obj (Entries.insert members (.whole "releaseBranch") value) := by
  refine ⟨_, rfl, ?_⟩
  simp [toJson, members, Entries.insert]

/-- Only the branch of releases is read otherwise. -/
theorem ofJson_insert_releaseBranch (members : Entries Json JsonText) (value : Json) :
    Config.ofJson (.obj (members.insert (.whole "releaseBranch") value)) =
      (Config.ofJson (.obj members)).map fun config =>
        { config with releaseBranch := settingOr value (.str "main") } := by
  have hother (key : String) (hkey : "releaseBranch" ≠ key) (fallback : Json) :
      (Json.obj (members.insert (.whole "releaseBranch") value)).getD key fallback =
        (Json.obj members).getD key fallback := by
    rw [Json.getD, Json.get?, Entries.get?_insert, if_neg (by simpa using hkey)]
    rfl
  have hself : (Json.obj (members.insert (.whole "releaseBranch") value)).getD "releaseBranch"
      .null = value := by
    rw [Json.getD, Json.get?, Entries.get?_insert, if_pos rfl]
    rfl
  simp only [Config.ofJson, hself, hother "changeVersion" (by decide),
    hother "format" (by decide), hother "customFormat" (by decide),
    hother "branchFormat" (by decide), hother "customBranchFormat" (by decide),
    hother "types" (by decide), hother "scopes" (by decide), hother "minLength" (by decide),
    hother "maxLength" (by decide), hother "showAllVersionTypes" (by decide),
    hother "stageAllChanges" (by decide), hother "ai" (by decide), map_bind]
  rfl

theorem ofJson_toJson_releaseBranch (h : Config.ofJson config.toJson = .ok found) (value : Json) :
    Config.ofJson { config with releaseBranch := value }.toJson =
      .ok { found with releaseBranch := settingOr value (.str "main") } := by
  obtain ⟨members, hmembers, hother⟩ := toJson_releaseBranch config value
  rw [hmembers] at h
  rw [hother, ofJson_insert_releaseBranch, h]
  rfl

end Config

end CommitStyle
