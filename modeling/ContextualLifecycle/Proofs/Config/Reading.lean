import ContextualLifecycle.Config
import ContextualLifecycle.Proofs.Json.Records
import ContextualLifecycle.Proofs.Text.Numeral
import Mathlib.Data.List.Forall2

namespace ContextualLifecycle

open Text (Denotes Pads)

namespace RestartPolicy

/-- A character and how it is compared: letters of ASCII in lower case, hyphens as underscores. -/
def Folds (c folded : Char) : Prop :=
  c ≠ '-' ∧ c.toLower = folded ∨ c = '-' ∧ folded = '_'

/-- The text is the name of the policy between blanks, up to case and hyphens. -/
def IsNamedBy (policy : RestartPolicy) (text : String) : Prop :=
  ∃ core, Pads core text.toList ∧ List.Forall₂ Folds core policy.name.toList

theorem toLower_of_isBlank {c : Char} (h : Text.isBlank c) : c.toLower = c := by
  refine dif_neg ?_
  rintro ⟨hlow, hhigh⟩
  have hlow : 65 ≤ c.toNat := UInt32.le_iff_toNat_le.1 hlow
  have hhigh : c.toNat ≤ 90 := UInt32.le_iff_toNat_le.1 hhigh
  simp only [Text.isBlank, Bool.or_eq_true, Bool.and_eq_true, decide_eq_true_eq, beq_iff_eq] at h
  omega

theorem not_blank_of_folds {policy : RestartPolicy} {core : List Char}
    (h : List.Forall₂ Folds core policy.name.toList) : ∀ c ∈ core, Text.isBlank c = false := by
  have hnone : policy.name.toList.any Text.isBlank = false := by
    cases policy <;> decide
  have hname : ∀ c ∈ policy.name.toList, Text.isBlank c = false := by
    simpa using hnone
  clear hnone
  generalize policy.name.toList = name at h hname
  induction h with
  | nil => exact List.forall_mem_nil _
  | cons hc _ ih =>
    obtain ⟨hhead, htail⟩ := List.forall_mem_cons.1 hname
    refine List.forall_mem_cons.2 ⟨?_, ih htail⟩
    obtain ⟨_, rfl⟩ | ⟨rfl, _⟩ := hc
    · by_contra hblank
      rw [toLower_of_isBlank (by simpa using hblank)] at hhead
      exact hblank hhead
    · rfl

theorem ofName?_eq_some_iff {text : String} {policy : RestartPolicy} :
    ofName? text = some policy ↔ text = policy.name := by
  constructor
  · intro h
    rw [ofName?] at h
    split at h
    · rename_i heq
      cases h
      exact heq
    · split at h
      · rename_i heq
        cases h
        exact heq
      · cases h
  · rintro rfl
    exact ofName?_name policy

theorem normalize_eq_name_iff {text : String} {policy : RestartPolicy} :
    normalize text = policy.name ↔ policy.IsNamedBy text := by
  have hfolds : ∀ core, core.map (fun c => if c = '-' then '_' else c.toLower) =
      policy.name.toList ↔ List.Forall₂ Folds core policy.name.toList := by
    intro core
    rw [← List.forall₂_eq_eq_eq, List.forall₂_map_left_iff]
    refine iff_of_eq (congrArg (List.Forall₂ · _ _) (funext₂ fun c folded => propext ?_))
    by_cases hc : c = '-' <;> simp [Folds, hc, eq_comm]
  rw [normalize, ← String.toList_inj, String.toList_ofList, hfolds]
  constructor
  · exact fun h => ⟨_, Text.pads_trim _, h⟩
  · rintro ⟨core, hpads, hcore⟩
    rwa [Text.trim_of_pads hpads (not_blank_of_folds hcore)]

theorem ofText_eq_ok_iff {text : String} {policy : RestartPolicy} :
    ofText text = .ok policy ↔ policy.IsNamedBy text := by
  rw [← normalize_eq_name_iff, ← ofName?_eq_some_iff, ofText]
  split
  · rename_i found hfound
    simp [hfound]
  · rename_i hnone
    simp [hnone]

end RestartPolicy

namespace Config

/-- What a setting is: what the text under its name means, or the default if there is none. -/
def Gives {α : Type} (means : String → α → Prop) (default : α) : Option String → α → Prop
  | none, value => value = default
  | some text, value => means text value

def IsWord (text : String) (word : UInt64) : Prop := Denotes text.toList word.toNat

/-- The settings are those that the source gives, and they are sound. -/
structure Source.Reads (source : Source) (config : Config) : Prop where
  factor : Gives IsWord ({} : Config).teardownFactor (source "teardown_factor")
    config.teardownFactor
  policy : Gives (fun text policy => policy.IsNamedBy text) ({} : Config).restartPolicy
    (source "restart_policy") config.restartPolicy
  timeout : Gives IsWord ({} : Config).conversationTimeoutMs (source "conversation_timeout_ms")
    config.conversationTimeoutMs
  sound : config.teardownFactor ≠ 0

/-- All that a source says of the settings is well formed. -/
structure Source.WellFormed (source : Source) : Prop where
  factor : ∀ text, source "teardown_factor" = some text →
    ∃ value, Denotes text.toList value ∧ value ≠ 0 ∧ value < 2 ^ 64
  policy : ∀ text, source "restart_policy" = some text →
    ∃ policy : RestartPolicy, policy.IsNamedBy text
  timeout : ∀ text, source "conversation_timeout_ms" = some text →
    ∃ value, Denotes text.toList value ∧ value < 2 ^ 64

theorem wordSetting_eq_ok_iff {source : Source} {name : String} {default word : UInt64} :
    wordSetting source name default = .ok word ↔ Gives IsWord default (source name) word := by
  rw [wordSetting]
  cases source name with
  | none => simp [Gives, eq_comm]
  | some text =>
    rw [Gives, IsWord, ← Text.word?_trim_eq_some_iff]
    dsimp only
    split
    · rename_i value hvalue
      simp [hvalue]
    · rename_i hnone
      simp [hnone]

theorem policySetting_eq_ok_iff {source : Source} {default policy : RestartPolicy} :
    policySetting source default = .ok policy ↔
      Gives (fun text policy => policy.IsNamedBy text) default (source "restart_policy")
        policy := by
  rw [policySetting]
  cases source "restart_policy" with
  | none => simp [Gives, eq_comm]
  | some text => exact RestartPolicy.ofText_eq_ok_iff

theorem validate_eq_ok_iff {config config' : Config} :
    config.validate = .ok config' ↔ config = config' ∧ config'.teardownFactor ≠ 0 := by
  rw [validate]
  split
  · rename_i hzero
    simp only [reduceCtorEq, false_iff, not_and, not_not]
    rintro rfl
    exact hzero
  · rename_i hzero
    simp only [Except.ok.injEq]
    exact ⟨fun h => ⟨h, h ▸ hzero⟩, And.left⟩

theorem bind_eq_ok_iff {ε α β : Type} {x : Except ε α} {f : α → Except ε β} {b : β} :
    x >>= f = .ok b ↔ ∃ a, x = .ok a ∧ f a = .ok b := by
  cases x with
  | error e => exact ⟨nofun, nofun⟩
  | ok a => exact ⟨fun h => ⟨a, rfl, h⟩, fun ⟨_, ha, h⟩ => by cases ha; exact h⟩

theorem ofSource_eq_ok_iff {source : Source} {config : Config} :
    ofSource source = .ok config ↔ source.Reads config := by
  simp only [ofSource, bind_eq_ok_iff, wordSetting_eq_ok_iff, policySetting_eq_ok_iff,
    validate_eq_ok_iff]
  constructor
  · rintro ⟨_, hfactor, _, hpolicy, _, htimeout, rfl, hsound⟩
    exact ⟨hfactor, hpolicy, htimeout, hsound⟩
  · rintro ⟨hfactor, hpolicy, htimeout, hsound⟩
    exact ⟨_, hfactor, _, hpolicy, _, htimeout, rfl, hsound⟩

theorem exists_gives_iff {α : Type} {means : String → α → Prop} {default : α}
    {text? : Option String} :
    (∃ value, Gives means default text? value) ↔
      ∀ text, text? = some text → ∃ value, means text value := by
  cases text? with
  | none => exact ⟨fun _ => nofun, fun _ => ⟨default, rfl⟩⟩
  | some text => exact ⟨fun h _ heq => Option.some.inj heq ▸ h, fun h => h text rfl⟩

theorem exists_isWord {text : String} {value : Nat} (h : Denotes text.toList value)
    (hfits : value < 2 ^ 64) : ∃ word : UInt64, IsWord text word ∧ word.toNat = value := by
  have hsame : (UInt64.ofNat value).toNat = value := UInt64.toNat_ofNat_of_lt' hfits
  exact ⟨.ofNat value, by rwa [IsWord, hsame], hsame⟩

/-- Where a source is well formed, there are sound settings that it gives. -/
theorem Source.wellFormed_iff {source : Source} :
    source.WellFormed ↔ ∃ config, source.Reads config := by
  constructor
  · intro h
    obtain ⟨factor, hfactor, hsound⟩ : ∃ factor, Gives IsWord ({} : Config).teardownFactor
        (source "teardown_factor") factor ∧ factor ≠ 0 := by
      cases hsource : source "teardown_factor" with
      | none => exact ⟨_, rfl, by decide⟩
      | some text =>
        obtain ⟨value, hvalue, hne, hfits⟩ := h.factor text hsource
        obtain ⟨factor, hfactor, rfl⟩ := exists_isWord hvalue hfits
        exact ⟨factor, hfactor, fun hzero => hne (congrArg UInt64.toNat hzero)⟩
    obtain ⟨policy, hpolicy⟩ := exists_gives_iff.2 h.policy
    obtain ⟨timeout, htimeout⟩ : ∃ timeout, Gives IsWord ({} : Config).conversationTimeoutMs
        (source "conversation_timeout_ms") timeout := by
      refine exists_gives_iff.2 fun text htext => ?_
      obtain ⟨value, hvalue, hfits⟩ := h.timeout text htext
      obtain ⟨timeout, htimeout, _⟩ := exists_isWord hvalue hfits
      exact ⟨timeout, htimeout⟩
    exact ⟨⟨factor, policy, timeout⟩, hfactor, hpolicy, htimeout, hsound⟩
  · rintro ⟨config, h⟩
    have hnonzero : config.teardownFactor.toNat ≠ 0 := fun hzero =>
      h.sound (UInt64.toNat_inj.1 hzero)
    constructor
    · intro text htext
      have hfactor := h.factor
      rw [htext] at hfactor
      exact ⟨_, hfactor, hnonzero, config.teardownFactor.toNat_lt⟩
    · exact exists_gives_iff.1 ⟨_, h.policy⟩
    · intro text htext
      have htimeout := h.timeout
      rw [htext] at htimeout
      exact ⟨_, htimeout, config.conversationTimeoutMs.toNat_lt⟩

theorem bind_faults {α β : Type} {x : Except LifecycleError α} {f : α → Except LifecycleError β}
    (hx : ∀ error, x = .error error → ∃ message, error = .config message)
    (hf : ∀ a error, f a = .error error → ∃ message, error = .config message) :
    ∀ error, x >>= f = .error error → ∃ message, error = .config message := by
  intro error h
  cases x with
  | error e =>
    obtain rfl : e = error := Except.error.inj h
    exact hx e rfl
  | ok a => exact hf a error h

theorem wordSetting_faults {source : Source} {name : String} {default : UInt64} :
    ∀ error, wordSetting source name default = .error error →
      ∃ message, error = .config message := by
  intro error h
  rw [wordSetting] at h
  split at h
  · cases h
  · split at h
    · cases h
    · exact ⟨_, (Except.error.inj h).symm⟩

theorem policySetting_faults {source : Source} {default : RestartPolicy} :
    ∀ error, policySetting source default = .error error →
      ∃ message, error = .config message := by
  intro error h
  rw [policySetting] at h
  split at h
  · cases h
  · rw [RestartPolicy.ofText] at h
    split at h
    · cases h
    · exact ⟨_, (Except.error.inj h).symm⟩

theorem validate_faults {config : Config} :
    ∀ error, config.validate = .error error → ∃ message, error = .config message := by
  intro error h
  rw [validate] at h
  split at h
  · exact ⟨_, (Except.error.inj h).symm⟩
  · cases h

theorem ofSource_faults {source : Source} :
    ∀ error, ofSource source = .error error → ∃ message, error = .config message :=
  bind_faults wordSetting_faults fun _ => bind_faults policySetting_faults fun _ =>
    bind_faults wordSetting_faults fun _ => validate_faults

def texts (config : Config) : List (String × String) :=
  [("teardown_factor", toString config.teardownFactor.toNat),
    ("restart_policy", config.restartPolicy.name),
    ("conversation_timeout_ms", toString config.conversationTimeoutMs.toNat)]

/-- The source gives the texts of the settings, and whatever it likes under other names. -/
def Source.Holds (source : Source) (config : Config) : Prop :=
  ∀ setting ∈ config.texts, source setting.1 = some setting.2

theorem isWord_toString (word : UInt64) : IsWord (toString word.toNat) word := by
  have h := Text.denotes_toDigits word.toNat
  rwa [IsWord, Nat.toString_eq_ofList_toDigits, String.toList_ofList]

theorem reads_of_holds {source : Source} {config : Config} (h : source.Holds config)
    (hsound : config.teardownFactor ≠ 0) : source.Reads config := by
  obtain ⟨hfactor, hpolicy, htimeout⟩ : source "teardown_factor" = _ ∧ source "restart_policy" = _ ∧
      source "conversation_timeout_ms" = _ := by
    simpa [Source.Holds, texts] using h
  refine ⟨?_, ?_, ?_, hsound⟩
  · rw [hfactor]
    exact isWord_toString _
  · rw [hpolicy]
    exact RestartPolicy.normalize_eq_name_iff.1 (by cases config.restartPolicy <;> decide)
  · rw [htimeout]
    exact isWord_toString _

theorem ofTree?_toJson (config : Config) (room : Nat) :
    ofTree? config.toJson.tree (room + 1) = some config := by
  have hfields := Json.Fields.ofTree?_memberTrees
    ["teardown_factor", "restart_policy", "conversation_timeout_ms"]
    [("teardown_factor", .ofNat config.teardownFactor.toNat),
      ("restart_policy", .string config.restartPolicy.name),
      ("conversation_timeout_ms", .ofNat config.conversationTimeoutMs.toNat)] room rfl (by decide)
  rw [ofTree?, toJson, Json.tree, hfields, Option.bind_eq_bind, Option.bind_some]
  dsimp only
  rw [Json.Fields.defaulted?_of_lookup rfl, Json.word?_tree_ofNat, Option.bind_eq_bind,
    Option.bind_some, Json.Fields.defaulted?_of_lookup rfl, Json.tree, Json.Tree.variant?,
    Option.bind_some, RestartPolicy.ofName?_name, Option.bind_eq_bind, Option.bind_some,
    Json.Fields.defaulted?_of_lookup rfl, Json.word?_tree_ofNat]
  rfl

theorem toJson_whole (config : Config) : config.toJson.Whole :=
  ⟨Json.isWord_toNat _, trivial, Json.isWord_toNat _, trivial⟩

theorem ofJson_print_toJson {config : Config} (h : config.teardownFactor ≠ 0) :
    ofJson config.toJson.print = .ok config := by
  rw [ofJson, Json.print, String.toList_ofList, Json.Tree.ofText?_text config.toJson_whole,
    Option.bind_some, Json.maxNesting, ofTree?_toJson]
  exact validate_eq_ok_iff.2 ⟨rfl, h⟩

theorem validate_of_ofJson {text : String} {config : Config} (h : ofJson text = .ok config) :
    config.validate = .ok config := by
  rw [ofJson] at h
  split at h
  · obtain ⟨rfl, hsound⟩ := validate_eq_ok_iff.1 h
    exact h
  · cases h

def names : List String := ["teardown_factor", "restart_policy", "conversation_timeout_ms"]

theorem ofSource_congr {source other : Source} (h : ∀ name ∈ names, source name = other name) :
    ofSource source = ofSource other := by
  obtain ⟨hfactor, hpolicy, htimeout⟩ : _ ∧ _ ∧ _ := by
    simpa only [names, List.forall_mem_cons, List.forall_mem_nil, and_true] using h
  simp only [ofSource, wordSetting, policySetting, hfactor, hpolicy, htimeout]

/-- Settings are read from a source exactly if all that it says of them is well formed. They are
what it says, with the default where it says nothing, whatever it has under other names. Otherwise
the fault is one of the configuration. Sound settings are read as they were written, from a source
and from JSON text, and settings from JSON text are sound. -/
theorem reading_exact :
    (∀ source : Source,
      ((∃ config, ofSource source = .ok config) ↔ source.WellFormed) ∧
      (∀ config, ofSource source = .ok config ↔ source.Reads config) ∧
      (∀ error, ofSource source = .error error → ∃ message, error = .config message) ∧
      ∀ other : Source, (∀ name ∈ names, source name = other name) →
        ofSource source = ofSource other) ∧
    (∀ config : Config, config.teardownFactor ≠ 0 →
      (∀ source : Source, source.Holds config → ofSource source = .ok config) ∧
      ofJson config.toJson.print = .ok config) ∧
    ∀ text config, ofJson text = .ok config → config.validate = .ok config := by
  refine ⟨fun source => ⟨?_, fun _ => ofSource_eq_ok_iff, ofSource_faults,
    fun _ => ofSource_congr⟩, fun config hsound => ⟨fun source hholds => ?_,
    ofJson_print_toJson hsound⟩, fun _ _ => validate_of_ofJson⟩
  · simp only [ofSource_eq_ok_iff, Source.wellFormed_iff]
  · exact ofSource_eq_ok_iff.2 (reads_of_holds hholds hsound)

/-- A source with blanks, a sign, leading zeros, capitals and a hyphen, and with a name that no
setting has. -/
def loose : Source := fun name =>
  [("teardown_factor", " +007\t"), ("restart_policy", "\u2003Destroy-PREVIOUS\n"),
    ("colour", "blue")].lookup name

theorem reading_exact_loose :
    ofSource loose = .ok ⟨7, .destroyPrevious, 1800000⟩ ∧
    ofJson (toJson ⟨7, .destroyPrevious, 1800000⟩).print = .ok ⟨7, .destroyPrevious, 1800000⟩ ∧
    (validate ⟨7, .destroyPrevious, 1800000⟩) = .ok ⟨7, .destroyPrevious, 1800000⟩ := by
  have hjson := (reading_exact.2.1 ⟨7, .destroyPrevious, 1800000⟩ (by decide)).2
  refine ⟨((reading_exact.1 loose).2.1 _).2 ⟨?_, ?_, rfl, by decide⟩, hjson,
    reading_exact.2.2 _ _ hjson⟩
  · have hword : Text.word? (Text.trim " +007\t".toList) = some 7 := by decide
    exact Text.word?_trim_eq_some_iff.1 hword
  · exact RestartPolicy.normalize_eq_name_iff.1 (by decide +kernel)

end Config

end ContextualLifecycle
