import DurableCalc.Proofs.CommandLine.Options
import Mathlib.Data.List.Basic

/-!
# Which configuration is in effect

A configuration is checked when its document is read, and the path of the state is overridden
afterwards. What overrides it is never empty, so that the configuration in effect keeps every rule.
The path comes from the command line, or else from the environment, or else from the document; all
else comes from the document.
-/

namespace DurableCalc

namespace Config

variable {config : Config}

theorem fault?_eq_none_iff : config.fault? = none ↔
    config.maxCount ≠ 0 ∧ config.statePath ≠ "" ∧ Text.trim config.logFilter ≠ "" := by
  unfold fault?
  split
  · simp_all
  split
  · simp_all
  split <;> simp_all

def entry (read? : Toml.Item → Option α) (key : String) (members : Toml.Members) : Option α :=
  (members.lookup key).bind read?

theorem field_eq_some {read? : Toml.Item → Option α} {default value : α} {key : String}
    {members : Toml.Members} (h : field read? default key members = some value) :
    value = (entry read? key members).getD default := by
  unfold field at h
  rw [entry]
  cases hitem : members.lookup key with
  | none =>
    rw [hitem] at h
    exact (Option.some.inj h).symm
  | some item =>
    rw [hitem] at h
    dsimp only at h
    rw [Option.bind_some, h]
    rfl

theorem ofMembers?_eq_some {members : Toml.Members} (h : ofMembers? members = some config) :
    config = {
      statePath := (entry readString? "state_path" members).getD ({} : Config).statePath
      storage := (entry readStorage? "storage" members).getD ({} : Config).storage
      maxCount := (entry readCount? "max_count" members).getD ({} : Config).maxCount
      logFilter := (entry readString? "log_filter" members).getD ({} : Config).logFilter } := by
  simp only [ofMembers?, Option.bind_eq_bind, Option.bind_eq_some_iff] at h
  obtain ⟨statePath, hstatePath, storage, hstorage, maxCount, hmaxCount, logFilter, hlogFilter,
    hconfig⟩ := h
  cases hconfig
  rw [field_eq_some hstatePath, field_eq_some hstorage, field_eq_some hmaxCount,
    field_eq_some hlogFilter]

/-- A configuration that is read from a document is the document's and keeps every rule. -/
theorem ofFile_eq_ok {contents : Option Bytes} (h : ofFile contents = .ok config) :
    config.fault? = none ∧ ∃ bytes text members, contents = some bytes ∧
      Text.decode? bytes = some text ∧ Toml.read? text = some members ∧
      ofMembers? members = some config := by
  unfold ofFile at h
  split at h
  · cases h
  rename_i text htext
  obtain ⟨bytes, hbytes, hdecode⟩ := Option.bind_eq_some_iff.1 htext
  unfold ofToml at h
  split at h
  · cases h
  rename_i c hc
  obtain ⟨members, hmembers, hread⟩ := Option.bind_eq_some_iff.1 hc
  split at h
  · cases h
  rename_i hfault
  cases h
  exact ⟨hfault, bytes, text, members, hbytes, hdecode, hmembers, hread⟩

def settingPath (setting : Option String) : Option String :=
  setting.filter fun path => !(Text.trim path).isEmpty

theorem override_eq (setting : Option String) (c : Config) :
    c.override setting = { c with statePath := (settingPath setting).getD c.statePath } := by
  cases setting with
  | none => rfl
  | some path =>
    rw [override, settingPath, Option.filter_some]
    cases (Text.trim path).isEmpty <;> rfl

theorem settingPath_ne_empty (setting : Option String) : settingPath setting ≠ some "" := by
  intro h
  obtain ⟨rfl, hblank⟩ := Option.filter_eq_some_iff.1 h
  cases hblank

theorem fault?_with_statePath {path : String} (h : config.fault? = none) (hpath : path ≠ "") :
    { config with statePath := path }.fault? = none := by
  obtain ⟨hcount, -, hfilter⟩ := fault?_eq_none_iff.1 h
  exact fault?_eq_none_iff.2 ⟨hcount, hpath, hfilter⟩

end Config

namespace CommandLine

open Config

variable {c : CommandLine} {config : Config} {args : List String} {files : String → Option Bytes}
  {setting : Option String}

theorem base_of_resolve (h : c.resolve files setting = .ok config) :
    ∃ base, base.fault? = none ∧
      config = { base with
        statePath := c.state.getD ((settingPath setting).getD base.statePath) } ∧
      ∃ members, ofMembers? members = some base ∧
        match c.config with
        | none => members = []
        | some path => ∃ bytes text, files path = some bytes ∧ Text.decode? bytes = some text ∧
            Toml.read? text = some members := by
  unfold resolve at h
  dsimp only at h
  split at h
  · cases h
  rename_i base hbase
  refine ⟨base, ?_⟩
  have hconfig : config = { base with
      statePath := c.state.getD ((settingPath setting).getD base.statePath) } := by
    rw [override_eq] at h
    split at h
    · rename_i hstate
      cases h
      rw [hstate]
      rfl
    · rename_i hstate
      cases h
      rw [hstate]
      rfl
  cases hpath : c.config with
  | none =>
    rw [hpath] at hbase
    cases hbase
    exact ⟨rfl, hconfig, [], rfl, rfl⟩
  | some path =>
    rw [hpath] at hbase
    obtain ⟨hfault, bytes, text, members, hbytes, hdecode, hread, hmembers⟩ := ofFile_eq_ok hbase
    exact ⟨hfault, hconfig, members, hmembers, bytes, text, hbytes, hdecode, hread⟩

/-- The configuration in effect keeps every rule. Its path is the one that the arguments give, or
else the one that the environment sets to a text which is not blank, or else that of the document at
the path the arguments give for it, or else the default one; whatever they give, all else is the
document's or the default. -/
theorem config_in_effect {environment : Option Bytes} (hread : read args = .ok c)
    (hresolve : c.resolve files (environment.bind Text.decode?) = .ok config) :
    config.fault? = none ∧
    ∃ members : Toml.Members,
      (match given .config none args with
        | none => members = []
        | some path => ∃ bytes text, files path = some bytes ∧ Text.decode? bytes = some text ∧
            Toml.read? text = some members) ∧
      config.statePath = (given .state none args).getD
        ((settingPath (environment.bind Text.decode?)).getD
          ((entry readString? "state_path" members).getD ({} : Config).statePath)) ∧
      config.storage = (entry readStorage? "storage" members).getD ({} : Config).storage ∧
      config.maxCount = (entry readCount? "max_count" members).getD ({} : Config).maxCount ∧
      config.logFilter = (entry readString? "log_filter" members).getD ({} : Config).logFilter := by
  obtain ⟨base, hfault, rfl, members, hmembers, hdocument⟩ := base_of_resolve hresolve
  obtain ⟨hstate, hne⟩ := value?_of_read hread .state
  obtain ⟨hconfig, -⟩ := value?_of_read hread .config
  have hstate' : c.state = given .state none args := hstate
  have hconfig' : c.config = given .config none args := hconfig
  have hpath : c.state.getD ((settingPath (environment.bind Text.decode?)).getD base.statePath) ≠
      "" := by
    cases hgiven : c.state with
    | some path =>
      rintro rfl
      exact hne (hstate'.symm.trans hgiven)
    | none =>
      cases hsetting : settingPath (environment.bind Text.decode?) with
      | some path =>
        rintro rfl
        exact settingPath_ne_empty _ hsetting
      | none => exact (fault?_eq_none_iff.1 hfault).2.1
  rw [hconfig'] at hdocument
  obtain rfl := ofMembers?_eq_some hmembers
  exact ⟨fault?_with_statePath hfault hpath, members, hdocument, by rw [hstate'], rfl, rfl, rfl⟩

/-- The document, the environment and the arguments all name a path. -/
theorem config_in_effect_given :
    let args := ["--config=calc.toml", "--state", "here.json", "status"]
    let document := "max_count = 7\nstate_path = 'there.json'"
    let files : String → Option Bytes := fun path =>
      if path = "calc.toml" then some (Text.encode document) else none
    let environment := some (Text.encode "elsewhere.json")
    let c : CommandLine :=
      { config := some "calc.toml", state := some "here.json", command := some .status }
    let config : Config := { statePath := "here.json", maxCount := 7 }
    read args = .ok c ∧ c.resolve files (environment.bind Text.decode?) = .ok config ∧
      config.fault? = none ∧
        config.statePath = (given .state none args).getD
          ((settingPath (environment.bind Text.decode?)).getD "there.json") := by
  intro args document files environment c config
  have hread : read args = .ok c := by decide +kernel
  have hresolve : c.resolve files (environment.bind Text.decode?) = .ok config := by
    decide +kernel
  obtain ⟨hfault, members, hdocument, hstatePath, -⟩ := config_in_effect hread hresolve
  exact ⟨hread, hresolve, hfault, hstatePath⟩

end CommandLine

end DurableCalc
