import AppSupervisor.Settings.Load
import Mathlib.Data.List.Nodup
import Mathlib.Tactic.Choose

/-!
Settings one by one.

A setting has a name in files, a variable in the environment, a reader and a default. Settings are
made of entries field by field, so that what is known of each field gives what is known of the
whole: when it can be made, what it holds, and which entries do not matter for it.
-/

namespace AppSupervisor

open AppSupervisor.Files AppSupervisor.Settings

inductive Setting
  | root
  | deleteFilesOnExit
  | patterns
  | launcher
  | shutdownTimeout
  | probeTimeout
  | host
  deriving DecidableEq

namespace Setting

def all : List Setting :=
  [.root, .deleteFilesOnExit, .patterns, .launcher, .shutdownTimeout, .probeTimeout, .host]

def name : Setting → String
  | .root => "working_directories_root"
  | .deleteFilesOnExit => "delete_files_on_exit"
  | .patterns => "env_vars_to_inherit"
  | .launcher => "launcher_cmd"
  | .shutdownTimeout => "shutdown_timeout"
  | .probeTimeout => "health_check_timeout"
  | .host => "host"

def variableName : Setting → String
  | .root => "APPDECK_WORKING_DIRECTORIES_ROOT"
  | .deleteFilesOnExit => "APPDECK_DELETE_FILES_ON_EXIT"
  | .patterns => "APPDECK_ENV_VARS_TO_INHERIT"
  | .launcher => "APPDECK_LAUNCHER_CMD"
  | .shutdownTimeout => "APPDECK_SHUTDOWN_TIMEOUT"
  | .probeTimeout => "APPDECK_HEALTH_CHECK_TIMEOUT"
  | .host => "APPDECK_HOST"

abbrev Kind : Setting → Type
  | .root => Path
  | .deleteFilesOnExit => Bool
  | .patterns => List String
  | .launcher | .host => String
  | .shutdownTimeout => Int
  | .probeTimeout => Float

def read : (s : Setting) → Value → Checked s.Kind
  | .root => fun v => Path.ofString <$> readPath v
  | .deleteFilesOnExit => readBool
  | .patterns => readPatterns
  | .launcher | .host => readNonEmpty
  | .shutdownTimeout => readInteger
  | .probeTimeout => readPositive

def get (settings : Settings) : (s : Setting) → s.Kind
  | .root => settings.root
  | .deleteFilesOnExit => settings.deleteFilesOnExit
  | .patterns => settings.patterns
  | .launcher => settings.launcher
  | .shutdownTimeout => settings.shutdownTimeout
  | .probeTimeout => settings.probeTimeout
  | .host => settings.host

def default (host : HostDefaults) (s : Setting) : s.Kind :=
  get (Settings.default host) s

theorem mem_all (s : Setting) : s ∈ all := by
  cases s <;> decide

theorem variableNames_eq : variableNames = all.map fun s => (s.name, s.variableName) := rfl

theorem names_eq : Settings.names = all.map name := rfl

theorem name_injective {s t : Setting} (h : s.name = t.name) : s = t :=
  List.inj_on_of_nodup_map (by decide : (all.map name).Nodup) (mem_all s) (mem_all t) h

def record (values : (s : Setting) → s.Kind) (given : List String) : Settings where
  root := values .root
  deleteFilesOnExit := values .deleteFilesOnExit
  patterns := values .patterns
  launcher := values .launcher
  shutdownTimeout := values .shutdownTimeout
  probeTimeout := values .probeTimeout
  host := values .host
  given := given

@[simp]
theorem get_record (values : (s : Setting) → s.Kind) (given : List String) (s : Setting) :
    get (record values given) s = values s := by
  cases s <;> rfl

end Setting

/-! ### Reading the entries -/

section Checked

variable {α β : Type}

theorem both_eq_ok_iff {first : Checked α} {second : Checked β} {found : α × β} :
    both first second = .ok found ↔ first = .ok found.1 ∧ second = .ok found.2 := by
  obtain ⟨a, b⟩ := found
  cases first <;> cases second <;> simp [both]

theorem within_eq_ok_iff {name : String} {checked : Checked α} {a : α} :
    within name checked = .ok a ↔ checked = .ok a := by
  cases checked <;> simp [within]

theorem refuseExtra_eq_ok_iff {entries : Entries} {names : List String} :
    refuseExtra entries names = .ok () ↔ ∀ key ∈ entries.map (·.1), key ∈ names := by
  have hnone : (∀ key ∈ entries.map (·.1), key ∈ names) ↔
      (entries.map (·.1)).filter (fun key => !names.contains key) = [] := by
    rw [List.filter_eq_nil_iff]
    simp only [Bool.not_eq_true', Bool.not_eq_false, List.contains_iff_mem]
  rw [refuseExtra, hnone]
  cases (entries.map (·.1)).filter (fun key => !names.contains key) with
  | nil => exact ⟨fun _ => rfl, fun _ => rfl⟩
  | cons key rest => exact ⟨nofun, nofun⟩

end Checked

def Setting.Holds (host : HostDefaults) (s : Setting) (value? : Option Value) (a : s.Kind) : Prop :=
  match value? with
  | some value => s.read value = .ok a
  | none => a = s.default host

def Setting.field (host : HostDefaults) (entries : Entries) (s : Setting) : Checked s.Kind :=
  readField entries s.name (some (s.default host)) s.read

theorem Setting.field_eq_ok_iff {host : HostDefaults} {entries : Entries} {s : Setting}
    {a : s.Kind} : s.field host entries = .ok a ↔ s.Holds host (entries.lookup s.name) a := by
  unfold Setting.field readField
  cases entries.lookup s.name with
  | some value => exact within_eq_ok_iff
  | none => exact ⟨fun h => (Except.ok.inj h).symm, fun h => congrArg Except.ok h.symm⟩

def givenIn (entries : Entries) : List String :=
  Settings.names.filter fun name => (entries.lookup name).isSome

theorem ofEntries_eq (host : HostDefaults) (entries : Entries) :
    Settings.ofEntries host entries =
      (both (both (Setting.field host entries .root) <|
        both (Setting.field host entries .deleteFilesOnExit) <|
        both (Setting.field host entries .patterns) <|
        both (Setting.field host entries .launcher) <|
        both (Setting.field host entries .shutdownTimeout) <|
        both (Setting.field host entries .probeTimeout) (Setting.field host entries .host))
      (refuseExtra entries Settings.names)).bind
        fun ((root, deleteFilesOnExit, patterns, launcher, shutdownTimeout, probeTimeout, host),
            _) =>
          .ok { root, deleteFilesOnExit, patterns, launcher, shutdownTimeout, probeTimeout, host,
                given := givenIn entries } := rfl

/-- Entries make settings of a host: each setting is as they say or as it is without them. -/
structure Makes (host : HostDefaults) (entries : Entries) (settings : Settings) : Prop where
  holds : ∀ s : Setting, s.Holds host (entries.lookup s.name) (s.get settings)
  known : ∀ key ∈ entries.map (·.1), key ∈ Settings.names
  given : settings.given = givenIn entries

theorem ofEntries_eq_ok_iff {host : HostDefaults} {entries : Entries} {settings : Settings} :
    Settings.ofEntries host entries = .ok settings ↔ Makes host entries settings := by
  rw [ofEntries_eq]
  constructor
  · intro h
    unfold Except.bind at h
    split at h
    · cases h
    · rename_i found hfound
      cases h
      obtain ⟨hfields, hextra⟩ := both_eq_ok_iff.mp hfound
      simp only [both_eq_ok_iff] at hfields
      obtain ⟨hroot, hdelete, hpatterns, hlauncher, hshutdown, hprobe, hhost⟩ := hfields
      refine ⟨fun s => ?_, refuseExtra_eq_ok_iff.mp hextra, rfl⟩
      cases s with
      | root => exact Setting.field_eq_ok_iff.mp hroot
      | deleteFilesOnExit => exact Setting.field_eq_ok_iff.mp hdelete
      | patterns => exact Setting.field_eq_ok_iff.mp hpatterns
      | launcher => exact Setting.field_eq_ok_iff.mp hlauncher
      | shutdownTimeout => exact Setting.field_eq_ok_iff.mp hshutdown
      | probeTimeout => exact Setting.field_eq_ok_iff.mp hprobe
      | host => exact Setting.field_eq_ok_iff.mp hhost
  · intro h
    have hfield (s : Setting) : s.field host entries = .ok (s.get settings) :=
      Setting.field_eq_ok_iff.mpr (h.holds s)
    have hextra : refuseExtra entries Settings.names = .ok () := refuseExtra_eq_ok_iff.mpr h.known
    simp only [hfield, hextra, both, ← h.given]
    rfl

def strangersIn (entries : Entries) : List String :=
  (entries.map (·.1)).filter fun key => !Settings.names.contains key

theorem ofEntries_congr {host : HostDefaults} {entries other : Entries}
    (hlookup : ∀ s : Setting, entries.lookup s.name = other.lookup s.name)
    (hstrangers : strangersIn entries = strangersIn other) :
    Settings.ofEntries host entries = Settings.ofEntries host other := by
  have hfield (s : Setting) : s.field host entries = s.field host other := by
    simp only [Setting.field, readField, hlookup s]
  have hgiven : givenIn entries = givenIn other := by
    refine List.filter_congr fun name hname => ?_
    obtain ⟨s, -, rfl⟩ := List.mem_map.mp (Setting.names_eq ▸ hname)
    rw [hlookup s]
  have hrefused : refuseExtra entries Settings.names = refuseExtra other Settings.names := by
    unfold strangersIn at hstrangers
    rw [refuseExtra, refuseExtra, hstrangers]
  simp only [ofEntries_eq, hfield, hgiven, hrefused]

/-- Settings can be made of entries exactly where each of them is a setting and can be read. -/
theorem exists_makes_iff {host : HostDefaults} {entries : Entries} :
    (∃ settings, Makes host entries settings) ↔
      (∀ key ∈ entries.map (·.1), key ∈ Settings.names) ∧
      ∀ (s : Setting) (value : Value), entries.lookup s.name = some value →
        ∃ a, s.read value = .ok a := by
  constructor
  · rintro ⟨settings, hmakes⟩
    refine ⟨hmakes.known, fun s value hvalue => ⟨s.get settings, ?_⟩⟩
    have hholds := hmakes.holds s
    rw [hvalue] at hholds
    exact hholds
  · rintro ⟨hknown, hread⟩
    have hvalue (s : Setting) : ∃ a, s.Holds host (entries.lookup s.name) a := by
      cases hlookup : entries.lookup s.name with
      | some value => exact hread s value hlookup
      | none => exact ⟨_, rfl⟩
    choose values hvalues using hvalue
    refine ⟨Setting.record values (givenIn entries), fun s => ?_, hknown, rfl⟩
    rw [Setting.get_record]
    exact hvalues s

end AppSupervisor
