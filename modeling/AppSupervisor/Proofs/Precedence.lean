import AppSupervisor.Proofs.Loading
import AppSupervisor.Proofs.SettingFields
import AppSupervisor.Proofs.Variables

/-!
Where the value of each setting comes from.

The value of a setting is that of its variable if there is one, else that of the file, else the
default. What a file says of a setting whose variable is there does not matter, even where it could
not be read.
-/

namespace AppSupervisor

open AppSupervisor.Command AppSupervisor.Files AppSupervisor.Settings

/-! ### What the sources say -/

def Setting.override? (environment : List (String × String)) (s : Setting) : Option Value :=
  (environment.lookup s.variableName).bind fun text => (variableValue s.name text).toOption

def Value.under (file : List (Value × Value)) (name : String) : Option Value :=
  (Value.map file).entries.lookup name

section Overrides

variable {environment : List (String × String)}

def AllParse (environment : List (String × String)) : Prop :=
  ∀ (s : Setting) (text : String), environment.lookup s.variableName = some text →
    ∃ value, variableValue s.name text = .ok value

def overridesOf (environment : List (String × String)) (settings : List Setting) : Entries :=
  settings.filterMap fun s => (s.override? environment).map (s.name, ·)

def overrideOf (environment : List (String × String)) (s : Setting) :
    Except Fault (String × Value) :=
  match variableValue s.name ((environment.lookup s.variableName).getD "") with
  | .ok value => .ok (s.name, value)
  | .error message => .error (.config s.name (.invalidVariable s.variableName message))

theorem overrides_eq_mapM (environment : List (String × String)) : overrides environment =
    (Setting.all.filter fun s => (environment.lookup s.variableName).isSome).mapM
      (overrideOf environment) := by
  unfold overrides
  dsimp only
  rw [Setting.variableNames_eq, List.filter_map, List.mapM_map]
  rfl

theorem overrideOf_eq {s : Setting} {text : String}
    (h : environment.lookup s.variableName = some text) :
    overrideOf environment s = match variableValue s.name text with
      | .ok value => .ok (s.name, value)
      | .error message => .error (.config s.name (.invalidVariable s.variableName message)) := by
  simp only [overrideOf, h, Option.getD_some]

theorem overrides_eq_ok_iff {given : Entries} : overrides environment = .ok given ↔
    AllParse environment ∧ given = overridesOf environment Setting.all := by
  have hparse : (∀ s ∈ Setting.all.filter fun s => (environment.lookup s.variableName).isSome,
      ∃ entry, overrideOf environment s = .ok entry) ↔ AllParse environment := by
    simp only [List.mem_filter, Setting.mem_all, true_and, Option.isSome_iff_exists]
    constructor
    · intro hall s text htext
      obtain ⟨entry, hentry⟩ := hall s ⟨text, htext⟩
      rw [overrideOf_eq htext] at hentry
      cases hvalue : variableValue s.name text with
      | ok value => exact ⟨value, rfl⟩
      | error message =>
          rw [hvalue] at hentry
          cases hentry
    · rintro hall s ⟨text, htext⟩
      obtain ⟨value, hvalue⟩ := hall s text htext
      exact ⟨_, by rw [overrideOf_eq htext, hvalue]⟩
  have hgiven : (Setting.all.filter fun s => (environment.lookup s.variableName).isSome).filterMap
      (fun s => (overrideOf environment s).toOption) = overridesOf environment Setting.all := by
    rw [List.filterMap_filter]
    refine List.filterMap_congr fun s _ => ?_
    rw [Setting.override?]
    cases htext : environment.lookup s.variableName with
    | none => simp
    | some text =>
        simp only [overrideOf_eq htext, Option.isSome_some, if_true, Option.bind_some]
        cases variableValue s.name text <;> rfl
  rw [overrides_eq_mapM, mapM_eq_ok_iff, hparse, hgiven]

/-- Only the variables of settings count. -/
theorem overrides_congr {other : List (String × String)}
    (h : ∀ s : Setting, other.lookup s.variableName = environment.lookup s.variableName) :
    overrides other = overrides environment := by
  have hone : overrideOf other = overrideOf environment := by
    funext s
    rw [overrideOf, overrideOf, h s]
  rw [overrides_eq_mapM, overrides_eq_mapM, hone]
  simp only [h]

theorem lookup_overridesOf {settings : List Setting} (s : Setting) :
    (overridesOf environment settings).lookup s.name =
      if s ∈ settings then s.override? environment else none := by
  induction settings with
  | nil => rfl
  | cons first rest ih =>
      cases hvalue : first.override? environment with
      | none =>
          rw [overridesOf, List.filterMap_cons_none (by rw [hvalue]; rfl)]
          refine ih.trans ?_
          by_cases hsame : s = first
          · simp [hsame, hvalue]
          · simp [hsame]
      | some value =>
          rw [overridesOf, List.filterMap_cons_some (by rw [hvalue]; rfl), lookup_entry]
          by_cases hsame : s = first
          · simp [hsame, hvalue]
          · rw [if_neg (mt Setting.name_injective hsame)]
            exact ih.trans (by simp [hsame])

theorem names_overridesOf : ∀ key ∈ (overridesOf environment Setting.all).map (·.1),
    key ∈ Settings.names := by
  intro key hkey
  obtain ⟨entry, hentry, rfl⟩ := List.mem_map.mp hkey
  obtain ⟨s, hs, hfound⟩ := List.mem_filterMap.mp hentry
  obtain ⟨value, -, rfl⟩ := Option.map_eq_some_iff.mp hfound
  exact Setting.names_eq ▸ List.mem_map_of_mem hs

end Overrides

theorem lookup_map_values {α : Type} (entries : List (String × α)) (f : String → α → α)
    (name : String) : (entries.map fun entry => (entry.1, f entry.1 entry.2)).lookup name =
      (entries.lookup name).map (f name) := by
  induction entries with
  | nil => rfl
  | cons entry rest ih =>
      rw [List.map_cons, lookup_entry, lookup_entry, ih]
      by_cases hname : name = entry.1
      · rw [if_pos hname, if_pos hname, hname, Option.map_some]
      · rw [if_neg hname, if_neg hname]

/-- The second map counts more. -/
theorem lookup_merged (first second : Entries) (name : String) :
    (merged first second).lookup name = (second.lookup name).or (first.lookup name) := by
  have hfirst := lookup_map_values first (fun key value => (second.lookup key).getD value) name
  have hsecond := lookup_filter second (fun key => (first.lookup key).isNone) name
  rw [merged, List.lookup_append, hfirst, hsecond]
  cases first.lookup name <;> cases second.lookup name <;> rfl

theorem keys_merged (first second : Entries) : (merged first second).map (·.1) =
    first.map (·.1) ++ (second.filter fun entry => (first.lookup entry.1).isNone).map (·.1) := by
  rw [merged, List.map_append, List.map_map]
  rfl

section File

variable {file : List (Value × Value)}

inductive IsSection (document : List (Value × Value)) : List (Value × Value) → Prop
  | whole (habsent : Value.under document sectionName = none) : IsSection document document
  | empty (hnull : Value.under document sectionName = some .null) : IsSection document []
  | inner {entries : List (Value × Value)}
      (hmap : Value.under document sectionName = some (.map entries)) : IsSection document entries

theorem under_eq_find? {document : List (Value × Value)} {name : String}
    {isUnder : Value × Value → Bool}
    (htext : ∀ key value, isUnder (.text key, value) = (key == name))
    (hother : ∀ key value, key.text? = none → isUnder (key, value) = false) :
    Value.under document name = (document.find? isUnder).map (·.2) := by
  induction document with
  | nil => rfl
  | cons entry rest ih =>
      obtain ⟨key, value⟩ := entry
      cases key with
      | text key =>
          have hentries : Value.under ((.text key, value) :: rest) name =
              List.lookup name ((key, value) :: (Value.map rest).entries) := rfl
          rw [hentries, lookup_entry, List.find?_cons, htext]
          by_cases hname : name = key
          · simp [hname]
          · have hne : (key == name) = false := by simpa using Ne.symm hname
            rw [if_neg hname, hne]
            exact ih
      | _ =>
          rw [List.find?_cons, hother _ _ rfl]
          exact ih

theorem IsSection.sectionOf_eq {document : List (Value × Value)} (h : IsSection document file)
    (path : String) : sectionOf path (.map document) = .ok file := by
  unfold sectionOf
  dsimp only
  cases hfound : document.find? _ with
  | none =>
      have hunder : Value.under document sectionName = none :=
        (under_eq_find? (fun _ _ => rfl) (by rintro ⟨⟩ _ ⟨⟩ <;> rfl)).trans
          (congrArg (Option.map (·.2)) hfound)
      cases h with
      | whole _ => rfl
      | empty hnull => cases hnull.symm.trans hunder
      | inner hmap => cases hmap.symm.trans hunder
  | some entry =>
      have hunder : Value.under document sectionName = some entry.2 :=
        (under_eq_find? (fun _ _ => rfl) (by rintro ⟨⟩ _ ⟨⟩ <;> rfl)).trans
          (congrArg (Option.map (·.2)) hfound)
      obtain ⟨key, value⟩ := entry
      cases h with
      | whole habsent => cases habsent.symm.trans hunder
      | empty hnull =>
          cases hnull.symm.trans hunder
          rfl
      | inner hmap =>
          cases hmap.symm.trans hunder
          rfl

/-- Where the entries of a file come from. All their keys are texts. -/
structure Supplies {σ : Type} [Machine σ] (machine : σ) (path? : Option String)
    (file : List (Value × Value)) : Prop where
  keys : ∀ entry ∈ file, entry.1.isText
  source : path? = none ∧ file = [] ∨ ∃ given bytes document, path? = some given ∧
    bytesOf (.ofString given) machine = .ok bytes ∧
    documentOf (Path.ofString given).toString bytes = .ok (.map document) ∧ IsSection document file

theorem Supplies.fileEntries_eq {σ : Type} [Machine σ] {machine : σ} {path? : Option String}
    (h : Supplies machine path? file) : fileEntries path? machine = .ok file := by
  rcases h.source with ⟨rfl, rfl⟩ | ⟨given, bytes, document, rfl, hbytes, hdocument, hsection⟩
  · rfl
  · simp only [fileEntries, entriesIn, hbytes, hdocument, Except.mapError, Except.bind]
    exact hsection.sectionOf_eq _

end File

/-! ### The settings -/

def Setting.value? (file : List (Value × Value)) (environment : List (String × String))
    (s : Setting) : Option Value :=
  match environment.lookup s.variableName with
  | some text => (variableValue s.name text).toOption
  | none => Value.under file s.name

structure Loadable (file : List (Value × Value)) (environment : List (String × String)) : Prop where
  parses : ∀ (s : Setting) (text : String), environment.lookup s.variableName = some text →
    ∃ value, variableValue s.name text = .ok value
  keys : ∀ entry ∈ file, ∃ s : Setting, entry.1 = .text s.name
  values : ∀ (s : Setting) (value : Value), s.value? file environment = some value →
    ∃ a, s.read value = .ok a

/-- Each setting is as its variable says, or else as the file says, or else as it is by default. -/
structure Precedence (host : HostDefaults) (file : List (Value × Value))
    (environment : List (String × String)) (settings : Settings) : Prop where
  fromVariable : ∀ (s : Setting) (text : String),
    environment.lookup s.variableName = some text →
      ∃ value, variableValue s.name text = .ok value ∧ s.read value = .ok (s.get settings)
  fromFile : ∀ (s : Setting) (value : Value), environment.lookup s.variableName = none →
    Value.under file s.name = some value → s.read value = .ok (s.get settings)
  byDefault : ∀ s : Setting, environment.lookup s.variableName = none →
    Value.under file s.name = none → s.get settings = s.default host
  given : ∀ name, name ∈ settings.given ↔ ∃ s : Setting, s.name = name ∧
    ((environment.lookup s.variableName).isSome ∨ (Value.under file name).isSome)

def isOverridden (environment : List (String × String)) (key : Value) : Bool :=
  Setting.all.any fun s => (environment.lookup s.variableName).isSome && key.text? == some s.name

def unhidden (file : List (Value × Value)) (environment : List (String × String)) :
    List (Value × Value) :=
  file.filter fun entry => !isOverridden environment entry.1

section Combine

variable {file other : List (Value × Value)} {environment : List (String × String)}

/-- Settings are made exactly if all keys of a file are texts and each entry is acceptable for its
setting. -/
theorem combine_eq_ok_iff {host : HostDefaults} {given : Entries} {settings : Settings} :
    combine host file given = .ok settings ↔ (∀ entry ∈ file, ∃ key, entry.1 = .text key) ∧
      Makes host (merged (Value.map file).entries given) settings := by
  rw [← ofEntries_eq_ok_iff]
  unfold combine
  cases hentries : Value.entries? file with
  | none =>
      dsimp only
      constructor
      · intro h
        split at h <;> cases h
      · rintro ⟨hkeys, -⟩
        cases hentries.symm.trans (entries?_eq_some_iff.mpr ⟨hkeys, rfl⟩)
  | some entries =>
      obtain ⟨hkeys, rfl⟩ := entries?_eq_some_iff.mp hentries
      dsimp only
      cases Settings.ofEntries host (merged (Value.map file).entries given) with
      | ok made => exact ⟨fun h => ⟨hkeys, by rw [Except.ok.inj h]⟩, fun h => by rw [h.2]⟩
      | error faults => exact ⟨nofun, nofun⟩

/-- The value that counts is the one in the merged entries. -/
theorem lookup_merged_overrides (hparse : AllParse environment) (s : Setting) :
    (merged (Value.map file).entries (overridesOf environment Setting.all)).lookup s.name =
      s.value? file environment := by
  rw [lookup_merged, lookup_overridesOf, if_pos s.mem_all, Setting.override?, Setting.value?]
  cases htext : environment.lookup s.variableName with
  | none => rfl
  | some text =>
      obtain ⟨value, hvalue⟩ := hparse s text htext
      simp only [Option.bind_some, hvalue]
      rfl

theorem isSome_value?_iff (hparse : AllParse environment) {s : Setting} :
    (s.value? file environment).isSome ↔
      (environment.lookup s.variableName).isSome ∨ (Value.under file s.name).isSome := by
  rw [Setting.value?]
  cases htext : environment.lookup s.variableName with
  | none => simp
  | some text =>
      obtain ⟨value, hvalue⟩ := hparse s text htext
      simp only [hvalue]
      exact ⟨fun _ => Or.inl rfl, fun _ => rfl⟩

theorem mem_entries {key : String} {value : Value} :
    (key, value) ∈ (Value.map file).entries ↔ (.text key, value) ∈ file := by
  rw [Value.entries, List.mem_filterMap]
  constructor
  · rintro ⟨⟨other, found⟩, hentry, htext⟩
    cases other with
    | text _ =>
        cases htext
        exact hentry
    | _ => cases htext
  · intro hentry
    exact ⟨_, hentry, rfl⟩

/-- Where all keys of a file are texts, only the file may hold entries that are no settings. -/
theorem known_merged (htexts : ∀ entry ∈ file, ∃ key, entry.1 = .text key) :
    (∀ key ∈ (merged (Value.map file).entries (overridesOf environment Setting.all)).map (·.1),
        key ∈ Settings.names) ↔ ∀ entry ∈ file, ∃ s : Setting, entry.1 = .text s.name := by
  rw [keys_merged, List.forall_mem_append]
  constructor
  · rintro ⟨hknown, -⟩ ⟨_, value⟩ hentry
    obtain ⟨key, rfl⟩ := htexts _ hentry
    have hkey : key ∈ Settings.names :=
      hknown key (List.mem_map.mpr ⟨(key, value), mem_entries.mpr hentry, rfl⟩)
    obtain ⟨s, -, rfl⟩ := List.mem_map.mp (Setting.names_eq ▸ hkey)
    exact ⟨s, rfl⟩
  · intro hknown
    refine ⟨fun key hkey => ?_, fun key hkey => ?_⟩
    · obtain ⟨⟨_, value⟩, hentry, rfl⟩ := List.mem_map.mp hkey
      obtain ⟨s, hs⟩ := hknown _ (mem_entries.mp hentry)
      cases hs
      exact Setting.names_eq ▸ List.mem_map_of_mem s.mem_all
    · obtain ⟨entry, hentry, rfl⟩ := List.mem_map.mp hkey
      exact names_overridesOf _ (List.mem_map_of_mem (List.mem_of_mem_filter hentry))

/-- Settings can be loaded where the sources allow it, and there only. -/
theorem loaded_eq_ok_iff {σ : Type} [Machine σ] {machine : σ} {path? : Option String}
    {host : HostDefaults} {settings : Settings} (hfile : Supplies machine path? file) :
    loaded host path? environment machine = .ok settings ↔
      AllParse environment ∧ (∀ entry ∈ file, ∃ key, entry.1 = .text key) ∧
        Makes host (merged (Value.map file).entries (overridesOf environment Setting.all))
          settings := by
  rw [loaded, hfile.fileEntries_eq]
  change (overrides environment).bind (combine host file) = .ok settings ↔ _
  cases hgiven : overrides environment with
  | error fault =>
      constructor
      · rintro ⟨⟩
      · rintro ⟨hparse, -⟩
        cases hgiven.symm.trans (overrides_eq_ok_iff.mpr ⟨hparse, rfl⟩)
  | ok given =>
      obtain ⟨hparse, rfl⟩ := overrides_eq_ok_iff.mp hgiven
      change combine host file _ = .ok settings ↔ _
      rw [combine_eq_ok_iff]
      exact ⟨fun h => ⟨hparse, h⟩, fun h => h.2⟩

theorem Loadable.texts (h : Loadable file environment) :
    ∀ entry ∈ file, ∃ key, entry.1 = .text key := by
  intro entry hentry
  obtain ⟨s, hs⟩ := h.keys entry hentry
  exact ⟨_, hs⟩

section Loaded

variable {σ : Type} [Machine σ] {machine : σ} {path? : Option String} {host : HostDefaults}
  {settings : Settings} (hfile : Supplies machine path? file)
include hfile

theorem exists_loaded_iff : (∃ settings, loaded host path? environment machine = .ok settings) ↔
    Loadable file environment := by
  simp only [loaded_eq_ok_iff hfile, exists_and_left, exists_makes_iff]
  constructor
  · rintro ⟨hparse, htexts, hknown, hread⟩
    refine ⟨hparse, (known_merged htexts).mp hknown, fun s value hvalue => ?_⟩
    exact hread s value ((lookup_merged_overrides hparse s).trans hvalue)
  · intro h
    refine ⟨h.parses, h.texts, (known_merged h.texts).mpr h.keys, fun s value hvalue => ?_⟩
    exact h.values s value ((lookup_merged_overrides h.parses s).symm.trans hvalue)

theorem loaded_reports {fault : Fault} (h : loaded host path? environment machine = .error fault) :
    fault.isConfig := by
  rw [loaded, hfile.fileEntries_eq] at h
  change (overrides environment).bind (combine host file) = .error fault at h
  cases hgiven : overrides environment with
  | error cause =>
      rw [hgiven] at h
      cases h
      exact overrides_reports hgiven
  | ok given =>
      rw [hgiven] at h
      by_contra hconfig
      have hescapes : Escapes (combine host file given) fault := ⟨h, by simpa using hconfig⟩
      obtain ⟨-, entry, hentry, hkey⟩ := combine_escapes_iff.mp hescapes
      rw [hfile.keys entry hentry] at hkey
      cases hkey

theorem precedence_of_loaded (h : loaded host path? environment machine = .ok settings) :
    Precedence host file environment settings := by
  obtain ⟨hparse, -, hmakes⟩ := (loaded_eq_ok_iff hfile).mp h
  have hholds (s : Setting) : s.Holds host (s.value? file environment) (s.get settings) := by
    rw [← lookup_merged_overrides hparse s]
    exact hmakes.holds s
  refine ⟨fun s text htext => ?_, fun s value htext hvalue => ?_, fun s htext hvalue => ?_,
    fun name => ?_⟩
  · obtain ⟨value, hvalue⟩ := hparse s text htext
    have hsame : s.value? file environment = some value := by
      simp only [Setting.value?, htext, hvalue]
      rfl
    have hget := hholds s
    rw [hsame] at hget
    exact ⟨value, hvalue, hget⟩
  · have hget := hholds s
    simp only [Setting.value?, htext, hvalue] at hget
    exact hget
  · have hget := hholds s
    simp only [Setting.value?, htext, hvalue] at hget
    exact hget
  · rw [hmakes.given, givenIn, List.mem_filter, Setting.names_eq, List.mem_map]
    constructor
    · rintro ⟨⟨s, -, rfl⟩, hsome⟩
      rw [lookup_merged_overrides hparse] at hsome
      exact ⟨s, rfl, (isSome_value?_iff hparse).mp hsome⟩
    · rintro ⟨s, rfl, hsome⟩
      refine ⟨⟨s, s.mem_all, rfl⟩, ?_⟩
      rw [lookup_merged_overrides hparse]
      exact (isSome_value?_iff hparse).mpr hsome

end Loaded

/-! ### Two files -/

theorem isOverridden_iff {key : String} : isOverridden environment (.text key) ↔
    ∃ s : Setting, s.name = key ∧ (environment.lookup s.variableName).isSome := by
  simp only [isOverridden, List.any_eq_true, Bool.and_eq_true, beq_iff_eq, Value.text?,
    Option.some.injEq]
  constructor
  · rintro ⟨s, -, hsome, rfl⟩
    exact ⟨s, rfl, hsome⟩
  · rintro ⟨s, rfl, hsome⟩
    exact ⟨s, s.mem_all, hsome, rfl⟩

theorem entries_unhidden : (Value.map (unhidden file environment)).entries =
    (Value.map file).entries.filter fun entry => !isOverridden environment (.text entry.1) := by
  rw [unhidden, Value.entries, Value.entries, List.filterMap_filter, List.filter_filterMap]
  refine List.filterMap_congr fun entry _ => ?_
  obtain ⟨key, value⟩ := entry
  cases key with
  | text key =>
      dsimp only
      rw [Option.filter_some]
  | _ => exact ite_self _

theorem text?_of_isOverridden {key : Value} (h : isOverridden environment key) :
    ∃ text, key = .text text := by
  obtain ⟨s, -, hs⟩ := List.any_eq_true.mp h
  cases key with
  | text text => exact ⟨text, rfl⟩
  | _ => simp [Value.text?] at hs

theorem texts_unhidden_iff : (∀ entry ∈ unhidden file environment, ∃ key, entry.1 = .text key) ↔
    ∀ entry ∈ file, ∃ key, entry.1 = .text key := by
  constructor
  · intro htexts entry hentry
    by_cases hhidden : isOverridden environment entry.1
    · exact text?_of_isOverridden hhidden
    · exact htexts entry (List.mem_filter.mpr ⟨hentry, by simpa using hhidden⟩)
  · intro htexts entry hentry
    exact htexts entry (List.mem_of_mem_filter hentry)

theorem value?_unhidden (s : Setting) :
    s.value? (unhidden file environment) environment = s.value? file environment := by
  rw [Setting.value?, Setting.value?]
  cases htext : environment.lookup s.variableName with
  | some text => rfl
  | none =>
      have hplain : isOverridden environment (.text s.name) = false := by
        rw [Bool.eq_false_iff, ne_eq, isOverridden_iff]
        rintro ⟨other, hname, hsome⟩
        rw [Setting.name_injective hname, htext] at hsome
        cases hsome
      have hlookup := lookup_filter (Value.map file).entries
        (fun key => !isOverridden environment (.text key)) s.name
      rw [← entries_unhidden, hplain] at hlookup
      exact hlookup

theorem strangersIn_merged (first : Entries) :
    strangersIn (merged first (overridesOf environment Setting.all)) = strangersIn first := by
  rw [strangersIn, keys_merged, List.filter_append]
  refine List.append_right_eq_self.mpr (List.filter_eq_nil_iff.mpr fun key hkey => ?_)
  obtain ⟨entry, hentry, rfl⟩ := List.mem_map.mp hkey
  have hname := names_overridesOf _ (List.mem_map_of_mem (List.mem_of_mem_filter hentry))
  simpa using hname

theorem strangersIn_unhidden : strangersIn (Value.map (unhidden file environment)).entries =
    strangersIn (Value.map file).entries := by
  have hcommute : ((Value.map file).entries.filter fun entry =>
      !isOverridden environment (.text entry.1)).map (·.1) =
        ((Value.map file).entries.map (·.1)).filter fun key =>
          !isOverridden environment (.text key) := by
    rw [List.filter_map]
    rfl
  rw [strangersIn, strangersIn, entries_unhidden, hcommute, List.filter_filter]
  refine List.filter_congr fun key _ => ?_
  by_cases hhidden : isOverridden environment (.text key)
  · obtain ⟨s, rfl, -⟩ := isOverridden_iff.mp hhidden
    have hname : s.name ∈ Settings.names := Setting.names_eq ▸ List.mem_map_of_mem s.mem_all
    simp [hname]
  · simp [hhidden]

/-- What a file says of settings whose variables are there does not count. -/
theorem ofEntries_unhidden (host : HostDefaults) (hparse : AllParse environment) :
    Settings.ofEntries host (merged (Value.map (unhidden file environment)).entries
        (overridesOf environment Setting.all)) =
      Settings.ofEntries host
        (merged (Value.map file).entries (overridesOf environment Setting.all)) := by
  refine ofEntries_congr (fun s => ?_) ?_
  · rw [lookup_merged_overrides hparse, lookup_merged_overrides hparse, value?_unhidden]
  · rw [strangersIn_merged, strangersIn_merged, strangersIn_unhidden]

/-- Entries of a file that variables take the place of have no influence. -/
theorem combine_unhidden (host : HostDefaults) (hparse : AllParse environment)
    (hkeys : ∀ entry ∈ file, entry.1.isText) :
    combine host (unhidden file environment) (overridesOf environment Setting.all) =
      combine host file (overridesOf environment Setting.all) := by
  have hkeys' : ∀ entry ∈ unhidden file environment, entry.1.isText :=
    fun entry hentry => hkeys entry (List.mem_of_mem_filter hentry)
  by_cases htexts : ∀ entry ∈ file, ∃ key, entry.1 = .text key
  · have hentries := entries?_eq_some_iff.mpr ⟨htexts, rfl⟩
    have hentries' := entries?_eq_some_iff.mpr
      ⟨texts_unhidden_iff.mpr htexts, (rfl : _ = (Value.map (unhidden file environment)).entries)⟩
    simp only [combine, hentries, hentries', ofEntries_unhidden host hparse]
  · rw [combine, combine, entries?_eq_none htexts,
      entries?_eq_none (mt texts_unhidden_iff.mp htexts)]
    simp only [List.all_eq_true.mpr hkeys, List.all_eq_true.mpr hkeys', if_true]

/-- Files that differ only where variables are there give the same, as do other variables that are
not of settings. -/
theorem loaded_congr {σ : Type} [Machine σ] {machine otherMachine : σ}
    {path? otherPath? : Option String} {other : List (Value × Value)}
    {otherEnvironment : List (String × String)} (host : HostDefaults)
    (hfile : Supplies machine path? file) (hother : Supplies otherMachine otherPath? other)
    (hvariables : ∀ s : Setting,
      otherEnvironment.lookup s.variableName = environment.lookup s.variableName)
    (hsame : unhidden other environment = unhidden file environment) :
    loaded host otherPath? otherEnvironment otherMachine =
      loaded host path? environment machine := by
  rw [loaded, loaded, hfile.fileEntries_eq, hother.fileEntries_eq]
  change (overrides otherEnvironment).bind (combine host other) =
    (overrides environment).bind (combine host file)
  rw [overrides_congr hvariables]
  cases hgiven : overrides environment with
  | error fault => rfl
  | ok given =>
      obtain ⟨hparse, rfl⟩ := overrides_eq_ok_iff.mp hgiven
      change combine host other _ = combine host file _
      rw [← combine_unhidden host hparse hother.keys, hsame,
        combine_unhidden host hparse hfile.keys]

end Combine

namespace Act

variable {σ : Type} [Machine σ]

/-- Loading gives settings exactly where the sources allow it, and else a fault of the
configuration. A variable counts more than the file, which then does not matter. -/
theorem loadSettings_precedence {path? : Option String} {file : List (Value × Value)}
    {world : World σ} (hfile : Supplies world.machine path? file) (host : HostDefaults)
    (environment : List (String × String)) :
    (loadSettings host path? environment : Act σ Settings).Yields world fun outcome _ _ =>
      ((∃ settings, outcome = .ok settings) ↔ Loadable file environment) ∧
      (∀ fault, outcome = .error fault → fault.isConfig) ∧
      (∀ settings, outcome = .ok settings → Precedence host file environment settings) ∧
      ∀ {otherPath? : Option String} {other : List (Value × Value)}
        {otherEnvironment : List (String × String)} {otherWorld : World σ},
        Supplies otherWorld.machine otherPath? other →
        (∀ s : Setting,
          otherEnvironment.lookup s.variableName = environment.lookup s.variableName) →
        unhidden other environment = unhidden file environment →
        (loadSettings host otherPath? otherEnvironment : Act σ Settings).Yields otherWorld
          fun otherOutcome _ _ => otherOutcome = outcome := by
  refine (loadSettings_yields host path? environment world).mono ?_
  rintro _ done after rfl
  refine ⟨exists_loaded_iff hfile, fun fault => loaded_reports hfile,
    fun settings => precedence_of_loaded hfile, ?_⟩
  intro otherPath? other otherEnvironment otherWorld hother hvariables hsame
  refine (loadSettings_yields host otherPath? otherEnvironment otherWorld).mono ?_
  rintro _ done after rfl
  exact loaded_congr host hfile hother hvariables hsame

end Act

namespace Rehearsal

def withSettings (text : String) : Rehearsal :=
  (writeFile (.ofString "/settings.yaml") text.toUTF8.toList {}).2

def inSection : String := "deployer:\n  shutdown_timeout: soon\n  host: localhost\n"

def atTop : String := "host: localhost\n"

def textsIn : Except Fault Value → List String
  | .ok (.map [(.text name, .map [(.text key, .text value), (.text other, .text last)])]) =>
    [name, key, value, other, last]
  | .ok (.map [(.text key, .text value)]) => [key, value]
  | _ => []

theorem documentOf_inSection : documentOf "/settings.yaml" inSection.toUTF8.toList =
    .ok (.map [(.text "deployer", .map [(.text "shutdown_timeout", .text "soon"),
      (.text "host", .text "localhost")])]) := by
  have htexts : textsIn (documentOf "/settings.yaml" inSection.toUTF8.toList) =
      ["deployer", "shutdown_timeout", "soon", "host", "localhost"] := by
    decide +kernel
  unfold textsIn at htexts
  split at htexts
  · rename_i hdocument
    cases htexts
    exact hdocument
  · cases htexts
  · cases htexts

theorem documentOf_atTop : documentOf "/settings.yaml" atTop.toUTF8.toList =
    .ok (.map [(.text "host", .text "localhost")]) := by
  have htexts : textsIn (documentOf "/settings.yaml" atTop.toUTF8.toList) =
      ["host", "localhost"] := by
    decide +kernel
  unfold textsIn at htexts
  split at htexts
  · cases htexts
  · rename_i hdocument
    cases htexts
    exact hdocument
  · cases htexts

theorem supplies_inSection : Supplies (withSettings inSection) (some "/settings.yaml")
    [(.text "shutdown_timeout", .text "soon"), (.text "host", .text "localhost")] where
  keys := by decide
  source := Or.inr ⟨_, _, _, rfl, rfl, documentOf_inSection, .inner rfl⟩

theorem supplies_atTop : Supplies (withSettings atTop) (some "/settings.yaml")
    [(.text "host", .text "localhost")] where
  keys := by decide
  source := Or.inr ⟨_, _, _, rfl, rfl, documentOf_atTop, .whole rfl⟩

end Rehearsal

theorem loadable_inSection :
    Loadable [(.text "shutdown_timeout", .text "soon"), (.text "host", .text "localhost")]
      [("APPDECK_SHUTDOWN_TIMEOUT", "5")] where
  parses s text htext := by
    cases s with
    | shutdownTimeout =>
        cases htext
        exact ⟨.int 5, rfl⟩
    | _ => cases htext
  keys := by
    refine List.forall_mem_cons.mpr ⟨⟨.shutdownTimeout, rfl⟩, ?_⟩
    exact List.forall_mem_singleton.mpr ⟨.host, rfl⟩
  values s value hvalue := by
    cases s with
    | shutdownTimeout =>
        cases hvalue
        exact ⟨5, rfl⟩
    | host =>
        cases hvalue
        exact ⟨"localhost", rfl⟩
    | _ => cases hvalue

open Rehearsal in
/-- A variable hides what could not be read, so the file may just as well not say it. -/
theorem loadSettings_precedence_hidden :
    Supplies (withSettings inSection) (some "/settings.yaml")
      [(.text "shutdown_timeout", .text "soon"), (.text "host", .text "localhost")] ∧
    Supplies (withSettings atTop) (some "/settings.yaml") [(.text "host", .text "localhost")] ∧
    (Act.loadSettings ⟨"/tmp", "python"⟩ (some "/settings.yaml")
      [("APPDECK_SHUTDOWN_TIMEOUT", "5")]).Yields { machine := withSettings inSection }
      fun outcome _ _ =>
        (∃ settings, outcome = .ok settings ∧ settings.shutdownTimeout = 5 ∧
          settings.host = "localhost") ∧
        (Act.loadSettings ⟨"/tmp", "python"⟩ (some "/settings.yaml")
          [("APPDECK_SHUTDOWN_TIMEOUT", "5")]).Yields { machine := withSettings atTop }
          fun other _ _ => other = outcome := by
  refine ⟨supplies_inSection, supplies_atTop, ?_⟩
  refine (Act.loadSettings_precedence supplies_inSection ⟨"/tmp", "python"⟩
    [("APPDECK_SHUTDOWN_TIMEOUT", "5")]).mono ?_
  rintro outcome done after ⟨hexists, -, hprecedence, halike⟩
  obtain ⟨settings, hsettings⟩ := hexists.mpr loadable_inSection
  have hsources := hprecedence settings hsettings
  obtain ⟨value, hvalue, hread⟩ := hsources.fromVariable .shutdownTimeout "5" rfl
  have hhost := hsources.fromFile .host (.text "localhost") rfl rfl
  refine ⟨⟨settings, hsettings, ?_, ?_⟩, halike supplies_atTop (fun _ => rfl) rfl⟩
  · cases hvalue
    exact (Except.ok.inj hread).symm
  · exact (Except.ok.inj hhost).symm

end AppSupervisor
