import AppSupervisor.Proofs.Yields
import AppSupervisor.Rehearsal.Machine
import AppSupervisor.Settings.Load

/-!
How loading settings may end.

A caller expects settings or a fault of the configuration, which says what to correct. Most of what
can be wrong with a file or a variable is reported so. The rest are mishaps: the file is not refused
by the operating system but cannot be opened all the same, its bytes are no text, a scalar of it
cannot be made a value, or a key is no text. Loading ends with another fault exactly where one of
these occurs.
-/

namespace AppSupervisor

open AppSupervisor.Files AppSupervisor.Text

variable {σ α β : Type}

def Fault.isConfig : Fault → Bool
  | .config _ _ => true
  | _ => false

def Document.Fault.hasPlace : Document.Fault → Bool
  | .complaint _ | .unprintable _ _ => true
  | _ => false

/-- An outcome is a fault, and not one of the configuration. -/
def Escapes (outcome : Except Fault α) (fault : Fault) : Prop :=
  outcome = .error fault ∧ fault.isConfig = false

theorem escapes_bind {outcome : Except Fault α} {next : α → Except Fault β} {fault : Fault} :
    Escapes (outcome.bind next) fault ↔
      Escapes outcome fault ∨ ∃ a, outcome = .ok a ∧ Escapes (next a) fault := by
  cases outcome <;> simp [Escapes, Except.bind]

instance decidableFaultKind (outcome : Except Fault α) (kind : Fault → Bool) :
    Decidable (∀ fault, outcome = .error fault → kind fault) :=
  match outcome with
  | .ok _ => isTrue fun _ hfault => nomatch hfault
  | .error fault => decidable_of_iff (kind fault = true)
      ⟨fun hkind _ hfault => Except.error.inj hfault ▸ hkind, fun hall => hall fault rfl⟩

theorem exists_of_mapM_error {f : α → Except Fault β} {items : List α} {fault : Fault}
    (h : items.mapM f = .error fault) : ∃ a ∈ items, f a = .error fault := by
  induction items with
  | nil => cases h
  | cons a rest ih =>
      rw [List.mapM_cons] at h
      cases hfirst : f a with
      | error cause =>
          rw [hfirst] at h
          cases h
          exact ⟨a, by simp, hfirst⟩
      | ok b =>
          rw [hfirst] at h
          cases hrest : rest.mapM f with
          | error cause =>
              rw [hrest] at h
              cases h
              obtain ⟨other, hother, hfault⟩ := ih hrest
              exact ⟨other, List.mem_cons_of_mem a hother, hfault⟩
          | ok bs =>
              rw [hrest] at h
              cases h

theorem mapM_eq_ok_iff {f : α → Except Fault β} {items : List α} {found : List β} :
    items.mapM f = .ok found ↔
      (∀ a ∈ items, ∃ b, f a = .ok b) ∧ found = items.filterMap fun a => (f a).toOption := by
  induction items generalizing found with
  | nil =>
      constructor
      · rintro ⟨⟩
        exact ⟨List.forall_mem_nil _, rfl⟩
      · rintro ⟨-, rfl⟩
        rfl
  | cons a rest ih =>
      rw [List.mapM_cons, List.forall_mem_cons]
      cases hfirst : f a with
      | error fault =>
          constructor
          · rintro ⟨⟩
          · rintro ⟨⟨⟨_, ⟨⟩⟩, -⟩, -⟩
      | ok b =>
          have hfound : (a :: rest).filterMap (fun a => (f a).toOption) =
              b :: rest.filterMap fun a => (f a).toOption :=
            List.filterMap_cons_some (by rw [hfirst]; rfl)
          rw [hfound]
          cases hrest : rest.mapM f with
          | error fault =>
              constructor
              · rintro ⟨⟩
              · rintro ⟨⟨-, hall⟩, -⟩
                cases hrest.symm.trans (ih.mpr ⟨hall, rfl⟩)
          | ok others =>
              obtain ⟨hall, rfl⟩ := ih.mp hrest
              constructor
              · rintro ⟨⟩
                exact ⟨⟨⟨b, rfl⟩, hall⟩, rfl⟩
              · rintro ⟨-, rfl⟩
                rfl

namespace Settings

/-- Why the bytes of a file are no document, where that is not reported as such. -/
inductive Unreadable (bytes : List UInt8) : Accident → Prop
  | undecodable {fault : Utf8Fault} (h : decodeUtf8 bytes = .error fault) :
      Unreadable bytes (.undecodable fault)
  | unmakeable {cs : List Char} {fault : Document.Fault} (hdecoded : decodeUtf8 bytes = .ok cs)
      (hparsed : Document.parse (unifyNewlines cs) = .error fault)
      (hplace : fault.hasPlace = false) : Unreadable bytes (.document fault)

def openingFault (path : String) : Fault → Fault
  | .os refusal => .config "config_path" (.unreadable path refusal)
  | fault => fault

def entriesIn (path : String) (bytes : List UInt8) : Except Fault (List (Value × Value)) :=
  (documentOf path bytes).bind (sectionOf path)

/-! ### The stages -/

theorem openingFault_of_ne {path : String} {fault : Fault} (h : ∀ refusal, fault ≠ .os refusal) :
    openingFault path fault = fault := by
  unfold openingFault
  split
  · exact absurd rfl (h _)
  · rfl

theorem opening_escapes_iff {path : String} {outcome : Except Fault α} {fault : Fault} :
    Escapes (outcome.mapError (openingFault path)) fault ↔
      outcome = .error fault ∧ (∀ refusal, fault ≠ .os refusal) ∧ fault.isConfig = false := by
  cases outcome with
  | ok a =>
      change Escapes (Except.ok a) fault ↔ _
      simp [Escapes]
  | error cause =>
      by_cases hrefused : ∀ refusal, cause ≠ .os refusal
      · change Escapes (Except.error (openingFault path cause)) fault ↔ _
        rw [openingFault_of_ne hrefused]
        constructor
        · rintro ⟨hfault, hconfig⟩
          cases hfault
          exact ⟨rfl, hrefused, hconfig⟩
        · rintro ⟨hfault, -, hconfig⟩
          exact ⟨hfault, hconfig⟩
      · obtain ⟨refusal, hrefusal⟩ := Classical.not_forall.mp hrefused
        obtain rfl := Classical.not_not.mp hrefusal
        constructor
        · rintro ⟨hfault, hconfig⟩
          cases hfault
          contradiction
        · rintro ⟨hfault, hother, -⟩
          cases hfault
          exact absurd rfl (hother refusal)

theorem documentOf_escapes_iff {path : String} {bytes : List UInt8} {fault : Fault} :
    Escapes (documentOf path bytes) fault ↔
      ∃ accident, fault = .accident accident ∧ Unreadable bytes accident := by
  constructor
  · rintro ⟨hfault, hconfig⟩
    unfold documentOf at hfault
    split at hfault
    · rename_i cause hdecoded
      cases hfault
      exact ⟨_, rfl, .undecodable hdecoded⟩
    · rename_i cs hdecoded
      dsimp only at hfault
      split at hfault
      · contradiction
      · cases hfault
        contradiction
      · cases hfault
        contradiction
      · rename_i cause hcomplaint hunprintable hparsed
        cases hfault
        refine ⟨_, rfl, .unmakeable hdecoded hparsed ?_⟩
        cases cause <;> simp_all [Document.Fault.hasPlace]
  · rintro ⟨accident, rfl, hbytes⟩
    cases hbytes with
    | undecodable hdecoded => exact ⟨by simp [documentOf, hdecoded], rfl⟩
    | @unmakeable cs cause hdecoded hparsed hplace =>
        refine ⟨?_, rfl⟩
        cases cause <;> simp_all [documentOf, Document.Fault.hasPlace]

theorem sectionOf_reports {path : String} {document : Value} {fault : Fault}
    (h : sectionOf path document = .error fault) : fault.isConfig := by
  unfold sectionOf at h
  dsimp only at h
  split at h
  · contradiction
  · split at h
    · contradiction
    · contradiction
    · contradiction
    · cases h
      rfl
  · cases h
    rfl

theorem entriesIn_escapes_iff {path : String} {bytes : List UInt8} {fault : Fault} :
    Escapes (entriesIn path bytes) fault ↔
      ∃ accident, fault = .accident accident ∧ Unreadable bytes accident := by
  rw [entriesIn, escapes_bind, documentOf_escapes_iff]
  constructor
  · rintro (hbytes | ⟨document, -, hfault, hconfig⟩)
    · exact hbytes
    · simp [sectionOf_reports hfault] at hconfig
  · exact Or.inl

theorem overrides_reports {environment : List (String × String)} {fault : Fault}
    (h : overrides environment = .error fault) : fault.isConfig := by
  obtain ⟨⟨name, variable_⟩, -, hvalue⟩ := exists_of_mapM_error h
  dsimp only at hvalue
  split at hvalue
  · contradiction
  · cases hvalue
    rfl

theorem entries?_eq_some_iff {file : List (Value × Value)} {entries : Entries} :
    Value.entries? file = some entries ↔
      (∀ entry ∈ file, ∃ key, entry.1 = .text key) ∧ entries = (Value.map file).entries := by
  induction file generalizing entries with
  | nil =>
      constructor
      · rintro ⟨⟩
        exact ⟨List.forall_mem_nil _, rfl⟩
      · rintro ⟨-, rfl⟩
        rfl
  | cons entry rest ih =>
      rw [List.forall_mem_cons]
      obtain ⟨key, value⟩ := entry
      cases key with
      | text key =>
          have hentries : (Value.map ((.text key, value) :: rest)).entries =
              (key, value) :: (Value.map rest).entries := rfl
          rw [hentries, Value.entries?, Option.map_eq_map, Option.map_eq_some_iff]
          constructor
          · rintro ⟨others, hothers, rfl⟩
            obtain ⟨hkeys, rfl⟩ := ih.mp hothers
            exact ⟨⟨⟨key, rfl⟩, hkeys⟩, rfl⟩
          · rintro ⟨⟨-, hkeys⟩, rfl⟩
            exact ⟨_, ih.mpr ⟨hkeys, rfl⟩, rfl⟩
      | _ =>
          constructor
          · rintro ⟨⟩
          · rintro ⟨⟨⟨_, ⟨⟩⟩, -⟩, -⟩

theorem entries?_eq_none {file : List (Value × Value)}
    (h : ¬∀ entry ∈ file, ∃ key, entry.1 = .text key) : Value.entries? file = none :=
  Option.eq_none_iff_forall_ne_some.mpr fun _ hentries => h (entries?_eq_some_iff.mp hentries).1

/-- Only a key that is no text escapes when the entries of a file are joined with those of the
variables. -/
theorem combine_escapes_iff {host : HostDefaults} {file : List (Value × Value)}
    {overridden : Entries} {fault : Fault} :
    Escapes (combine host file overridden) fault ↔
      fault = .accident .keyNotText ∧ ∃ entry ∈ file, entry.1.isText = false := by
  unfold combine
  constructor
  · rintro ⟨hfault, hconfig⟩
    split at hfault
    · split at hfault
      · cases hfault
        contradiction
      · rename_i hkey
        cases hfault
        exact ⟨rfl, by simpa using hkey⟩
    · split at hfault
      · contradiction
      · cases hfault
        contradiction
  · rintro ⟨rfl, hkey⟩
    have hnone : Value.entries? file = none := by
      refine entries?_eq_none fun htexts => ?_
      obtain ⟨entry, hentry, hother⟩ := hkey
      obtain ⟨key, htext⟩ := htexts entry hentry
      rw [htext] at hother
      cases hother
    rw [hnone]
    have hall : file.all (·.1.isText) = false := by simpa using hkey
    simp [Escapes, hall, Fault.isConfig]

/-! ### Files of a machine -/

variable [Machine σ]

def bytesOf (path : Path) (machine : σ) : Except Fault (List UInt8) :=
  match Machine.openFile path machine with
  | (.ok file, opened) => .ok (Machine.readFrom file 0 opened)
  | (.error fault, _) => .error fault

inductive Mishap (environment : List (String × String)) (machine : σ) : Option String → Fault → Prop
  | unopened {given : String} {fault : Fault}
      (hopen : bytesOf (.ofString given) machine = .error fault)
      (hrefused : ∀ refusal, fault ≠ .os refusal) (hconfig : fault.isConfig = false) :
      Mishap environment machine (some given) fault
  | unreadable {given : String} {bytes : List UInt8} {accident : Accident}
      (hopen : bytesOf (.ofString given) machine = .ok bytes)
      (hbytes : Unreadable bytes accident) :
      Mishap environment machine (some given) (.accident accident)
  | keyNotText {given : String} {bytes : List UInt8} {entries : List (Value × Value)}
      {overridden : Entries} (hopen : bytesOf (.ofString given) machine = .ok bytes)
      (hentries : entriesIn (Path.ofString given).toString bytes = .ok entries)
      (hvariables : overrides environment = .ok overridden)
      (hkey : ∃ entry ∈ entries, entry.1.isText = false) :
      Mishap environment machine (some given) (.accident .keyNotText)

def fileEntries (path? : Option String) (machine : σ) : Except Fault (List (Value × Value)) :=
  match path? with
  | none => .ok []
  | some given =>
    let path := Path.ofString given
    ((bytesOf path machine).mapError (openingFault path.toString)).bind (entriesIn path.toString)

def loaded (host : HostDefaults) (path? : Option String) (environment : List (String × String))
    (machine : σ) : Except Fault Settings :=
  (fileEntries path? machine).bind fun file => (overrides environment).bind (combine host file)

/-- Loading settings fails in another way exactly at a mishap with the file. -/
theorem loaded_escapes_iff {host : HostDefaults} {path? : Option String}
    {environment : List (String × String)} {machine : σ} {fault : Fault} :
    Escapes (loaded host path? environment machine) fault ↔
      Mishap environment machine path? fault := by
  rw [loaded, escapes_bind]
  simp only [escapes_bind, combine_escapes_iff]
  have hvariables : ¬Escapes (overrides environment) fault := by
    rintro ⟨hfault, hconfig⟩
    simp [overrides_reports hfault] at hconfig
  cases path? with
  | none =>
      -- no entries from a file, so no key that is no text
      constructor
      · rintro (⟨hfault, -⟩ | ⟨file, hfile, hescapes | ⟨overridden, -, -, entry, hentry, -⟩⟩)
        · contradiction
        · exact absurd hescapes hvariables
        · cases hfile
          contradiction
      · intro hmishap
        cases hmishap
  | some given =>
      rw [fileEntries, escapes_bind, opening_escapes_iff]
      simp only [entriesIn_escapes_iff]
      constructor
      · cases hopen : bytesOf (Path.ofString given) machine with
        | error cause =>
            rintro ((⟨hfault, hrefused, hconfig⟩ | ⟨_, hbytes, -⟩) | ⟨_, hentries, -⟩)
            · cases hfault
              exact .unopened hopen hrefused hconfig
            · cases hbytes
            · cases hentries
        | ok bytes =>
            rintro ((⟨hfault, -⟩ | ⟨_, hsame, accident, rfl, hbytes⟩) |
              ⟨entries, hentries, hescapes | ⟨overridden, hgiven, rfl, hkey⟩⟩)
            · cases hfault
            · cases hsame
              exact .unreadable hopen hbytes
            · exact absurd hescapes hvariables
            · exact .keyNotText hopen hentries hgiven hkey
      · intro hmishap
        cases hmishap with
        | unopened hopen hrefused hconfig => exact Or.inl (Or.inl ⟨hopen, hrefused, hconfig⟩)
        | @unreadable _ bytes accident hopen hbytes =>
            exact Or.inl (Or.inr ⟨bytes, by rw [hopen]; rfl, accident, rfl, hbytes⟩)
        | @keyNotText _ bytes entries overridden hopen hentries hgiven hkey =>
            refine Or.inr ⟨entries, ?_, Or.inr ⟨overridden, hgiven, rfl, hkey⟩⟩
            rw [hopen]
            exact hentries

end Settings

namespace Act

open AppSupervisor.Settings

variable [Machine σ]

theorem readFile_yields (path : Path) (world : World σ) :
    (readFile path : Act σ (List UInt8)).Yields world fun outcome _ _ =>
      outcome = bytesOf path world.machine := by
  unfold bytesOf
  refine yields_bind ?_
  refine yields_tryMachine (fun file machine hopen => ?_) fun fault machine hopen => ?_
  · rw [hopen]
    exact yields_bind_get (yields_pure rfl)
  · rw [hopen]

theorem readSettingsFile_yields (path : Path) (world : World σ) :
    (readSettingsFile path : Act σ (List (Value × Value))).Yields world fun outcome _ _ =>
      outcome = ((bytesOf path world.machine).mapError (openingFault path.toString)).bind
        (entriesIn path.toString) := by
  refine yields_bind_attempt ((readFile_yields path world).mono ?_)
  rintro _ done between rfl
  cases bytesOf path world.machine with
  | ok bytes =>
      change Act.Yields _ between fun outcome _ _ => outcome = entriesIn path.toString bytes
      refine yields_bind (yields_ofExcept (fun document hdocument => ?_) fun fault hfault => ?_)
      · refine yields_ofExcept (fun entries hentries => ?_) fun fault hfault => ?_
        · simp [Except.bind, entriesIn, hdocument, hentries]
        · simp [Except.bind, entriesIn, hdocument, hfault]
      · simp [Except.bind, entriesIn, hfault]
  | error cause =>
      split
      · contradiction
      · rename_i fault hfault
        cases hfault
        exact yields_throw rfl
      · rename_i fault hrefused hfault
        cases hfault
        have hother : ∀ refusal, cause ≠ .os refusal := by
          rintro refusal rfl
          exact hrefused refusal rfl
        refine yields_throw ?_
        change _ = Except.error (openingFault path.toString cause)
        rw [openingFault_of_ne hother]

theorem settingsEntries_yields (path? : Option String) (world : World σ) :
    (settingsEntries path? : Act σ (List (Value × Value))).Yields world fun outcome _ _ =>
      outcome = fileEntries path? world.machine := by
  cases path? with
  | none => exact yields_pure rfl
  | some given =>
      refine yields_bind ((readSettingsFile_yields (.ofString given) world).mono ?_)
      rintro outcome done between houtcome
      cases outcome with
      | error fault => exact houtcome
      | ok entries => exact yields_bind_note (yields_pure houtcome)

theorem loadSettings_yields (host : HostDefaults) (path? : Option String)
    (environment : List (String × String)) (world : World σ) :
    (loadSettings host path? environment : Act σ Settings).Yields world fun outcome _ _ =>
      outcome = loaded host path? environment world.machine := by
  have hcombine : ∀ (file : List (Value × Value)) (given : Entries) (between : World σ),
      (ofExcept (combine host file given) : Act σ Settings).Yields between fun outcome _ _ =>
        outcome = combine host file given := by
    intro file given between
    exact yields_ofExcept (fun _ hok => hok.symm) fun _ hfault => hfault.symm
  refine yields_bind ((settingsEntries_yields path? world).mono ?_)
  rintro _ done between rfl
  unfold loaded
  cases fileEntries path? world.machine with
  | error fault => rfl
  | ok file =>
      refine yields_bind (yields_ofExcept (fun given hgiven => ?_) fun fault hfault => ?_)
      · simp only [Except.bind, hgiven]
        split
        · exact yields_bind_note (hcombine file given _)
        · exact hcombine file given _
      · simp [Except.bind, hfault]

/-- Loading gives settings or a fault of the configuration exactly where no mishap occurs. Where one
does, loading ends with the fault of it. -/
theorem loadSettings_explains_iff (host : HostDefaults) (path? : Option String)
    (environment : List (String × String)) (world : World σ) :
    (loadSettings host path? environment : Act σ Settings).Yields world fun outcome _ _ =>
      ((∀ fault, outcome = .error fault → fault.isConfig) ↔
        ∀ fault, ¬Mishap environment world.machine path? fault) ∧
      ∀ fault, Mishap environment world.machine path? fault → outcome = .error fault := by
  refine (loadSettings_yields host path? environment world).mono ?_
  rintro _ done after rfl
  have hescapes : ∀ fault, Escapes (loaded host path? environment world.machine) fault ↔
      Mishap environment world.machine path? fault := fun _ => loaded_escapes_iff
  refine ⟨⟨fun hexplained fault hmishap => ?_, fun hnone fault hfault => ?_⟩, ?_⟩
  · obtain ⟨hfault, hconfig⟩ := (hescapes fault).mpr hmishap
    simp [hexplained fault hfault] at hconfig
  · cases hconfig : fault.isConfig with
    | true => rfl
    | false => exact absurd ((hescapes fault).mp ⟨hfault, hconfig⟩) (hnone fault)
  · exact fun fault hmishap => ((hescapes fault).mpr hmishap).1

end Act

open Rehearsal

def Rehearsal.withBrokenFile : Rehearsal :=
  (writeFile (.ofString "/settings.yaml") [0xff] {}).2

/-- Bytes that are no text are not reported as a fault of the configuration. -/
theorem loadSettings_undecodable_escapes :
    ¬(Act.loadSettings ⟨"/tmp", "python"⟩ (some "/settings.yaml") []).Yields
      { machine := withBrokenFile } fun outcome _ _ =>
        ∀ fault, outcome = .error fault → fault.isConfig := by
  rintro ⟨done, -, hexplained⟩
  have hescapes : ¬∀ fault, ((Act.loadSettings ⟨"/tmp", "python"⟩ (some "/settings.yaml")
      []).perform { machine := withBrokenFile }).1 = .error fault → fault.isConfig := by
    decide +kernel
  exact hescapes hexplained

end AppSupervisor
