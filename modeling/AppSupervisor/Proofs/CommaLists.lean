import AppSupervisor.Command.Build
import AppSupervisor.Command.Environment
import AppSupervisor.Proofs.Components
import AppSupervisor.Proofs.SettingFields
import AppSupervisor.Proofs.Trimming

/-!
Lists written with commas.

What a text lists is told by a grammar: a blank text lists nothing, an item with blanks around it
lists itself, and a comma puts two lists behind each other. Reading such a text follows the grammar,
so that items written with commas between them are read back. Launcher options, the patterns of the
settings and those of a request are all read in this way.
-/

namespace AppSupervisor

open AppSupervisor.Command AppSupervisor.Files AppSupervisor.Text

structure IsItem (s : String) : Prop where
  nonempty : s ≠ ""
  trimmed : IsTrimmed s
  unsplit : ',' ∉ s.toList

inductive Lists : String → List String → Prop
  | blank {s : String} (hs : isBlankText s) : Lists s []
  | item {s x : String} (hx : IsItem x) (hs : IsPadded s x) : Lists s [x]
  | comma {s t : String} {xs ys : List String} (hs : Lists s xs) (ht : Lists t ys) :
      Lists (s ++ "," ++ t) (xs ++ ys)

/-! ### Pieces between commas -/

theorem Files.cut_ne_nil (sep : Char) (cs : List Char) : cut sep cs ≠ [] := by
  cases cs with
  | nil => simp [cut]
  | cons c rest =>
      rw [cut]
      split
      · simp
      · split <;> simp

theorem Files.cut_append (sep : Char) (front back : List Char) :
    cut sep (front ++ sep :: back) = cut sep front ++ cut sep back := by
  induction front with
  | nil => simp [cut]
  | cons c rest ih =>
      rw [List.cons_append, cut, cut, ih]
      split
      · rfl
      · cases hcut : cut sep rest with
        | nil => exact absurd hcut (cut_ne_nil sep rest)
        | cons part parts => rfl

theorem splitList_append (s t : String) :
    splitList (s ++ "," ++ t) = splitList s ++ splitList t := by
  have hchars : (s ++ "," ++ t).toList = s.toList ++ ',' :: t.toList := by
    simp [String.toList_append]
  simp only [splitList, pieces, hchars, cut_append, List.map_append, List.filter_append]

theorem splitList_of_not_mem {s : String} (h : ',' ∉ s.toList) :
    splitList s = if trim s = "" then [] else [trim s] := by
  rw [splitList, pieces, cut_of_not_mem h, List.map_singleton, String.ofList_toList]
  by_cases hempty : trim s = "" <;> simp [hempty]

theorem comma_not_mem_of_blank {s : String} (h : isBlankText s) : ',' ∉ s.toList := by
  intro hmem
  have hcomma : isBlank ',' = false := by decide
  rw [isBlankText_iff.mp h ',' hmem] at hcomma
  contradiction

theorem Text.IsPadded.comma_not_mem {s x : String} (hs : IsPadded s x) (hx : ',' ∉ x.toList) :
    ',' ∉ s.toList := by
  obtain ⟨before, after, hbefore, hafter, rfl⟩ := hs
  simp [String.toList_append, comma_not_mem_of_blank hbefore, hx, comma_not_mem_of_blank hafter]

/-! ### Reading what is listed -/

theorem Lists.splitList_eq {s : String} {xs : List String} (h : Lists s xs) :
    splitList s = xs := by
  induction h with
  | blank hs =>
      rw [splitList_of_not_mem (comma_not_mem_of_blank hs), if_pos ((trim_eq_empty_iff _).mpr hs)]
  | item hx hs =>
      rw [splitList_of_not_mem (hs.comma_not_mem hx.unsplit), hs.trim_eq hx.trimmed,
        if_neg hx.nonempty]
  | comma _ _ ihs iht => rw [splitList_append, ihs, iht]

theorem lists_of_not_mem {s : String} (h : ',' ∉ s.toList) : Lists s (splitList s) := by
  rw [splitList_of_not_mem h]
  by_cases hempty : trim s = ""
  · rw [if_pos hempty]
    exact .blank ((trim_eq_empty_iff s).mp hempty)
  · rw [if_neg hempty]
    obtain ⟨before, after, hbefore, hafter, hs⟩ := isPadded_trim s
    refine .item ⟨hempty, trim_isTrimmed s, fun hmem => h ?_⟩ (isPadded_trim s)
    rw [hs]
    simp [String.toList_append, hmem]

/-- Splitting at commas follows the grammar, whatever the text. -/
theorem lists_splitList (s : String) : Lists s (splitList s) := by
  -- on the text behind the first comma, which is shorter
  induction hlength : s.toList.length using Nat.strong_induction_on generalizing s with
  | _ length ih =>
      by_cases hcomma : ',' ∈ s.toList
      · obtain ⟨front, back, hsplit, hfront⟩ := List.eq_append_cons_of_mem hcomma
        obtain rfl : s = String.ofList front ++ "," ++ String.ofList back := by
          rw [← String.toList_inj, hsplit]
          simp [String.toList_append]
        rw [splitList_append]
        refine .comma (lists_of_not_mem (by simpa using hfront)) (ih _ ?_ _ rfl)
        simp only [← hlength, hsplit, String.toList_ofList, List.length_append, List.length_cons]
        omega
      · exact lists_of_not_mem hcomma

theorem lists_iff {s : String} {xs : List String} : Lists s xs ↔ splitList s = xs := by
  constructor
  · exact Lists.splitList_eq
  · rintro rfl
    exact lists_splitList s

theorem Lists.isItem {s : String} {xs : List String} (h : Lists s xs) : ∀ x ∈ xs, IsItem x := by
  induction h with
  | blank _ => simp
  | item hx _ => simpa using hx
  | comma _ _ ihs iht => exact List.forall_mem_append.mpr ⟨ihs, iht⟩

theorem IsItem.lists {x : String} (hx : IsItem x) : Lists x [x] :=
  .item hx ⟨"", "", rfl, rfl, by simp⟩

/-- Items with commas between them are a text that lists them. -/
theorem lists_intercalate {xs : List String} (h : ∀ x ∈ xs, IsItem x) :
    Lists (",".intercalate xs) xs := by
  induction xs with
  | nil => exact .blank rfl
  | cons x rest ih =>
      have hx : Lists x [x] := (h x List.mem_cons_self).lists
      have hrest : ∀ y ∈ rest, IsItem y := fun y hy => h y (List.mem_cons_of_mem x hy)
      cases rest with
      | nil => exact String.intercalate_singleton ▸ hx
      | cons y more =>
          rw [String.intercalate_cons_cons]
          exact .comma hx (ih hrest)

/-! ### Where lists are read -/

/-- Wherever a text is read as a list, these are the items: as launcher options, as the patterns of
settings, and as the patterns of a request, which go behind those of its settings. -/
structure IsReadAs (s : String) (xs : List String) : Prop where
  options : ∀ (settings : Settings) (request : Request) (artifact : Path),
    (request.deploymentProperties.lookup launcherOptionsProperty).getD "" = s →
    build settings request artifact = (target request.deploymentProperties artifact).map
      fun target => settings.launcher :: xs ++ target ++ request.arguments
  accepted : ∀ host, ∃ settings,
    Settings.ofEntries host [("env_vars_to_inherit", .text s)] = .ok settings
  setting : ∀ host entries settings, entries.lookup "env_vars_to_inherit" = some (.text s) →
    Settings.ofEntries host entries = .ok settings → settings.patterns = xs
  request : ∀ (settings : Settings) (environment : Variables) (id : String) (request : Request),
    (request.deploymentProperties.lookup patternsProperty).getD "" = s →
    environmentFor settings environment id request =
      (inherited environment (settings.patterns ++ xs)).map fun kept =>
        putAll (putAll kept request.definition.properties) (deploymentVariables id)

theorem patterns_accepted (host : HostDefaults) (s : String) : ∃ settings,
    Settings.ofEntries host [("env_vars_to_inherit", .text s)] = .ok settings := by
  have hmakes : ∃ settings, Makes host [(Setting.patterns.name, .text s)] settings := by
    rw [exists_makes_iff]
    constructor
    · intro key hkey
      rw [List.mem_singleton.mp hkey]
      exact (by decide : Setting.patterns.name ∈ Settings.names)
    · intro setting value hvalue
      by_cases hsetting : setting = .patterns
      · subst hsetting
        obtain rfl : Value.text s = value := by simpa using hvalue
        exact ⟨splitList s, rfl⟩
      · have hname : (setting.name == Setting.patterns.name) = false :=
          beq_eq_false_iff_ne.mpr (mt Setting.name_injective hsetting)
        simp [List.lookup_cons, hname] at hvalue
  obtain ⟨settings, hsettings⟩ := hmakes
  exact ⟨settings, ofEntries_eq_ok_iff.mpr hsettings⟩

theorem isReadAs_splitList (s : String) : IsReadAs s (splitList s) where
  options settings request artifact hs := by
    rw [build, hs]
    cases target request.deploymentProperties artifact <;> rfl
  accepted host := patterns_accepted host s
  setting host entries settings hs hsettings := by
    have hholds := (ofEntries_eq_ok_iff.mp hsettings).holds .patterns
    rw [Setting.name, hs] at hholds
    exact (Except.ok.inj hholds).symm
  request settings environment id request hs := by
    rw [environmentFor, patternsFor, hs]
    cases inherited environment (settings.patterns ++ splitList s) <;> rfl

/-- Reading a text gives exactly what it lists, wherever it is read. The items are not empty,
neither begin nor end with a blank and have no comma, and such items with commas between them are
read back. So what was read is read again from its items with commas between them. -/
theorem comma_lists_canonical (s : String) :
    (∀ xs, Lists s xs ↔ splitList s = xs) ∧ IsReadAs s (splitList s) ∧
      (∀ x ∈ splitList s, IsItem x) ∧
      (∀ xs : List String, (∀ x ∈ xs, IsItem x) → splitList (",".intercalate xs) = xs) ∧
      splitList (",".intercalate (splitList s)) = splitList s := by
  have hitems : ∀ x ∈ splitList s, IsItem x := (lists_splitList s).isItem
  have hback (xs : List String) (h : ∀ x ∈ xs, IsItem x) : splitList (",".intercalate xs) = xs :=
    (lists_intercalate h).splitList_eq
  exact ⟨fun _ => lists_iff, isReadAs_splitList s, hitems, hback, hback _ hitems⟩

def spacedList : String := " PATH,,\u3000LC_.*\x1f, \u00a0,"

def listingApp : Request where
  definition := { name := "app" }
  resource := .file (.ofString "/app.py")
  deploymentProperties := [(launcherOptionsProperty, spacedList), (patternsProperty, spacedList)]

theorem comma_lists_canonical_spaced :
    Lists spacedList ["PATH", "LC_.*"] ∧ (∀ x ∈ ["PATH", "LC_.*"], IsItem x) ∧
      splitList "PATH,LC_.*" = ["PATH", "LC_.*"] ∧
      ∃ settings,
        Settings.ofEntries ⟨"/tmp", "python"⟩ [("env_vars_to_inherit", .text spacedList)] =
          .ok settings ∧
        settings.patterns = ["PATH", "LC_.*"] ∧
        build settings listingApp (.ofString "/app.py") =
          .ok (settings.launcher :: ["PATH", "LC_.*"] ++ ["/app.py"]) ∧
        (environmentFor settings [("PATH", "/bin"), ("HOME", "/"), ("LC_ALL", "C")] "app"
          listingApp).toOption =
            some (putAll [("PATH", "/bin"), ("LC_ALL", "C")] (deploymentVariables "app")) := by
  have hread : splitList spacedList = ["PATH", "LC_.*"] := by decide +kernel
  obtain ⟨hlists, hreadAs, hitems, hback, -⟩ := comma_lists_canonical spacedList
  rw [hread] at hreadAs hitems
  obtain ⟨settings, hsettings⟩ := hreadAs.accepted ⟨"/tmp", "python"⟩
  have hpatterns : settings.patterns = ["PATH", "LC_.*"] :=
    hreadAs.setting _ _ settings rfl hsettings
  refine ⟨(hlists _).mpr hread, hitems, hback ["PATH", "LC_.*"] hitems, settings, hsettings,
    hpatterns, ?_, ?_⟩
  · rw [hreadAs.options settings listingApp _ rfl]
    rfl
  · rw [hreadAs.request settings _ _ listingApp rfl, hpatterns]
    decide +kernel

end AppSupervisor
