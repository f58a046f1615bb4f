import AppSupervisor.Proofs.RunProtocol
import AppSupervisor.Proofs.Trimming
import AppSupervisor.Proofs.Variables
import Mathlib.Data.List.Induction

/-!
Options that set keys, read and written.

A text sets a key if an equals sign follows something that is not blank. The first text that does
not is the one that is refused; else the last text that sets a key counts. So a map that is written
entry by entry is read back, in whatever order the entries stand. The maps that a run reads are the
ones in its request.
-/

namespace AppSupervisor

open AppSupervisor.Command AppSupervisor.CommandLine AppSupervisor.Text

namespace CommandLine

def Sets (s key value : String) : Prop :=
  ∃ written, s = written ++ "=" ++ value ∧ '=' ∉ written.toList ∧ trim written = key ∧ key ≠ ""

def IsMalformed (s : String) : Prop :=
  '=' ∉ s.toList ∨
    ∃ written value, s = written ++ "=" ++ value ∧ '=' ∉ written.toList ∧ isBlankText written

def SetsLast (values : List String) (key value : String) : Prop :=
  ∃ before s after, values = before ++ s :: after ∧ Sets s key value ∧
    ∀ later ∈ after, ∀ other, ¬Sets later key other

def writeEntry (entry : String × String) : String :=
  entry.1 ++ "=" ++ entry.2

structure IsPlainKey (key : String) : Prop where
  nonempty : key ≠ ""
  stripped : trim key = key
  unsplit : '=' ∉ key.toList

/-! ### One text -/

theorem toList_written (written value : String) :
    (written ++ "=" ++ value).toList = written.toList ++ '=' :: value.toList := by
  simp [String.toList_append]

theorem takeWhile_written {written : List Char} (h : '=' ∉ written) (value : List Char) :
    (written ++ '=' :: value).takeWhile (· != '=') = written := by
  have hplain : ∀ c ∈ written, (c != '=') = true := by
    intro c hc
    have hne : c ≠ '=' := fun heq => h (heq ▸ hc)
    simpa using hne
  rw [List.takeWhile_append_of_pos hplain, List.takeWhile_cons_of_neg (by simp), List.append_nil]

theorem cutEquals?_written {written : String} (h : '=' ∉ written.toList) (value : String) :
    cutEquals? (written ++ "=" ++ value) = some (written, value) := by
  have hlength : (written.toList.length == (written ++ "=" ++ value).length) = false := by
    rw [← String.length_toList, toList_written, List.length_append, List.length_cons,
      beq_eq_false_iff_ne]
    omega
  simp only [cutEquals?, toList_written, takeWhile_written h, hlength, Bool.false_eq_true, if_false]
  rw [← List.drop_drop, List.drop_left, List.drop_one, List.tail_cons, String.ofList_toList,
    String.ofList_toList]

theorem cutEquals?_eq_none {s : String} (h : '=' ∉ s.toList) : cutEquals? s = none := by
  have hall : s.toList.takeWhile (· != '=') = s.toList := by
    rw [List.takeWhile_eq_self_iff]
    intro c hc
    have hne : c ≠ '=' := fun heq => h (heq ▸ hc)
    simpa using hne
  simp [cutEquals?, hall, String.length_toList]

theorem exists_written {s : String} (h : '=' ∈ s.toList) :
    ∃ written value, s = written ++ "=" ++ value ∧ '=' ∉ written.toList := by
  obtain ⟨before, after, hsplit, hfirst⟩ := List.eq_append_cons_of_mem h
  refine ⟨String.ofList before, String.ofList after, ?_, by simpa using hfirst⟩
  apply String.ext
  rw [toList_written, String.toList_ofList, String.toList_ofList]
  exact hsplit

theorem keyValue?_written {written : String} (h : '=' ∉ written.toList) (value : String) :
    keyValue? (written ++ "=" ++ value) =
      if isBlankText written then none else some (trim written, value) := by
  have hblank : (trim written).isEmpty = isBlankText written := by
    rw [Bool.eq_iff_iff, String.isEmpty_iff, trim_eq_empty_iff]
  simp only [keyValue?, cutEquals?_written h, hblank]

theorem written_inj {first second value other : String} (hfirst : '=' ∉ first.toList)
    (hsecond : '=' ∉ second.toList) (h : first ++ "=" ++ value = second ++ "=" ++ other) :
    first = second ∧ value = other := by
  have hcut := cutEquals?_written hsecond other
  rw [← h, cutEquals?_written hfirst, Option.some.injEq, Prod.mk.injEq] at hcut
  exact hcut

theorem keyValue?_eq_none_iff {s : String} : keyValue? s = none ↔ IsMalformed s := by
  by_cases hequals : '=' ∈ s.toList
  · obtain ⟨written, value, rfl, hwritten⟩ := exists_written hequals
    rw [keyValue?_written hwritten]
    constructor
    · intro hnone
      by_cases hblank : isBlankText written
      · exact Or.inr ⟨written, value, rfl, hwritten, hblank⟩
      · rw [if_neg hblank] at hnone
        contradiction
    · rintro (hmissing | ⟨other, _, hsame, hother, hblank⟩)
      · exact absurd hequals hmissing
      · rw [(written_inj hwritten hother hsame).1, if_pos hblank]
  · exact iff_of_true (by rw [keyValue?, cutEquals?_eq_none hequals]) (Or.inl hequals)

theorem keyValue?_eq_some_iff {s key value : String} :
    keyValue? s = some (key, value) ↔ Sets s key value := by
  constructor
  · intro hsome
    have hequals : '=' ∈ s.toList := by
      by_contra hmissing
      rw [keyValue?, cutEquals?_eq_none hmissing] at hsome
      contradiction
    obtain ⟨written, behind, rfl, hwritten⟩ := exists_written hequals
    rw [keyValue?_written hwritten] at hsome
    by_cases hblank : isBlankText written
    · rw [if_pos hblank] at hsome
      contradiction
    · rw [if_neg hblank, Option.some.injEq, Prod.mk.injEq] at hsome
      obtain ⟨rfl, rfl⟩ := hsome
      exact ⟨written, rfl, hwritten, rfl, mt (trim_eq_empty_iff written).mp hblank⟩
  · rintro ⟨written, rfl, hwritten, rfl, hkey⟩
    rw [keyValue?_written hwritten, if_neg (mt (trim_eq_empty_iff written).mpr hkey)]

/-! ### All texts -/

theorem putAll_append (known more further : Variables) :
    putAll known (more ++ further) = putAll (putAll known more) further :=
  List.foldl_append

theorem putAll_singleton (known : Variables) (name value : String) :
    putAll known [(name, value)] = put known name value :=
  rfl

/-- Reading goes on from what was read before. -/
theorem foldlM_keyValue (place : String) (values : List String) (known : Variables) :
    values.foldlM (fun map s => match keyValue? s with
        | some (key, value) => Except.ok (put map key value)
        | none => Except.error (UsageCause.badValue place (.notKeyValue s))) known =
      match values.find? fun s => (keyValue? s).isNone with
      | some s => .error (.badValue place (.notKeyValue s))
      | none => .ok (putAll known (values.filterMap keyValue?)) := by
  induction values generalizing known with
  | nil => rfl
  | cons s rest ih =>
      rw [List.foldlM_cons]
      cases hread : keyValue? s with
      | none =>
          rw [List.find?_cons_of_pos (by simp [hread])]
          rfl
      | some entry =>
          rw [List.find?_cons_of_neg (by simp [hread]), List.filterMap_cons_some hread]
          exact ih (put known entry.1 entry.2)

theorem readKeyValues_eq (place : String) (values : List String) :
    readKeyValues place values = match values.find? fun s => (keyValue? s).isNone with
      | some s => .error (.badValue place (.notKeyValue s))
      | none => .ok (putAll [] (values.filterMap keyValue?)) :=
  foldlM_keyValue place values []

/-- The first malformed text is the one that is reported. -/
theorem readKeyValues_eq_error_iff {place : String} {values : List String} {cause : UsageCause} :
    readKeyValues place values = .error cause ↔ ∃ before s after, values = before ++ s :: after ∧
      (∀ earlier ∈ before, ¬IsMalformed earlier) ∧ IsMalformed s ∧
      cause = .badValue place (.notKeyValue s) := by
  have hfirst (s : String) : (values.find? fun s => (keyValue? s).isNone) = some s ↔
      IsMalformed s ∧ ∃ before after, values = before ++ s :: after ∧
        ∀ earlier ∈ before, ¬IsMalformed earlier := by
    simp only [List.find?_eq_some_iff_append, Option.isNone_iff_eq_none, keyValue?_eq_none_iff,
      Bool.not_eq_true', Bool.eq_false_iff, ne_eq]
  rw [readKeyValues_eq]
  constructor
  · intro hread
    cases hfind : values.find? fun s => (keyValue? s).isNone with
    | none =>
        rw [hfind] at hread
        contradiction
    | some s =>
        rw [hfind] at hread
        cases hread
        obtain ⟨hs, before, after, hsplit, hbefore⟩ := (hfirst s).mp hfind
        exact ⟨before, s, after, hsplit, hbefore, hs, rfl⟩
  · rintro ⟨before, s, after, hsplit, hbefore, hs, rfl⟩
    rw [(hfirst s).mpr ⟨hs, before, after, hsplit, hbefore⟩]

theorem readKeyValues_eq_ok_iff {place : String} {values : List String} {map : Variables} :
    readKeyValues place values = .ok map ↔
      (∀ s ∈ values, ¬IsMalformed s) ∧ map = putAll [] (values.filterMap keyValue?) := by
  have hnone : (values.find? fun s => (keyValue? s).isNone) = none ↔
      ∀ s ∈ values, ¬IsMalformed s := by
    simp only [List.find?_eq_none, Option.isNone_iff_eq_none, keyValue?_eq_none_iff]
  rw [readKeyValues_eq, ← hnone]
  cases values.find? fun s => (keyValue? s).isNone with
  | none => simp [eq_comm]
  | some s => simp

/-- A further text sets its key anew and leaves the other keys as they were set before. -/
theorem setsLast_concat_iff {values : List String} {s key value : String} :
    SetsLast (values ++ [s]) key value ↔
      Sets s key value ∨ (SetsLast values key value ∧ ∀ other, ¬Sets s key other) := by
  constructor
  · rintro ⟨before, text, after, hsplit, hsets, hlater⟩
    rcases List.eq_nil_or_concat after with rfl | ⟨rest, last, rfl⟩
    · obtain ⟨-, htext⟩ := List.append_inj' hsplit rfl
      cases htext
      exact Or.inl hsets
    · have hconcat : values ++ [s] = (before ++ text :: rest) ++ [last] := by
        simpa using hsplit
      obtain ⟨hfront, hback⟩ := List.append_inj' hconcat rfl
      cases hback
      refine Or.inr ⟨⟨before, text, rest, hfront, hsets, ?_⟩, hlater s (by simp)⟩
      intro later hmem
      exact hlater later (by simp [hmem])
  · rintro (hsets | ⟨⟨before, text, after, rfl, hsets, hlater⟩, hs⟩)
    · exact ⟨values, s, [], rfl, hsets, by simp⟩
    · refine ⟨before, text, after ++ [s], by simp, hsets, ?_⟩
      intro later hmem
      rcases List.mem_append.mp hmem with hmem | hmem
      · exact hlater later hmem
      · rwa [List.mem_singleton.mp hmem]

/-- Of several texts that set a key the last one counts. -/
theorem lookup_read_iff (values : List String) (key value : String) :
    (putAll [] (values.filterMap keyValue?)).lookup key = some value ↔
      SetsLast values key value := by
  induction values using List.reverseRecOn with
  | nil => simp [SetsLast, putAll]
  | append_singleton values s ih =>
      rw [setsLast_concat_iff, ← ih, List.filterMap_append, putAll_append]
      cases hread : keyValue? s with
      | none =>
          have hnone : ∀ other, ¬Sets s key other := by
            intro other hsets
            rw [keyValue?_eq_some_iff.mpr hsets] at hread
            contradiction
          simp [hread, hnone, putAll]
      | some entry =>
          obtain ⟨name, given⟩ := entry
          have hsets (other : String) : Sets s key other ↔ key = name ∧ given = other := by
            rw [← keyValue?_eq_some_iff, hread, Option.some.injEq, Prod.mk.injEq,
              eq_comm (a := key)]
          rw [List.filterMap_cons_some hread, List.filterMap_nil, putAll_singleton, lookup_put]
          simp only [hsets]
          by_cases hname : key = name
          · simp [hname]
          · simp [hname]

theorem exists_setsLast_iff {values : List String} {key : String} :
    (∃ value, SetsLast values key value) ↔ ∃ s ∈ values, ∃ value, Sets s key value := by
  induction values using List.reverseRecOn with
  | nil => simp [SetsLast]
  | append_singleton values s ih =>
      simp only [setsLast_concat_iff, exists_or, exists_and_right, ih, List.mem_append,
        List.mem_singleton, or_and_right, exists_eq_left]
      by_cases hs : ∃ value, Sets s key value
      · simp [hs]
      · simp [not_exists.mp hs]

theorem mem_keys_iff {map : Variables} {key : String} :
    key ∈ map.map (·.1) ↔ ∃ value, map.lookup key = some value := by
  rw [← Option.ne_none_iff_exists', ne_eq, lookup_eq_none_iff_not_any, not_not, List.any_eq_true]
  simp only [List.mem_map, beq_iff_eq]

/-! ### Maps that are written -/

theorem IsPlainKey.sets {key : String} (h : IsPlainKey key) (value : String) :
    Sets (writeEntry (key, value)) key value :=
  ⟨key, rfl, h.unsplit, h.stripped, h.nonempty⟩

theorem putAll_of_nodup {known more : Variables} (h : ((known ++ more).map (·.1)).Nodup) :
    putAll known more = known ++ more := by
  induction more generalizing known with
  | nil => simp [putAll]
  | cons entry rest ih =>
      have hnew : known.any (·.1 == entry.1) = false := by
        rw [List.map_append, List.nodup_append] at h
        rw [List.any_eq_false]
        intro old hold
        simpa using h.2.2 old.1 (List.mem_map_of_mem hold) entry.1 (by simp)
      have hput : put known entry.1 entry.2 = known ++ [entry] := by
        rw [put, hnew]
        rfl
      calc putAll known (entry :: rest) = putAll (put known entry.1 entry.2) rest := rfl
        _ = putAll (known ++ [entry]) rest := by rw [hput]
        _ = (known ++ [entry]) ++ rest := ih (by simpa using h)
        _ = known ++ entry :: rest := by simp

theorem readKeyValues_written (place : String) {entries : Variables}
    (hkeys : (entries.map (·.1)).Nodup) (hplain : ∀ entry ∈ entries, IsPlainKey entry.1) :
    readKeyValues place (entries.map writeEntry) = .ok entries := by
  have hread : ∀ entry ∈ entries, keyValue? (writeEntry entry) = some entry := by
    intro entry hentry
    exact keyValue?_eq_some_iff.mpr ((hplain entry hentry).sets entry.2)
  rw [readKeyValues_eq_ok_iff]
  constructor
  · intro s hs
    obtain ⟨entry, hentry, rfl⟩ := List.mem_map.mp hs
    rw [← keyValue?_eq_none_iff, hread entry hentry]
    simp
  · have hentries : (entries.map writeEntry).filterMap keyValue? = entries := by
      rw [List.filterMap_map]
      exact (List.filterMap_congr hread).trans List.filterMap_some
    rw [hentries, putAll_of_nodup (by simpa using hkeys), List.nil_append]

theorem lookup_eq_some_iff_mem {entries : Variables} (h : (entries.map (·.1)).Nodup)
    {key value : String} : entries.lookup key = some value ↔ (key, value) ∈ entries := by
  induction entries with
  | nil => simp
  | cons entry rest ih =>
      obtain ⟨name, given⟩ := entry
      rw [List.map_cons, List.nodup_cons] at h
      rw [lookup_entry, List.mem_cons, Prod.mk.injEq]
      by_cases hname : key = name
      · have hrest : (name, value) ∉ rest := by
          intro hmem
          exact h.1 (List.mem_map.mpr ⟨_, hmem, rfl⟩)
        simp [hname, hrest, eq_comm]
      · simp [hname, ih h.2]

theorem lookup_of_perm {entries written : Variables} (hkeys : (entries.map (·.1)).Nodup)
    (hperm : written.Perm entries) (key : String) : written.lookup key = entries.lookup key := by
  have hwritten : (written.map (·.1)).Nodup := (hperm.map (·.1)).nodup_iff.mpr hkeys
  apply Option.ext
  intro value
  rw [lookup_eq_some_iff_mem hwritten, lookup_eq_some_iff_mem hkeys, hperm.mem_iff]

/-! ### The request of a run -/

def RunOptions.maps (options : RunOptions) : Except UsageCause (Variables × Variables) := do
  let properties ← readKeyValues "--property" options.properties
  let given ← readKeyValues "--deployment-property" options.deploymentProperties
  return (properties, given)

theorem RunOptions.maps_eq_ok_iff {options : RunOptions} {properties given : Variables} :
    options.maps = .ok (properties, given) ↔
      readKeyValues "--property" options.properties = .ok properties ∧
        readKeyValues "--deployment-property" options.deploymentProperties = .ok given := by
  unfold RunOptions.maps
  cases readKeyValues "--property" options.properties with
  | error cause => exact ⟨nofun, nofun⟩
  | ok first =>
      cases readKeyValues "--deployment-property" options.deploymentProperties with
      | error cause => exact ⟨nofun, nofun⟩
      | ok second => simp [bind, Except.bind, pure, Except.pure]

theorem RunOptions.nodup_of_maps {options : RunOptions} {properties given : Variables}
    (h : options.maps = .ok (properties, given)) : (given.map (·.1)).Nodup := by
  obtain ⟨-, hgiven⟩ := maps_eq_ok_iff.mp h
  obtain ⟨-, rfl⟩ := readKeyValues_eq_ok_iff.mp hgiven
  exact nodup_putAll (by simp) _

/-- A request has the properties that were read, with the count and the group of its options put
into those for the deployment. -/
structure Carries (options : RunOptions) (properties given : Variables) (request : Request) :
    Prop where
  properties : request.definition.properties = properties
  nodup : (request.deploymentProperties.map (·.1)).Nodup
  deployment : ∀ key, request.deploymentProperties.lookup key =
    if key = groupProperty ∧ options.group ≠ "" then some options.group
    else if key = countProperty then some (toString options.count) else given.lookup key

theorem requestOf_carries (options : RunOptions) (properties : Variables) {given : Variables}
    (hgiven : (given.map (·.1)).Nodup) :
    Carries options properties given (requestOf options properties given) := by
  by_cases hgroup : options.group = ""
  · refine ⟨rfl, ?_, ?_⟩
    · simpa [requestOf, hgroup] using nodup_put hgiven _ _
    · intro key
      simp [requestOf, hgroup, lookup_put]
  · have hnonempty : options.group.isEmpty = false := by simpa using hgroup
    refine ⟨rfl, ?_, ?_⟩
    · simpa [requestOf, hnonempty] using nodup_put (nodup_put hgiven _ _) _ _
    · intro key
      simp [requestOf, hgroup, hnonempty, lookup_put]

end CommandLine

def Turn.isDeploy : Turn → Bool
  | .deploy _ _ _ => true
  | _ => false

/-- A deployment of a request comes first, and no other one follows. -/
def DeploysOnce (request : Request) (turns : List Turn) : Prop :=
  ∃ outcome moment rest, turns = .deploy request outcome moment :: rest ∧
    ∀ turn ∈ rest, turn.isDeploy = false

theorem isDeploy_of_isWatch {turn : Turn} (h : turn.isWatch) : turn.isDeploy = false := by
  cases turn with
  | deploy _ _ _ => contradiction
  | _ => rfl

theorem DeploysOnce.append {request : Request} {turns more : List Turn}
    (h : DeploysOnce request turns) (hmore : ∀ turn ∈ more, turn.isDeploy = false) :
    DeploysOnce request (turns ++ more) := by
  obtain ⟨outcome, moment, rest, rfl, hrest⟩ := h
  exact ⟨outcome, moment, rest ++ more, rfl, List.forall_mem_append.mpr ⟨hrest, hmore⟩⟩

namespace Act

variable {σ : Type} [Machine σ]

def equip (context : RunContext σ) (options : RunOptions) : Act σ (DeployerHandle σ) := do
  let settings ← loadSettings context.host (options.config.map toString) context.environment
  context.connect settings

theorem operate_deploys (context : RunContext σ) (handle : DeployerHandle σ)
    (options : RunOptions) (request : Request) (world : World σ) :
    Records (operate context.recorded handle.recorded options request)
      (operate context handle options request) world
      fun _ turns _ => DeploysOnce request turns := by
  refine records_bind (records_deploy handle request fun outcome between => ?_)
  cases outcome with
  | error fault => exact ⟨_, _, [], rfl, by simp⟩
  | ok id =>
      have hrest := follow_speaks handle (fun _ => isDeploy_of_isWatch) (fun _ _ => rfl) options id
        context.horizon between
      exact hrest.mono fun _ rest _ hrest => ⟨_, _, rest, rfl, hrest⟩

/-- A run that gets as far as its deployer deploys the request of its options, and that once. -/
theorem runApp_deploys (context : RunContext σ) (options : RunOptions)
    (properties given : Variables) (world : World σ) :
    Records (runApp context.recorded options properties given)
      (runApp context options properties given) world fun outcome turns _ =>
        (turns = [] ∧ ∃ fault, ((equip context options).perform world).1 = .error fault ∧
          outcome = .error fault) ∨
        DeploysOnce (requestOf options properties given) turns := by
  refine (loadSettings_mirrors _ _ _).bind_records ?_ ?_
  · intro settings between hsettings
    refine records_connect context settings ?_ ?_
    · intro handle connected hconnect
      refine records_bind (records_ensuring ((operate_deploys context handle options _ _).mono ?_))
      intro operated front after hfront
      refine records_shutdown handle fun down final => ?_
      have hturns : DeploysOnce (requestOf options properties given) (front ++ [.shutdown down]) :=
        hfront.append (by simp [Turn.isDeploy])
      rcases down with fault | ⟨⟩
      · exact Or.inr hturns
      · rw [← List.append_nil (front ++ _)] at hturns
        rcases operated with fault | _ | status
        · exact Or.inr (by simpa using hturns)
        · exact records_pure (Or.inr hturns)
        · refine records_ite (fun _ => ?_) fun _ => records_pure (Or.inr hturns)
          exact (mirrors_raise _).records (Or.inr hturns)
    · intro fault connected hconnect
      refine Or.inl ⟨rfl, fault, ?_, rfl⟩
      change (loadSettings context.host _ context.environment).perform world = _ at hsettings
      rw [equip, perform_bind, hsettings]
      exact congrArg Prod.fst hconnect
  · intro fault between hsettings
    refine Or.inl ⟨rfl, fault, ?_, rfl⟩
    change (loadSettings context.host _ context.environment).perform world = _ at hsettings
    rw [equip, perform_bind, hsettings]

theorem mapError_eq_ok_iff {ε ε' α : Type} {outcome : Except ε α} {f : ε → ε'} {a : α} :
    outcome.mapError f = .ok a ↔ outcome = .ok a := by
  cases outcome <;> simp [Except.mapError]

theorem mapError_eq_error_iff {ε ε' α : Type} {outcome : Except ε α} {f : ε → ε'} {cause : ε'} :
    outcome.mapError f = .error cause ↔ ∃ first, outcome = .error first ∧ f first = cause := by
  cases outcome <;> simp [Except.mapError]

omit [Machine σ] in
theorem records_bind_ofExcept {α β : Type} {outcome : Except Fault α} {world : World σ}
    {next' : α → Act (Recorded σ) β} {next : α → Act σ β}
    {post : Except Fault β → List Turn → World σ → Prop}
    (hok : ∀ a, outcome = .ok a → Records (next' a) (next a) world post)
    (herror : ∀ fault after, outcome = .error fault → post (.error fault) [] after) :
    Records (ofExcept outcome >>= next') (ofExcept outcome >>= next) world post := by
  cases outcome with
  | ok a =>
      refine (mirrors_pure a).bind_records ?_ (by rintro _ _ ⟨⟩)
      rintro _ _ ⟨⟩
      exact hok a rfl
  | error fault =>
      refine (mirrors_raise fault).bind_records (by rintro _ _ ⟨⟩) ?_
      rintro _ after ⟨⟩
      exact herror fault _ rfl

/-- A run that cannot read its maps asks for nothing. Otherwise it deploys its request, unless it
finds no settings or no deployer for them. -/
theorem runWith_deploys (context : RunContext σ) (options : RunOptions) (world : World σ) :
    Records (runWith context.recorded options) (runWith context options) world
      fun outcome turns _ => match options.maps with
        | .ok (properties, given) =>
          (turns = [] ∧ ∃ journal fault,
            ((equip context options).perform { world with journal }).1 = .error fault) ∨
          DeploysOnce (requestOf options properties given) turns
        | .error cause => outcome = .error (.usage cause) ∧ turns = [] := by
  refine (mirrors_note _).bind_records ?_ (by rintro _ _ ⟨⟩)
  rintro _ _ ⟨⟩
  refine records_bind_ofExcept (fun properties hread => ?_) fun fault after hread => ?_
  · rw [mapError_eq_ok_iff] at hread
    refine records_bind_ofExcept (fun given hgiven => ?_) fun fault after hgiven => ?_
    · rw [mapError_eq_ok_iff] at hgiven
      rw [RunOptions.maps_eq_ok_iff.mpr ⟨hread, hgiven⟩]
      refine records_bind_attempt ((runApp_deploys context options properties given _).mono ?_)
      intro outcome turns after hturns
      have hpost : (turns ++ [] = [] ∧ ∃ journal fault,
          ((equip context options).perform { world with journal }).1 = .error fault) ∨
          DeploysOnce (requestOf options properties given) (turns ++ []) := by
        rw [List.append_nil]
        rcases hturns with ⟨hnone, fault, hfault, -⟩ | hdeploys
        · exact Or.inl ⟨hnone, _, fault, hfault⟩
        · exact Or.inr hdeploys
      rcases outcome with fault | ⟨⟩
      · refine records_ite (fun _ => ?_) fun _ => records_throw hpost
        exact (report_mirrors fault).records hpost
      · exact records_pure hpost
    · obtain ⟨cause, hcause, rfl⟩ := mapError_eq_error_iff.mp hgiven
      have hmaps : options.maps = .error cause := by
        simp [RunOptions.maps, hread, hcause, bind, Except.bind]
      rw [hmaps]
      exact ⟨rfl, rfl⟩
  · obtain ⟨cause, hcause, rfl⟩ := mapError_eq_error_iff.mp hread
    have hmaps : options.maps = .error cause := by
      simp [RunOptions.maps, hcause, bind, Except.bind]
    rw [hmaps]
    exact ⟨rfl, rfl⟩

end Act

/-- Reading texts that set keys is refused for the first one that is malformed, and gives else the
map in which each key has the value that it was set to last. A map whose keys are plain is read back
as it is written, in any order of its entries. A run deploys a request that carries the maps that it
reads. -/
theorem key_values_exact {σ : Type} [Machine σ] (context : RunContext σ) (options : RunOptions)
    (world : World σ) :
    (∀ place values,
      (∀ cause, readKeyValues place values = .error cause ↔
        ∃ before s after, values = before ++ s :: after ∧
          (∀ earlier ∈ before, ¬IsMalformed earlier) ∧ IsMalformed s ∧
          cause = .badValue place (.notKeyValue s) ∧
          cause.message = s!"Invalid value for {place}: " ++ s!"Expected KEY=VALUE, got '{s}'") ∧
      ∀ map, readKeyValues place values = .ok map → (map.map (·.1)).Nodup ∧
        (∀ key, key ∈ map.map (·.1) ↔ ∃ s ∈ values, ∃ value, Sets s key value) ∧
        ∀ key value, map.lookup key = some value ↔ SetsLast values key value) ∧
    (∀ place (entries written : Variables), (entries.map (·.1)).Nodup →
      (∀ entry ∈ entries, IsPlainKey entry.1) → written.Perm entries →
      ∃ map, readKeyValues place (written.map writeEntry) = .ok map ∧ map.Perm entries ∧
        ∀ key, map.lookup key = entries.lookup key) ∧
    Act.Records (Act.runWith context.recorded options) (Act.runWith context options) world
      fun outcome turns _ => match options.maps with
        | .ok (properties, given) =>
          (turns = [] ∧ ∃ journal fault,
            ((Act.equip context options).perform { world with journal }).1 = .error fault) ∨
          ∃ request, Carries options properties given request ∧ DeploysOnce request turns
        | .error cause => outcome = .error (.usage cause) ∧ turns = [] := by
  refine ⟨fun place values => ⟨fun cause => ?_, fun map hmap => ?_⟩, ?_, ?_⟩
  · rw [readKeyValues_eq_error_iff]
    constructor
    · rintro ⟨before, s, after, hsplit, hbefore, hs, rfl⟩
      exact ⟨before, s, after, hsplit, hbefore, hs, rfl, rfl⟩
    · rintro ⟨before, s, after, hsplit, hbefore, hs, hcause, -⟩
      exact ⟨before, s, after, hsplit, hbefore, hs, hcause⟩
  · obtain ⟨-, rfl⟩ := readKeyValues_eq_ok_iff.mp hmap
    refine ⟨nodup_putAll (by simp) _, fun key => ?_, lookup_read_iff values⟩
    rw [mem_keys_iff, ← exists_setsLast_iff]
    exact exists_congr fun value => lookup_read_iff values key value
  · intro place entries written hkeys hplain hperm
    refine ⟨written, readKeyValues_written place ?_ ?_, hperm, lookup_of_perm hkeys hperm⟩
    · exact (hperm.map (·.1)).nodup_iff.mpr hkeys
    · exact fun entry hentry => hplain entry (hperm.mem_iff.mp hentry)
  · refine (Act.runWith_deploys context options world).mono ?_
    intro outcome turns after hturns
    cases hmaps : options.maps with
    | error cause =>
        rw [hmaps] at hturns
        exact hturns
    | ok maps =>
        rw [hmaps] at hturns
        refine hturns.imp_right fun hdeploys => ⟨_, requestOf_carries options maps.1 ?_, hdeploys⟩
        exact RunOptions.nodup_of_maps hmaps

open Rehearsal

def Rehearsal.blueOptions : RunOptions where
  artifact := .ofString "/app.py"
  group := "blue"
  properties := ["b=", "a=x=y"]
  deploymentProperties := ["appdeck.deployer.group=red"]

def Rehearsal.blueTurns : List Turn :=
  ((Act.runWith runContext.recorded blueOptions).perform
    (failingSoon.recorded [])).2.machine.turns

theorem key_values_exact_blue :
    ([("a", "x=y"), ("b", "")].map (·.1)).Nodup ∧ IsPlainKey "a" ∧ IsPlainKey "b" ∧
      (∃ map, readKeyValues "--property" blueOptions.properties = .ok map ∧
        map.Perm [("a", "x=y"), ("b", "")]) ∧
      ∃ request, Carries blueOptions [("b", ""), ("a", "x=y")] [("appdeck.deployer.group", "red")]
        request ∧ DeploysOnce request blueTurns := by
  have hkeys : ([("a", "x=y"), ("b", "")].map (·.1)).Nodup := by decide
  have hfirst : IsPlainKey "a" := ⟨by decide, by decide, by decide⟩
  have hsecond : IsPlainKey "b" := ⟨by decide, by decide, by decide⟩
  have hmaps : blueOptions.maps =
      .ok ([("b", ""), ("a", "x=y")], [("appdeck.deployer.group", "red")]) := by
    decide +kernel
  have hlength : blueTurns.length ≠ 0 := by decide +kernel
  obtain ⟨-, hwritten, turns, hsame, hrun⟩ := key_values_exact runContext blueOptions failingSoon
  refine ⟨hkeys, hfirst, hsecond, ?_, ?_⟩
  · obtain ⟨map, hread, hperm, -⟩ := hwritten "--property" [("a", "x=y"), ("b", "")]
      [("b", ""), ("a", "x=y")] hkeys (by simp [hfirst, hsecond]) (List.Perm.swap ..)
    exact ⟨map, hread, hperm⟩
  · obtain rfl : blueTurns = turns := by
      rw [blueTurns, hsame]
      simp [World.recorded, World.on]
    rw [hmaps] at hrun
    rcases hrun with ⟨hnone, -⟩ | hrequest
    · simp [hnone] at hlength
    · exact hrequest

end AppSupervisor
