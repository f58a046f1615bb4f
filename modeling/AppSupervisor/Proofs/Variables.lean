import AppSupervisor.Deployer
import AppSupervisor.Proofs.Registry
import Mathlib.Data.List.Nodup

/-!
The variables of an instance as a map.

Variables are a list in which the first entry of a name counts. What is put over others hides them,
so that a variable of an instance is known from the layers that it can come from: what the
supervisor tells, the properties of the app, and the variables of the host whose names match.
-/

namespace AppSupervisor.Command

open AppSupervisor.Text

/-! ### Putting -/

theorem lookup_entry {α : Type} (key : String) (value : α) (name : String)
    (rest : List (String × α)) : List.lookup name ((key, value) :: rest) =
      if name = key then some value else rest.lookup name := by
  rw [List.lookup_cons]
  by_cases h : name = key
  · simp [h]
  · have hne : (name == key) = false := by simpa using h
    simp only [hne, if_neg h]

theorem lookup_eq_none_iff_not_any {known : Variables} {name : String} :
    known.lookup name = none ↔ ¬known.any (·.1 == name) := by
  simp only [List.lookup_eq_none_iff, List.any_eq_true, not_exists, not_and, bne_iff_ne,
    beq_iff_eq, ne_comm]

theorem lookup_put (known : Variables) (name value other : String) :
    (put known name value).lookup other =
      if other = name then some value else known.lookup other := by
  unfold put
  split
  · rename_i hknown
    rw [Registry.lookup_replace]
    split
    · rename_i hother
      obtain ⟨old, hold⟩ : ∃ old, known.lookup name = some old :=
        Option.ne_none_iff_exists'.mp fun hnone => lookup_eq_none_iff_not_any.mp hnone hknown
      rw [hother, hold, Option.map_some]
    · rfl
  · rename_i hnew
    rw [List.lookup_append, lookup_entry, List.lookup_nil]
    by_cases hother : other = name
    · simp [hother, lookup_eq_none_iff_not_any.mpr hnew]
    · simp [hother]

/-- Of the values that are put under a name, the last one counts. -/
theorem lookup_putAll (known : Variables) (more : List (String × String)) (name : String) :
    (putAll known more).lookup name = (more.reverse.lookup name).or (known.lookup name) := by
  induction more generalizing known with
  | nil => simp [putAll]
  | cons entry rest ih =>
      have hstep : putAll known (entry :: rest) = putAll (put known entry.1 entry.2) rest := rfl
      rw [hstep, ih, lookup_put, List.reverse_cons, List.lookup_append, Option.or_assoc,
        lookup_entry, List.lookup_nil]
      by_cases hname : name = entry.1 <;> simp [hname]

theorem nodup_put {known : Variables} (h : (known.map (·.1)).Nodup) (name value : String) :
    ((put known name value).map (·.1)).Nodup := by
  unfold put
  split
  · have hnames : (known.map fun entry =>
        if entry.1 == name then (name, value) else entry).map (·.1) = known.map (·.1) := by
      rw [List.map_map]
      refine List.map_congr_left fun entry _ => ?_
      by_cases hentry : entry.1 = name <;> simp [hentry]
    rw [hnames]
    exact h
  · rename_i hnew
    rw [List.map_append, List.map_singleton]
    refine h.append (List.nodup_singleton name) (List.disjoint_singleton.mpr fun hmem => hnew ?_)
    obtain ⟨entry, hentry, hname⟩ := List.mem_map.mp hmem
    exact List.any_eq_true.mpr ⟨entry, hentry, by simpa using hname⟩

theorem nodup_putAll {known : Variables} (h : (known.map (·.1)).Nodup)
    (more : List (String × String)) : ((putAll known more).map (·.1)).Nodup := by
  induction more generalizing known with
  | nil => exact h
  | cons entry rest ih => exact ih (nodup_put h entry.1 entry.2)

/-! ### Inheriting -/

def fullyMatches (text name : String) : Bool :=
  match Pattern.parse text with
  | .ok pattern => pattern.matchesWhole name
  | .error _ => false

def isInherited (settings : Settings) (request : Request) (name : String) : Bool :=
  (patternsFor settings request).any fun text => fullyMatches text name

theorem lookup_filter {α : Type} (entries : List (String × α)) (keeps : String → Bool)
    (name : String) : (entries.filter fun entry => keeps entry.1).lookup name =
      if keeps name then entries.lookup name else none := by
  induction entries with
  | nil => simp
  | cons entry rest ih =>
      obtain ⟨key, value⟩ := entry
      rw [List.filter_cons, lookup_entry]
      by_cases hname : name = key
      · subst hname
        by_cases hkeeps : keeps name <;> simp [hkeeps, ih]
      · by_cases hkeeps : keeps key <;> simp [hkeeps, hname, lookup_entry, ih]

theorem fullyMatches_of_compile {text : String} {pattern : Pattern.Compiled}
    (h : compile text = .ok pattern) (name : String) :
    fullyMatches text name = pattern.matchesWhole name := by
  unfold compile at h
  split at h
  · rename_i hparse
    cases h
    simp [fullyMatches, hparse]
  · contradiction
  · contradiction

theorem any_compiled {patterns : List String} {compiled : List Pattern.Compiled}
    (h : patterns.mapM compile = .ok compiled) (name : String) :
    (compiled.any (·.matchesWhole name)) = patterns.any fun text => fullyMatches text name := by
  induction patterns generalizing compiled with
  | nil =>
      cases h
      rfl
  | cons text rest ih =>
      rw [List.mapM_cons] at h
      rcases hfirst : compile text with fault | pattern
      · rw [hfirst] at h
        contradiction
      · rcases hrest : rest.mapM compile with fault | others
        · rw [hfirst, hrest] at h
          contradiction
        · rw [hfirst, hrest] at h
          cases h
          rw [List.any_cons, List.any_cons, ih hrest, fullyMatches_of_compile hfirst]

/-- Whether patterns can be read does not depend on the host, and what is inherited is what they
match. -/
theorem environmentFor_eq (settings : Settings) (environment : Variables) (id : String)
    (request : Request) :
    environmentFor settings environment id request =
      ((patternsFor settings request).mapM compile).map fun _ =>
        putAll (putAll (environment.filter fun entry => isInherited settings request entry.1)
          request.definition.properties) (deploymentVariables id) := by
  unfold environmentFor inherited
  rcases hcompiled : (patternsFor settings request).mapM compile with fault | compiled
  · rfl
  · have hkept : (fun entry : String × String => compiled.any (·.matchesWhole entry.1)) =
        fun entry => isInherited settings request entry.1 :=
      funext fun entry => any_compiled hcompiled entry.1
    rw [← hkept]
    rfl

/-- Where no pattern goes wrong in another way, one that is malformed is reported. -/
theorem mapM_compile_malformed {patterns : List String}
    (hread : ∀ text ∈ patterns, (∃ pattern, Pattern.parse text = .ok pattern) ∨
      ∃ cause position, Pattern.parse text = .error (.malformed cause position))
    (hbad : ∃ text ∈ patterns, ∃ cause position,
      Pattern.parse text = .error (.malformed cause position)) :
    ∃ text ∈ patterns, ∃ cause position,
      Pattern.parse text = .error (.malformed cause position) ∧
      patterns.mapM compile =
        .error (.badRequest (.badPattern text (.malformed cause position))) := by
  induction patterns with
  | nil => simp at hbad
  | cons text rest ih =>
      rw [List.mapM_cons]
      rcases hread text List.mem_cons_self with ⟨pattern, hparse⟩ | ⟨cause, position, hparse⟩
      · have hrest : ∃ text ∈ rest, ∃ cause position,
            Pattern.parse text = .error (.malformed cause position) := by
          simpa [hparse] using hbad
        obtain ⟨other, hmem, cause, position, hother, hresult⟩ :=
          ih (fun other hmem => hread other (List.mem_cons_of_mem text hmem)) hrest
        refine ⟨other, List.mem_cons_of_mem text hmem, cause, position, hother, ?_⟩
        simp only [compile, hparse, hresult]
        rfl
      · refine ⟨text, List.mem_cons_self, cause, position, hparse, ?_⟩
        simp only [compile, hparse]
        rfl

/-! ### The variables of one instance -/

theorem ite_some_or {α : Type} (p : Prop) [Decidable p] (value : α) (first rest : Option α) :
    (if p then some value else first).or rest = if p then some value else first.or rest := by
  split <;> rfl

/-- The value of a variable of the instance with an index: what the supervisor tells goes over the
properties of the app, and these go over what is inherited from the host. Of several values that a
property has, the last one counts. -/
def instanceVariable (deployer : Deployer) (request : Request) (port : Int) (index : Nat)
    (name : String) : Option String :=
  if name = indexProperty ∧ isIndexed request.deploymentProperties then some (toString index)
  else if name = indexVariable then some (toString index)
  else if name = "server.port" then some (toString port)
  else if name = "endpoints.management.unique-names" ∨ name = "endpoints.shutdown.enabled" then
    some "true"
  else if name = "management.namespace" then some request.deploymentId
  else match request.definition.properties.reverse.lookup name with
    | some value => some value
    | none => if isInherited deployer.settings request name then deployer.environment.lookup name
        else none

theorem environmentFor_eq_ok {settings : Settings} {environment shared : Variables} {id : String}
    {request : Request} (h : environmentFor settings environment id request = .ok shared) :
    shared = putAll (putAll (environment.filter fun entry => isInherited settings request entry.1)
      request.definition.properties) (deploymentVariables id) := by
  rw [environmentFor_eq] at h
  cases hcompiled : (patternsFor settings request).mapM compile with
  | error fault =>
      rw [hcompiled] at h
      contradiction
  | ok compiled =>
      rw [hcompiled] at h
      cases h
      rfl

/-- Hosts with the same variables for a request make the same environment for it, up to the order of
its variables. -/
theorem environmentFor_agrees {settings : Settings} {environment other : Variables}
    {request : Request} (h : ∀ name, isInherited settings request name →
      environment.lookup name = other.lookup name) (id : String) :
    (∃ fault, environmentFor settings environment id request = .error fault ∧
      environmentFor settings other id request = .error fault) ∨
    ∃ shared shared', environmentFor settings environment id request = .ok shared ∧
      environmentFor settings other id request = .ok shared' ∧
      ∀ name, shared.lookup name = shared'.lookup name := by
  rw [environmentFor_eq, environmentFor_eq]
  cases (patternsFor settings request).mapM compile with
  | error fault => exact Or.inl ⟨fault, rfl, rfl⟩
  | ok compiled =>
      refine Or.inr ⟨_, _, rfl, rfl, fun name => ?_⟩
      simp only [lookup_putAll, lookup_filter]
      by_cases hname : isInherited settings request name
      · rw [h name hname]
      · simp [hname]

/-- The environment of an instance is read off layer by layer. -/
theorem lookup_environmentOf {deployer : Deployer} {shared : Variables} {request : Request}
    (h : environmentFor deployer.settings deployer.environment request.deploymentId request =
      .ok shared) (port : Int) (index : Nat) (name : String) :
    (environmentOf shared (isIndexed request.deploymentProperties) port index).lookup name =
      instanceVariable deployer request port index name := by
  have hshared : shared.lookup name = ((deploymentVariables request.deploymentId).reverse.lookup
      name).or ((request.definition.properties.reverse.lookup name).or
        (if isInherited deployer.settings request name then deployer.environment.lookup name
          else none)) := by
    rw [environmentFor_eq_ok h, lookup_putAll, lookup_putAll, lookup_filter]
  have hproperties : (request.definition.properties.reverse.lookup name).or
      (if isInherited deployer.settings request name then deployer.environment.lookup name
        else none) =
      match request.definition.properties.reverse.lookup name with
      | some value => some value
      | none => if isInherited deployer.settings request name then
          deployer.environment.lookup name else none := by
    cases request.definition.properties.reverse.lookup name <;> rfl
  rw [environmentOf, lookup_putAll, hshared, hproperties, instanceVariable]
  cases isIndexed request.deploymentProperties <;>
    simp [deploymentVariables, lookup_entry, ite_some_or, ite_or]

theorem nodup_environmentOf {settings : Settings} {environment shared : Variables}
    {id : String} {request : Request} (h : environmentFor settings environment id request =
      .ok shared) (hnodup : (environment.map (·.1)).Nodup) (isIndexed : Bool) (port : Int)
    (index : Nat) : ((environmentOf shared isIndexed port index).map (·.1)).Nodup := by
  rw [environmentFor_eq_ok h]
  refine nodup_putAll (nodup_putAll (nodup_putAll ?_ _) _) _
  exact hnodup.sublist (List.filter_sublist.map _)

end AppSupervisor.Command
