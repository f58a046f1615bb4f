import AppSupervisor.Proofs.BeforeLaunch

/-!
Launching several instances: all of them run, or those that were launched are killed again.

One instance is described first. From there an induction on the number of instances to come carries
the instances started so far; if one of them cannot be launched, the fault, the kills and the index
in the fault concern the started ones before it as well.
-/

namespace AppSupervisor

def Plan.Launched (plan : Plan) (i : Instance) : Prop :=
  i = plan.instanceOf i.port i.index i.pid

def Plan.launchOf (plan : Plan) (i : Instance) : LaunchOrder × Nat :=
  (plan.order i.port i.index, i.pid)

/-- What is known of an attempt to launch further instances of a plan behind the started ones. -/
structure FannedOut (plan : Plan) (started : List Instance) (count : Nat) (done : List Event)
    (instances : List Instance) : Prop where
  launched : ∃ more, instances = started ++ more ∧ more.length = count ∧
    (∀ i ∈ more, plan.Launched i) ∧ launchesIn done = more.map plan.launchOf
  indices : instances.map (·.index) = List.range instances.length
  kills : killsIn done = []

/-- Instances that are numbered in order have their places as their indices. -/
theorem index_eq_place {instances : List Instance} {place : Nat} {i : Instance}
    (hindices : instances.map (·.index) = List.range instances.length)
    (hplace : instances[place]? = some i) : i.index = place := by
  obtain ⟨hlt, rfl⟩ := List.getElem?_eq_some_iff.mp hplace
  have hrange := congrArg (·[place]?) hindices
  simpa [hlt] using hrange

structure RolledBack (plan : Plan) (started : List Instance) (done : List Event) (fault : Fault) :
    Prop where
  kills : killsIn done = started.map (·.pid) ++ (launchesIn done).map (·.2)
  halts : Halts done
  killsLast : KillsLast done
  reported : ∀ order refusal, .refusedLaunch order refusal ∈ done →
    order.index = ((started.length + (launchesIn done).length : Nat) : Int) ∧
      fault = plan.reported (started.length + (launchesIn done).length) refusal

namespace Act

variable {σ : Type} [Machine σ]

theorem launch_yields (order : LaunchOrder) (world : World σ) :
    (launch order).Yields world fun outcome done after => after.registry = world.registry ∧
      match outcome with
      | .ok pid => done = [.launched order pid]
      | .error fault => done = [.refusedLaunch order fault, .raised fault] := by
  refine yields_bind_onMachine ?_
  split
  · exact yields_bind_note (yields_pure ⟨rfl, rfl⟩)
  · exact yields_bind_note (yields_raise ⟨rfl, rfl⟩)

/-- One instance: it runs as the only one that was launched, or nothing was. -/
theorem launchInstance_yields (plan : Plan) (index : Nat) (allocated : List Int) (world : World σ) :
    (launchInstance plan index allocated).Yields world fun outcome done after =>
      after.registry = world.registry ∧ killsIn done = [] ∧ Halts done ∧
      match outcome with
      | .ok (i, _) => plan.Launched i ∧ i.index = index ∧ launchesIn done = [plan.launchOf i] ∧
          Answered done ∧ ∀ order fault, .refusedLaunch order fault ∉ done
      | .error fault => launchesIn done = [] ∧
          ∀ order refusal, .refusedLaunch order refusal ∈ done →
            order.index = (index : Int) ∧ fault = plan.reported index refusal := by
  have hport : (allocatePort plan.host allocated plan.request.definition.properties
      plan.request.arguments : Act σ _).Follows Prepared := allocatePort_follows _ _ _ _
  refine yields_bind ((hport world).mono ?_)
  rintro outcome chosen between ⟨hregistry, hquiet, hanswered⟩
  have hnotries := picked_of_quiet Event.try?_of_quiet hquiet
  have hnolaunch := picked_of_quiet Event.launch?_of_quiet hquiet
  have hnokill := picked_of_quiet Event.kill?_of_quiet hquiet
  rcases outcome with fault | ⟨port, allocated⟩
  · refine ⟨hregistry, hnokill, halts_of_triesIn_eq_nil hnotries, hnolaunch, ?_⟩
    exact fun order refusal hmem => absurd hmem (not_mem_of_quiet hquiet rfl)
  · have hchosen : Answered chosen := hanswered rfl
    refine yields_bind_attempt ((launch_yields _ between).mono ?_)
    rintro outcome launched after ⟨hregistry', hlaunched⟩
    cases outcome with
    | ok pid =>
        subst hlaunched
        have hlast : Answered [.launched (plan.order port index) pid,
            .logged .info (s!"Deploying app {plan.deploymentId} instance {index}, " ++
              s!"logs will be in {plan.workDir}")] := answered_of_not_raised (by simp)
        have hdone := hchosen.append hlast
        refine yields_bind_note (yields_pure
          ⟨hregistry'.trans hregistry, ?_, ?_, rfl, rfl, ?_, ?_, fun order fault hmem => ?_⟩)
        · simp [hnokill]
        · simpa using hdone.halts
        · simp [hnolaunch, Plan.launchOf, Plan.instanceOf]
        · simpa using hdone
        · have hmem' : .refusedLaunch order fault ∈ chosen := by simpa using hmem
          exact not_mem_of_quiet hquiet rfl hmem'
    | error refusal =>
        subst hlaunched
        have hhalts := (halts_refusal (plan.order port index) refusal).prepend hchosen
        refine yields_throw ⟨hregistry'.trans hregistry, ?_, ?_, ?_, fun order other hmem => ?_⟩
        · simp [hnokill]
        · simpa using hhalts
        · simp [hnolaunch]
        · -- the only refusal is that of this launch
          have hnot : .refusedLaunch order other ∉ chosen := not_mem_of_quiet hquiet rfl
          obtain ⟨rfl, rfl⟩ : order = plan.order port index ∧ other = refusal := by
            simpa [hnot] using hmem
          exact ⟨rfl, rfl⟩

theorem killStarted_yields (deploymentId : String) (started : List Instance) (world : World σ) :
    (killStarted deploymentId started).Yields world fun outcome done after =>
      outcome = .ok () ∧ after.registry = world.registry ∧ killsIn done = started.map (·.pid) ∧
        triesIn done = [] := by
  induction started generalizing world with
  | nil => exact yields_pure ⟨rfl, rfl, rfl, rfl⟩
  | cons i rest ih =>
      refine yields_bind_note (yields_bind ((kill_yields i.pid _).mono ?_))
      rintro _ _ _ ⟨rfl, rfl, machine, rfl⟩
      refine (ih _).mono ?_
      rintro outcome done after ⟨hok, hregistry, hkills, htries⟩
      refine ⟨hok, hregistry, ?_, ?_⟩
      · simp [hkills]
      · simp [htries]

/-- The loop that launches further instances ends with all of them or rolls back. The started ones
are numbered from zero, which each round preserves. -/
theorem launchMore_yields (plan : Plan) (count : Nat) (started : List Instance)
    (allocated : List Int) (world : World σ)
    (hindices : started.map (·.index) = List.range started.length) :
    (launchMore plan count started allocated).Yields world fun outcome done after =>
      after.registry = world.registry ∧ match outcome with
      | .ok instances => FannedOut plan started count done instances
      | .error fault => RolledBack plan started done fault := by
  induction count generalizing started allocated world with
  | zero =>
      refine yields_pure ⟨rfl, ⟨⟨[], by simp, rfl, by simp, rfl⟩, hindices, rfl⟩⟩
  | succ count ih =>
      refine yields_bind_attempt ((launchInstance_yields plan _ allocated world).mono ?_)
      rintro outcome first between ⟨hregistry, hnokill, hhalts, hfirst⟩
      rcases outcome with fault | ⟨i, allocated⟩
      · -- the started instances are killed, and nothing else is done
        obtain ⟨hnolaunch, hrefused⟩ := hfirst
        refine yields_bind ((killStarted_yields plan.deploymentId started between).mono ?_)
        rintro outcome killed after ⟨rfl, hregistry', hkills, htries⟩
        have hnolaunch' := launchesIn_of_triesIn_eq_nil htries
        refine yields_throw ⟨hregistry'.trans hregistry, ?_, ?_, ?_, ?_⟩
        · simp [hnokill, hkills, hnolaunch, hnolaunch']
        · simpa using hhalts.append htries
        · exact ⟨first, killed, by simp, hnokill, htries⟩
        · intro order refusal hmem
          have hmem' : .refusedLaunch order refusal ∈ first := by
            simpa [not_refused_of_triesIn_eq_nil htries] using hmem
          simpa [hnolaunch, hnolaunch'] using hrefused order refusal hmem'
      · obtain ⟨hlaunched, hindex, hlaunches, hanswered, hnorefusal⟩ := hfirst
        have hindices' : (started ++ [i]).map (·.index) = List.range (started ++ [i]).length := by
          simp [hindices, hindex, List.range_succ]
        refine (ih (started ++ [i]) allocated between hindices').mono ?_
        rintro outcome rest after ⟨hregistry', hrest⟩
        refine ⟨hregistry'.trans hregistry, ?_⟩
        cases outcome with
        | ok instances =>
            obtain ⟨⟨more, hinstances, hlength, hmore, hmoreLaunches⟩, hall, hkills⟩ := hrest
            refine ⟨⟨i :: more, by simpa using hinstances, by simp [hlength], ?_, ?_⟩, hall, ?_⟩
            · simpa using ⟨hlaunched, hmore⟩
            · simp [hlaunches, hmoreLaunches]
            · simp [hnokill, hkills]
        | error fault =>
            obtain ⟨hkills, hhalts', ⟨before, after', hsplit, hnokill', htries⟩, hreported⟩ := hrest
            refine ⟨?_, hhalts'.prepend hanswered, ⟨first ++ before, after', ?_, ?_, htries⟩, ?_⟩
            · simp [hnokill, hkills, hlaunches, Plan.launchOf]
            · simp [hsplit]
            · simp [hnokill, hnokill']
            · intro order refusal hmem
              have hmem' : .refusedLaunch order refusal ∈ rest := by
                simpa [hnorefusal] using hmem
              have hlength : (started ++ [i]).length + (launchesIn rest).length =
                  started.length + (launchesIn (first ++ rest)).length := by
                simp [hlaunches, Nat.add_assoc, Nat.add_comm 1]
              simpa only [hlength] using hreported order refusal hmem'

end Act

end AppSupervisor
