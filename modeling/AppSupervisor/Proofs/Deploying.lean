import AppSupervisor.Deployer
import AppSupervisor.Proofs.Launching
import AppSupervisor.Proofs.Registry

/-!
Deploying is all or nothing.

A deployment either becomes visible with all its instances, or the registry is as it was and every
process that was launched for it is killed. The claim of the id frames the launches, so it is
enough to know what the launches yield from whatever world they find.
-/

namespace AppSupervisor

structure AllLaunched (request : Request) (done : List Event) (instances : List Instance) :
    Prop where
  count : instanceCount request.deploymentProperties = .ok instances.length
  indices : instances.map (·.index) = List.range instances.length
  launches : (launchesIn done).map (fun launch => (launch.1.index, launch.2)) =
    instances.map fun i => ((i.index : Int), i.pid)
  kills : killsIn done = []

structure NoneLeft (id : String) (done : List Event) (fault : Fault) : Prop where
  kills : killsIn done = (launchesIn done).map (·.2)
  killsLast : KillsLast done
  halts : Halts done
  reported : ∀ order cause id? index?,
    .refusedLaunch order (.launchFailed cause id? index?) ∈ done →
    order.index = ((launchesIn done).length : Int) ∧
      fault = .launchFailed cause (some id) (some (launchesIn done).length)

theorem AllLaunched.prepend {request : Request} {first more : List Event}
    {instances : List Instance} (hmore : AllLaunched request more instances)
    (hkills : killsIn first = []) (htries : triesIn first = []) :
    AllLaunched request (first ++ more) instances where
  count := hmore.count
  indices := hmore.indices
  launches := by simpa [launchesIn_of_triesIn_eq_nil htries] using hmore.launches
  kills := by simp [hkills, hmore.kills]

/-- What did not try to launch left nothing. -/
theorem noneLeft_of_triesIn_eq_nil {done : List Event} (hkills : killsIn done = [])
    (htries : triesIn done = []) (id : String) (fault : Fault) : NoneLeft id done fault where
  kills := by rw [hkills, launchesIn_of_triesIn_eq_nil htries]; rfl
  killsLast := ⟨done, [], by simp, hkills, rfl⟩
  halts := halts_of_triesIn_eq_nil htries
  reported := fun _ _ _ _ hmem => absurd hmem (not_refused_of_triesIn_eq_nil htries)

/-- What was done before the first launch and was answered changes nothing. -/
theorem NoneLeft.prepend {first more : List Event} {id : String} {fault : Fault}
    (hmore : NoneLeft id more fault) (hkills : killsIn first = []) (htries : triesIn first = [])
    (hanswered : Answered first) : NoneLeft id (first ++ more) fault := by
  have hlaunches := launchesIn_of_triesIn_eq_nil htries
  obtain ⟨before, after, hsplit, hbefore, hafter⟩ := hmore.killsLast
  refine ⟨?_, ⟨first ++ before, after, ?_, ?_, hafter⟩, hmore.halts.prepend hanswered, ?_⟩
  · simp [hkills, hlaunches, hmore.kills]
  · rw [hsplit, List.append_assoc]
  · simp [hkills, hbefore]
  · intro order cause id? index? hmem
    have hmem' : .refusedLaunch order (.launchFailed cause id? index?) ∈ more := by
      simpa [not_refused_of_triesIn_eq_nil htries] using hmem
    simpa [hlaunches] using hmore.reported order cause id? index? hmem'

theorem FannedOut.allLaunched {plan : Plan} {request : Request} {done : List Event}
    {instances : List Instance} {count : Nat} (h : FannedOut plan [] count done instances)
    (hcount : instanceCount request.deploymentProperties = .ok count) :
    AllLaunched request done instances := by
  obtain ⟨⟨more, rfl, rfl, -, hlaunches⟩, hindices, hkills⟩ := h
  refine ⟨by simpa using hcount, hindices, ?_, hkills⟩
  simp [hlaunches, Plan.launchOf, Plan.order]

theorem RolledBack.noneLeft {plan : Plan} {done : List Event} {fault : Fault}
    (h : RolledBack plan [] done fault) : NoneLeft plan.deploymentId done fault := by
  refine ⟨by simpa using h.kills, h.killsLast, h.halts, ?_⟩
  intro order cause id? index? hmem
  simpa [Plan.reported] using h.reported order _ hmem

namespace Act

variable {σ : Type}

theorem reserve_yields (id : String) (world : World σ) :
    (reserve id).Yields world fun outcome done after =>
      killsIn done = [] ∧ triesIn done = [] ∧ match outcome with
      | .ok _ => id ∉ world.registry.ids ∧ id ∉ world.registry.reserved ∧ Answered done ∧
          after.registry = { world.registry with reserved := id :: world.registry.reserved }
      | .error _ => after.registry = world.registry := by
  refine yields_bind_get (yields_bind (yields_ofExcept (fun claimed hclaimed => ?_) ?_))
  · obtain ⟨hvisible, hreserved, rfl⟩ := Registry.reserve_eq_ok_iff.mp hclaimed
    refine yields_bind (yields_set rfl (yields_note ⟨rfl, rfl, hvisible, hreserved, ?_, rfl⟩))
    exact answered_of_not_raised (by simp)
  · exact fun fault _ => ⟨rfl, rfl, rfl⟩

variable [Machine σ]

/-- A launch leaves the registry alone and launches all instances or leaves none. -/
theorem launchAll_yields (deployer : Deployer) (id : String) (request : Request) (world : World σ) :
    (launchAll deployer id request).Yields world fun outcome done after =>
      after.registry = world.registry ∧ match outcome with
      | .ok instances => AllLaunched request done instances
      | .error fault => NoneLeft id done fault := by
  refine yields_bind (yields_ofExcept (fun count hcount => ?_) fun fault _ => ?_)
  · refine yields_bind ((planFor_yields _ _ id request world).mono ?_)
    rintro outcome planned between ⟨hregistry, hquiet, hplanned⟩
    have hkills := picked_of_quiet Event.kill?_of_quiet hquiet
    have htries := picked_of_quiet Event.try?_of_quiet hquiet
    cases outcome with
    | error fault => exact ⟨hregistry, noneLeft_of_triesIn_eq_nil hkills htries id fault⟩
    | ok plan =>
        obtain ⟨hid, hanswered⟩ := hplanned plan rfl
        refine (launchMore_yields plan count [] [] between rfl).mono ?_
        rintro outcome done after ⟨hregistry', hdone⟩
        refine ⟨hregistry'.trans hregistry, ?_⟩
        cases outcome with
        | ok instances => exact (hdone.allLaunched hcount).prepend hkills htries
        | error fault =>
            have hnone := hdone.noneLeft
            rw [hid] at hnone
            exact hnone.prepend hkills htries hanswered
  · exact ⟨rfl, noneLeft_of_triesIn_eq_nil rfl rfl id fault⟩

/-- A deployment publishes all its instances under its id, or leaves the registry as it was and none
of them behind. -/
theorem deploy_yields (deployer : Deployer) (request? : Option Request) (world : World σ) :
    (deploy deployer request?).Yields world fun outcome done after => match outcome with
      | .ok id => ∃ request instances, request? = some request ∧ id = request.deploymentId ∧
          id ∉ world.registry.ids ∧ AllLaunched request done instances ∧
          after.registry = { world.registry with
            published := world.registry.published ++ [(id, instances)] }
      | .error fault => after.registry = world.registry ∧ ∃ id, NoneLeft id done fault ∧
          ∀ request, request? = some request → id = request.deploymentId := by
  cases request? with
  | none => exact yields_raise ⟨rfl, "", noneLeft_of_triesIn_eq_nil rfl rfl _ _, by simp⟩
  | some request =>
      refine yields_bind ((reserve_yields request.deploymentId world).mono ?_)
      rintro outcome first claimed ⟨hkills, htries, hfirst⟩
      cases outcome with
      | error fault =>
          exact ⟨hfirst, request.deploymentId,
            noneLeft_of_triesIn_eq_nil hkills htries _ fault, by simp⟩
      | ok _ =>
          obtain ⟨hvisible, hreserved, hanswered, hclaimed⟩ := hfirst
          refine yields_bind_attempt ((launchAll_yields deployer _ request claimed).mono ?_)
          rintro outcome done between ⟨hregistry, hdone⟩
          rw [hclaimed] at hregistry
          cases outcome with
          | ok instances =>
              have hall := hdone.prepend hkills htries
              refine yields_bind (yields_bind (yields_modify rfl (yields_note ?_)))
              refine yields_bind_note (yields_pure
                ⟨request, instances, rfl, rfl, hvisible, ⟨hall.count, hall.indices, ?_, ?_⟩, ?_⟩)
              · simpa using hall.launches
              · simpa using hall.kills
              · simp only [hregistry]
                exact Registry.publish_claim instances hvisible hreserved
          | error fault =>
              refine yields_bind (yields_modify rfl (yields_throw
                ⟨?_, request.deploymentId, ?_, by simp⟩))
              · simp only [hregistry]
                exact Registry.release_claim hreserved
              · simpa using hdone.prepend hkills htries hanswered

/-- A deployment either becomes visible, as the only change of the registry, with as many instances
as it asks for, each with its place as its index and with the process that the launch at this place
gave; or the registry is as it was, every process that was launched is killed once, no launch
follows the failing step, and a launch that failed for its own reasons is reported with the id and
the index. -/
theorem deploy_all_or_nothing (deployer : Deployer) (request? : Option Request) (world : World σ) :
    (deploy deployer request?).Yields world fun outcome done after => match outcome with
      | .ok id => ∃ (request : Request) (instances : List Instance), request? = some request ∧
          id = request.deploymentId ∧ id ∉ world.registry.ids ∧
          after.registry = { world.registry with
            published := world.registry.published ++ [(id, instances)] } ∧
          instanceCount request.deploymentProperties = .ok instances.length ∧
          (launchesIn done).length = instances.length ∧ killsIn done = [] ∧
          ∀ (place : Nat) (i : Instance), instances[place]? = some i → i.index = place ∧
            ∃ order : LaunchOrder, (launchesIn done)[place]? = some (order, i.pid) ∧
              order.index = place
      | .error fault => after.registry = world.registry ∧
          killsIn done = (launchesIn done).map (·.2) ∧ KillsLast done ∧ Halts done ∧
          ∀ request, request? = some request → ∀ order cause id? index?,
            .refusedLaunch order (.launchFailed cause id? index?) ∈ done →
              order.index = ((launchesIn done).length : Int) ∧ fault = .launchFailed cause
                (some request.deploymentId) (some (launchesIn done).length) := by
  refine (deploy_yields deployer request? world).mono ?_
  rintro outcome done after hdone
  cases outcome with
  | error fault =>
      obtain ⟨hregistry, id, hnone, hid⟩ := hdone
      refine ⟨hregistry, hnone.kills, hnone.killsLast, hnone.halts, fun request hrequest => ?_⟩
      rw [← hid request hrequest]
      exact hnone.reported
  | ok id =>
      obtain ⟨request, instances, hrequest, hid, hvisible, hall, hregistry⟩ := hdone
      refine ⟨request, instances, hrequest, hid, hvisible, hregistry, hall.count, ?_, hall.kills,
        ?_⟩
      · have hlength := congrArg List.length hall.launches
        simpa using hlength
      · intro place i hplace
        have hindex : i.index = place := by
          obtain ⟨hlt, rfl⟩ := List.getElem?_eq_some_iff.mp hplace
          have hrange := congrArg (·[place]?) hall.indices
          simpa [hlt] using hrange
        have hlaunch := congrArg (·[place]?) hall.launches
        simp only [List.getElem?_map, hplace, Option.map_some] at hlaunch
        obtain ⟨⟨order, pid⟩, hget, hpair⟩ := Option.map_eq_some_iff.mp hlaunch
        obtain ⟨horder, rfl⟩ := Prod.mk.inj hpair
        exact ⟨hindex, order, hget, by rw [horder, hindex]⟩

end Act

end AppSupervisor
