import AppSupervisor.Proofs.LaunchOrders
import AppSupervisor.Proofs.Undeploying
import AppSupervisor.Proofs.Variables
import AppSupervisor.Rehearsal.Machine

/-!
The ports that one allocator hands out, call after call.

A port that is named is handed out as it is. Any other was seen free in the same call and is none of
those before, so what the allocator keeps in mind is what it handed out, and instances that share
one allocator and name no port have a port each.
-/

namespace AppSupervisor

variable {σ : Type}

def DrawsBetween (σ : Type) [Machine σ] : Prop :=
  ∀ (low high : Int) (machine : σ), low ≤ high →
    low ≤ (Machine.draw low high machine).1 ∧ (Machine.draw low high machine).1 ≤ high

/-! ### One call -/

structure FoundFree (low high : Int) (host : String) (excluded : List Int) (done : List Event)
    (port : Int) : Prop where
  lower : low ≤ port
  upper : port ≤ high
  seen : .triedPort host port true ∈ done
  notExcluded : port ∉ excluded

theorem FoundFree.prepend {low high port : Int} {host : String} {excluded : List Int}
    {done : List Event} (h : FoundFree low high host excluded done port) (first : List Event) :
    FoundFree low high host excluded (first ++ done) port where
  lower := h.lower
  upper := h.upper
  seen := List.mem_append_right first h.seen
  notExcluded := h.notExcluded

theorem FoundFree.append {low high port : Int} {host : String} {excluded : List Int}
    {done : List Event} (h : FoundFree low high host excluded done port) (last : List Event) :
    FoundFree low high host excluded (done ++ last) port where
  lower := h.lower
  upper := h.upper
  seen := List.mem_append_left last h.seen
  notExcluded := h.notExcluded

def ProbeFails (σ : Type) [Machine σ] (host : String) (fault : Fault) : Prop :=
  ∃ (port : Int) (machine : σ), (Machine.isPortFree port host machine).1 = .error fault

def Searched (σ : Type) [Machine σ] (low high : Int) (host : String) (excluded : List Int)
    (outcome : Except Fault (Option Int)) (done : List Event) : Prop :=
  match outcome with
  | .ok found => ∀ port, found = some port → FoundFree low high host excluded done port
  | .error fault => ProbeFails σ host fault

theorem Searched.prepend [Machine σ] {low high : Int} {host : String} {excluded : List Int}
    {outcome : Except Fault (Option Int)} {done : List Event}
    (h : Searched σ low high host excluded outcome done) (first : List Event) :
    Searched σ low high host excluded outcome (first ++ done) := by
  cases outcome with
  | error fault => exact h
  | ok found => exact fun port hfound => (h port hfound).prepend first

namespace Act

variable [Machine σ]

theorem isPortFree_yields (port : Int) (host : String) (world : World σ) :
    (isPortFree port host).Yields world fun outcome done _ => match outcome with
      | .ok isFree => done = [.triedPort host port isFree]
      | .error fault => ProbeFails σ host fault := by
  refine yields_bind (yields_tryMachine (fun isFree machine _ => ?_) fun fault machine hfails => ?_)
  · exact yields_bind_note (yields_pure rfl)
  · exact ⟨port, world.machine, by rw [hfails]⟩

theorem draw_yields (hdraws : DrawsBetween σ) {low high : Int} (hrange : low ≤ high)
    (world : World σ) :
    (draw low high).Yields world fun outcome _ _ =>
      ∃ port, outcome = .ok port ∧ low ≤ port ∧ port ≤ high :=
  yields_bind_onMachine (yields_bind_note (yields_pure ⟨_, rfl, hdraws low high _ hrange⟩))

/-- A port is tried, and the search goes on if it is not free. -/
theorem yields_tryPort {low high port : Int} {host : String} {excluded : List Int}
    {rest : Act σ (Option Int)} {world : World σ} (hlower : low ≤ port) (hupper : port ≤ high)
    (hrest : ∀ world, rest.Yields world fun outcome done _ =>
      Searched σ low high host excluded outcome done) (hnew : port ∉ excluded) :
    (do if ← isPortFree port host then return some port else rest).Yields world
      fun outcome done _ => Searched σ low high host excluded outcome done := by
  refine yields_bind ((isPortFree_yields port host world).mono ?_)
  rintro outcome done between htried
  cases outcome with
  | error fault => exact htried
  | ok isFree =>
      cases isFree with
      | false => exact (hrest between).mono fun _ _ _ hmore => hmore.prepend done
      | true =>
          refine yields_pure ?_
          rintro _ ⟨rfl⟩
          exact ⟨hlower, hupper, by simp [htried], hnew⟩

theorem drawPort_searched (hdraws : DrawsBetween σ) {low high : Int} (hrange : low ≤ high)
    (host : String) (excluded : List Int) (count : Nat) (world : World σ) :
    (drawPort low high host excluded count).Yields world fun outcome done _ =>
      Searched σ low high host excluded outcome done := by
  induction count generalizing world with
  | zero => exact yields_pure (by simp [Searched])
  | succ count ih =>
      refine yields_bind ((draw_yields hdraws hrange world).mono ?_)
      rintro _ drawn between ⟨port, rfl, hlower, hupper⟩
      dsimp only
      split
      · exact (ih between).mono fun _ _ _ hmore => hmore.prepend drawn
      · rename_i hnew
        have hnew : port ∉ excluded := by simpa using hnew
        exact (yields_tryPort hlower hupper ih hnew).mono fun _ _ _ hmore => hmore.prepend drawn

theorem searchPort_searched {low high : Int} (host : String) (excluded : List Int) (port : Int)
    (count : Nat) (hlower : low ≤ port) (hupper : port + count ≤ high + 1) (world : World σ) :
    (searchPort host excluded port count).Yields world fun outcome done _ =>
      Searched σ low high host excluded outcome done := by
  induction count generalizing port world with
  | zero => exact yields_pure (by simp [Searched])
  | succ count ih =>
      have hrest := ih (port + 1) (by omega) (by omega)
      unfold searchPort
      split
      · exact hrest world
      · rename_i hnew
        exact yields_tryPort hlower (by omega) hrest (by simpa using hnew)

/-- A port that is found was free, in the range and not excluded; if none is found, that is the
fault, unless the machine could not tell. -/
theorem findPort_found (hdraws : DrawsBetween σ) {low high : Int} (hrange : low ≤ high)
    (host : String) (excluded : List Int) (world : World σ) :
    (findPort low high host excluded).Yields world fun outcome done _ => match outcome with
      | .ok port => FoundFree low high host excluded done port
      | .error fault => fault = .launchFailed (.noPort low high) none none ∨
          ProbeFails σ host fault := by
  refine yields_bind ((drawPort_searched hdraws hrange host excluded _ world).mono ?_)
  rintro outcome drawn between hdrawn
  rcases outcome with fault | _ | port
  · exact Or.inr hdrawn
  · have hcount : low + (high - low + 1).toNat ≤ high + 1 := by omega
    have hsearch := searchPort_searched host excluded low _ (Int.le_refl low) hcount between
    refine yields_bind (hsearch.mono ?_)
    rintro outcome searched after hsearched
    rcases outcome with fault | _ | port
    · exact Or.inr hsearched
    · exact yields_raise (Or.inl rfl)
    · refine yields_pure ?_
      rw [List.append_nil]
      exact (hsearched port rfl).prepend drawn
  · refine yields_pure ?_
    rw [List.append_nil]
    exact hdrawn port rfl

/-- A call hands out the port that is named. Where none is, it hands out a free one that was not
handed out before. -/
theorem allocatePort_yields (hdraws : DrawsBetween σ) (host : String) (allocated : List Int)
    (properties : List (String × String)) (arguments : List String) (world : World σ) :
    (allocatePort host allocated properties arguments).Yields world fun outcome done _ =>
      match namedPort properties arguments with
      | .error fault => outcome = .error fault
      | .ok (some port) => outcome =
          .ok (port, if allocated.contains port then allocated else allocated ++ [port])
      | .ok none => match outcome with
        | .ok (port, kept) => FoundFree firstPort maxPort host allocated done port ∧
            kept = allocated ++ [port]
        | .error fault => fault = .launchFailed (.noPort firstPort maxPort) none none ∨
            ProbeFails σ host fault := by
  refine yields_bind (yields_ofExcept (fun named hnamed => ?_) fun fault hfault => by rw [hfault])
  rw [hnamed]
  cases named with
  | some port => exact yields_pure rfl
  | none =>
      refine yields_bind ((findPort_found hdraws (by decide) host allocated world).mono ?_)
      rintro outcome done between hfound
      cases outcome with
      | error fault => exact hfound
      | ok port =>
          refine yields_bind_note (yields_pure ⟨?_, ?_⟩)
          · exact hfound.append _
          · simp [hfound.notExcluded]

end Act

/-! ### Call after call -/

/-- The answers of the calls of one allocator for a host, and the ports that it keeps in mind. Any
call may find another machine. A call that fails gives no list, so the one before is kept. -/
inductive Allocations (σ : Type) [Machine σ] (host : String) :
    List (Except Fault Int) → List Int → Prop
  | start : Allocations σ host [] []
  | given {answers : List (Except Fault Int)} {allocated kept : List Int} {port : Int}
      {properties : List (String × String)} {arguments : List String} {world after : World σ}
      (hcall : (Act.allocatePort host allocated properties arguments).perform world =
        (.ok (port, kept), after))
      (hrun : Allocations σ host answers allocated) :
      Allocations σ host (answers ++ [.ok port]) kept
  | refused {answers : List (Except Fault Int)} {allocated : List Int} {fault : Fault}
      {properties : List (String × String)} {arguments : List String} {world after : World σ}
      (hcall : (Act.allocatePort host allocated properties arguments).perform world =
        (.error fault, after))
      (hrun : Allocations σ host answers allocated) :
      Allocations σ host (answers ++ [.error fault]) allocated

/-- What a call keeps in mind is what it had in mind and what it hands out. -/
theorem mem_allocatePort [Machine σ] {host : String} {allocated kept : List Int} {port : Int}
    {properties : List (String × String)} {arguments : List String} {world after : World σ}
    (hcall : (Act.allocatePort host allocated properties arguments).perform world =
      (.ok (port, kept), after)) (other : Int) :
    other ∈ kept ↔ other ∈ allocated ∨ other = port := by
  obtain ⟨named, _, -, hperform⟩ := Act.perform_bind_eq_ok hcall
  obtain rfl : kept = if allocated.contains port then allocated else allocated ++ [port] := by
    cases named with
    | some _ =>
        cases hperform
        rfl
    | none =>
        obtain ⟨_, _, -, hperform⟩ := Act.perform_bind_eq_ok hperform
        obtain ⟨_, _, -, hperform⟩ := Act.perform_bind_eq_ok hperform
        cases hperform
        rfl
  split
  · rename_i hold
    simp only [List.contains_eq_mem, decide_eq_true_eq] at hold
    exact ⟨Or.inl, fun h => h.elim id fun heq => heq ▸ hold⟩
  · simp

/-- An allocator keeps in mind what it handed out. -/
theorem Allocations.mem_iff [Machine σ] {host : String} {answers : List (Except Fault Int)}
    {allocated : List Int} (h : Allocations σ host answers allocated) (port : Int) :
    port ∈ allocated ↔ .ok port ∈ answers := by
  induction h with
  | start => simp
  | given hcall _ ih => simp [mem_allocatePort hcall, ih]
  | refused _ _ ih => simp [ih]

/-! ### All instances of a deployment -/

/-- The orders of some launches are those of a plan with ports of their own, from an index on. -/
structure PortEach (plan : Plan) (before ports : List Int) (done : List Event) : Prop where
  distinct : (before ++ ports).Nodup
  range : ∀ port ∈ ports, firstPort ≤ port ∧ port ≤ maxPort
  orders : (launchesIn done).map (·.1) =
    (ports.zipIdx before.length).map fun (port, index) => plan.order port index

theorem portEach_nil {plan : Plan} {before : List Int} {done : List Event}
    (hdistinct : before.Nodup) (hnolaunch : launchesIn done = []) :
    PortEach plan before [] done where
  distinct := by simpa using hdistinct
  range := by simp
  orders := by simp [hnolaunch]

theorem PortEach.cons {plan : Plan} {before ports : List Int} {port : Int} {done rest : List Event}
    (h : PortEach plan (before ++ [port]) ports rest) (hrange : firstPort ≤ port ∧ port ≤ maxPort)
    (hfirst : (launchesIn done).map (·.1) = [plan.order port before.length]) :
    PortEach plan before (port :: ports) (done ++ rest) where
  distinct := by simpa using h.distinct
  range := List.forall_mem_cons.mpr ⟨hrange, h.range⟩
  orders := by
    have hrest := h.orders
    simp only [launchesIn, picked_append, List.map_append] at hfirst hrest ⊢
    rw [hfirst, hrest, List.zipIdx_cons]
    simp

namespace Act

variable [Machine σ]

theorem launchInstance_port (hdraws : DrawsBetween σ) {plan : Plan} (index : Nat)
    (allocated : List Int) (world : World σ)
    (hnamed : namedPort plan.request.definition.properties plan.request.arguments = .ok none) :
    (launchInstance plan index allocated).Yields world fun outcome _ _ =>
      ∀ i kept, outcome = .ok (i, kept) → firstPort ≤ i.port ∧ i.port ≤ maxPort ∧
        i.port ∉ allocated ∧ kept = allocated ++ [i.port] := by
  have hport := allocatePort_yields hdraws plan.host allocated plan.request.definition.properties
    plan.request.arguments world
  rw [hnamed] at hport
  refine yields_bind (hport.mono ?_)
  rintro outcome chosen between hchosen
  rcases outcome with fault | ⟨port, kept⟩
  · simp
  · obtain ⟨hfound, rfl⟩ := hchosen
    refine yields_bind_attempt ((launch_yields _ between).mono ?_)
    rintro outcome launched after -
    cases outcome with
    | error fault => exact yields_throw (by simp)
    | ok pid =>
        refine yields_bind_note (yields_pure ?_)
        rintro _ _ ⟨rfl⟩
        exact ⟨hfound.lower, hfound.upper, hfound.notExcluded, rfl⟩

/-- Without a named port, the ports of the started instances are those that the allocator keeps in
mind, and each further one gets another. -/
theorem launchMore_ports (hdraws : DrawsBetween σ) {plan : Plan} (count : Nat)
    (started : List Instance) (world : World σ)
    (hnamed : namedPort plan.request.definition.properties plan.request.arguments = .ok none)
    (hdistinct : (started.map (·.port)).Nodup) :
    (launchMore plan count started (started.map (·.port))).Yields world fun outcome done _ =>
      ∃ ports, PortEach plan (started.map (·.port)) ports done ∧
        ∀ instances, outcome = .ok instances →
          instances.map (·.port) = started.map (·.port) ++ ports := by
  -- What carries the induction is that the allocator keeps the ports of the started instances.
  induction count generalizing started world with
  | zero =>
      refine yields_pure ⟨[], portEach_nil hdistinct rfl, ?_⟩
      rintro _ ⟨rfl⟩
      simp
  | succ count ih =>
      refine yields_bind_attempt (((launchInstance_yields plan _ _ world).and
        (launchInstance_port hdraws _ _ world hnamed)).mono ?_)
      rintro outcome first between ⟨⟨-, -, -, hfirst⟩, hport⟩
      rcases outcome with fault | ⟨i, kept⟩
      · refine yields_bind ((killStarted_yields plan.deploymentId started between).mono ?_)
        rintro _ killed after ⟨rfl, -, -, htries⟩
        refine yields_throw ⟨[], portEach_nil hdistinct ?_, by simp⟩
        simp [hfirst.1, launchesIn_of_triesIn_eq_nil htries]
      · obtain ⟨-, hindex, hlaunches, -⟩ := hfirst
        obtain ⟨hlower, hupper, hnew, rfl⟩ := hport i kept rfl
        have hkept : started.map (·.port) ++ [i.port] = (started ++ [i]).map (·.port) := by simp
        have hdistinct' : ((started ++ [i]).map (·.port)).Nodup := by
          rw [← hkept]
          simpa only [List.concat_eq_append] using hdistinct.concat hnew
        dsimp only
        rw [hkept]
        refine (ih (started ++ [i]) between hdistinct').mono ?_
        rintro outcome rest after ⟨ports, heach, hports⟩
        rw [← hkept] at heach
        refine ⟨i.port :: ports, heach.cons ⟨hlower, hupper⟩ ?_, fun instances hok => ?_⟩
        · simp [hlaunches, Plan.launchOf, hindex]
        · simpa using hports instances hok

/-- Where an app names no port, each instance is launched with a port of its own. -/
theorem launchAll_ports (hdraws : DrawsBetween σ) (deployer : Deployer) (id : String)
    {request : Request} (world : World σ)
    (hnamed : namedPort request.definition.properties request.arguments = .ok none) :
    (launchAll deployer id request).Yields world fun outcome done _ =>
      (launchesIn done = [] ∧ ∃ fault, outcome = .error fault) ∨
        ∃ plan ports, PlanOf deployer id request plan ∧ PortEach plan [] ports done ∧
          ∀ instances, outcome = .ok instances → instances.map (·.port) = ports := by
  refine yields_bind (yields_ofExcept (fun count _ => ?_) fun fault _ => Or.inl ⟨rfl, fault, rfl⟩)
  refine yields_bind (((planFor_planOf deployer id request world).and
    (planFor_prepared _ _ id request world)).mono ?_)
  rintro outcome planned between ⟨hplan, -, hquiet, -⟩
  have hnolaunch := picked_of_quiet Event.launch?_of_quiet hquiet
  cases outcome with
  | error fault => exact Or.inl ⟨hnolaunch, fault, rfl⟩
  | ok plan =>
      have hplan := hplan plan rfl
      rw [← hplan.request] at hnamed
      refine (launchMore_ports hdraws count [] between hnamed List.nodup_nil).mono ?_
      rintro outcome done after ⟨ports, ⟨hall, hrange, horders⟩, hports⟩
      refine Or.inr ⟨plan, ports, hplan, ⟨hall, hrange, ?_⟩, hports⟩
      simpa [hnolaunch] using horders

/-- Without a named port, each launch of a deployment is told a port of its own, and these are the
ports of its instances if it succeeds. -/
theorem deploy_ports (hdraws : DrawsBetween σ) (deployer : Deployer) {request : Request}
    (world : World σ)
    (hnamed : namedPort request.definition.properties request.arguments = .ok none) :
    (deploy deployer (some request)).Yields world fun outcome done after =>
      ∃ ports : List Int, ports.Nodup ∧ (∀ port ∈ ports, firstPort ≤ port ∧ port ≤ maxPort) ∧
        (launchesIn done).map (fun launch => launch.1.environment.lookup portProperty) =
          ports.map (fun port => some (toString port)) ∧
        ∀ id, outcome = .ok id → ∃ instances, after.registry.get? id = some instances ∧
          instances.map (·.port) = ports := by
  refine (deploy_around deployer request world fun claimed _ _ =>
    launchAll_ports hdraws deployer request.deploymentId claimed hnamed).mono ?_
  rintro outcome done after (⟨-, rfl, htalk, -⟩ |
    ⟨⟨hvisible, -⟩, claimed, result, middle, between, -, -, hports, haround, -, -, hresult⟩)
  · exact ⟨[], by simp, by simp, by simp [picked_of_talk Event.launch?_of_talk htalk], by simp⟩
  · have hlaunches : launchesIn done = launchesIn middle := haround.picked Event.launch?_of_talk
    rw [hlaunches]
    rcases hports with ⟨hnolaunch, fault, rfl⟩ | ⟨plan, ports, hplan, heach, hports⟩
    · obtain ⟨rfl, -⟩ := hresult
      exact ⟨[], by simp, by simp, by simp [hnolaunch], by simp⟩
    · refine ⟨ports, by simpa using heach.distinct, heach.range, ?_, ?_⟩
      · have htold (port : Int) (index : Nat) :
            (plan.order port index).environment.lookup portProperty = some (toString port) := by
          rw [Plan.order, hplan.request,
            Command.lookup_environmentOf hplan.environment port index portProperty]
          rfl
        have hports : (ports.zipIdx 0).map Prod.fst = ports := List.zipIdx_map_fst 0 ports
        have horders := congrArg (List.map fun order : LaunchOrder =>
          order.environment.lookup portProperty) heach.orders
        rw [← hports]
        simpa only [List.map_map, Function.comp_def, htold, List.length_nil] using horders
      · rintro id rfl
        cases result with
        | error fault => simp at hresult
        | ok instances =>
            obtain ⟨hid, hregistry⟩ := hresult
            cases hid
            refine ⟨instances, ?_, hports instances rfl⟩
            rw [hregistry]
            exact Registry.get?_append_self instances hvisible

end Act

/-- What an allocator keeps in mind is what it handed out. Its next call hands out the port that is
named, or else one that is seen free in that call and was not handed out before. So the instances of
a deployment that names no port get different ones. -/
theorem handed_out_ports [Machine σ] (hdraws : DrawsBetween σ) :
    (∀ (host : String) (answers : List (Except Fault Int)) (allocated : List Int),
      Allocations σ host answers allocated →
      (∀ port, port ∈ allocated ↔ .ok port ∈ answers) ∧
      ∀ (properties : List (String × String)) (arguments : List String) (world : World σ),
        (Act.allocatePort host allocated properties arguments).Yields world fun outcome done _ =>
          match namedPort properties arguments with
          | .ok (some port) => (∃ kept, outcome = .ok (port, kept)) ∧ 1 ≤ port ∧ port ≤ maxPort
          | .error fault => outcome = .error fault ∧ ∃ cause, fault = .badRequest cause
          | .ok none => match outcome with
            | .ok (port, _) => firstPort ≤ port ∧ port ≤ maxPort ∧
                .triedPort host port true ∈ done ∧ .ok port ∉ answers
            | .error fault => fault = .launchFailed (.noPort firstPort maxPort) none none ∨
                ProbeFails σ host fault) ∧
    ∀ (deployer : Deployer) (request : Request) (world : World σ),
      namedPort request.definition.properties request.arguments = .ok none →
      (Act.deploy deployer (some request)).Yields world fun outcome done after =>
        ∃ ports : List Int, ports.Nodup ∧ (∀ port ∈ ports, firstPort ≤ port ∧ port ≤ maxPort) ∧
          (launchesIn done).map (fun launch => launch.1.environment.lookup portProperty) =
            ports.map (fun port => some (toString port)) ∧
          ∀ id, outcome = .ok id → ∃ instances, after.registry.get? id = some instances ∧
            instances.map (·.port) = ports := by
  refine ⟨fun host answers allocated hrun => ⟨hrun.mem_iff, fun properties arguments world => ?_⟩,
    fun deployer request world hnamed => Act.deploy_ports hdraws deployer world hnamed⟩
  refine (Act.allocatePort_yields hdraws host allocated properties arguments world).mono ?_
  rintro outcome done - hcall
  cases hnamed : namedPort properties arguments with
  | error fault =>
      rw [hnamed] at hcall
      exact ⟨hcall, namedPort_eq_error hnamed⟩
  | ok named =>
      rw [hnamed] at hcall
      rcases named with _ | port
      · rcases outcome with fault | ⟨port, kept⟩
        · exact hcall
        · obtain ⟨hfound, -⟩ := hcall
          have hnew : .ok port ∉ answers := mt (hrun.mem_iff port).mpr hfound.notExcluded
          exact ⟨hfound.lower, hfound.upper, hfound.seen, hnew⟩
      · exact ⟨⟨_, hcall⟩, namedPort_eq_ok hnamed⟩

open Rehearsal

def crowdedHost : Rehearsal :=
  { busyPorts := [8081], draws := [920, 1, 2, 2, 3] }

def crowdedAnswers : List (Except Fault Int) :=
  [.ok 9000, .error (.badRequest (.portNotInteger portProperty "web")), .ok 8082]

def twinApp : Request where
  definition := { name := "app" }
  resource := .provided "https" (.ok "/app.py")
  deploymentProperties := [(countProperty, "2")]

theorem drawsBetween_rehearsal : DrawsBetween Rehearsal := by
  intro low high machine hrange
  have hpos : 0 < high - low + 1 := by omega
  have hlower := Int.emod_nonneg (machine.draws.getD machine.drawCount machine.drawCount)
    (Int.ne_of_gt hpos)
  have hupper := Int.emod_lt_of_pos (machine.draws.getD machine.drawCount machine.drawCount) hpos
  simp only [Machine.draw]
  omega

theorem allocations_crowded : Allocations Rehearsal "127.0.0.1" crowdedAnswers [9000, 8082] := by
  have hnamed : ((Act.allocatePort "127.0.0.1" [] [] ["--server.port=9000"]).perform
      { machine := crowdedHost }).1.toOption = some (9000, [9000]) := by
    decide +kernel
  have hany : ((Act.allocatePort "127.0.0.1" [9000] [] []).perform
      { machine := crowdedHost }).1.toOption = some (8082, [9000, 8082]) := by
    decide +kernel
  have hrefused : ((Act.allocatePort "127.0.0.1" [9000] [(portProperty, "web")] []).perform
      { machine := crowdedHost }) =
        (.error (.badRequest (.portNotInteger portProperty "web")), _) := rfl
  exact .given (Act.perform_of_toOption hany)
    (.refused hrefused (.given (Act.perform_of_toOption hnamed) .start))

theorem handed_out_ports_crowded : DrawsBetween Rehearsal ∧
    Allocations Rehearsal "127.0.0.1" crowdedAnswers [9000, 8082] ∧
    (∀ port, port ∈ [9000, 8082] ↔ .ok port ∈ crowdedAnswers) ∧
    namedPort twinApp.definition.properties twinApp.arguments = .ok none ∧
    ∃ instances, ((Act.deploy swiftDeployer (some twinApp)).perform
        { machine := crowdedHost }).2.registry.get? "default.app" = some instances ∧
      (instances.map (·.port)).Nodup ∧ instances.length = 2 := by
  have hfresh := handed_out_ports drawsBetween_rehearsal
  have hrun := allocations_crowded
  have hnamed : namedPort twinApp.definition.properties twinApp.arguments = .ok none := rfl
  obtain ⟨done, -, ports, hdistinct, -, -, hports⟩ :=
    hfresh.2 swiftDeployer twinApp { machine := crowdedHost } hnamed
  have hdeployed : ((Act.deploy swiftDeployer (some twinApp)).perform
      { machine := crowdedHost }).1.toOption = some "default.app" := by
    decide +kernel
  have hcount : (((Act.deploy swiftDeployer (some twinApp)).perform
      { machine := crowdedHost }).2.registry.get? "default.app").map (·.length) = some 2 := by
    decide +kernel
  obtain ⟨instances, hget, rfl⟩ :=
    hports "default.app" (congrArg Prod.fst (Act.perform_of_toOption hdeployed))
  refine ⟨drawsBetween_rehearsal, hrun, (hfresh.1 _ _ _ hrun).1, hnamed, instances, hget,
    hdistinct, ?_⟩
  simpa [hget] using hcount

end AppSupervisor
