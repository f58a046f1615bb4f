import AppSupervisor.Proofs.Stopping
import AppSupervisor.Rehearsal.Machine

/-!
Undeploying: stopping the instances of a deployment and forgetting it.

The closing pass goes over all instances once more, whatever went wrong before, and kills those
that are alive; only then the deployment is forgotten. So all depends on this pass: it ends early
where an instance cannot be asked whether it is alive.
-/

namespace AppSupervisor

variable {σ : Type}

theorem Ended.append_left {done : List Event} {pid : Nat} (h : Ended done pid) (more : List Event) :
    Ended (done ++ more) pid := by
  rcases h with hkill | ⟨code, hexit⟩
  · exact Or.inl (List.mem_append_left more hkill)
  · exact Or.inr ⟨code, List.mem_append_left more hexit⟩

theorem Ended.append_right {done : List Event} {pid : Nat} (h : Ended done pid)
    (before : List Event) : Ended (before ++ done) pid := by
  rcases h with hkill | ⟨code, hexit⟩
  · exact Or.inl (List.mem_append_right before hkill)
  · exact Or.inr ⟨code, List.mem_append_right before hexit⟩

/-- What is known of a pass that ends some instances one after another: it ended all of them, or
all in front of one that the machine did not answer for. -/
def Passed (σ : Type) [Machine σ] (instances : List Instance) (outcome : Except Fault Unit)
    (done : List Event) : Prop :=
  match outcome with
  | .ok _ => ∀ i ∈ instances, Ended done i.pid
  | .error fault => ∃ front i rest, instances = front ++ i :: rest ∧
      (∀ j ∈ front, Ended done j.pid) ∧
      ∃ machine : σ, (Machine.exitCode i.pid machine).1 = .error fault

section Passed

variable [Machine σ] {instances : List Instance} {outcome : Except Fault Unit}
  {first more : List Event}

theorem Passed.cons {i : Instance} (hfirst : Ended first i.pid)
    (hmore : Passed σ instances outcome more) :
    Passed σ (i :: instances) outcome (first ++ more) := by
  cases outcome with
  | ok _ =>
      rintro j (_ | ⟨_, hj⟩)
      · exact hfirst.append_left more
      · exact (hmore j hj).append_right first
  | error fault =>
      obtain ⟨front, j, rest, rfl, hfront, hrefused⟩ := hmore
      refine ⟨i :: front, j, rest, rfl, ?_, hrefused⟩
      rintro k (_ | ⟨_, hk⟩)
      · exact hfirst.append_left more
      · exact (hfront k hk).append_right first

theorem Passed.append_right (hmore : Passed σ instances outcome more) (first : List Event) :
    Passed σ instances outcome (first ++ more) := by
  cases outcome with
  | ok _ => exact fun i hi => (hmore i hi).append_right first
  | error fault =>
      obtain ⟨front, i, rest, hsplit, hfront, hrefused⟩ := hmore
      exact ⟨front, i, rest, hsplit, fun j hj => (hfront j hj).append_right first, hrefused⟩

end Passed

namespace Act

variable [Machine σ]

omit [Machine σ] in
theorem instancesOf_yields {id : String} {instances : List Instance} {world : World σ}
    (hget : world.registry.get? id = some instances) :
    (instancesOf id).Yields world fun outcome done after =>
      outcome = .ok instances ∧ done = [] ∧ world = after := by
  refine yields_bind_get ?_
  rw [hget]
  exact yields_pure ⟨rfl, rfl, rfl⟩

/-- Killing passes all instances, or all in front of one that the machine does not answer for. -/
theorem killLiving_yields (instances : List Instance) (world : World σ) :
    (killLiving instances).Yields world fun outcome done _ => Passed σ instances outcome done := by
  induction instances generalizing world with
  | nil => exact yields_pure (by simp [Passed])
  | cons i rest ih =>
      refine yields_bind ((isAlive_yields i.pid world).mono ?_)
      rintro outcome done between hdone
      match outcome, hdone with
      | .ok true, hnothing =>
          subst hnothing
          refine yields_bind ((kill_yields i.pid between).mono ?_)
          rintro _ _ after ⟨rfl, rfl, -⟩
          have hkilled : Ended [.killed i.pid] i.pid := Or.inl (by simp)
          exact (ih after).mono fun _ _ _ hmore => (hmore.cons hkilled).append_right []
      | .ok false, ⟨code, hexit⟩ =>
          subst hexit
          have hexited : Ended [.sawExit i.pid code] i.pid := Or.inr ⟨code, by simp⟩
          exact (ih between).mono fun _ _ _ hmore => hmore.cons hexited
      | .error fault, hrefused => exact ⟨[], i, rest, rfl, by simp, world.machine, hrefused⟩

def closingWorld (deployer : Deployer) (id : String) (instances : List Instance)
    (world : World σ) : World σ :=
  let logged := ((log .info s!"Undeploying {id}" : Act σ Unit).perform world).2
  ((stopInstances deployer instances).perform logged).2

def closingPass (deployer : Deployer) (id : String) (instances : List Instance)
    (world : World σ) : Except Fault Unit :=
  ((killLiving instances).perform (closingWorld deployer id instances world)).1

/-- A deployment leaves the registry exactly if its closing pass gets an answer from every instance.
-/
theorem undeploy_yields (deployer : Deployer) {id : String} {instances : List Instance}
    {world : World σ} (hget : world.registry.get? id = some instances) :
    (undeploy deployer id).Yields world fun outcome done after =>
      Passed σ instances (closingPass deployer id instances world) done ∧
        match closingPass deployer id instances world with
        | .ok _ => after.registry.get? id = none ∧ Stops (· = id) world done after
        | .error fault => outcome = .error fault ∧ Stops (fun _ => False) world done after := by
  have hstop : (stopInstances deployer instances : Act σ Unit).Follows
      fun _ => Stops fun _ => False := stopInstances_stops deployer instances
  have hkill : (killLiving instances : Act σ Unit).Follows fun _ => Stops fun _ => False :=
    killLiving_stops instances
  refine yields_bind ((instancesOf_yields hget).mono ?_)
  rintro _ _ _ ⟨rfl, rfl, rfl⟩
  refine yields_bind_note (yields_bind (yields_ensuring ((hstop _).located.mono ?_)))
  rintro outcome stopping between ⟨hbetween, hstopping⟩
  have hclosing : closingWorld deployer id instances world = between := congrArg Prod.snd hbetween
  refine yields_bind (((killLiving_yields instances between).and (hkill between)).located.mono ?_)
  rintro result killing closed ⟨hclosed, hpassed, hkilling⟩
  have hresult : closingPass deployer id instances world = result := by
    rw [closingPass, hclosing, hclosed]
  have hlogged : Stops (fun _ => False) world [.logged .info s!"Undeploying {id}"] _ :=
    stops_of_quiet rfl
  have hstops := hlogged.append (hstopping.append hkilling)
  have hall := hpassed.append_right (.logged .info s!"Undeploying {id}" :: stopping)
  simp only [hresult]
  cases result with
  | error fault => exact ⟨by simpa using hall, rfl, by simpa using hstops⟩
  | ok _ =>
      refine (forget_yields id closed).mono ?_
      rintro _ _ after ⟨rfl, rfl, hgone, hforgotten⟩
      have hwider : Stops (· = id) world _ closed := hstops.mono fun _ hfalse => hfalse.elim
      have hboth := hwider.append hforgotten
      cases outcome with
      | error fault => exact ⟨by simpa using hall, hgone, by simpa using hboth⟩
      | ok _ => exact yields_pure ⟨by simpa using hall, hgone, by simpa using hboth⟩

theorem undeploy_unknown_yields (deployer : Deployer) {id : String} {world : World σ}
    (hget : world.registry.get? id = none) :
    (undeploy deployer id).Yields world fun outcome done after =>
      outcome = .error (.notDeployed id) ∧ Stops (fun _ => False) world done after := by
  refine yields_bind (yields_bind_get ?_)
  rw [hget]
  exact yields_raise ⟨rfl, stops_of_quiet rfl⟩

/-- An undeployment makes a visible deployment leave the registry, with every instance killed or
seen to have exited, exactly if the closing pass gets an answer for all instances, or if others took
the deployment and the instances have ended nevertheless. Otherwise the undeployment ends with the
fault of the question that was not answered, and the deployment stays unless others take it. -/
theorem undeploy_removes_iff (deployer : Deployer) (id : String) (instances : List Instance)
    (world : World σ) (hget : world.registry.get? id = some instances) :
    (undeploy deployer id).Yields world fun outcome done after =>
      ((id ∉ after.registry.ids ∧ ∀ i ∈ instances, Ended done i.pid) ↔
        closingPass deployer id instances world = .ok () ∨
          (.lost id ∈ done ∧ ∀ i ∈ instances, Ended done i.pid)) ∧
      ∀ fault, closingPass deployer id instances world = .error fault →
        outcome = .error fault ∧ (id ∉ after.registry.ids ↔ .lost id ∈ done) ∧
          ∃ front i rest, instances = front ++ i :: rest ∧ (∀ j ∈ front, Ended done j.pid) ∧
            ∃ machine : σ, (Machine.exitCode i.pid machine).1 = .error fault := by
  refine (undeploy_yields deployer hget).mono ?_
  intro outcome done after hdone
  cases hpass : closingPass deployer id instances world with
  | ok _ =>
      obtain ⟨hended, hgone, -⟩ := by simpa only [hpass] using hdone
      have hleft : id ∉ after.registry.ids := Registry.get?_eq_none_iff.mp hgone
      exact ⟨⟨fun _ => Or.inl rfl, fun _ => ⟨hleft, hended⟩⟩, by simp⟩
  | error fault =>
      obtain ⟨hfront, houtcome, hstops⟩ := by simpa only [hpass] using hdone
      have hleft : id ∉ after.registry.ids ↔ .lost id ∈ done := by
        rw [← Registry.get?_eq_none_iff]
        exact hstops.gone_iff_lost hget fun hfalse => hfalse
      refine ⟨⟨fun hclaim => ?_, fun hright => ?_⟩, fun other hother => ?_⟩
      · -- only a loss takes the deployment away where the pass ended early
        exact Or.inr ⟨hleft.mp hclaim.1, hclaim.2⟩
      · rcases hright with hok | ⟨hlost, hended⟩
        · contradiction
        · exact ⟨hleft.mpr hlost, hended⟩
      · cases hother
        exact ⟨houtcome, hleft, hfront⟩

end Act

/-! ### A deployment of two instances -/

namespace Rehearsal

open AppSupervisor.Files

def twoInstances : List Instance :=
  [0, 1].map fun index => {
    deploymentId := "default.app", index, pid := firstPid + index, workDir := .ofString "/work",
    stdout := .ofString "/work/out", stderr := .ofString "/work/err", port := 8080,
    baseUrl := "http://localhost:8080" }

def twoRunning (isHidden : Bool) : World Rehearsal where
  machine := { processes := #[{ isHidden }, {}] }
  registry := { published := [("default.app", twoInstances)] }

def swiftDeployer : Deployer where
  settings :=
    { root := .ofString "/tmp", launcher := "python", shutdownTimeout := 0, patterns := [] }
  environment := []

end Rehearsal

open Rehearsal

theorem undeploy_removes_two_running :
    (twoRunning false).registry.get? "default.app" = some twoInstances ∧
      (Act.undeploy swiftDeployer "default.app").Yields (twoRunning false) fun _ done after =>
        "default.app" ∉ after.registry.ids ∧ ∀ i ∈ twoInstances, Ended done i.pid := by
  have hget : (twoRunning false).registry.get? "default.app" = some twoInstances := rfl
  refine ⟨hget, (Act.undeploy_removes_iff swiftDeployer _ _ _ hget).mono ?_⟩
  intro outcome done after hdone
  have hpass : (Act.closingPass swiftDeployer "default.app" twoInstances (twoRunning false)).isOk :=
    by decide +kernel
  refine hdone.1.mpr (Or.inl ?_)
  cases hresult : Act.closingPass swiftDeployer "default.app" twoInstances (twoRunning false) with
  | ok _ => rfl
  | error fault => simp [hresult, Except.isOk, Except.toBool] at hpass

/-- One process that cannot be asked keeps the whole deployment registered. -/
theorem undeploy_keeps_unanswered :
    ¬(Act.undeploy swiftDeployer "default.app").Yields (twoRunning true) fun _ done after =>
      "default.app" ∉ after.registry.ids ∧ ∀ i ∈ twoInstances, Ended done i.pid := by
  rintro ⟨done, -, hgone, -⟩
  have hkept : "default.app" ∈
      ((Act.undeploy swiftDeployer "default.app").perform (twoRunning true)).2.registry.ids := by
    decide +kernel
  exact hgone hkept

end AppSupervisor
