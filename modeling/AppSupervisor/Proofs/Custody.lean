import AppSupervisor.Proofs.Deploying
import AppSupervisor.Proofs.Operations
import AppSupervisor.Proofs.Undeploying

/-!
Custody of processes: no process that was ever launched is forgotten while it may still run.

What one call does to the processes it finds and to those it launches is a frame, so it holds of a
call if it holds of its parts. Along a run, the journal tells which processes were launched at all,
and the frames of the calls carry every one of them from its launch to the present.
-/

namespace AppSupervisor

variable {σ : Type}

def Held (registry : Registry (List Instance)) (pid : Nat) : Prop :=
  ∃ id instances, registry.get? id = some instances ∧ ∃ i ∈ instances, i.pid = pid

def Owned (done : List Event) : Prop :=
  ∀ id, .lost id ∉ done

/-- As long as no deployment is lost, a process that is held stays held or ends, and one that is
launched is held at the end or ends after its launch. -/
structure Accounts (world : World σ) (done : List Event) (after : World σ) : Prop where
  held : Owned done → ∀ pid, Held world.registry pid → Held after.registry pid ∨ Ended done pid
  launched : Owned done → ∀ before order pid rest,
    done = before ++ .launched order pid :: rest → Held after.registry pid ∨ Ended rest pid

section Frame

variable {world between after : World σ} {done more : List Event}

theorem owned_append : Owned (done ++ more) ↔ Owned done ∧ Owned more := by
  simp only [Owned, List.mem_append, not_or, forall_and]

theorem not_launched_of_triesIn_eq_nil {before rest : List Event} {order : LaunchOrder}
    {pid : Nat} (h : triesIn done = []) : done ≠ before ++ .launched order pid :: rest := by
  rintro rfl
  simp at h

/-- What neither touches the registry nor launches keeps account. -/
theorem accounts_of_registry_eq (hregistry : after.registry = world.registry)
    (htries : triesIn done = []) : Accounts world done after where
  held _ _ hheld := Or.inl (hregistry ▸ hheld)
  launched _ _ _ _ _ hsplit := absurd hsplit (not_launched_of_triesIn_eq_nil htries)

theorem Accounts.append (hdone : Accounts world done between)
    (hmore : Accounts between more after) : Accounts world (done ++ more) after := by
  constructor
  · intro howned pid hheld
    obtain ⟨hfirst, hsecond⟩ := owned_append.mp howned
    rcases hdone.held hfirst pid hheld with hheld | hended
    · exact (hmore.held hsecond pid hheld).imp id fun hended => hended.append_right done
    · exact Or.inr (hended.append_left more)
  · intro howned before order pid rest hsplit
    obtain ⟨hfirst, hsecond⟩ := owned_append.mp howned
    rcases append_eq_append_cons hsplit with ⟨others, hin, rfl⟩ | ⟨others, rfl, hin⟩
    · rcases hdone.launched hfirst before order pid others hin with hheld | hended
      · exact (hmore.held hsecond pid hheld).imp id fun hended => hended.append_right others
      · exact Or.inr (hended.append_left more)
    · exact hmore.launched hsecond others order pid rest hin

end Frame

instance : IsFrame fun _ => (Accounts : World σ → List Event → World σ → Prop) :=
  IsFrame.always (fun _ => accounts_of_registry_eq rfl rfl) Accounts.append
    (fun _ _ => accounts_of_registry_eq rfl rfl) fun _ _ hquiet =>
    accounts_of_registry_eq rfl (picked_of_quiet Event.try?_of_quiet (by simpa using hquiet))

/-- Where nothing is forgotten, whatever is held stays held. -/
theorem Stops.accounts {world after : World σ} {done : List Event}
    (h : Stops (fun _ => False) world done after) : Accounts world done after where
  held hnone pid hheld := by
    obtain ⟨id, instances, hget, hmem⟩ := hheld
    exact Or.inl ⟨id, instances, (h.kept id (fun hfalse => hfalse) (hnone id)).trans hget, hmem⟩
  launched _ _ _ _ _ hsplit := absurd hsplit (not_launched_of_triesIn_eq_nil h.tries)

theorem AllLaunched.accounts {request : Request} {world after : World σ} {done : List Event}
    {id : String} {instances : List Instance} (h : AllLaunched request done instances)
    (hvisible : id ∉ world.registry.ids)
    (hregistry : after.registry = { world.registry with
      published := world.registry.published ++ [(id, instances)] }) :
    Accounts world done after where
  held _ pid hheld := by
    obtain ⟨other, others, hget, hmem⟩ := hheld
    exact Or.inl ⟨other, others, hregistry ▸ Registry.get?_append hget, hmem⟩
  launched _ before order pid rest hsplit := by
    have hpair : (order.index, pid) ∈ instances.map fun i => ((i.index : Int), i.pid) := by
      rw [← h.launches, hsplit]
      simp
    obtain ⟨i, hi, heq⟩ := List.mem_map.mp hpair
    have hget : after.registry.get? id = some instances :=
      hregistry ▸ Registry.get?_append_self instances hvisible
    exact Or.inl ⟨id, instances, hget, i, hi, (Prod.mk.inj heq).2⟩

theorem NoneLeft.accounts {world after : World σ} {done : List Event} {id : String} {fault : Fault}
    (h : NoneLeft id done fault) (hregistry : after.registry = world.registry) :
    Accounts world done after where
  held _ _ hheld := Or.inl (hregistry ▸ hheld)
  launched _ before order pid rest hsplit := by
    -- the kill of a launched process stands in the part without launches, hence behind the launch
    obtain ⟨first, last, hdone, hfirst, hlast⟩ := h.killsLast
    have hkilled : pid ∈ killsIn done := by
      rw [h.kills, hsplit]
      simp
    have hpid : .killed pid ∈ last := by
      rw [hdone, killsIn, picked_append] at hkilled
      simpa [hfirst, mem_killsIn] using hkilled
    rcases append_eq_append_cons (hdone.symm.trans hsplit) with ⟨others, -, rfl⟩ | ⟨others, -, hin⟩
    · exact Or.inr (Or.inl (List.mem_append_right others hpid))
    · exact absurd hin (not_launched_of_triesIn_eq_nil hlast)

namespace Act

/-! ### The calls -/

variable [Machine σ]

theorem deploy_accounts (deployer : Deployer) (request? : Option Request) :
    (deploy deployer request? : Act σ String).Follows fun _ => Accounts := by
  refine fun world => (deploy_yields deployer request? world).mono ?_
  intro outcome done after hdone
  cases outcome with
  | error fault =>
      obtain ⟨hregistry, id, hnone, -⟩ := hdone
      exact hnone.accounts hregistry
  | ok id =>
      obtain ⟨request, instances, -, -, hvisible, hall, hregistry⟩ := hdone
      exact hall.accounts hvisible hregistry

/-- A process that was held is still held behind an undeployment, or it has ended. -/
theorem undeploy_accounts (deployer : Deployer) (id : String) :
    (undeploy deployer id : Act σ Unit).Follows fun _ => Accounts := by
  intro world
  cases hget : world.registry.get? id with
  | none =>
      refine (undeploy_unknown_yields deployer hget).mono ?_
      exact fun outcome done after hdone => hdone.2.accounts
  | some instances =>
      refine (undeploy_yields deployer hget).mono ?_
      intro outcome done after hdone
      cases hpass : closingPass deployer id instances world with
      | error fault =>
          simp only [hpass] at hdone
          exact hdone.2.2.accounts
      | ok _ =>
          simp only [hpass] at hdone
          obtain ⟨hended, -, hstops⟩ := hdone
          constructor
          · rintro hnone pid ⟨other, others, hother, i, hi, rfl⟩
            by_cases hsame : other = id
            · -- the instances of this deployment have all ended
              rw [hsame, hget] at hother
              cases hother
              exact Or.inr (hended i hi)
            · have hkept := (hstops.kept other hsame (hnone other)).trans hother
              exact Or.inl ⟨other, others, hkept, i, hi, rfl⟩
          · intro _ before order pid rest hsplit
            exact absurd hsplit (not_launched_of_triesIn_eq_nil hstops.tries)

theorem status_accounts (id : String) :
    (status id : Act σ AppStatus).Follows fun _ => Accounts := by
  have hstatus : (status id : Act σ AppStatus).Follows fun _ => Stops fun _ => False :=
    status_stops id
  exact hstatus.mono fun _ _ _ _ hstops => hstops.accounts

theorem states_accounts (ids : List String) :
    (states ids : Act σ (List (String × State))).Follows fun _ => Accounts := by
  refine follows_foldlM (fun found id => ?_) ids []
  exact (status_accounts id).bind fun status => follows_pure _

theorem shutdown_accounts (deployer : Deployer) :
    (shutdown deployer : Act σ Unit).Follows fun _ => Accounts :=
  shutdown_follows deployer accounts_of_registry_eq (undeploy_accounts deployer)

theorem operation_accounts (deployer : Deployer) (operation : Operation) :
    (operation.act deployer : Act σ Unit).Follows fun _ => Accounts := by
  cases operation with
  | deploy request? => exact (deploy_accounts deployer request?).bind fun _ => follows_pure ()
  | undeploy id => exact undeploy_accounts deployer id
  | status id => exact (status_accounts id).bind fun _ => follows_pure ()
  | states ids => exact (states_accounts ids).bind fun _ => follows_pure ()
  | streamLogs id =>
      exact ((instancesOf_follows id).bind fun _ => follows_pure _).bind fun _ => follows_pure ()
  | readLogs lines stream => exact (takeLines_follows lines stream).bind fun _ => follows_pure ()
  | shutdown => exact shutdown_accounts deployer

end Act

variable [Machine σ]

/-- After any number of calls, every process that was ever launched is held by a visible deployment,
or it was killed or seen to have exited after its launch, unless others took deployments away. -/
theorem held_or_ended_of_launched (deployer : Deployer) (world : World σ)
    (hreached : Reached deployer world) (howned : Owned world.journal)
    (later earlier : List Event) (order : LaunchOrder) (pid : Nat)
    (hlaunched : world.journal = later ++ .launched order pid :: earlier) :
    Held world.registry pid ∨ Ended later pid := by
  induction hreached generalizing later earlier with
  | start world hjournal => simp [hjournal] at hlaunched
  | pass world machine hreached ih => exact ih howned later earlier hlaunched
  | call world operation hreached ih =>
      obtain ⟨done, hjournal, haccounts⟩ := Act.operation_accounts deployer operation world
      rw [hjournal] at howned hlaunched
      obtain ⟨hnow, hbefore⟩ := owned_append.mp howned
      have hnone : Owned done := by simpa [Owned] using hnow
      rcases append_eq_append_cons hlaunched with ⟨rest, hin, -⟩ | ⟨rest, rfl, hin⟩
      · -- launched by this call
        have hsplit : done = rest.reverse ++ .launched order pid :: later.reverse := by
          rw [← List.reverse_reverse done, hin]
          simp
        rcases haccounts.launched hnone _ order pid _ hsplit with hheld | hended
        · exact Or.inl hheld
        · exact Or.inr (by simpa [Ended] using hended)
      · -- launched by a call before
        rcases ih hbefore rest earlier hin with hheld | hended
        · refine (haccounts.held hnone pid hheld).imp id fun hended => ?_
          exact Ended.append_left (by simpa [Ended] using hended) rest
        · exact Or.inr (hended.append_right done.reverse)

open Rehearsal

def Rehearsal.afterDeployment : World Rehearsal :=
  let request : Request :=
    { definition := { name := "app" }, resource := .provided "Fixed" (.ok "/app.py") }
  (((Operation.deploy (some request)).act swiftDeployer).perform { machine := {} }).2

theorem held_or_ended_afterDeployment :
    Reached swiftDeployer afterDeployment ∧ Owned afterDeployment.journal ∧
      ∃ later order earlier, afterDeployment.journal = later ++ .launched order 40000 :: earlier ∧
        (Held afterDeployment.registry 40000 ∨ Ended later 40000) := by
  have hreached : Reached swiftDeployer afterDeployment := .call _ _ (.start _ rfl)
  have hnone : lossesIn afterDeployment.journal = [] := by decide +kernel
  have howned : Owned afterDeployment.journal := by
    intro id hmem
    simpa using picked_eq_nil_iff.mp hnone _ hmem
  have hpids : 40000 ∈ (launchesIn afterDeployment.journal).map (·.2) := by decide +kernel
  obtain ⟨⟨order, pid⟩, hlaunch, rfl⟩ := List.mem_map.mp hpids
  obtain ⟨later, earlier, hjournal⟩ := List.append_of_mem (mem_launchesIn.mp hlaunch)
  exact ⟨hreached, howned, later, order, earlier, hjournal,
    held_or_ended_of_launched swiftDeployer _ hreached howned later earlier order _ hjournal⟩

end AppSupervisor
