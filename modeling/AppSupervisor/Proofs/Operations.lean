import AppSupervisor.Proofs.BeforeLaunch
import AppSupervisor.Proofs.ReachedWorlds
import AppSupervisor.Proofs.Stopping

/-!
What the calls of a deployer follow.

Reading output asks the machine for nothing but files, and looking up instances asks it for nothing.
So a relation that holds of whatever stops instances, and of forgetting a deployment, holds of every
call but a deployment and a shutdown.
-/

namespace AppSupervisor

variable {σ : Type} {R : World σ → List Event → World σ → Prop}

namespace Act

theorem instancesOf_follows [Composes fun _ => R] (id : String) :
    (instancesOf id : Act σ (List Instance)).Follows fun _ => R := by
  refine follows_get.bind fun world => ?_
  split
  · exact follows_pure _
  · exact follows_raise _

variable [Machine σ]

/-! ### Deployments -/

section Deployment

variable [IsFrame fun _ => R]

theorem makeWorkDirectory_follows (hroot : ∀ world root, R world [] { world with root })
    (settings : Settings) (groupName deploymentId : String) :
    (makeWorkDirectory settings groupName deploymentId : Act σ Files.Path).Follows fun _ => R := by
  refine (workRoot_follows hroot settings).bind fun root => ?_
  refine (makeDirectory_follows true _).bind fun _ => ?_
  refine (makeDirectory_follows false _).attempt.bind fun outcome => ?_
  split
  · exact follows_pure _
  · exact makeTemporary_follows _ _
  · exact follows_throw _

omit [Machine σ] in
theorem reserve_follows (hregistry : ∀ world registry, R world [] { world with registry })
    (id : String) : (reserve id : Act σ Unit).Follows fun _ => R := by
  intro world
  refine yields_bind_get (yields_bind (yields_ofExcept (fun claimed _ => ?_) fun fault _ => ?_))
  · have hlog : (log .debug (Registry.reservedNotice id) : Act σ Unit).Follows fun _ => R :=
      follows_log _ _
    refine yields_bind (yields_set rfl ((hlog _).mono fun outcome done after hdone => ?_))
    exact Composes.append (hregistry world claimed) hdone
  · exact IsFrame.fault (R := fun _ => R) world fault

/-- A deployment follows what launches and kills follow, if neither the root of the working
directories nor the registry matters. -/
theorem deploy_follows (hroot : ∀ world root, R world [] { world with root })
    (hregistry : ∀ world registry, R world [] { world with registry })
    (hlaunch : ∀ order, (launch order : Act σ Nat).Follows fun _ => R)
    (hkill : ∀ pid, (kill pid : Act σ Unit).Follows fun _ => R) (deployer : Deployer)
    (request? : Option Request) :
    (deploy deployer request? : Act σ String).Follows fun _ => R := by
  have hplan (id : String) (request : Request) : (planFor deployer.settings deployer.environment id
      request : Act σ Plan).Follows fun _ => R :=
    planFor_follows (workDirectoryFor_follows
      (fun groupName => makeWorkDirectory_follows hroot _ groupName id) request) _
  have hpublish (id : String) (instances : List Instance) :
      (publish id instances : Act σ Unit).Follows fun _ => R := by
    have hmodify : Act.Follows (modify fun world => { world with
        registry := world.registry.publish id instances } : Act σ Unit) fun _ => R :=
      fun world => yields_modify rfl (hregistry world _)
    exact hmodify.bind fun _ => follows_log _ _
  have hrelease (id : String) : (release id : Act σ Unit).Follows fun _ => R :=
    fun world => yields_modify rfl (hregistry world _)
  cases request? with
  | none => exact follows_raise _
  | some request =>
      refine (reserve_follows hregistry request.deploymentId).bind fun _ => ?_
      have hall := (follows_ofExcept (instanceCount request.deploymentProperties)).bind fun count =>
        (hplan request.deploymentId request).bind fun plan =>
          launchMore_follows hlaunch hkill plan count [] []
      refine Follows.bind (Follows.attempt hall) fun outcome => ?_
      split
      · refine (hpublish _ _).bind fun _ => ?_
        exact (follows_log _ _).bind fun _ => follows_pure _
      · exact (hrelease _).bind fun _ => follows_throw _

end Deployment

/-! ### Shutdown -/

/-- The loop over deployments follows what undeploying follows. -/
theorem undeployAll_follows [Composes fun _ => R] {deployer : Deployer}
    (hundeploy : ∀ id, (undeploy deployer id : Act σ Unit).Follows fun _ => R)
    (ids : List String) : (undeployAll deployer ids : Act σ Unit).Follows fun _ => R := by
  induction ids with
  | nil => exact follows_pure ()
  | cons id rest ih =>
      refine (hundeploy id).attempt.bind fun outcome => ?_
      split
      · exact ih
      · exact ih
      · exact follows_throw _

theorem deleteWorkRoot_follows [IsFrame fun _ => R] (deployer : Deployer)
    (hremoved : ∀ path, (note (.removedTree path) : Act σ Unit).Follows fun _ => R)
    (hroot : ∀ world root, R world [] { world with root }) :
    (deleteWorkRoot deployer : Act σ Unit).Follows fun _ => R := by
  unfold deleteWorkRoot
  split
  · refine follows_get.bind fun world => ?_
    split
    · exact follows_pure ()
    · refine ((follows_onMachine _).bind fun _ => hremoved _).bind fun _ => ?_
      exact (follows_log _ _).bind fun _ world => yields_modify rfl (hroot world none)
  · exact follows_pure ()

/-- A shutdown follows what undeploying follows, if nothing else matters than the registry and the
launches. -/
theorem shutdown_follows [IsFrame fun _ => R] (deployer : Deployer)
    (hsame : ∀ {world done after}, after.registry = world.registry → triesIn done = [] →
      R world done after)
    (hundeploy : ∀ id, (undeploy deployer id : Act σ Unit).Follows fun _ => R) :
    (shutdown deployer : Act σ Unit).Follows fun _ => R := by
  have hnote {event : Event} (h : event.try? = none) :
      (note event : Act σ Unit).Follows fun _ => R := by
    refine fun _ => yields_note (hsame rfl (picked_eq_nil_iff.mpr fun other hmem => ?_))
    rw [List.mem_singleton.mp hmem, h]
  have hclose : (closeSessions : Act σ Unit).Follows fun _ => R := by
    refine follows_get.bind fun world => Follows.bind (fun between => ?_) fun _ => ?_
    · exact yields_modify rfl (hsame rfl rfl)
    · exact follows_forM (fun session => hnote rfl) _
  have hdelete : (deleteWorkRoot deployer : Act σ Unit).Follows fun _ => R :=
    deleteWorkRoot_follows deployer (fun _ => hnote rfl) fun _ _ => hsame rfl rfl
  refine follows_get.bind fun world => (undeployAll_follows hundeploy _).bind fun _ => ?_
  exact hdelete.bind fun _ => hclose

/-! ### Output -/

section Reading

variable [IsWatched fun _ => R]

theorem nextLineOf_follows (log : OpenLog) :
    (nextLineOf log : Act σ (Option String × OpenLog)).Follows fun _ => R :=
  (follows_askMachine _).bind fun _ => follows_pure _

theorem nextWaiting_follows (waiting : List Files.Path) :
    (nextWaiting waiting : Act σ (Option String × LogStream)).Follows fun _ => R := by
  induction waiting with
  | nil => exact follows_pure _
  | cons path rest ih =>
      refine (follows_tryOperation (.openFile path)).attempt.bind fun outcome => ?_
      split
      · exact (follows_log _ _).bind fun _ => ih
      · exact follows_throw _
      · refine (nextLineOf_follows _).bind fun found => ?_
        split
        · exact follows_pure _
        · exact ih

theorem takeLines_follows (count : Nat) (stream : LogStream) :
    (takeLines count stream : Act σ (List String × LogStream)).Follows fun _ => R := by
  have hnext : ∀ stream, (nextLine stream : Act σ (Option String × LogStream)).Follows
      fun _ => R := by
    intro stream
    unfold nextLine
    split
    · exact nextWaiting_follows _
    · refine (nextLineOf_follows _).bind fun found => ?_
      split
      · exact follows_pure _
      · exact nextWaiting_follows _
  induction count generalizing stream with
  | zero => exact follows_pure _
  | succ count ih =>
      refine (hnext stream).bind fun found => ?_
      split
      · exact follows_pure _
      · exact (ih _).bind fun lines => follows_pure _

end Reading

/-! ### Calls -/

/-- What holds behind a call holds behind a deployment and behind any other call. -/
theorem operation_yields {deployer : Deployer} {operation : Operation} {world : World σ}
    {post : List Event → World σ → Prop}
    (hdeploy : ∀ request?, (deploy deployer request? : Act σ String).Yields world fun _ => post)
    (hother : (∀ request?, operation ≠ .deploy request?) →
      (operation.act deployer : Act σ Unit).Yields world fun _ => post) :
    (operation.act deployer : Act σ Unit).Yields world fun _ => post := by
  cases operation with
  | deploy request? =>
      refine yields_bind ((hdeploy request?).mono fun outcome done after hpost => ?_)
      cases outcome with
      | ok id => exact yields_pure (by simpa using hpost)
      | error fault => exact hpost
  | _ => exact hother (by simp)

variable [IsStopFrame R] [IsAskFrame mainThread R]

theorem states_follows (ids : List String) :
    (states ids : Act σ (List (String × State))).Follows fun _ => R := by
  refine follows_foldlM (fun found id => ?_) ids []
  exact (status_stops id).bind fun status => follows_pure _

theorem undeploy_follows (hforget : ∀ id, (forget id : Act σ Unit).Follows fun _ => R)
    (deployer : Deployer) (id : String) :
    (undeploy deployer id : Act σ Unit).Follows fun _ => R := by
  refine (instancesOf_follows id).bind fun instances => (follows_log _ _).bind fun _ => ?_
  have hclosing : (do killLiving instances; forget id : Act σ Unit).Follows fun _ => R :=
    (killLiving_stops instances).bind fun _ => hforget id
  exact ((stopInstances_stops deployer instances).ensuring hclosing).bind fun _ => follows_pure ()

/-- Every call follows what its parts follow; a deployment and a shutdown are left to the caller. -/
theorem operation_follows (hforget : ∀ id, (forget id : Act σ Unit).Follows fun _ => R)
    (deployer : Deployer) (operation : Operation)
    (hdeploy : ∀ request?, operation = .deploy request? →
      (deploy deployer request? : Act σ String).Follows fun _ => R)
    (hshutdown : operation = .shutdown → (shutdown deployer : Act σ Unit).Follows fun _ => R) :
    (operation.act deployer : Act σ Unit).Follows fun _ => R := by
  cases operation with
  | deploy request? => exact (hdeploy request? rfl).bind fun _ => follows_pure ()
  | undeploy id => exact undeploy_follows hforget deployer id
  | status id => exact (status_stops id).bind fun _ => follows_pure ()
  | states ids => exact (states_follows ids).bind fun _ => follows_pure ()
  | streamLogs id =>
      exact ((instancesOf_follows id).bind fun _ => follows_pure _).bind fun _ => follows_pure ()
  | readLogs lines stream => exact (takeLines_follows lines stream).bind fun _ => follows_pure ()
  | shutdown => exact hshutdown rfl

/-- Every call but a deployment takes deployments away at most. So a relation between registries
that holds where one is taken away holds behind such a call, however many it takes away. -/
theorem operation_takesAway {P : Registry (List Instance) → Registry (List Instance) → Prop}
    (hrefl : ∀ r, P r r) (htrans : ∀ {r s t}, P r s → P s t → P r t)
    (hremove : ∀ r id, P r (r.remove id)) (deployer : Deployer) {operation : Operation}
    (hdeploy : ∀ request?, operation ≠ .deploy request?) :
    (operation.act deployer : Act σ Unit).Follows
      fun _ world _ after => P world.registry after.registry := by
  let R : World σ → List Event → World σ → Prop :=
    fun world _ after => P world.registry after.registry
  have hframe : IsFrame fun _ => R :=
    IsFrame.always (fun _ => hrefl _) htrans (fun _ _ => hrefl _) fun _ _ _ => hrefl _
  have hstop : IsStopFrame R :=
    { lose := fun _ _ => yields_bind (yields_modify rfl (yields_note (hremove _ _)))
      kill := fun _ => kill_follows fun _ _ => hrefl _ }
  have hask : IsAskFrame mainThread R :=
    isAskFrame_of (fun _ _ _ => hrefl _) fun _ _ _ => yields_note (hrefl _)
  have hforget (id : String) : (forget id : Act σ Unit).Follows fun _ => R :=
    fun _ => yields_modify rfl (hremove _ _)
  refine operation_follows hforget deployer operation (fun _ h => absurd h (hdeploy _)) fun _ => ?_
  refine shutdown_follows deployer (fun {world _ _} hregistry _ => ?_)
    (undeploy_follows hforget deployer)
  exact (congrArg (P world.registry) hregistry).mpr (hrefl _)

end Act

/-! ### Runs -/

/-- What every call follows, and what the machine may do between calls, is followed by a run. -/
theorem Operated.follows [Machine σ] [IsFrame fun _ => R] {deployer : Deployer}
    {allows : Operation → Prop} {keeps : World σ → σ → Prop} {start world : World σ}
    (hcalls : ∀ operation, allows operation →
      (operation.act deployer : Act σ Unit).Follows fun _ => R)
    (hrun : Operated deployer allows keeps start world) :
    ∃ done, world.journal = done.reverse ++ start.journal ∧ R start done world := by
  induction hrun with
  | start => exact ⟨[], rfl, IsFrame.refl (R := fun _ => R) true start⟩
  | @call world operation hallows _ ih =>
      obtain ⟨done, hjournal, hdone⟩ := ih
      obtain ⟨more, hmore, hlast⟩ := hcalls operation hallows world
      exact ⟨done ++ more, by simp [hmore, hjournal], Composes.append hdone hlast⟩
  | @pass world machine _ _ ih =>
      obtain ⟨done, hjournal, hdone⟩ := ih
      have hpass := IsFrame.machine (R := fun _ => R) world machine
      exact ⟨done ++ [], by simp [hjournal], Composes.append hdone hpass⟩

end AppSupervisor
