import AppSupervisor.Proofs.Deploying
import AppSupervisor.Proofs.Interleaving
import AppSupervisor.Proofs.Removal
import AppSupervisor.Proofs.Undeploying

/-!
The moves that the program makes.

A deployment and an undeployment make the moves of a client of the registry, and nothing else that
they do changes it. What others remove while an undeployment waits for the network are the moves of
another client.
-/

namespace AppSupervisor

open Interleaving

variable {σ : Type}

def Loses (world : World σ) (done : List Event) (after : World σ) : Prop :=
  after.registry = (lossesIn done).foldl Registry.remove world.registry

theorem Event.loss?_of_quiet (event : Event) (h : event.isQuiet) : event.loss? = none := by
  cases event <;> simp_all [isQuiet]

theorem Loses.append {world between after : World σ} {done more : List Event}
    (hdone : Loses world done between) (hmore : Loses between more after) :
    Loses world (done ++ more) after := by
  rw [Loses, hmore, hdone, lossesIn, lossesIn, lossesIn, picked_append, List.foldl_append]

instance : IsFrame fun _ => (Loses : World σ → List Event → World σ → Prop) :=
  IsFrame.always (fun _ => rfl) Loses.append (fun _ _ => rfl) fun world event hquiet => by
    rw [Loses, lossesIn, picked_cons, Event.loss?_of_quiet event hquiet]
    rfl

section Losses

variable {α : Type} {s : System Bool α}

/-- Another client can remove what is lost, as an undeployment does. -/
theorem run_loss (id : String) (hidle : s.phase false = .idle) :
    ∃ trace next, Run s trace next ∧ next.registry = s.registry.remove id ∧
      next.phase false = .idle ∧ next.phase true = s.phase true ∧ movesOf true trace = [] := by
  cases hget : s.registry.get? id with
  | none =>
      have hsame : s.registry.remove id = s.registry := Registry.remove_of_hidden hget
      exact ⟨_, s, .cons (.miss hidle hget) .nil, hsame.symm, hidle, rfl, rfl⟩
  | some value =>
      refine ⟨_, _, .cons (.get hidle hget) (.cons (.stop (become_phase_self s false _ _))
        (.cons (.remove (become_phase_self _ false _ _)) .nil)), rfl, become_phase_self _ _ _ _, ?_,
        rfl⟩
      have hother : true ≠ false := by decide
      simp only [become_phase_of_ne _ hother]

theorem run_losses (ids : List String) (hidle : s.phase false = .idle) :
    ∃ trace next, Run s trace next ∧ next.registry = ids.foldl Registry.remove s.registry ∧
      next.phase false = .idle ∧ next.phase true = s.phase true ∧ movesOf true trace = [] := by
  induction ids generalizing s with
  | nil => exact ⟨[], s, .nil, rfl, hidle, rfl, rfl⟩
  | cons id rest ih =>
      obtain ⟨first, between, hfirst, hregistry, hidle, hphase, hmoves⟩ := run_loss id hidle
      obtain ⟨more, next, hmore, hregistry', hidle', hphase', hmoves'⟩ := ih hidle
      refine ⟨first ++ more, next, run_append_iff.mpr ⟨between, hfirst, hmore⟩, ?_, hidle',
        hphase'.trans hphase, ?_⟩
      · rw [hregistry', hregistry, List.foldl_cons]
      · rw [movesOf_append, hmoves, hmoves', List.append_nil]

/-- An undeployment that others interrupt, up to its wait and up to its end. -/
theorem run_undeployment {registry : Registry α} {id : String} {value : α}
    (hget : registry.get? id = some value) (ids : List String) :
    (∃ (trace : Trace Bool α) (s : System Bool α), Run (.calm registry) trace s ∧
      s.registry = ids.foldl Registry.remove registry ∧ movesOf true trace = [.got id value]) ∧
    ∃ (trace : Trace Bool α) (s : System Bool α) (taken? : Option α), Run (.calm registry) trace s ∧
      s.registry = (ids.foldl Registry.remove registry).remove id ∧
      movesOf true trace = [.got id value, .stopped id value, .removed id taken?] := by
  have hgot : Step (.calm registry) true (.got id value) _ := .get rfl hget
  obtain ⟨others, waited, hothers, hregistry, -, hphase, hmoves⟩ :=
    run_losses ids (hgot.phase_of_ne (by decide : false ≠ true))
  have hstopped : Step waited true (.stopped id value) _ := .stop hphase
  have hrest : Run waited
      [(true, .stopped id value), (true, .removed id (waited.registry.get? id))] _ :=
    .cons hstopped (.cons (.remove (become_phase_self waited true (.stopped id value) _)) .nil)
  constructor
  · refine ⟨_, waited, .cons hgot hothers, hregistry, ?_⟩
    rw [movesOf_cons_self, hmoves]
  · refine ⟨_, _, waited.registry.get? id,
      .cons hgot (run_append_iff.mpr ⟨waited, hothers, hrest⟩), ?_, ?_⟩
    · exact congrArg (·.remove id) hregistry
    · rw [movesOf_cons_self, movesOf_append, hmoves, movesOf_cons_self, movesOf_self,
        List.nil_append]

end Losses

namespace Act

variable [Machine σ]

instance : IsStopFrame (Loses : World σ → List Event → World σ → Prop) where
  lose _ _ := yields_bind (yields_modify rfl (yields_note rfl))
  kill _ := kill_follows fun _ _ => rfl

omit [Machine σ] in
instance (thread : String) : IsAskFrame thread (Loses : World σ → List Event → World σ → Prop) :=
  isAskFrame_of (fun _ _ _ => rfl) fun event hrequest world => yields_note (by
    cases event <;> first | contradiction | rfl)

/-! ### Deploying -/

omit [Machine σ] in
theorem reserve_moves (id : String) (world : World σ) :
    (reserve id).Yields world fun outcome _ after => match outcome with
      | .ok _ => world.registry.reserve id = .ok after.registry
      | .error fault => world.registry.reserve id = .error fault ∧
          after.registry = world.registry := by
  refine yields_bind_get (yields_bind (yields_ofExcept (fun claimed hclaimed => ?_) ?_))
  · exact yields_bind (yields_set rfl (yields_note hclaimed))
  · exact fun fault hfault => ⟨hfault, rfl⟩

/-- A deployment claims its id and publishes its instances, or it gives the claim up, or it is
refused. -/
theorem deploy_moves (deployer : Deployer) (request : Request) (world : World σ) :
    (deploy deployer (some request)).Yields world fun outcome _ after =>
      ∃ s, s.registry = after.registry ∧ match outcome with
        | .ok id => ∃ instances,
            Run (.calm world.registry) [((), .claimed id), ((), .published id instances)] s
        | .error _ =>
            Run (.calm world.registry) [((), .refused request.deploymentId)] s ∨
            Run (.calm world.registry) [((), .claimed request.deploymentId),
              ((), .released request.deploymentId)] s := by
  refine yields_bind ((reserve_moves request.deploymentId world).mono ?_)
  rintro (fault | _) _ claimed hreserve
  · obtain ⟨hrefused, hsame⟩ := hreserve
    exact ⟨.calm world.registry, hsame.symm, Or.inl (.cons (.refuse rfl hrefused) .nil)⟩
  · refine yields_bind_attempt ((launchAll_yields deployer _ request claimed).mono ?_)
    rintro outcome done between ⟨hregistry, -⟩
    cases outcome with
    | ok instances =>
        refine yields_bind (yields_bind (yields_modify rfl (yields_note ?_)))
        refine yields_bind_note (yields_pure ⟨_, ?_, instances,
          .cons (.claim rfl hreserve) (.cons (.publish instances rfl) .nil)⟩)
        rw [become_registry, ← hregistry]
        rfl
    | error fault =>
        refine yields_bind (yields_modify rfl (yields_throw ⟨_, ?_, Or.inr
          (.cons (.claim rfl hreserve) (.cons (.release rfl) .nil))⟩))
        rw [become_registry, ← hregistry]
        rfl

/-! ### Undeploying -/

/-- An undeployment looks its id up, stops what it found and removes the id, while others remove
what is lost; or it ends with a fault before it removes the id. -/
theorem undeploy_moves (deployer : Deployer) (id : String) (world : World σ) :
    (undeploy deployer id).Yields world fun outcome done after =>
      ∃ (trace : Trace Bool (List Instance)) (s : System Bool (List Instance)),
        Run (.calm world.registry) trace s ∧ s.registry = after.registry ∧
        match world.registry.get? id with
        | none => movesOf true trace = [.missed id] ∧ outcome = .error (.notDeployed id)
        | some instances =>
          (∃ taken?, movesOf true trace =
              [.got id instances, .stopped id instances, .removed id taken?] ∧
            ∀ i ∈ instances, Ended done i.pid) ∨
          (movesOf true trace = [.got id instances] ∧ ∃ fault, outcome = .error fault) := by
  cases hget : world.registry.get? id with
  | none =>
      refine yields_bind (yields_bind_get ?_)
      rw [hget]
      exact yields_raise ⟨[(true, .missed id)], .calm world.registry, .cons (.miss rfl hget) .nil,
        rfl, rfl, rfl⟩
  | some instances =>
      have hstop : (stopInstances deployer instances : Act σ Unit).Follows fun _ => Loses :=
        stopInstances_stops deployer instances
      have hkill : (killLiving instances : Act σ Unit).Follows fun _ => Loses :=
        killLiving_stops instances
      refine yields_bind ((instancesOf_yields hget).mono ?_)
      rintro _ _ _ ⟨rfl, rfl, rfl⟩
      refine yields_bind_note (yields_bind (yields_ensuring ((hstop _).mono ?_)))
      rintro outcome stopping between hstopping
      refine yields_bind (((killLiving_yields instances between).and (hkill between)).mono ?_)
      rintro result killing closed ⟨hpassed, hkilling⟩
      have hlosses : closed.registry =
          (lossesIn (stopping ++ killing)).foldl Registry.remove world.registry :=
        hstopping.append hkilling
      have hruns := run_undeployment hget (lossesIn (stopping ++ killing))
      rw [← hlosses] at hruns
      obtain ⟨hunfinished, hfinished⟩ := hruns
      cases result with
      | error fault =>
          obtain ⟨trace, s, hrun, hs, hmoves⟩ := hunfinished
          exact ⟨trace, s, hrun, hs, Or.inr ⟨hmoves, fault, rfl⟩⟩
      | ok _ =>
          obtain ⟨trace, s, taken?, hrun, hs, hmoves⟩ := hfinished
          have hended : ∀ i ∈ instances,
              Ended (.logged .info s!"Undeploying {id}" :: (stopping ++ killing)) i.pid :=
            fun i hi => (hpassed i hi).append_right (_ :: stopping)
          refine yields_modify rfl ?_
          cases outcome with
          | error fault =>
              refine ⟨trace, s, hrun, hs, Or.inl ⟨taken?, hmoves, ?_⟩⟩
              simpa using hended
          | ok _ =>
              refine yields_pure ⟨trace, s, hrun, hs, Or.inl ⟨taken?, hmoves, ?_⟩⟩
              simpa using hended

end Act

end AppSupervisor
