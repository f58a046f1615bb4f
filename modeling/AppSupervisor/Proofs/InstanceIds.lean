import AppSupervisor.Proofs.FreshDirectories

/-!
Ids of instances.

The id of an instance joins the id of its deployment and its index by a dash. A deployment id may
hold dashes and digits of its own, but an index holds no dash, so the last dash of an instance id
tells where the index begins. What is left is that the visible ids differ from each other, and that
the instances of each deployment are numbered in order. Both hold of a fresh registry, a deployment
keeps them, and all other calls only take deployments away.
-/

namespace AppSupervisor

variable {σ : Type}

/-! ### Joining by a dash -/

theorem append_cons_inj_of_not_mem {α : Type} {front other back last : List α} {mark : α}
    (hback : mark ∉ back) (hlast : mark ∉ last)
    (h : front ++ mark :: back = other ++ mark :: last) : front = other ∧ back = last := by
  rcases append_eq_append_cons h with ⟨rest, rfl, rfl⟩ | ⟨rest, rfl, hrest⟩
  · simp at hlast
  · cases rest with
    | nil => exact ⟨by simp, (List.cons_eq_cons.mp hrest).2⟩
    | cons head rest =>
        obtain ⟨-, rfl⟩ := List.cons_eq_cons.mp hrest
        simp at hback

theorem dash_not_mem_toString (index : Nat) : '-' ∉ (toString index).toList := by
  rw [toList_toString]
  intro hmem
  exact absurd (Nat.isDigit_of_mem_toDigits (by decide) (by decide) hmem) (by decide)

/-- An id and an index are read back from the text that joins them, whatever the id looks like. -/
theorem dashed_injective {id other : String} {m n : Nat} (h : s!"{id}-{m}" = s!"{other}-{n}") :
    id = other ∧ m = n := by
  have htoList (id : String) (index : Nat) :
      s!"{id}-{index}".toList = id.toList ++ '-' :: (toString index).toList := by
    have hjoined : s!"{id}-{index}" = id ++ "-" ++ toString index := rfl
    rw [hjoined, String.toList_append, String.toList_append]
    simp
  have hlists := congrArg String.toList h
  rw [htoList, htoList] at hlists
  obtain ⟨hid, hindex⟩ := append_cons_inj_of_not_mem (dash_not_mem_toString m)
    (dash_not_mem_toString n) hlists
  exact ⟨String.toList_injective hid, toString_injective (String.toList_injective hindex)⟩

/-! ### Numbered deployments -/

structure Numbered (published : List (String × List Instance)) : Prop where
  distinct : (published.map (·.1)).Nodup
  ids : ∀ entry ∈ published, entry.2.map Instance.id =
    (List.range entry.2.length).map fun index => s!"{entry.1}-{index}"

theorem Numbered.sublist {published kept : List (String × List Instance)} (h : Numbered published)
    (hkept : kept.Sublist published) : Numbered kept where
  distinct := h.distinct.sublist (hkept.map _)
  ids entry hmem := h.ids entry (hkept.subset hmem)

theorem Numbered.concat {published : List (String × List Instance)} {id : String}
    {instances : List Instance} (h : Numbered published) (hnew : id ∉ published.map (·.1))
    (hids : instances.map Instance.id =
      (List.range instances.length).map fun index => s!"{id}-{index}") :
    Numbered (published ++ [(id, instances)]) where
  distinct := by
    rw [List.map_append, List.map_singleton, ← List.concat_eq_append]
    exact h.distinct.concat hnew
  ids := List.forall_mem_append.mpr ⟨h.ids, by simpa using hids⟩

theorem dashed_nodup (id : String) (count : Nat) :
    ((List.range count).map fun index => s!"{id}-{index}").Nodup :=
  List.nodup_range.map fun _ _ h => (dashed_injective h).2

/-- All instances of numbered deployments have ids of their own. -/
theorem Numbered.nodup {published : List (String × List Instance)} (h : Numbered published) :
    (published.flatMap fun entry => entry.2.map Instance.id).Nodup := by
  rw [List.nodup_flatMap]
  constructor
  · intro entry hmem
    rw [h.ids entry hmem]
    exact dashed_nodup entry.1 entry.2.length
  · refine (List.pairwise_map.mp h.distinct).imp_of_mem fun {first second} hfirst hsecond hne => ?_
    change List.Disjoint (first.2.map Instance.id) (second.2.map Instance.id)
    rw [h.ids first hfirst, h.ids second hsecond, List.disjoint_left]
    intro id hleft hright
    obtain ⟨m, -, rfl⟩ := List.mem_map.mp hleft
    obtain ⟨n, -, hsame⟩ := List.mem_map.mp hright
    exact hne (dashed_injective hsame).1.symm

/-! ### Calls -/

namespace Act

variable [Machine σ]

/-- A deployment numbers its instances under an id that no other deployment has. -/
theorem deploy_numbered (deployer : Deployer) (request? : Option Request) {world : World σ}
    (h : Numbered world.registry.published) :
    (deploy deployer request?).Yields world fun _ _ after =>
      Numbered after.registry.published := by
  cases request? with
  | none => exact yields_raise h
  | some request =>
      refine (deploy_planned deployer request world).mono ?_
      intro outcome done after hdone
      cases outcome with
      | error fault => exact hdone ▸ h
      | ok id =>
          obtain ⟨rfl, hvisible, plan, instances, hplan, hfanned, -, hregistry⟩ := hdone
          obtain ⟨more, rfl, -, hlaunched, -⟩ := hfanned.launched
          rw [hregistry]
          refine h.concat hvisible ?_
          rw [← hfanned.indices, List.map_map]
          refine List.map_congr_left fun i hmem => ?_
          have hid : i.deploymentId = request.deploymentId := by
            rw [hlaunched i hmem, Plan.instanceOf, hplan.deploymentId]
          rw [Instance.id, hid, Function.comp_apply]

theorem operation_numbered (deployer : Deployer) (operation : Operation) {world : World σ}
    (h : Numbered world.registry.published) :
    (operation.act deployer : Act σ Unit).Yields world fun _ _ after =>
      Numbered after.registry.published := by
  refine operation_yields (fun request? => deploy_numbered deployer request? h) fun hdeploy => ?_
  have hthins := operation_takesAway (σ := σ) (P := fun before after =>
      after.published.Sublist before.published) (fun r => List.Sublist.refl r.published)
    (fun hfirst hmore => hmore.trans hfirst) (fun _ _ => List.filter_sublist) deployer hdeploy
  exact (hthins world).mono fun _ _ _ hkept => h.sublist hkept

end Act

/-- Whatever a deployer was asked for, no two instances of visible deployments have the same id,
though each id is but that of the deployment and the place of the instance in it. -/
theorem instance_ids_distinct [Machine σ] (deployer : Deployer) {start world : World σ}
    (hstart : start.registry.published = []) (hrun : OperatedFreely deployer start world) :
    (world.registry.published.flatMap fun entry => entry.2.map Instance.id).Nodup ∧
      ∀ entry ∈ world.registry.published, entry.2.map Instance.id =
        (List.range entry.2.length).map fun index => s!"{entry.1}-{index}" := by
  have hnumbered : Numbered world.registry.published := by
    induction hrun with
    | start => exact ⟨by simp [hstart], by simp [hstart]⟩
    | call operation _ _ ih =>
        obtain ⟨_, -, hafter⟩ := Act.operation_numbered deployer operation ih
        exact hafter
    | pass machine _ _ ih => exact ih
  exact ⟨hnumbered.nodup, hnumbered.ids⟩

open Rehearsal

def dashedApp : Request :=
  { greenApp with definition.name := "app-1" }

def Shelf.afterDashed : World Shelf :=
  [Operation.deploy (some greenApp), .deploy (some dashedApp)].foldl
    (fun world operation => ((operation.act swiftDeployer).perform world).2) { machine := {} }

theorem instance_ids_distinct_dashed :
    OperatedFreely swiftDeployer { machine := ({} : Shelf) } Shelf.afterDashed ∧
      (Shelf.afterDashed.registry.published.flatMap fun entry => entry.2.map Instance.id).Nodup ∧
      (Shelf.afterDashed.registry.published.flatMap fun entry => entry.2.map Instance.id) =
        ["default.app-0", "default.app-1", "default.app-1-0", "default.app-1-1"] := by
  have hrun : OperatedFreely swiftDeployer { machine := ({} : Shelf) } Shelf.afterDashed :=
    .call _ trivial (.call _ trivial .start)
  exact ⟨hrun, (instance_ids_distinct swiftDeployer rfl hrun).1, by decide +kernel⟩

end AppSupervisor
