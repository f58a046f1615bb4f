import AppSupervisor.Proofs.Components
import AppSupervisor.Proofs.LaunchOrders
import AppSupervisor.Proofs.Undeploying

/-!
Working directories stay below their root.

A deployment makes directories only while its plan is settled: a root if none is known, the
directory of the group deployment below it and the working directory below that. A name that would
lead elsewhere is refused before any of them is made. So it is enough to follow the making of a
working directory, as far as it comes; nothing in front of it and nothing behind it makes a
directory.
-/

namespace AppSupervisor

open AppSupervisor.Files

variable {σ : Type}

@[simp]
def Event.made? : Event → Option Path
  | .madeDirectory path => some path
  | _ => none

@[simp]
def Event.prepared? : Event → Option Path
  | .preparedDirectory path => some path
  | _ => none

abbrev madeIn (done : List Event) : List Path := picked Event.made? done

abbrev preparedIn (done : List Event) : List Path := picked Event.prepared? done

/-! ### Names -/

inductive Request.HasGroupName (request : Request) : String → Prop
  | requested {name : String} (hname : name ≠ "")
      (hlookup : request.deploymentProperties.lookup groupDeploymentProperty = some name) :
      HasGroupName request name
  | started (stamp : Nat) (hnone : ∀ name,
      request.deploymentProperties.lookup groupDeploymentProperty = some name → name = "") :
      HasGroupName request (request.group ++ "-" ++ toString stamp)

inductive Request.HasWorkName (request : Request) : String → Prop
  | own : HasWorkName request request.deploymentId
  | other (suffix : String) : HasWorkName request (request.deploymentId ++ "-" ++ suffix)

theorem Request.HasGroupName.ne_empty {request : Request} {name : String}
    (h : request.HasGroupName name) : name ≠ "" := by
  cases h with
  | requested hname => exact hname
  | started stamp =>
      intro hempty
      have hdash : '-' ∈ (request.group ++ "-" ++ toString stamp).toList := by
        simp [String.toList_append]
      rw [hempty] at hdash
      contradiction

/-- A group that makes a component of the deployment id makes one of the name of a group deployment
as well. -/
theorem isComponent_started {request : Request} (h : IsComponent request.deploymentId)
    (stamp : Nat) : IsComponent (request.group ++ "-" ++ toString stamp) := by
  have hgroup : ∀ c ∈ request.group.toList, IsNameChar c := by
    intro c hmem
    have hname : request.deploymentId = request.group ++ "." ++ request.definition.name := rfl
    exact h.plain c (by simp [hname, String.toList_append, hmem])
  have hfront : ∀ c ∈ (request.group ++ "-").toList, IsNameChar c := by
    intro c hmem
    rcases List.mem_append.mp (String.toList_append ▸ hmem) with hmem | hmem
    · exact hgroup c hmem
    · obtain rfl : c = '-' := by simpa using hmem
      decide
  have hback : ∀ c ∈ "".toList, IsNameChar c := by simp
  simpa using isComponent_numbered (c := '-') (by simp) (by decide) hfront hback stamp

/-- If one name of a group deployment is no component, none is, or the id is none either. -/
theorem Request.HasGroupName.not_isComponent {request : Request} {name other : String}
    (h : request.HasGroupName name) (hname : ¬IsComponent name)
    (hother : request.HasGroupName other) (hid : IsComponent request.deploymentId) :
    ¬IsComponent other := by
  cases h with
  | started stamp => exact absurd (isComponent_started hid stamp) hname
  | requested hne hlookup =>
      cases hother with
      | requested _ hlookup' =>
          obtain rfl := Option.some.inj (hlookup.symm.trans hlookup')
          exact hname
      | started _ hnone => exact absurd (hnone name hlookup) hne

/-! ### Places -/

def Request.HasGroupDir (request : Request) (root path : Path) : Prop :=
  ∃ groupName, request.HasGroupName groupName ∧ IsComponent groupName ∧
    path = root.below [groupName]

def Request.HasWorkDir (request : Request) (root path : Path) : Prop :=
  ∃ groupName name, request.HasGroupName groupName ∧ IsComponent groupName ∧
    request.HasWorkName name ∧ IsComponent name ∧ path = root.below [groupName, name]

def IsTemporary (σ : Type) [Machine σ] (path : Path) : Prop :=
  ∃ (start : String) (above : Path) (before after : σ),
    Machine.makeTemporary start above before = (.ok path, after)

/-- Below a directory that the machine made with a new name, further ones are made where they are
asked for, and a suffix tells them apart. -/
def NamesInPlace (σ : Type) [Machine σ] : Prop :=
  ∀ (root path : Path) (names : List String) (start : String) (before after : σ),
    IsTemporary σ root → (∀ name ∈ names, IsComponent name) → IsComponent start →
    Machine.makeTemporary start (root.below names) before = (.ok path, after) →
      ∃ suffix : String, (∀ c ∈ suffix.toList, IsNameChar c) ∧
        path = root.below (names ++ [start ++ suffix])

/-! ### Nothing about directories -/

section Unfiled

variable [Machine σ] {world between after : World σ} {done more : List Event}

structure Unfiled (world : World σ) (done : List Event) (after : World σ) : Prop where
  root : after.root = world.root
  made : madeIn done = []
  prepared : preparedIn done = []
  reaches : Machine.Reaches world.machine after.machine

theorem Unfiled.append (hdone : Unfiled world done between) (hmore : Unfiled between more after) :
    Unfiled world (done ++ more) after where
  root := hmore.root.trans hdone.root
  made := by simp [hdone.made, hmore.made]
  prepared := by simp [hdone.prepared, hmore.prepared]
  reaches := hdone.reaches.trans hmore.reaches

theorem unfiled_note (event : Event) (hfiling : event.isFiling = false) :
    Unfiled world [event] { world with journal := event :: world.journal } := by
  refine ⟨rfl, ?_, ?_, .refl⟩ <;> cases event <;> simp_all

theorem unfiled_of_talk (htalk : ∀ event ∈ done, event.isTalk)
    (hmachine : after.machine = world.machine) (hroot : after.root = world.root) :
    Unfiled world done after := by
  refine ⟨hroot, picked_of_talk ?_ htalk, picked_of_talk ?_ htalk, hmachine ▸ .refl⟩ <;>
    · intro event h
      cases event <;> simp_all [Event.isTalk]

instance : IsWatched fun _ => (Unfiled : World σ → List Event → World σ → Prop) where
  refl _ _ := ⟨rfl, rfl, rfl, .refl⟩
  trans := Unfiled.append
  note _ event _ _ := unfiled_note event
  fault _ fault := unfiled_note (.raised fault) rfl
  goes _ _ hgoes := ⟨rfl, rfl, rfl, .single hgoes⟩

end Unfiled

/-! ### Making a working directory -/

/-- The root that directories are made below: one that was known before, or the first of the
directories that are made. -/
inductive Opens [Machine σ] (settings : Settings) (world : World σ) (root : Path) :
    List Path → Prop
  | known (hroot : world.root = some root) : Opens settings world root []
  | made {before after : σ} (hroot : world.root = none)
      (hmade : Machine.makeTemporary workRootStart settings.root before = (.ok root, after)) :
      Opens settings world root [root]

inductive MadeAnew [Machine σ] (above : Path) (id : String) (path : Path) (before after : σ) : Prop
  | own (hpath : path = above.child id)
      (hmade : Machine.makeDirectory false path before = (.ok (), after))
  | other (hmade : Machine.makeTemporary (id ++ "-") above before = (.ok path, after))

/-- The directories that are made for a deployment, as far as it comes, and its working directory
among them. -/
inductive Filed [Machine σ] (settings : Settings) (groupName id : String) (world after : World σ) :
    Option Path → List Path → Prop
  | idle (hroot : after.root = world.root) : Filed settings groupName id world after none []
  | opened {root : Path} {front rest : List Path} (hopens : Opens settings world root front)
      (hroot : after.root = some root) (hrest : rest = [] ∨ rest = [root.child groupName]) :
      Filed settings groupName id world after none (front ++ rest)
  | complete {root path : Path} {front : List Path} {before behind : σ}
      (hopens : Opens settings world root front) (hroot : after.root = some root)
      (hanew : MadeAnew (root.child groupName) id path before behind)
      (hbefore : Machine.Reaches world.machine before)
      (hbehind : Machine.Reaches behind after.machine) :
      Filed settings groupName id world after (some path) (front ++ [root.child groupName, path])

inductive Housed [Machine σ] (settings : Settings) (request : Request) (world : World σ)
    (done : List Event) (after : World σ) : Option Path → Prop
  | unfiled (hunfiled : Unfiled world done after) : Housed settings request world done after none
  | filed {groupName : String} {workDir? : Option Path}
      (hgroup : request.HasGroupName groupName) (hname : IsComponent groupName)
      (hid : IsComponent request.deploymentId)
      (hprepared : ∀ path ∈ preparedIn done, path = settings.root)
      (hreaches : Machine.Reaches world.machine after.machine)
      (hfiled : Filed settings groupName request.deploymentId world after workDir? (madeIn done)) :
      Housed settings request world done after workDir?

section Filing

variable [Machine σ] {settings : Settings} {groupName id : String} {request : Request}
  {world between after : World σ} {done more : List Event} {workDir? : Option Path}
  {made : List Path}

theorem Opens.prepend {root : Path} (h : Opens settings between root made)
    (hroot : between.root = world.root) : Opens settings world root made := by
  cases h with
  | known hknown => exact .known (hroot ▸ hknown)
  | made hnone hmade => exact .made (hroot ▸ hnone) hmade

theorem Filed.prepend (h : Filed settings groupName id between after workDir? made)
    (hroot : between.root = world.root) (hreaches : Machine.Reaches world.machine between.machine) :
    Filed settings groupName id world after workDir? made := by
  cases h with
  | idle hafter => exact .idle (hafter.trans hroot)
  | opened hopens hafter hrest => exact .opened (hopens.prepend hroot) hafter hrest
  | complete hopens hafter hanew hbefore hbehind =>
      exact .complete (hopens.prepend hroot) hafter hanew (hreaches.trans hbefore) hbehind

theorem Filed.append (h : Filed settings groupName id world between workDir? made)
    (hroot : after.root = between.root) (hreaches : Machine.Reaches between.machine after.machine) :
    Filed settings groupName id world after workDir? made := by
  cases h with
  | idle hafter => exact .idle (hroot.trans hafter)
  | opened hopens hafter hrest => exact .opened hopens (hroot.trans hafter) hrest
  | complete hopens hafter hanew hbefore hbehind =>
      exact .complete hopens (hroot.trans hafter) hanew hbefore (hbehind.trans hreaches)

theorem Housed.prepend (h : Housed settings request between more after workDir?)
    (hdone : Unfiled world done between) :
    Housed settings request world (done ++ more) after workDir? := by
  cases h with
  | unfiled hmore => exact .unfiled (hdone.append hmore)
  | filed hgroup hname hid hprepared hreaches hfiled =>
      refine .filed hgroup hname hid ?_ (hdone.reaches.trans hreaches) ?_
      · simpa [hdone.prepared] using hprepared
      · simpa [hdone.made] using hfiled.prepend hdone.root hdone.reaches

theorem Housed.append (h : Housed settings request world done between workDir?)
    (hmore : Unfiled between more after) :
    Housed settings request world (done ++ more) after workDir? := by
  cases h with
  | unfiled hdone => exact .unfiled (hdone.append hmore)
  | filed hgroup hname hid hprepared hreaches hfiled =>
      refine .filed hgroup hname hid ?_ (hreaches.trans hmore.reaches) ?_
      · simpa [hmore.prepared] using hprepared
      · simpa [hmore.made] using hfiled.append hmore.root hmore.reaches

/-- Neither the claim of the id nor the publishing has to do with directories. -/
theorem Housed.around {claimed : World σ} {middle : List Event}
    (h : Housed settings request claimed middle between workDir?) (hdone : Around middle done)
    (hmachine : claimed.machine = world.machine) (hroot : claimed.root = world.root)
    (hmachine' : after.machine = between.machine) (hroot' : after.root = between.root) :
    Housed settings request world done after workDir? := by
  obtain ⟨first, last, rfl, htalk⟩ := hdone
  obtain ⟨hfirst, hlast⟩ := List.forall_mem_append.mp htalk
  exact (h.prepend (unfiled_of_talk hfirst hmachine hroot)).append
    (unfiled_of_talk hlast hmachine' hroot')

/-! ### Where directories are -/

theorem Opens.isTemporary {root : Path} (h : Opens settings world root made)
    (hroot : ∀ root, world.root = some root → IsTemporary σ root) : IsTemporary σ root := by
  cases h with
  | known hknown => exact hroot root hknown
  | made _ hmade => exact ⟨_, _, _, _, hmade⟩

theorem Opens.eq_of_mem {root path : Path} (h : Opens settings world root made)
    (hmem : path ∈ made) : path = root ∧ world.root = none := by
  cases h with
  | known => contradiction
  | made hnone => exact ⟨List.mem_singleton.mp hmem, hnone⟩

/-- A working directory has one of the names that the request gives it. -/
theorem MadeAnew.below {root path : Path} {before behind : σ}
    (h : MadeAnew (root.child groupName) request.deploymentId path before behind)
    (hnames : NamesInPlace σ) (hroot : IsTemporary σ root) (hname : IsComponent groupName)
    (hid : IsComponent request.deploymentId) :
    ∃ name, request.HasWorkName name ∧ IsComponent name ∧ path = root.below [groupName, name] := by
  rw [hname.child] at h
  cases h with
  | own hpath =>
      refine ⟨_, .own, hid, ?_⟩
      rw [hpath, hid.child, Path.below_below]
      rfl
  | other hmade =>
      have hstart : IsComponent (request.deploymentId ++ "-") :=
        hid.append (c := '-') (by simp) (by decide) (by simp [IsNameChar])
      obtain ⟨suffix, hplain, rfl⟩ := hnames root path [groupName] _ _ _ hroot
        (by simpa using hname) hstart hmade
      refine ⟨_, .other suffix, ?_, rfl⟩
      rw [String.append_assoc]
      refine hid.append (c := '-') (by simp [String.toList_append]) (by decide) fun c hmem => ?_
      rcases List.mem_append.mp (String.toList_append ▸ hmem) with hmem | hmem
      · obtain rfl : c = '-' := by simpa using hmem
        decide
      · exact hplain c hmem

/-- What is made is the root, the directory of the group deployment or the working directory. -/
theorem Housed.placed (h : Housed settings request world done after workDir?)
    (hnames : NamesInPlace σ) (hroot : ∀ root, world.root = some root → IsTemporary σ root) :
    (∀ root, after.root = some root → IsTemporary σ root) ∧
    (∀ path ∈ madeIn done, ∃ root, after.root = some root ∧
      (path = root ∧ world.root = none ∨ request.HasGroupDir root path ∨
        request.HasWorkDir root path)) ∧
    ∀ path, workDir? = some path → path ∈ madeIn done ∧
      ∃ root, after.root = some root ∧ request.HasWorkDir root path := by
  cases h with
  | unfiled hunfiled => simpa [hunfiled.made, hunfiled.root] using hroot
  | @filed groupName _ hgroup hname hid _ _ hfiled =>
      have hgroupDir (root : Path) : request.HasGroupDir root (root.child groupName) :=
        ⟨groupName, hgroup, hname, hname.child root⟩
      generalize madeIn done = made at hfiled ⊢
      cases hfiled with
      | idle hafter => simpa [hafter] using hroot
      | @opened root front rest hopens hafter hrest =>
          refine ⟨?_, fun path hmem => ⟨root, hafter, ?_⟩, by simp⟩
          · simpa [hafter] using hopens.isTemporary hroot
          · rcases List.mem_append.mp hmem with hmem | hmem
            · exact Or.inl (hopens.eq_of_mem hmem)
            · rcases hrest with rfl | rfl
              · contradiction
              · obtain rfl := List.mem_singleton.mp hmem
                exact Or.inr (Or.inl (hgroupDir root))
      | @complete root path front before behind hopens hafter hanew =>
          have htemporary := hopens.isTemporary hroot
          obtain ⟨name, hwork, hown, rfl⟩ := hanew.below hnames htemporary hname hid
          have hworkDir : request.HasWorkDir root (root.below [groupName, name]) :=
            ⟨groupName, name, hgroup, hname, hwork, hown, rfl⟩
          refine ⟨by simpa [hafter] using htemporary, fun path hmem => ⟨root, hafter, ?_⟩, ?_⟩
          · rcases List.mem_append.mp hmem with hmem | hmem
            · exact Or.inl (hopens.eq_of_mem hmem)
            · rcases List.mem_pair.mp hmem with rfl | rfl
              · exact Or.inr (Or.inl (hgroupDir root))
              · exact Or.inr (Or.inr hworkDir)
          · rintro path ⟨rfl⟩
            exact ⟨by simp, root, hafter, hworkDir⟩

end Filing

namespace Act

variable [Machine σ]

/-! ### Step by step -/

theorem makeDirectories_goes (path : Path) (world : World σ) :
    (makeDirectories path : Act σ Unit).Yields world fun outcome done after =>
      Machine.Goes world.machine after.machine ∧ after.root = world.root ∧ match outcome with
      | .ok _ => done = [.preparedDirectory path]
      | .error fault => done = [.raised fault] :=
  yields_bind (yields_tryOperation (.makeDirectories path)
    (fun _ _ _ hgoes => yields_note ⟨hgoes, rfl, rfl⟩) fun _ _ _ hgoes => ⟨hgoes, rfl, rfl⟩)

theorem makeDirectory_goes (mayExist : Bool) (path : Path) (world : World σ) :
    (makeDirectory mayExist path : Act σ Unit).Yields world fun outcome done after =>
      Machine.Goes world.machine after.machine ∧ after.root = world.root ∧ match outcome with
      | .ok _ => done = [.madeDirectory path] ∧
          Machine.makeDirectory mayExist path world.machine = (.ok (), after.machine)
      | .error fault => done = [.raised fault] :=
  yields_bind (yields_tryOperation (.makeDirectory mayExist path)
    (fun _ _ hmade hgoes => yields_note ⟨hgoes, rfl, rfl, hmade⟩)
    fun _ _ _ hgoes => ⟨hgoes, rfl, rfl⟩)

theorem makeTemporary_goes (start : String) (above : Path) (world : World σ) :
    (makeTemporary start above : Act σ Path).Yields world fun outcome done after =>
      Machine.Goes world.machine after.machine ∧ after.root = world.root ∧ match outcome with
      | .ok path => done = [.madeDirectory path] ∧
          Machine.makeTemporary start above world.machine = (.ok path, after.machine)
      | .error fault => done = [.raised fault] :=
  yields_bind (yields_tryOperation (.makeTemporary start above)
    (fun _ _ hmade hgoes => yields_bind_note (yields_pure ⟨hgoes, rfl, rfl, hmade⟩))
    fun _ _ _ hgoes => ⟨hgoes, rfl, rfl⟩)

theorem workRoot_yields (settings : Settings) (world : World σ) :
    (workRoot settings).Yields world fun outcome done after =>
      (∀ path ∈ preparedIn done, path = settings.root) ∧
      Machine.Reaches world.machine after.machine ∧ match outcome with
      | .ok root => Opens settings world root (madeIn done) ∧ after.root = some root
      | .error _ => madeIn done = [] ∧ after.root = world.root := by
  refine yields_bind_get ?_
  cases hroot : world.root with
  | some root => exact yields_pure ⟨by simp, .refl, .known hroot, hroot⟩
  | none =>
      refine yields_bind ((makeDirectories_goes settings.root world).mono ?_)
      rintro outcome prepared between ⟨hgoes, hbetween, hprepared⟩
      cases outcome with
      | error fault =>
          subst hprepared
          exact ⟨by simp, .single hgoes, by simp, hbetween.trans hroot⟩
      | ok _ =>
          refine yields_bind ((makeTemporary_goes _ settings.root between).mono ?_)
          rintro outcome made after ⟨hgoes', hafter, hmade⟩
          have hreaches := (Relation.ReflTransGen.single hgoes).tail hgoes'
          subst hprepared
          cases outcome with
          | error fault =>
              subst hmade
              exact ⟨by simp, hreaches, by simp, hafter.trans (hbetween.trans hroot)⟩
          | ok root =>
              obtain ⟨rfl, hmade⟩ := hmade
              refine yields_bind (yields_modify rfl (yields_pure ?_))
              exact ⟨by simp, hreaches, .made hroot hmade, rfl⟩

theorem groupDirectoryName_yields (request : Request) (world : World σ) :
    (groupDirectoryName request).Yields world fun outcome done after =>
      Unfiled world done after ∧ ∃ name, outcome = .ok name ∧ request.HasGroupName name := by
  have hstart (hnone : ∀ name,
      request.deploymentProperties.lookup groupDeploymentProperty = some name → name = "") :
      (groupDirectoryName.startGroup request).Yields world fun outcome done after =>
        Unfiled world done after ∧ ∃ name, outcome = .ok name ∧ request.HasGroupName name :=
    yields_bind_onMachine (yields_pure
      ⟨⟨rfl, rfl, rfl, .single (.stamp world.machine)⟩, _, rfl, .started _ hnone⟩)
  unfold groupDirectoryName
  split
  · rename_i name hlookup
    split
    · rename_i hempty
      refine hstart fun other hother => ?_
      obtain rfl := Option.some.inj (hlookup.symm.trans hother)
      exact String.isEmpty_iff.mp hempty
    · rename_i hname
      exact yields_pure ⟨⟨rfl, rfl, rfl, .refl⟩, name, rfl,
        .requested (fun hempty => hname (String.isEmpty_iff.mpr hempty)) hlookup⟩
  · rename_i hnone
    exact hstart fun name hname => absurd (hnone.symm.trans hname) (by simp)

/-- The working directory is the last one that is made, and the root is behind it the one that it is
below. -/
theorem makeWorkDirectory_yields (settings : Settings) (groupName id : String) (world : World σ) :
    (makeWorkDirectory settings groupName id).Yields world fun outcome done after =>
      (∀ path ∈ preparedIn done, path = settings.root) ∧
      Machine.Reaches world.machine after.machine ∧
      Filed settings groupName id world after outcome.toOption (madeIn done) := by
  refine yields_bind ((workRoot_yields settings world).mono ?_)
  rintro outcome opened first ⟨hprepared, hfirst, hopened⟩
  cases outcome with
  | error fault =>
      refine ⟨hprepared, hfirst, ?_⟩
      rw [hopened.1]
      exact .idle hopened.2
  | ok root =>
      obtain ⟨hopens, hroot⟩ := hopened
      refine yields_bind ((makeDirectory_goes true (root.child groupName) first).mono ?_)
      rintro outcome grouped second ⟨hgoes, hsecond, hgrouped⟩
      cases outcome with
      | error fault =>
          subst hgrouped
          refine ⟨by simpa using hprepared, hfirst.tail hgoes, ?_⟩
          simpa [Except.toOption] using Filed.opened hopens (hsecond.trans hroot) (Or.inl rfl)
      | ok _ =>
          obtain ⟨rfl, -⟩ := hgrouped
          refine yields_bind_attempt ((makeDirectory_goes false _ second).mono ?_)
          rintro outcome own third ⟨hgoes', hthird, hown⟩
          have hthird' := hthird.trans (hsecond.trans hroot)
          have hreaches := (hfirst.tail hgoes).tail hgoes'
          split
          · obtain ⟨rfl, hmade⟩ := hown
            refine yields_pure ⟨by simpa using hprepared, hreaches, ?_⟩
            simpa [Except.toOption] using
              Filed.complete hopens hthird' (.own rfl hmade) (hfirst.tail hgoes) .refl
          · subst hown
            refine (makeTemporary_goes _ _ third).mono ?_
            rintro outcome other after ⟨hgoes'', hafter, hother⟩
            have hafter' := hafter.trans hthird'
            cases outcome with
            | error fault =>
                subst hother
                refine ⟨by simpa using hprepared, hreaches.tail hgoes'', ?_⟩
                simpa [Except.toOption] using Filed.opened hopens hafter' (Or.inr rfl)
            | ok path =>
                obtain ⟨rfl, hmade⟩ := hother
                refine ⟨by simpa using hprepared, hreaches.tail hgoes'', ?_⟩
                simpa [Except.toOption] using
                  Filed.complete hopens hafter' (.other hmade) hreaches .refl
          · subst hown
            refine yields_throw ⟨by simpa using hprepared, hreaches, ?_⟩
            simpa [Except.toOption] using Filed.opened hopens hthird' (Or.inr rfl)

/-- The directories of a deployment are housed below the root, or a name of theirs that is no
component is refused. -/
theorem workDirectoryFor_yields (settings : Settings) (request : Request) (world : World σ) :
    (workDirectoryFor settings request.deploymentId request).Yields world fun outcome done after =>
      Housed settings request world done after outcome.toOption ∧
      ∀ name, request.HasGroupName name → ¬IsComponent name ∨ ¬IsComponent request.deploymentId →
        ∃ what name, outcome = .error (.badRequest (.badDirectoryName what name)) ∧
          ¬IsComponent name := by
  refine yields_bind ((groupDirectoryName_yields request world).mono ?_)
  rintro _ named first ⟨hnamed, groupName, rfl, hgroup⟩
  have hid := request.deploymentId_ne_empty
  refine yields_bind (yields_ofExcept (fun _ hname => ?_) fun fault hfault => ?_)
  · rw [checkDirectoryName_eq_ok_iff hgroup.ne_empty] at hname
    refine yields_bind (yields_ofExcept (fun _ hown => ?_) fun fault hfault => ?_)
    · rw [checkDirectoryName_eq_ok_iff hid] at hown
      refine yields_accessing ((makeWorkDirectory_yields settings groupName _ first).mono ?_)
      rintro outcome done after ⟨hprepared, hreaches, hfiled⟩
      have hhoused := (Housed.filed hgroup hname hown hprepared hreaches hfiled).prepend hnamed
      have hfit : ∀ name, request.HasGroupName name →
          ¬(¬IsComponent name ∨ ¬IsComponent request.deploymentId) := by
        rintro name hother (hbad | hbad)
        · exact hother.not_isComponent hbad hgroup hown hname
        · exact hbad hown
      cases outcome with
      | ok path => exact ⟨hhoused, fun name hother hbad => absurd hbad (hfit name hother)⟩
      | error _ =>
          exact fun _ => ⟨hhoused, fun name hother hbad => absurd hbad (hfit name hother)⟩
    · obtain ⟨hbad, rfl⟩ := (checkDirectoryName_eq_error_iff hid).mp hfault
      refine ⟨.unfiled (hnamed.append (unfiled_note _ rfl)), fun _ _ _ => ⟨_, _, rfl, hbad⟩⟩
  · obtain ⟨hbad, rfl⟩ := (checkDirectoryName_eq_error_iff hgroup.ne_empty).mp hfault
    exact ⟨.unfiled (hnamed.append (unfiled_note _ rfl)), fun _ _ _ => ⟨_, _, rfl, hbad⟩⟩

theorem planFor_housed (settings : Settings) (environment : Command.Variables) (request : Request)
    (world : World σ) :
    (planFor settings environment request.deploymentId request).Yields world
      fun outcome done after =>
        Housed settings request world done after (outcome.toOption.map (·.workDir)) := by
  have hartifact : Act.Follows (accessing (.artifact request.resource.description)
      (artifactFile request.resource) : Act σ Path) fun _ => Unfiled :=
    (artifactFile_follows request.resource).accessing _
  refine yields_bind ((hartifact world).mono fun outcome first between hfirst => ?_)
  cases outcome with
  | error fault => exact .unfiled hfirst
  | ok artifact =>
      have hfault (fault : Fault) : Unfiled world (first ++ [.raised fault])
          { between with journal := .raised fault :: between.journal } :=
        hfirst.append (unfiled_note _ rfl)
      refine yields_bind (yields_ofExcept (fun command _ => ?_) fun fault _ => .unfiled (hfault _))
      refine yields_bind (yields_ofExcept (fun shared _ => ?_) fun fault _ => .unfiled (hfault _))
      refine yields_bind ((workDirectoryFor_yields settings request between).mono ?_)
      rintro outcome done after ⟨hhoused, -⟩
      cases outcome with
      | error fault => exact hhoused.prepend hfirst
      | ok path =>
          refine yields_pure ?_
          rw [List.append_nil]
          exact hhoused.prepend hfirst

theorem launch_unfiled (order : LaunchOrder) :
    (launch order : Act σ Nat).Follows fun _ => Unfiled := by
  refine (follows_operation (.launch order)).bind fun outcome => ?_
  cases outcome with
  | ok pid =>
      have hnote : (note (.launched order pid) : Act σ Unit).Follows fun _ => Unfiled :=
        fun world => yields_note (unfiled_note _ rfl)
      exact hnote.bind fun _ => follows_pure pid
  | error fault =>
      have hnote : (note (.refusedLaunch order fault) : Act σ Unit).Follows fun _ => Unfiled :=
        fun world => yields_note (unfiled_note _ rfl)
      exact hnote.bind fun _ => follows_raise fault

theorem kill_unfiled (pid : Nat) : (kill pid : Act σ Unit).Follows fun _ => Unfiled := by
  have hnote : (note (.killed pid) : Act σ Unit).Follows fun _ => Unfiled :=
    fun world => yields_note (unfiled_note _ rfl)
  exact hnote.bind fun _ => follows_operation (.kill pid)

/-- All instances work in the directory that is made last, and without one there are none. -/
theorem launchAll_housed (deployer : Deployer) (request : Request) (world : World σ) :
    (launchAll deployer request.deploymentId request).Yields world fun outcome done after =>
      ∃ workDir?, Housed deployer.settings request world done after workDir? ∧
        (workDir? = none → ∃ fault, outcome = .error fault) ∧
        ∀ order ∈ triesIn done, workDir? = some order.workDir := by
  refine yields_bind (yields_ofExcept (fun count _ => ?_) fun fault _ => ?_)
  · refine yields_bind (((planFor_housed deployer.settings deployer.environment request world).and
      (planFor_prepared _ _ _ request world)).mono ?_)
    rintro outcome planned between ⟨hhoused, -, hquiet, -⟩
    have hnotries := picked_of_quiet Event.try?_of_quiet hquiet
    cases outcome with
    | error fault => exact ⟨none, hhoused, fun _ => ⟨fault, rfl⟩, by simp [hnotries]⟩
    | ok plan =>
        refine ((launchMore_follows launch_unfiled kill_unfiled plan count [] [] between).and
          (launchMore_ordered plan count [] [] between)).mono ?_
        rintro outcome done after ⟨hunfiled, hordered⟩
        refine ⟨some plan.workDir, hhoused.append hunfiled, by simp, fun order hmem => ?_⟩
        have hmem' : order ∈ triesIn done := by simpa [hnotries] using hmem
        obtain ⟨port, index, rfl⟩ := hordered.tries order hmem'
        rfl
  · exact ⟨none, .unfiled (unfiled_note _ rfl), fun _ => ⟨fault, rfl⟩, by simp⟩

/-- Every instance that a deployment tries to launch has the one working directory that was made for
it. -/
theorem deploy_housed (deployer : Deployer) (request : Request) (world : World σ) :
    (deploy deployer (some request)).Yields world fun outcome done after =>
      ∃ workDir?, Housed deployer.settings request world done after workDir? ∧
        (workDir? = none → ∃ fault, outcome = .error fault) ∧
        ∀ order ∈ triesIn done, workDir? = some order.workDir := by
  refine (deploy_around deployer request world fun claimed _ _ =>
    launchAll_housed deployer request claimed).mono ?_
  rintro outcome done after (⟨-, rfl, htalk, hmachine, hroot⟩ |
    ⟨-, claimed, result, middle, between, hclaimed, hroot, ⟨workDir?, hhoused, hnone, htries⟩,
      haround, hmachine, hroot', hresult⟩)
  · have hnotries : triesIn done = [] := picked_of_talk Event.try?_of_talk htalk
    exact ⟨none, .unfiled (unfiled_of_talk htalk hmachine hroot), fun _ => ⟨_, rfl⟩,
      by simp [hnotries]⟩
  · refine ⟨workDir?, hhoused.around haround hclaimed hroot hmachine hroot', fun hwork => ?_, ?_⟩
    · obtain ⟨fault, rfl⟩ := hnone hwork
      exact ⟨fault, hresult.1⟩
    · rw [triesIn, haround.picked Event.try?_of_talk]
      exact htries

/-- What is refused for its names comes as far as its names. -/
theorem deploy_refuses {deployer : Deployer} {request : Request} {world : World σ}
    {groupName : String} {shared : Command.Variables} (hgroup : request.HasGroupName groupName)
    (hbad : ¬IsComponent groupName ∨ ¬IsComponent request.deploymentId)
    (haccept : Acceptable deployer request world)
    (hshared : Command.environmentFor deployer.settings deployer.environment request.deploymentId
      request = .ok shared) :
    (deploy deployer (some request)).Yields world fun outcome _ _ => ∃ what name,
      outcome = .error (.badRequest (.badDirectoryName what name)) ∧ ¬IsComponent name := by
  have hworkDir : ∀ (claimed : World σ) (shared : Command.Variables),
      Command.environmentFor deployer.settings deployer.environment request.deploymentId request =
          .ok shared →
        (workDirectoryFor deployer.settings request.deploymentId request).Yields claimed
          fun outcome _ _ => ∃ fault, outcome = .error fault ∧ ∃ what name,
            fault = .badRequest (.badDirectoryName what name) ∧ ¬IsComponent name := by
    intro claimed _ _
    refine (workDirectoryFor_yields deployer.settings request claimed).mono ?_
    rintro outcome done after ⟨-, hrefused⟩
    obtain ⟨what, name, rfl, hname⟩ := hrefused groupName hgroup hbad
    exact ⟨_, rfl, what, name, rfl, hname⟩
  refine (deploy_acceptable haccept (fun claimed fault hfault => ?_) hworkDir).mono ?_
  · rw [hshared] at hfault
    contradiction
  · rintro outcome done after ⟨claimed, _, middle, between, rfl, ⟨what, name, rfl, hname⟩, -⟩
    exact ⟨what, name, rfl, hname⟩

/-- A deployment looks for no directory but the root of its settings. Whatever it makes is a root of
its own, the directory of the group deployment in it or a working directory in that, each one level
down and with a name that the request gives; instances work nowhere else. Where a name does not lead
one level down, nothing is made and nothing launched, and if nothing else is wrong the name is
reported. -/
theorem deploy_stays_below_root (deployer : Deployer) (request : Request) (world : World σ)
    (hnames : NamesInPlace σ) (hroot : ∀ root, world.root = some root → IsTemporary σ root) :
    (deploy deployer (some request)).Yields world fun outcome done after =>
      (∀ root, after.root = some root → IsTemporary σ root) ∧
      (∀ path ∈ preparedIn done, path = deployer.settings.root) ∧
      (∀ path ∈ madeIn done, ∃ root, after.root = some root ∧
        (path = root ∧ world.root = none ∨ request.HasGroupDir root path ∨
          request.HasWorkDir root path)) ∧
      (∀ order ∈ triesIn done, order.workDir ∈ madeIn done ∧
        ∃ root, after.root = some root ∧ request.HasWorkDir root order.workDir) ∧
      ∀ groupName, request.HasGroupName groupName →
        ¬IsComponent groupName ∨ ¬IsComponent request.deploymentId →
        (∃ fault, outcome = .error fault) ∧ preparedIn done = [] ∧ madeIn done = [] ∧
          triesIn done = [] ∧ (Acceptable deployer request world →
            (∃ shared, Command.environmentFor deployer.settings deployer.environment
              request.deploymentId request = .ok shared) →
            ∃ what name, outcome = .error (.badRequest (.badDirectoryName what name)) ∧
              ¬IsComponent name) := by
  refine (deploy_housed deployer request world).located.mono ?_
  rintro outcome done after ⟨hperform, workDir?, hhoused, hnone, htries⟩
  obtain ⟨htemporary, hmade, hwork⟩ := hhoused.placed hnames hroot
  refine ⟨htemporary, ?_, hmade, fun order hmem => hwork _ (htries order hmem), ?_⟩
  · cases hhoused with
    | unfiled hunfiled => simp [hunfiled.prepared]
    | filed _ _ _ hprepared => exact hprepared
  · intro groupName hgroup hbad
    cases hhoused with
    | filed hother hname hid =>
        -- the clock may give the group another name here, but no better one
        rcases hbad with hbad | hbad
        · exact absurd hname (hgroup.not_isComponent hbad hother hid)
        · exact absurd hid hbad
    | unfiled hunfiled =>
        have hnotries : triesIn done = [] :=
          List.eq_nil_iff_forall_not_mem.mpr fun order hmem => by simpa using htries order hmem
        refine ⟨hnone rfl, hunfiled.prepared, hunfiled.made, hnotries, ?_⟩
        rintro haccept ⟨shared, hshared⟩
        obtain ⟨_, -, hrefused⟩ := deploy_refuses hgroup hbad haccept hshared
        rwa [hperform] at hrefused

end Act

/-! ### A machine with directories -/

/-- A machine that keeps the directories made on it, and that does whatever it is asked for unless a
directory is there already. -/
structure Shelf where
  directories : List Path := []
  processes : Nat := 0

def Shelf.make (path : Path) (shelf : Shelf) : Except Fault Path × Shelf :=
  if path ∈ shelf.directories then (.error (.os (.file .alreadyExists path.toString)), shelf)
  else (.ok path, { shelf with directories := path :: shelf.directories })

instance : Machine Shelf where
  now _ := 0
  sleep _ shelf := (.ok (), shelf)
  stamp shelf := (shelf.directories.length, shelf)
  draw low _ shelf := (low + shelf.processes, shelf)
  isPortFree _ _ shelf := (.ok true, shelf)
  exitCode pid shelf := (.ok (if pid = 1 then some 3 else none), shelf)
  kill _ shelf := shelf
  httpGet _ _ shelf := (⟨.ok 200, []⟩, shelf)
  httpPost _ _ shelf := (⟨.ok 200, []⟩, shelf)
  launch _ shelf := (.ok shelf.processes, { shelf with processes := shelf.processes + 1 })
  look _ _ := .ok .regular
  mayRead _ _ := true
  resolve path _ := .ok path
  isFile _ _ := .ok true
  makeDirectories _ shelf := (.ok (), shelf)
  makeDirectory mayExist path shelf :=
    if mayExist ∧ path ∈ shelf.directories then (.ok (), shelf)
    else ((shelf.make path).1.map fun _ => (), (shelf.make path).2)
  makeTemporary start above shelf :=
    shelf.make (above.below [start ++ toString shelf.directories.length])
  removeTree _ shelf := shelf
  openFile _ shelf := (.ok 0, shelf)
  readFrom _ _ _ := []

theorem namesInPlace_shelf : NamesInPlace Shelf := by
  intro root path names start before after _ _ _ hmade
  refine ⟨toString before.directories.length, fun c hmem => ?_, ?_⟩
  · rw [toList_toString] at hmem
    exact isNameChar_of_isDigit (Nat.isDigit_of_mem_toDigits (by decide) (by decide) hmem)
  · simp only [Machine.makeTemporary, Shelf.make, Path.below_below] at hmade
    split at hmade
    · cases hmade
    · cases hmade
      rfl

open Rehearsal

def greenApp : Request where
  definition := { name := "app" }
  resource := .file (.ofString "/app.py")
  deploymentProperties := [(countProperty, "2"), (groupDeploymentProperty, "green")]

def strayApp : Request :=
  { greenApp with deploymentProperties := [(groupDeploymentProperty, "..")] }

theorem acceptable_strayApp :
    Acceptable swiftDeployer strayApp { machine := ({} : Shelf) } where
  visible := by simp [Registry.ids]
  reserved := by simp
  counted := ⟨1, rfl⟩
  found := ⟨_, _, .file rfl rfl, rfl⟩

theorem deploy_stays_below_root_shelf :
    NamesInPlace Shelf ∧
      (∀ root, ({ machine := {} } : World Shelf).root = some root → IsTemporary Shelf root) ∧
      ((Act.deploy swiftDeployer (some greenApp)).Yields { machine := ({} : Shelf) }
        fun outcome done after => outcome.toOption = some "default.app" ∧
          (triesIn done).length = 2 ∧ ∀ order ∈ triesIn done, order.workDir ∈ madeIn done ∧
            ∃ root, after.root = some root ∧ greenApp.HasWorkDir root order.workDir) ∧
      (Act.deploy swiftDeployer (some strayApp)).Yields { machine := ({} : Shelf) }
        fun outcome done _ => madeIn done = [] ∧ triesIn done = [] ∧ ∃ what name,
          outcome = .error (.badRequest (.badDirectoryName what name)) ∧ ¬IsComponent name := by
  have hroot : ∀ root, ({ machine := {} } : World Shelf).root = some root →
      IsTemporary Shelf root := by simp
  refine ⟨namesInPlace_shelf, hroot, ?_, ?_⟩
  · obtain ⟨done, hjournal, -, -, -, htries, -⟩ := Act.deploy_stays_below_root swiftDeployer
      greenApp { machine := ({} : Shelf) } namesInPlace_shelf hroot
    refine ⟨done, hjournal, by decide +kernel, ?_, htries⟩
    have hdone : done = ((Act.deploy swiftDeployer (some greenApp)).perform
        { machine := ({} : Shelf) }).2.journal.reverse := by simp [hjournal]
    rw [hdone]
    decide +kernel
  · obtain ⟨done, hjournal, -, -, -, -, hrefused⟩ := Act.deploy_stays_below_root swiftDeployer
      strayApp { machine := ({} : Shelf) } namesInPlace_shelf hroot
    have hgroup : strayApp.HasGroupName ".." := .requested (by simp) rfl
    have hbad : ¬IsComponent ".." := fun h => h.notDots rfl
    obtain ⟨-, -, hmade, htries, hreported⟩ := hrefused ".." hgroup (Or.inl hbad)
    exact ⟨done, hjournal, hmade, htries, hreported acceptable_strayApp ⟨_, rfl⟩⟩

end AppSupervisor
