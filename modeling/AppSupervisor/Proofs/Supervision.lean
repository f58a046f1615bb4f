import AppSupervisor.Proofs.CommandLine
import AppSupervisor.Proofs.Reports
import AppSupervisor.Proofs.StopBudget

/-!
When a supervision ends by itself.

A deployment has nothing left to supervise if some instance is in error or if all of them are
undeployed or failed. By the answers about its processes, that is if some process cannot be asked
for or if all have exited. So a supervision looks on as long as every process answers and one of
them runs, and its last look is the first one for which this does not hold.
-/

namespace AppSupervisor

open AppSupervisor.CommandLine

variable {σ : Type}

/-! ### States -/

section States

variable {states : List State} {state left right : State}

theorem aggregate_of_agree (hsome : states ≠ []) (hagree : ∀ other ∈ states, other = state) :
    aggregate states = state := by
  cases states with
  | nil => exact absurd rfl hsome
  | cons first rest =>
      obtain ⟨rfl, hrest⟩ := List.forall_mem_cons.mp hagree
      have hall : rest.all (· == first) := List.all_eq_true.mpr fun other hmem => by
        simpa using hrest other hmem
      rw [aggregate, if_pos hall]

theorem aggregate_of_mixed (hleft : left ∈ states) (hright : right ∈ states) (hne : left ≠ right) :
    aggregate states = if .error ∈ states then .error
      else if .deploying ∈ states then .deploying
      else if .deployed ∈ states ∨ .partially ∈ states then .partially
      else if .failed ∈ states then .failed
      else .partially := by
  cases states with
  | nil => contradiction
  | cons first rest =>
      have hmixed : ¬rest.all (· == first) := by
        intro hall
        have hsame : ∀ other ∈ first :: rest, other = first :=
          List.forall_mem_cons.mpr ⟨rfl, by simpa using hall⟩
        exact hne ((hsame left hleft).trans (hsame right hright).symm)
      rw [aggregate, if_neg hmixed]
      simp only [List.contains_eq_mem, decide_eq_true_eq, Bool.or_eq_true]

/-- States agree on one of them, or two of them differ. -/
theorem agree_or_mixed (hsome : states ≠ []) :
    (∃ state ∈ states, ∀ other ∈ states, other = state) ∨
      ∃ left ∈ states, ∃ right ∈ states, left ≠ right := by
  obtain ⟨first, hfirst⟩ := List.exists_mem_of_ne_nil states hsome
  by_cases hagree : ∀ other ∈ states, other = first
  · exact Or.inl ⟨first, hfirst, hagree⟩
  · push Not at hagree
    obtain ⟨other, hother, hne⟩ := hagree
    exact Or.inr ⟨other, hother, first, hfirst, hne⟩

def State.IsGone (state : State) : Prop :=
  state = .undeployed ∨ state = .failed

theorem aggregate_of_error (herror : .error ∈ states) : aggregate states = .error := by
  rcases agree_or_mixed (List.ne_nil_of_mem herror) with
    ⟨state, -, hagree⟩ | ⟨left, hleft, right, hright, hne⟩
  · rw [hagree _ herror, aggregate_of_agree (List.ne_nil_of_mem herror) hagree]
  · rw [aggregate_of_mixed hleft hright hne, if_pos herror]

theorem failed_mem_of_mixed (hleft : left ∈ states) (hright : right ∈ states) (hne : left ≠ right)
    (hgone : ∀ state ∈ states, state.IsGone) : .failed ∈ states := by
  by_contra hnone
  have hundeployed : ∀ state ∈ states, state = .undeployed := fun state hmem =>
    (hgone state hmem).resolve_right fun heq => hnone (heq ▸ hmem)
  exact hne ((hundeployed left hleft).trans (hundeployed right hright).symm)

theorem aggregate_of_gone (hsome : states ≠ []) (hgone : ∀ state ∈ states, state.IsGone) :
    aggregate states = if .failed ∈ states then .failed else .undeployed := by
  rcases agree_or_mixed hsome with ⟨state, hmem, hagree⟩ | ⟨left, hleft, right, hright, hne⟩
  · rw [aggregate_of_agree hsome hagree]
    rcases hgone state hmem with rfl | rfl
    · rw [if_neg fun hfailed => absurd (hagree _ hfailed) (by decide)]
    · rw [if_pos hmem]
  · have hfailed := failed_mem_of_mixed hleft hright hne hgone
    have herror : .error ∉ states := fun h => by simpa [State.IsGone] using hgone _ h
    have hdeploying : .deploying ∉ states := fun h => by simpa [State.IsGone] using hgone _ h
    have hdeployed : ¬(.deployed ∈ states ∨ .partially ∈ states) := by
      rintro (h | h) <;> simpa [State.IsGone] using hgone _ h
    rw [aggregate_of_mixed hleft hright hne, if_neg herror, if_neg hdeploying, if_neg hdeployed,
      if_pos hfailed, if_pos hfailed]

/-- As long as something is left of an instance and none is in error, there is something left to
supervise. -/
theorem aggregate_goes_on (hknown : .unknown ∉ states) (herror : .error ∉ states)
    (hstays : ¬∀ state ∈ states, state.IsGone) : ¬(aggregate states).isTerminal := by
  have hsome : states ≠ [] := by
    rintro rfl
    simp at hstays
  rcases agree_or_mixed hsome with ⟨state, hmem, hagree⟩ | ⟨left, hleft, right, hright, hne⟩
  · rw [aggregate_of_agree hsome hagree]
    have hstate : ¬state.IsGone := fun h => hstays fun other hother => hagree other hother ▸ h
    cases state <;> simp_all [State.IsGone, State.isTerminal]
  · rw [aggregate_of_mixed hleft hright hne, if_neg herror]
    split_ifs with hdeploying hdeployed hfailed
    · simp [State.isTerminal]
    · simp [State.isTerminal]
    · refine absurd (fun state hmem => ?_) hstays
      cases state <;> simp_all [State.IsGone]
    · simp [State.isTerminal]

theorem aggregate_isTerminal_iff (hsome : states ≠ []) (hknown : .unknown ∉ states) :
    (aggregate states).isTerminal ↔ .error ∈ states ∨ ∀ state ∈ states, state.IsGone := by
  by_cases herror : .error ∈ states
  · simp [aggregate_of_error herror, State.isTerminal, herror]
  · by_cases hgone : ∀ state ∈ states, state.IsGone
    · rw [aggregate_of_gone hsome hgone]
      refine iff_of_true ?_ (Or.inr hgone)
      split_ifs <;> rfl
    · exact iff_of_false (aggregate_goes_on hknown herror hgone) (not_or.mpr ⟨herror, hgone⟩)

/-- What has come to its end failed if an instance did. -/
theorem aggregate_failed_iff (hsome : states ≠ [])
    (hends : .error ∈ states ∨ ∀ state ∈ states, state.IsGone) :
    (aggregate states = .failed ∨ aggregate states = .error) ↔
      .failed ∈ states ∨ .error ∈ states := by
  by_cases herror : .error ∈ states
  · exact iff_of_true (Or.inr (aggregate_of_error herror)) (Or.inr herror)
  · rw [aggregate_of_gone hsome (hends.resolve_left herror)]
    split_ifs with hfailed
    · exact iff_of_true (Or.inl rfl) (Or.inl hfailed)
    · exact iff_of_false (by simp) (not_or.mpr ⟨hfailed, herror⟩)

end States

/-! ### Answers -/

def IsOver (asked : List (Instance × Except Fault (Option Int))) : Prop :=
  (∃ answer ∈ asked, ∃ fault, answer.2 = .error fault) ∨
    ∀ answer ∈ asked, ∃ code, answer.2 = .ok (some code)

def GoesOn (asked : List (Instance × Except Fault (Option Int))) : Prop :=
  (∀ answer ∈ asked, ∃ code?, answer.2 = .ok code?) ∧ ∃ answer ∈ asked, answer.2 = .ok none

theorem inquiry_ne_nil [Machine σ] {instances : List Instance} (hsome : instances ≠ [])
    (world : World σ) : inquiry instances world ≠ [] := by
  intro hnone
  have hmap := map_inquiry instances world
  rw [hnone] at hmap
  exact hsome hmap.symm

section Answers

variable {asked : List (Instance × Except Fault (Option Int))} {told : List InstanceStatus}
  {answer : Except Fault (Option Int)} {state : State}

theorem goesOn_of_not_isOver (h : ¬IsOver asked) : GoesOn asked := by
  obtain ⟨hanswer, hruns⟩ := not_or.mp h
  push Not at hanswer hruns
  have hall : ∀ answer ∈ asked, ∃ code?, answer.2 = .ok code? := by
    rintro ⟨i, fault | code?⟩ hmem
    · exact absurd rfl (hanswer _ hmem fault)
    · exact ⟨code?, rfl⟩
  refine ⟨hall, ?_⟩
  obtain ⟨answer, hmem, hruns⟩ := hruns
  obtain ⟨_ | code, hcode⟩ := hall answer hmem
  · exact ⟨answer, hmem, hcode⟩
  · exact absurd hcode (hruns code)

theorem Fits.error_iff (h : Fits answer state) :
    state = .error ↔ ∃ fault, answer = .error fault := by
  rcases answer with fault | _ | code
  · simpa [Fits] using h
  · rcases h with rfl | rfl <;> simp
  · by_cases hcode : code = 0 <;> simp [Fits, hcode] at h <;> simp [h]

theorem Fits.isGone_iff (h : Fits answer state) :
    state.IsGone ↔ ∃ code, answer = .ok (some code) := by
  rcases answer with fault | _ | code
  · simp [Fits] at h
    simp [h, State.IsGone]
  · rcases h with rfl | rfl <;> simp [State.IsGone]
  · by_cases hcode : code = 0 <;> simp [Fits, hcode] at h <;> simp [h, State.IsGone]

theorem error_mem_iff (h : List.Forall₂ Faithful asked told) :
    .error ∈ told.map (·.state) ↔ ∃ answer ∈ asked, ∃ fault, answer.2 = .error fault := by
  induction h with
  | nil => simp
  | cons hfirst _ ih =>
      rw [List.map_cons, List.mem_cons, List.exists_mem_cons_iff, ih, eq_comm,
        hfirst.fits.error_iff]

theorem all_gone_iff (h : List.Forall₂ Faithful asked told) :
    (∀ state ∈ told.map (·.state), state.IsGone) ↔
      ∀ answer ∈ asked, ∃ code, answer.2 = .ok (some code) := by
  induction h with
  | nil => simp
  | cons hfirst _ ih =>
      rw [List.map_cons, List.forall_mem_cons, List.forall_mem_cons, ih, hfirst.fits.isGone_iff]

theorem states_ne_nil (hsome : asked ≠ []) (h : List.Forall₂ Faithful asked told) :
    told.map (·.state) ≠ [] := by
  intro hnone
  rw [List.map_eq_nil_iff.mp hnone, List.forall₂_nil_right_iff] at h
  exact hsome h

/-- The states that are told say whether there is something left to supervise. -/
theorem isTerminal_iff_isOver (hsome : asked ≠ []) (h : List.Forall₂ Faithful asked told) :
    (aggregate (told.map (·.state))).isTerminal ↔ IsOver asked := by
  rw [aggregate_isTerminal_iff (states_ne_nil hsome h) (unknown_not_mem h), error_mem_iff h,
    all_gone_iff h, IsOver]

theorem failed_iff_of_isOver (hsome : asked ≠ []) (h : List.Forall₂ Faithful asked told)
    (hover : IsOver asked) :
    (aggregate (told.map (·.state)) = .failed ∨ aggregate (told.map (·.state)) = .error) ↔
      ∃ status ∈ told, status.state = .failed ∨ status.state = .error := by
  rw [IsOver, ← error_mem_iff h, ← all_gone_iff h] at hover
  rw [aggregate_failed_iff (states_ne_nil hsome h) hover, List.mem_map, List.mem_map, ← exists_or]
  exact exists_congr fun status => and_or_left.symm

end Answers

/-! ### Looks -/

/-- From one world to another there were so many looks in a row, each one behind a pause. As long as
the deployment was visible, its instances were found going on. -/
inductive WentOn [Machine σ] (id : String) (instances : List Instance) :
    World σ → Nat → World σ → Prop
  | start (world : World σ) : WentOn id instances world 0 world
  | look {world poll next final : World σ} {report : AppStatus} {count : Nat}
      (journal : List Event) (hpause : (Act.sleep pollInterval).perform world = (.ok (), poll))
      (hgoes : poll.registry.get? id = some instances → GoesOn (inquiry instances poll))
      (hlook : (Act.status id).perform poll = (.ok report, next))
      (hrest : WentOn id instances { next with journal } count final) :
      WentOn id instances world (count + 1) final

structure FindsOver [Machine σ] (id : String) (instances : List Instance) (poll : World σ)
    (report : AppStatus) : Prop where
  visible : poll.registry.get? id = some instances
  looked : ∃ after, (Act.status id).perform poll = (.ok report, after)
  isOver : IsOver (inquiry instances poll)
  told : List.Forall₂ Faithful (inquiry instances poll) report.instances

/-- How the looks at a deployment end: with the first one that finds it over, by a pause that is cut
short, or at the horizon. -/
def LooksEnd [Machine σ] (id : String) (instances : List Instance) (world : World σ)
    (horizon : Nat) (outcome : Except Fault AppStatus) : Prop :=
  ∃ count between, WentOn id instances world count between ∧ match outcome with
    | .ok report => ∃ poll, (Act.sleep pollInterval).perform between = (.ok (), poll) ∧
        FindsOver id instances poll report
    | .error fault => (fault = .horizonReached ∧ count = horizon) ∨
        (Machine.sleep pollInterval between.machine).1 = .error fault

theorem LooksEnd.look [Machine σ] {id : String} {instances : List Instance}
    {world poll next : World σ} {report : AppStatus} {journal : List Event} {horizon : Nat}
    {outcome : Except Fault AppStatus}
    (hpause : (Act.sleep pollInterval).perform world = (.ok (), poll))
    (hgoes : poll.registry.get? id = some instances → GoesOn (inquiry instances poll))
    (hlook : (Act.status id).perform poll = (.ok report, next))
    (h : LooksEnd id instances { next with journal } horizon outcome) :
    LooksEnd id instances world (horizon + 1) outcome := by
  obtain ⟨count, between, hwent, hends⟩ := h
  refine ⟨count + 1, between, .look journal hpause hgoes hlook hwent, ?_⟩
  cases outcome with
  | ok final => exact hends
  | error fault => exact hends.imp_left fun h => ⟨h.1, congrArg (· + 1) h.2⟩

namespace Act

variable [Machine σ]

theorem sleep_yields (seconds : Rat) (world : World σ) :
    (sleep seconds : Act σ Unit).Yields world fun outcome _ after =>
      outcome = (Machine.sleep seconds world.machine).1 ∧ after.registry = world.registry := by
  refine yields_bind_note
    (yields_tryMachine (fun _ machine hok => ?_) fun fault machine hfails => ?_)
  · exact ⟨by rw [hok], rfl⟩
  · exact ⟨by rw [hfails], rfl⟩

/-- A look asks the instances that are visible under an id, if there are any. -/
theorem status_looks (hrefuses : Refuses σ) (id : String) (world : World σ) :
    (status id).Yields world fun outcome _ after =>
      (∃ report, outcome = .ok report ∧ List.Forall₂ Faithful
        (inquiry ((world.registry.get? id).getD []) world) report.instances) ∧
      ∀ instances, after.registry.get? id = some instances →
        world.registry.get? id = some instances := by
  have hstops : (status id : Act σ AppStatus).Follows fun _ => Stops fun _ => False :=
    status_stops id
  have hlooks : (status id).Yields world fun outcome _ _ => ∃ report, outcome = .ok report ∧
      List.Forall₂ Faithful (inquiry ((world.registry.get? id).getD []) world)
        report.instances := by
    refine yields_bind_get ?_
    cases world.registry.get? id with
    | none => exact yields_pure ⟨_, rfl, .nil⟩
    | some instances =>
        refine yields_bind ((instanceStatuses_answers hrefuses instances world).mono ?_)
        rintro _ done after ⟨told, rfl, hfaithful, -⟩
        exact yields_pure ⟨_, rfl, hfaithful⟩
  refine (hlooks.and (hstops world)).mono ?_
  rintro outcome done after ⟨hreport, hstops⟩
  refine ⟨hreport, fun instances hget => ?_⟩
  by_cases hlost : .lost id ∈ done
  · rw [hstops.lost id hlost] at hget
    contradiction
  · exact (hstops.kept id not_false hlost).symm.trans hget

/-- What carries the induction is that no other instances become visible under the id. -/
theorem watch_looks (hrefuses : Refuses σ) (deployer : Deployer) (id : String)
    {instances : List Instance} (hsome : instances ≠ []) (last : State) (horizon : Nat)
    (world : World σ)
    (hsame : ∀ others, world.registry.get? id = some others → others = instances) :
    (watch deployer.handle id last horizon).Yields world fun outcome _ _ =>
      LooksEnd id instances world horizon outcome := by
  induction horizon generalizing last world with
  | zero => exact yields_raise ⟨0, world, .start world, Or.inl ⟨rfl, rfl⟩⟩
  | succ horizon ih =>
      refine yields_bind ((sleep_yields pollInterval world).located.mono ?_)
      rintro (fault | _) paused poll ⟨hpause, houtcome, hregistry⟩
      · exact ⟨0, world, .start world, Or.inr houtcome.symm⟩
      · rw [← hregistry] at hsame
        refine yields_bind ((status_looks hrefuses id poll).located.mono ?_)
        rintro _ looked next ⟨hlook, ⟨report, rfl, htold⟩, hkept⟩
        have hrest : ∀ journal, (if report.state.isTerminal then pure report
            else watch deployer.handle id report.state horizon).Yields { next with journal }
              fun outcome _ _ => LooksEnd id instances world (horizon + 1) outcome := by
          intro journal
          have hover : poll.registry.get? id = some instances →
              (report.state.isTerminal ↔ IsOver (inquiry instances poll)) := by
            intro hget
            rw [hget] at htold
            exact isTerminal_iff_isOver (inquiry_ne_nil hsome poll) htold
          split
          · rename_i hterminal
            cases hget : poll.registry.get? id with
            | none =>
                -- without instances the state is unknown
                rw [hget, Option.getD_none, inquiry, List.forall₂_nil_left_iff] at htold
                simp [AppStatus.state, AppStatus.states, htold, aggregate, State.isTerminal]
                  at hterminal
            | some others =>
                obtain rfl := hsame others hget
                refine yields_pure
                  ⟨0, world, .start world, poll, hpause, hget, ⟨next, hlook⟩, ?_, ?_⟩
                · exact (hover hget).mp hterminal
                · rwa [hget] at htold
          · rename_i hterminal
            refine (ih report.state { next with journal } fun others hget => ?_).mono ?_
            · exact hsame others (hkept others hget)
            · intro outcome _ _ hends
              refine hends.look hpause (fun hget => goesOn_of_not_isOver ?_) hlook
              exact mt (hover hget).mpr hterminal
        dsimp only
        split
        · exact yields_bind_note (hrest _)
        · exact hrest next.journal

/-! ### The whole supervision -/

/-- A deployment has come to its end if some instance is in error or if all are undeployed or
failed. So the supervision of a visible deployment returns with the first look at which some process
cannot be asked for or all have exited. At each look before, every process answered and one of them
ran, unless others had taken the deployment away. Only a pause that is cut short and the horizon end
the looks otherwise. -/
theorem supervise_ends (hrefuses : Refuses σ) (deployer : Deployer) {start world : World σ}
    (hstart : start.registry.published = [])
    (hrun : Operated deployer (fun _ => True) (fun _ _ => True) start world) :
    (∀ states : List State, states ≠ [] → .unknown ∉ states →
      ((aggregate states).isTerminal ↔
        .error ∈ states ∨ ∀ state ∈ states, state = .undeployed ∨ state = .failed)) ∧
    ∀ id instances, world.registry.get? id = some instances → ∀ (last : State) (horizon : Nat),
      (supervise deployer.handle id last horizon).Yields world fun outcome _ _ =>
        ∃ count between, WentOn id instances world count between ∧
          match outcome with
          | .ok (some report) => ∃ poll,
              (sleep pollInterval).perform between = (.ok (), poll) ∧
              FindsOver id instances poll report ∧
              ((report.state = .failed ∨ report.state = .error) ↔
                ∃ told ∈ report.instances, told.state = .failed ∨ told.state = .error)
          | .ok none => (Machine.sleep pollInterval between.machine).1 = .error .interrupted
          | .error fault => (fault = .horizonReached ∧ count = horizon) ∨
              (Machine.sleep pollInterval between.machine).1 = .error fault := by
  refine ⟨fun states hsome hknown => aggregate_isTerminal_iff hsome hknown,
    fun id instances hget last horizon => ?_⟩
  have hsome : instances ≠ [] := (hrun.accounted hstart id instances hget).nonempty
  have hsame : ∀ others, world.registry.get? id = some others → others = instances := by
    intro others hothers
    exact Option.some_inj.mp (hothers.symm.trans hget)
  refine yields_bind_attempt ((watch_looks hrefuses deployer id hsome last horizon world
    hsame).mono ?_)
  rintro (fault | report) done after hends
  · cases fault with
    | interrupted =>
        refine yields_pure ?_
        obtain ⟨count, between, hwent, ⟨hhorizon, -⟩ | hcut⟩ := hends
        · cases hhorizon
        · exact ⟨count, between, hwent, hcut⟩
    | _ => exact yields_throw hends
  · refine yields_pure ?_
    obtain ⟨count, between, hwent, poll, hpause, hfinds⟩ := hends
    refine ⟨count, between, hwent, poll, hpause, hfinds, ?_⟩
    exact failed_iff_of_isOver (inquiry_ne_nil hsome poll) hfinds.told hfinds.isOver

end Act

open Rehearsal

def portApp : Request :=
  { greenApp with arguments := [portArgument ++ "8080"] }

def Ticking.afterDeployment : World Ticking :=
  (((Operation.deploy (some portApp)).act swiftDeployer).perform { machine := ⟨-2⟩ }).2

theorem supervise_ends_ticking :
    Refuses Ticking ∧ Operated swiftDeployer (fun _ => True) (fun _ _ => True)
      { machine := Ticking.mk (-2) } Ticking.afterDeployment ∧
      (Act.supervise swiftDeployer.handle "default.app" .deploying 5).Yields Ticking.afterDeployment
        fun outcome _ _ => ∃ report, outcome = .ok (some report) ∧
          report.states = [.undeployed, .undeployed] ∧ ∃ instances count between poll,
            Ticking.afterDeployment.registry.get? "default.app" = some instances ∧
            WentOn "default.app" instances Ticking.afterDeployment count between ∧
            (Act.sleep CommandLine.pollInterval).perform between = (.ok (), poll) ∧
            FindsOver "default.app" instances poll report := by
  have hrefuses : Refuses Ticking := by
    refine ⟨fun pid machine fault hfault => ?_, fun url timeout machine fault hfault => ?_⟩ <;>
      cases hfault
  have hrun : Operated swiftDeployer (fun _ => True) (fun _ _ => True)
      { machine := Ticking.mk (-2) } Ticking.afterDeployment := .call _ trivial .start
  have hstates : ((Act.supervise swiftDeployer.handle "default.app" .deploying 5).perform
      Ticking.afterDeployment).1.toOption.map (·.map (·.states)) =
        some (some [.undeployed, .undeployed]) := by
    decide +kernel
  have hvisible : "default.app" ∈ Ticking.afterDeployment.registry.ids := by decide +kernel
  have hends := (Act.supervise_ends hrefuses swiftDeployer rfl hrun).2
  refine ⟨hrefuses, hrun, ?_⟩
  -- the world is computed above and must not be unfolded any more
  clear hrun
  generalize Ticking.afterDeployment = world at hends hstates hvisible ⊢
  obtain ⟨instances, hget⟩ := Option.ne_none_iff_exists'.mp
    (mt Registry.get?_eq_none_iff.mp (not_not.mpr hvisible))
  refine (hends "default.app" instances hget .deploying 5).located.mono ?_
  rintro outcome done after ⟨hperform, count, between, hwent, hend⟩
  rw [hperform] at hstates
  rcases outcome with fault | _ | report
  · simp [Except.toOption] at hstates
  · simp [Except.toOption] at hstates
  · obtain ⟨poll, hpause, hfinds, -⟩ := hend
    exact ⟨report, rfl, by simpa [Except.toOption] using hstates, instances, count, between, poll,
      hget, hwent, hpause, hfinds⟩

end AppSupervisor
