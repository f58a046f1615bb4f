import AppSupervisor.Proofs.PortAllocation
import Mathlib.Logic.Relation

/-!
Searching a range for a free port.

As long as the same ports are free, a search finds one iff the range has one that is not excluded.
The draws may miss it, whichever numbers they are, but the scan behind them tries every port of the
range that is not excluded. Each of the two makes one try at most for each port of the range.
-/

namespace AppSupervisor

variable {σ : Type}

structure Candidate (low high : Int) (excluded : List Int) (port : Int) : Prop where
  lower : low ≤ port
  upper : port ≤ high
  notExcluded : port ∉ excluded

inductive SearchStep [Machine σ] (low high : Int) (host : String) : σ → σ → Prop
  | drew (machine : σ) : SearchStep low high host machine (Machine.draw low high machine).2
  | tried (port : Int) (machine : σ) :
      SearchStep low high host machine (Machine.isPortFree port host machine).2

/-- However long a search goes on, the same ports of the range are free. -/
def Steady [Machine σ] (low high : Int) (host : String) (isFree : Int → Bool) (start : σ) : Prop :=
  ∀ later, Relation.ReflTransGen (SearchStep low high host) start later →
    ∀ port, low ≤ port → port ≤ high → (Machine.isPortFree port host later).1 = .ok (isFree port)

theorem Steady.step [Machine σ] {low high : Int} {host : String} {isFree : Int → Bool}
    {start next : σ} (h : Steady low high host isFree start)
    (hstep : SearchStep low high host start next) : Steady low high host isFree next :=
  fun later hlater => h later (.head hstep hlater)

@[simp]
def Event.trial? : Event → Option (String × Int)
  | .triedPort host port _ => some (host, port)
  | _ => none

abbrev trialsIn (done : List Event) : List (String × Int) := picked Event.trial? done

/-! ### Draws and scan -/

/-- How a part of a search ends that makes so many tries at most. If it finds nothing, it passed
over some ports because they are excluded or not free. -/
structure Sought [Machine σ] (low high : Int) (host : String) (excluded : List Int)
    (isFree : Int → Bool) (passed : Int → Prop) (tries : Nat)
    (outcome : Except Fault (Option Int)) (done : List Event) (after : World σ) : Prop where
  found : ∃ found, outcome = .ok found ∧
    ∀ port, found = some port → Candidate low high excluded port ∧ isFree port
  missed : outcome = .ok none → ∀ port, passed port → port ∈ excluded ∨ isFree port = false
  trials : ∀ trial ∈ trialsIn done, trial.1 = host ∧ Candidate low high excluded trial.2
  bound : (trialsIn done).length ≤ tries
  steady : Steady low high host isFree after.machine

section Sought

variable [Machine σ] {low high : Int} {host : String} {excluded : List Int} {isFree : Int → Bool}
  {passed : Int → Prop} {tries : Nat} {outcome : Except Fault (Option Int)} {done : List Event}
  {after : World σ}

theorem sought_nothing (hsteady : Steady low high host isFree after.machine) :
    Sought low high host excluded isFree (fun _ => False) 0 (.ok none) [] after where
  found := ⟨none, rfl, by simp⟩
  missed _ _ hpassed := hpassed.elim
  trials := by simp
  bound := Nat.le_refl 0
  steady := hsteady

/-- The tries in front of a part of a search count with its own. -/
theorem Sought.prepend (h : Sought low high host excluded isFree passed tries outcome done after)
    {first : List Event}
    (hfirst : ∀ trial ∈ trialsIn first, trial.1 = host ∧ Candidate low high excluded trial.2) :
    Sought low high host excluded isFree passed ((trialsIn first).length + tries) outcome
      (first ++ done) after where
  found := h.found
  missed := h.missed
  trials := by
    rw [trialsIn, picked_append]
    exact List.forall_mem_append.mpr ⟨hfirst, h.trials⟩
  bound := by
    rw [trialsIn, picked_append, List.length_append]
    exact Nat.add_le_add_left h.bound _
  steady := h.steady

theorem Sought.weaken (h : Sought low high host excluded isFree passed tries outcome done after)
    {more : Nat} (hmore : tries ≤ more) {others : Int → Prop}
    (hothers : ∀ port, others port → passed port ∨ port ∈ excluded ∨ isFree port = false) :
    Sought low high host excluded isFree others more outcome done after where
  found := h.found
  missed hnone port hport := (hothers port hport).elim (h.missed hnone port) id
  trials := h.trials
  bound := Nat.le_trans h.bound hmore
  steady := h.steady

end Sought

namespace Act

variable [Machine σ] {low high : Int} {host : String} {excluded : List Int} {isFree : Int → Bool}

theorem isPortFree_trial (port : Int) {world : World σ} {free : Bool}
    (hfree : (Machine.isPortFree port host world.machine).1 = .ok free) :
    (isPortFree port host).Yields world fun outcome done after => outcome = .ok free ∧
      trialsIn done = [(host, port)] ∧
        after.machine = (Machine.isPortFree port host world.machine).2 := by
  refine yields_bind (yields_tryMachine (fun answer machine hanswer => ?_)
    fun fault machine hfails => ?_)
  · rw [hanswer] at hfree ⊢
    cases hfree
    exact yields_bind_note (yields_pure ⟨rfl, rfl, rfl⟩)
  · rw [hfails] at hfree
    cases hfree

/-- A port is tried, and the search goes on if it is not free. -/
theorem yields_trial {port : Int} {rest : Act σ (Option Int)} {passed : Int → Prop} {tries : Nat}
    {world : World σ} (hport : Candidate low high excluded port)
    (hsteady : Steady low high host isFree world.machine)
    (hrest : ∀ world : World σ, Steady low high host isFree world.machine →
      rest.Yields world (Sought low high host excluded isFree passed tries)) :
    (do if ← isPortFree port host then return some port else rest).Yields world
      (Sought low high host excluded isFree (fun other => other = port ∨ passed other)
        (tries + 1)) := by
  have hfree := hsteady world.machine .refl port hport.lower hport.upper
  refine yields_bind ((isPortFree_trial port hfree).mono ?_)
  rintro _ tried between ⟨rfl, htried, hbetween⟩
  have hsteady : Steady low high host isFree between.machine := by
    rw [hbetween]
    exact hsteady.step (.tried port world.machine)
  have htrial : ∀ trial ∈ trialsIn tried, trial.1 = host ∧ Candidate low high excluded trial.2 := by
    rw [htried]
    simpa using hport
  cases hanswer : isFree port with
  | true =>
      refine yields_pure ⟨⟨some port, rfl, ?_⟩, by simp, by simpa using htrial, ?_, hsteady⟩
      · rintro _ ⟨rfl⟩
        exact ⟨hport, hanswer⟩
      · simp [htried]
  | false =>
      refine (hrest between hsteady).mono fun outcome done after h =>
        (h.prepend htrial).weaken ?_ fun other hother => ?_
      · rw [htried, List.length_singleton]
        omega
      · rcases hother with rfl | hpassed
        · exact Or.inr (Or.inr hanswer)
        · exact Or.inl hpassed

theorem draw_steady (hdraws : DrawsBetween σ) (hrange : low ≤ high) {world : World σ}
    (hsteady : Steady low high host isFree world.machine) :
    (draw low high).Yields world fun outcome done after =>
      (∃ port, outcome = .ok port ∧ low ≤ port ∧ port ≤ high) ∧ trialsIn done = [] ∧
        Steady low high host isFree after.machine := by
  refine yields_bind_onMachine (yields_bind_note (yields_pure ⟨⟨_, rfl, ?_⟩, rfl, ?_⟩))
  · exact hdraws low high world.machine hrange
  · exact hsteady.step (.drew world.machine)

/-- Random draws make one try each at most, and if they find nothing, that tells of no port in
particular. -/
theorem drawPort_sought (hdraws : DrawsBetween σ) (tries : Nat) (hrange : 0 < tries → low ≤ high)
    {world : World σ} (hsteady : Steady low high host isFree world.machine) :
    (drawPort low high host excluded tries).Yields world
      (Sought low high host excluded isFree (fun _ => False) tries) := by
  induction tries generalizing world with
  | zero => exact yields_pure (sought_nothing hsteady)
  | succ tries ih =>
      have hrange := hrange (Nat.succ_pos tries)
      have ih := @ih fun _ => hrange
      refine yields_bind ((draw_steady hdraws hrange hsteady).mono ?_)
      rintro _ drawn between ⟨⟨port, rfl, hlower, hupper⟩, hdrawn, hsteady⟩
      have hnone : ∀ trial ∈ trialsIn drawn,
          trial.1 = host ∧ Candidate low high excluded trial.2 := by
        simp [hdrawn]
      dsimp only
      split
      · refine (ih hsteady).mono fun outcome done after h => (h.prepend hnone).weaken ?_ (by simp)
        simp [hdrawn]
      · rename_i hnew
        have hport : Candidate low high excluded port := ⟨hlower, hupper, by simpa using hnew⟩
        refine (yields_trial hport hsteady fun _ => ih).mono fun outcome done after h => ?_
        exact (h.prepend hnone).weaken (by simp [hdrawn]) (by simp)

/-- The scan passes over the ports in front of the one that it finds. -/
theorem searchPort_sought (port : Int) (tries : Nat)
    (hinside : ∀ other, port ≤ other → other < port + tries → low ≤ other ∧ other ≤ high)
    {world : World σ} (hsteady : Steady low high host isFree world.machine) :
    (searchPort host excluded port tries).Yields world (Sought low high host excluded isFree
      (fun other => port ≤ other ∧ other < port + tries) tries) := by
  induction tries generalizing port world with
  | zero =>
      refine yields_pure ((sought_nothing hsteady).weaken (Nat.le_refl 0) fun other hother => ?_)
      omega
  | succ tries ih =>
      have hrest : ∀ world : World σ, Steady low high host isFree world.machine → _ := fun world =>
        ih (port + 1) fun other hlow hhigh => hinside other (by omega) (by omega)
      unfold searchPort
      split
      · rename_i hexcluded
        refine (hrest world hsteady).mono fun outcome done after h => ?_
        refine h.weaken (Nat.le_succ tries) fun other hother => ?_
        by_cases heq : other = port
        · exact Or.inr (Or.inl (by simpa [heq] using hexcluded))
        · exact Or.inl (by omega)
      · rename_i hnew
        obtain ⟨hlower, hupper⟩ := hinside port (Int.le_refl port) (by omega)
        have hport : Candidate low high excluded port := ⟨hlower, hupper, by simpa using hnew⟩
        refine (yields_trial hport hsteady hrest).mono fun outcome done after h => ?_
        exact h.weaken (Nat.le_refl _) fun other hother => Or.inl (by omega)

/-! ### The whole search -/

/-- While the same ports of a range are free, a search returns one of them that is not excluded, and
fails only if there is none. It tries no others, and none more than twice on the whole. -/
theorem findPort_complete (hdraws : DrawsBetween σ) (low high : Int) (host : String)
    (excluded : List Int) {isFree : Int → Bool} {world : World σ}
    (hsteady : Steady low high host isFree world.machine) :
    (findPort low high host excluded).Yields world fun outcome done _ =>
      (match outcome with
        | .ok port => Candidate low high excluded port ∧ isFree port
        | .error fault => fault = .launchFailed (.noPort low high) none none ∧
            ∀ port, Candidate low high excluded port → isFree port = false) ∧
      (∀ trial ∈ trialsIn done, trial.1 = host ∧ Candidate low high excluded trial.2) ∧
      ((trialsIn done).length : Int) ≤ 2 * max 0 (high - low + 1) := by
  set count := (high - low + 1).toNat
  have hbudget : 2 * max 0 (high - low + 1) = (count + count : Nat) := by omega
  rw [hbudget]
  refine yields_bind ((drawPort_sought hdraws count (by omega) hsteady).mono ?_)
  rintro _ drawn between ⟨⟨found, rfl, hfound⟩, -, hdrawn, hfirst, hsteady⟩
  cases found with
  | some port =>
      refine yields_pure ⟨hfound port rfl, by simpa using hdrawn, ?_⟩
      rw [List.append_nil]
      omega
  | none =>
      have hscan : (searchPort host excluded low count).Yields between _ :=
        searchPort_sought low count (by omega) hsteady
      refine yields_bind (hscan.mono ?_)
      rintro _ scanned after ⟨⟨found, rfl, hfound⟩, hmissed, hscanned, hsecond, -⟩
      have htrials : ∀ trial ∈ trialsIn (drawn ++ scanned),
          trial.1 = host ∧ Candidate low high excluded trial.2 := by
        rw [trialsIn, picked_append]
        exact List.forall_mem_append.mpr ⟨hdrawn, hscanned⟩
      have hbound : ((trialsIn (drawn ++ scanned)).length : Int) ≤ (count + count : Nat) := by
        rw [trialsIn, picked_append, List.length_append]
        exact_mod_cast Nat.add_le_add hfirst hsecond
      cases found with
      | some port =>
          exact yields_pure ⟨hfound port rfl, by simpa using htrials, by simpa using hbound⟩
      | none =>
          refine yields_raise ⟨⟨rfl, fun port hport => ?_⟩, by simpa using htrials,
            by simpa using hbound⟩
          have hpassed : low ≤ port ∧ port < low + count := by
            have := hport.lower
            have := hport.upper
            omega
          exact (hmissed rfl port hpassed).resolve_left hport.notExcluded

end Act

open Rehearsal

theorem steady_rehearsal (low high : Int) (host : String) (machine : Rehearsal) :
    Steady low high host (fun port => !machine.busyPorts.contains port) machine := by
  intro later hlater port _ _
  have hbusy : later.busyPorts = machine.busyPorts := by
    induction hlater with
    | refl => rfl
    | tail _ hstep ih =>
        cases hstep with
        | drew machine => exact ih
        | tried port machine => exact ih
  change Except.ok (!later.busyPorts.contains port) = _
  rw [hbusy]

def corneredHost : Rehearsal :=
  { busyPorts := [8081], draws := [0, 1, 0] }

theorem findPort_complete_cornered :
    DrawsBetween Rehearsal ∧
    Steady 8080 8082 "127.0.0.1" (fun port => !corneredHost.busyPorts.contains port)
      corneredHost ∧
    (Act.findPort 8080 8082 "127.0.0.1" [8080]).Yields { machine := corneredHost }
      fun outcome done _ => outcome = .ok 8082 ∧
        (∀ trial ∈ trialsIn done, Candidate 8080 8082 [8080] trial.2) ∧
        (trialsIn done).length ≤ 6 := by
  have hsteady := steady_rehearsal 8080 8082 "127.0.0.1" corneredHost
  refine ⟨drawsBetween_rehearsal, hsteady, ?_⟩
  refine Act.Yields.mono (Act.findPort_complete drawsBetween_rehearsal 8080 8082 "127.0.0.1" [8080]
    hsteady) ?_
  rintro outcome done after ⟨hfound, htrials, hbound⟩
  have hbound : ((trialsIn done).length : Int) ≤ 6 := hbound
  refine ⟨?_, fun trial htrial => (htrials trial htrial).2, by exact_mod_cast hbound⟩
  have honly : ∀ port, Candidate 8080 8082 [8080] port →
      (!corneredHost.busyPorts.contains port) = true → port = 8082 := by
    rintro port ⟨hlower, hupper, hnew⟩ hfree
    simp [corneredHost] at hnew hfree
    omega
  cases outcome with
  | ok port => rw [honly port hfound.1 hfound.2]
  | error fault =>
      have hlast : Candidate 8080 8082 [8080] 8082 := ⟨by decide, by decide, by decide⟩
      have hbusy := hfound.2 8082 hlast
      simp [corneredHost] at hbusy

end AppSupervisor
