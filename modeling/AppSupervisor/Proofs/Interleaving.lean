import AppSupervisor.Proofs.Registry
import Mathlib.Logic.Function.Basic

/-!
Deployments and undeployments that share a registry.

Any number of clients deploy and undeploy at the same time. Each works off one call after another,
and a call is a sequence of accesses to the registry between which others may come: a deployment
claims an id and later publishes or releases it, an undeployment looks an id up, stops what it found
and removes the id. The registry does not know who claimed an id; the clients do, and that at most
one of them thinks so is an invariant of all interleavings.
-/

namespace AppSupervisor.Interleaving

variable {Client α : Type}

inductive Phase (α : Type)
  | idle
  | holding (id : String)
  | reading (id : String) (value : α)
  | stopped (id : String) (value : α)

inductive Move (α : Type)
  | claimed (id : String)
  | refused (id : String)
  | published (id : String) (value : α)
  | released (id : String)
  | missed (id : String)
  | got (id : String) (value : α)
  | stopped (id : String) (value : α)
  | removed (id : String) (taken? : Option α)
  deriving DecidableEq

structure System (Client α : Type) where
  registry : Registry α
  phase : Client → Phase α

def System.calm (registry : Registry α) : System Client α where
  registry := registry
  phase _ := .idle

def System.Fresh (s : System Client α) : Prop :=
  s.registry.reserved = [] ∧ ∀ c, s.phase c = .idle

theorem fresh_calm {registry : Registry α} (h : registry.reserved = []) :
    (System.calm registry : System Client α).Fresh :=
  ⟨h, fun _ => rfl⟩

abbrev Trace (Client α : Type) := List (Client × Move α)

section Steps

variable [DecidableEq Client]

def System.become (s : System Client α) (c : Client) (phase : Phase α) (registry : Registry α) :
    System Client α :=
  { registry, phase := Function.update s.phase c phase }

inductive Step (s : System Client α) (c : Client) : Move α → System Client α → Prop
  | claim {id : String} {claimed : Registry α} (hphase : s.phase c = .idle)
      (hreserve : s.registry.reserve id = .ok claimed) :
      Step s c (.claimed id) (s.become c (.holding id) claimed)
  | refuse {id : String} {fault : Fault} (hphase : s.phase c = .idle)
      (hreserve : s.registry.reserve id = .error fault) : Step s c (.refused id) s
  | publish {id : String} (value : α) (hphase : s.phase c = .holding id) :
      Step s c (.published id value) (s.become c .idle (s.registry.publish id value))
  | release {id : String} (hphase : s.phase c = .holding id) :
      Step s c (.released id) (s.become c .idle (s.registry.release id))
  | miss {id : String} (hphase : s.phase c = .idle) (hget : s.registry.get? id = none) :
      Step s c (.missed id) s
  | get {id : String} {value : α} (hphase : s.phase c = .idle)
      (hget : s.registry.get? id = some value) :
      Step s c (.got id value) (s.become c (.reading id value) s.registry)
  | stop {id : String} {value : α} (hphase : s.phase c = .reading id value) :
      Step s c (.stopped id value) (s.become c (.stopped id value) s.registry)
  | remove {id : String} {value : α} (hphase : s.phase c = .stopped id value) :
      Step s c (.removed id (s.registry.get? id)) (s.become c .idle (s.registry.remove id))

inductive Run : System Client α → Trace Client α → System Client α → Prop
  | nil {s : System Client α} : Run s [] s
  | cons {s between next : System Client α} {c : Client} {move : Move α} {rest : Trace Client α}
      (hstep : Step s c move between) (hrun : Run between rest next) :
      Run s ((c, move) :: rest) next

end Steps

def Move.Moves (id : String) : Move α → Prop
  | .published other _ | .removed other _ => id = other
  | _ => False

def Untouched (id : String) (trace : Trace Client α) : Prop :=
  ∀ entry ∈ trace, ¬entry.2.Moves id

/-- Something was published under an id, and neither removed nor replaced since. -/
def Survives (id : String) (value : α) (trace : Trace Client α) : Prop :=
  ∃ first c rest, trace = first ++ (c, .published id value) :: rest ∧ Untouched id rest

section Runs

variable [DecidableEq Client] {start s next : System Client α} {trace more : Trace Client α}
  {c other : Client} {move : Move α} {id : String} {value : α}

@[simp]
theorem become_registry (s : System Client α) (c : Client) (phase : Phase α)
    (registry : Registry α) : (s.become c phase registry).registry = registry := rfl

@[simp]
theorem become_phase_self (s : System Client α) (c : Client) (phase : Phase α)
    (registry : Registry α) : (s.become c phase registry).phase c = phase := by
  simp [System.become]

theorem become_phase_of_ne (s : System Client α) (h : other ≠ c) (phase : Phase α)
    (registry : Registry α) : (s.become c phase registry).phase other = s.phase other := by
  simp [System.become, h]

theorem Step.phase_of_ne (h : Step s c move next) (hne : other ≠ c) :
    next.phase other = s.phase other := by
  cases h with
  | refuse | miss => rfl
  | claim | publish | release | get | stop | remove => exact become_phase_of_ne s hne _ _

theorem run_singleton_iff : Run s [(c, move)] next ↔ Step s c move next := by
  constructor
  · intro hrun
    cases hrun with
    | cons hstep hnil =>
        cases hnil
        exact hstep
  · exact fun hstep => .cons hstep .nil

theorem run_append_iff : Run start (trace ++ more) next ↔
    ∃ s, Run start trace s ∧ Run s more next := by
  constructor
  · intro hrun
    induction trace generalizing start with
    | nil => exact ⟨start, .nil, hrun⟩
    | cons entry rest ih =>
        cases hrun with
        | cons hstep hrun =>
            obtain ⟨s, hrest, hmore⟩ := ih hrun
            exact ⟨s, .cons hstep hrest, hmore⟩
  · rintro ⟨s, hrun, hmore⟩
    induction hrun with
    | nil => exact hmore
    | cons hstep hrun ih => exact .cons hstep (ih hmore)

/-! ### What is visible -/

theorem published_of_reserve {r claimed : Registry α} (h : r.reserve id = .ok claimed) :
    claimed.published = r.published := by
  obtain ⟨-, -, rfl⟩ := Registry.reserve_eq_ok_iff.mp h
  rfl

theorem Step.get?_of_still (h : Step s c move next) (hstill : ¬move.Moves id) :
    next.registry.get? id = s.registry.get? id := by
  cases h with
  | claim hphase hreserve =>
      rw [become_registry, Registry.get?, Registry.get?, published_of_reserve hreserve]
  | publish value hphase =>
      rw [become_registry, Registry.get?_publish]
      exact if_neg hstill
  | remove hphase =>
      rw [become_registry, Registry.get?_remove]
      exact if_neg hstill
  | refuse | release | miss | get | stop => rfl

theorem Step.get?_of_published (h : Step s c (.published id value) next) :
    next.registry.get? id = some value := by
  cases h with
  | publish value hphase => rw [become_registry, Registry.get?_publish, if_pos rfl]

theorem get?_of_untouched (hrun : Run s trace next) (h : Untouched id trace) :
    next.registry.get? id = s.registry.get? id := by
  induction hrun with
  | nil => rfl
  | cons hstep hrun ih =>
      obtain ⟨hstill, hrest⟩ := List.forall_mem_cons.mp h
      exact (ih hrest).trans (hstep.get?_of_still hstill)

theorem get?_of_survives (hrun : Run s trace next) (h : Survives id value trace) :
    next.registry.get? id = some value := by
  obtain ⟨first, publisher, rest, rfl, hrest⟩ := h
  obtain ⟨between, -, hrun⟩ := run_append_iff.mp hrun
  cases hrun with
  | cons hpublish hrun => rw [get?_of_untouched hrun hrest, hpublish.get?_of_published]

/-- What a run shows under an id: what was there, what survives in it, or nothing. -/
theorem get?_of_run (hrun : Run s trace next) (id : String) :
    (Untouched id trace ∧ next.registry.get? id = s.registry.get? id) ∨
      (∃ value, Survives id value trace) ∨ next.registry.get? id = none := by
  induction hrun with
  | nil => exact Or.inl ⟨by simp [Untouched], rfl⟩
  | @cons s between next c move rest hstep hrun ih =>
      rcases ih with ⟨huntouched, hsame⟩ | ⟨value, first, publisher, later, rfl, hlater⟩ | hnone
      · by_cases hmoves : move.Moves id
        · cases hstep with
          | publish value hphase =>
              obtain rfl : id = _ := hmoves
              exact Or.inr (Or.inl ⟨value, [], c, rest, rfl, huntouched⟩)
          | remove hphase =>
              obtain rfl : id = _ := hmoves
              exact Or.inr (Or.inr (hsame.trans (Registry.get?_remove_self _ _)))
          | claim | refuse | release | miss | get | stop => cases hmoves
        · refine Or.inl ⟨List.forall_mem_cons.mpr ⟨hmoves, huntouched⟩, ?_⟩
          exact hsame.trans (hstep.get?_of_still hmoves)
      · exact Or.inr (Or.inl ⟨value, (c, move) :: first, publisher, later, rfl, hlater⟩)
      · exact Or.inr (Or.inr hnone)

/-! ### Who holds a claim -/

structure Exclusive (s : System Client α) : Prop where
  held : ∀ id, id ∈ s.registry.reserved ↔ ∃ c, s.phase c = .holding id
  single : ∀ id c other, s.phase c = .holding id → s.phase other = .holding id → c = other
  hidden : ∀ id ∈ s.registry.reserved, id ∉ s.registry.ids

omit [DecidableEq Client] in
theorem exclusive_of_fresh (h : s.Fresh) : Exclusive s where
  held id := by simp [h.1, h.2]
  single id c other hc := by simp [h.2] at hc
  hidden id hreserved := by simp [h.1] at hreserved

/-- A client may take a claim that nobody holds and give up its own. The others keep theirs. -/
theorem Exclusive.become {phase : Phase α} {registry : Registry α} (h : Exclusive s)
    (hreserved : ∀ id, id ∈ registry.reserved ↔
      phase = .holding id ∨ (id ∈ s.registry.reserved ∧ s.phase c ≠ .holding id))
    (hnew : ∀ id, phase = .holding id → id ∉ s.registry.reserved)
    (hhidden : ∀ id ∈ registry.reserved, id ∉ registry.ids) :
    Exclusive (s.become c phase registry) where
  held id := by
    rw [become_registry, hreserved]
    constructor
    · rintro (rfl | ⟨hid, hothers⟩)
      · exact ⟨c, become_phase_self s c _ registry⟩
      · obtain ⟨other, hother⟩ := (h.held id).mp hid
        have hne : other ≠ c := fun heq => hothers (heq ▸ hother)
        exact ⟨other, (become_phase_of_ne s hne phase registry).trans hother⟩
    · rintro ⟨other, hother⟩
      by_cases hsame : other = c
      · rw [hsame, become_phase_self] at hother
        exact Or.inl hother
      · rw [become_phase_of_ne s hsame] at hother
        refine Or.inr ⟨(h.held id).mpr ⟨other, hother⟩, fun hc => ?_⟩
        exact hsame (h.single id other c hother hc)
  single id one other hone hother := by
    have hnone : ∀ holder, phase = .holding id → s.phase holder ≠ .holding id := by
      intro holder hphase hholder
      exact hnew id hphase ((h.held id).mpr ⟨holder, hholder⟩)
    by_cases hfirst : one = c <;> by_cases hsecond : other = c
    · rw [hfirst, hsecond]
    · rw [hfirst, become_phase_self] at hone
      rw [become_phase_of_ne s hsecond] at hother
      exact absurd hother (hnone other hone)
    · rw [hsecond, become_phase_self] at hother
      rw [become_phase_of_ne s hfirst] at hone
      exact absurd hone (hnone one hother)
    · rw [become_phase_of_ne s hfirst] at hone
      rw [become_phase_of_ne s hsecond] at hother
      exact h.single id one other hone hother
  hidden := hhidden

/-- The step of the invariant: a client gets a claim only where nobody has one. -/
theorem Exclusive.step (h : Exclusive s) (hstep : Step s c move next) : Exclusive next := by
  cases hstep with
  | refuse | miss => exact h
  | claim hphase hreserve =>
      obtain ⟨hhidden, hfree, rfl⟩ := Registry.reserve_eq_ok_iff.mp hreserve
      refine h.become (fun other => ?_) (fun other hother => ?_) fun other hother => ?_
      · simp [hphase, eq_comm]
      · cases hother
        exact hfree
      · rcases List.mem_cons.mp hother with rfl | hother
        · exact hhidden
        · exact h.hidden other hother
  | @publish id value hphase =>
      refine h.become (fun other => ?_) (fun other hother => by cases hother) fun other hother => ?_
      · simp [Registry.mem_reserved_publish, hphase, and_comm, eq_comm]
      · -- the published id is no longer claimed, so only the other ids are to be hidden
        obtain ⟨hne, hother⟩ := Registry.mem_reserved_publish.mp hother
        rw [← Registry.get?_eq_none_iff, Registry.get?_publish, if_neg hne]
        exact Registry.get?_eq_none_iff.mpr (h.hidden other hother)
  | release hphase =>
      refine h.become (fun other => ?_) (fun other hother => by cases hother) fun other hother => ?_
      · simp [Registry.mem_reserved_release, hphase, and_comm, eq_comm]
      · exact h.hidden other (Registry.mem_reserved_release.mp hother).2
  | get hphase | stop hphase =>
      refine h.become (fun other => ?_) (fun other hother => by cases hother) h.hidden
      simp [hphase]
  | remove hphase =>
      refine h.become (fun other => ?_) (fun other hother => by cases hother) fun other hother => ?_
      · simp [Registry.remove, hphase]
      · rw [Registry.ids_remove]
        exact fun hmem => h.hidden other hother (List.mem_filter.mp hmem).1

theorem exclusive_of_run (hstart : Exclusive start) (hrun : Run start trace s) : Exclusive s := by
  induction hrun with
  | nil => exact hstart
  | cons hstep hrun ih => exact ih (hstart.step hstep)

theorem Exclusive.hidden_of_publish (h : Exclusive s)
    (hstep : Step s c (.published id value) next) : id ∉ s.registry.ids := by
  cases hstep with
  | publish value hphase => exact h.hidden id ((h.held id).mpr ⟨c, hphase⟩)

/-- What is visible stays as it is until it is removed. -/
theorem Exclusive.kept_or_removed (h : Exclusive s) (hstep : Step s c move next)
    (hget : s.registry.get? id = some value) :
    next.registry.get? id = some value ∨ move = .removed id (some value) := by
  by_cases hmoves : move.Moves id
  · cases hstep with
    | publish new hphase =>
        obtain rfl : id = _ := hmoves
        have hhidden := h.hidden_of_publish (.publish new hphase)
        exact absurd (Registry.mem_ids_of_get? hget) hhidden
    | remove hphase =>
        obtain rfl : id = _ := hmoves
        exact Or.inr (by rw [hget])
    | claim | refuse | release | miss | get | stop => cases hmoves
  · exact Or.inl ((hstep.get?_of_still hmoves).trans hget)

/-! ### Claims that follow each other -/

theorem Step.mem_reserved_of_claimed (h : Step s c (.claimed id) next) :
    id ∈ next.registry.reserved := by
  cases h with
  | claim hphase hreserve =>
      obtain ⟨-, -, rfl⟩ := Registry.reserve_eq_ok_iff.mp hreserve
      exact List.mem_cons_self

def Move.Frees (id : String) : Move α → Prop
  | .released other | .removed other _ => id = other
  | _ => False

/-- An id stays claimed or visible through every move that does not free it. -/
theorem Step.taken (h : Step s c move next) (hkept : ¬move.Frees id)
    (htaken : id ∈ s.registry.reserved ∨ id ∈ s.registry.ids) :
    id ∈ next.registry.reserved ∨ id ∈ next.registry.ids := by
  cases h with
  | refuse | miss | get | stop => exact htaken
  | claim hphase hreserve =>
      obtain ⟨-, -, rfl⟩ := Registry.reserve_eq_ok_iff.mp hreserve
      exact htaken.imp_left (List.mem_cons_of_mem _)
  | @publish other value hphase =>
      by_cases hsame : id = other
      · have hget : (s.registry.publish other value).get? id = some value := by
          rw [Registry.get?_publish, if_pos hsame]
        exact Or.inr (Registry.mem_ids_of_get? hget)
      · rw [become_registry, Registry.mem_reserved_publish, Registry.ids_publish]
        refine htaken.imp (⟨hsame, ·⟩) fun hmem => ?_
        split
        · exact hmem
        · exact List.mem_append_left _ hmem
  | release hphase =>
      exact htaken.imp_left fun hmem => Registry.mem_reserved_release.mpr ⟨hkept, hmem⟩
  | remove hphase =>
      refine htaken.imp_right fun hmem => ?_
      rw [become_registry, Registry.ids_remove]
      exact List.mem_filter.mpr ⟨hmem, by simpa [Move.Frees] using hkept⟩

theorem taken_of_run (hrun : Run s trace next) (hkept : ∀ entry ∈ trace, ¬entry.2.Frees id)
    (htaken : id ∈ s.registry.reserved ∨ id ∈ s.registry.ids) :
    id ∈ next.registry.reserved ∨ id ∈ next.registry.ids := by
  induction hrun with
  | nil => exact htaken
  | cons hstep hrun ih =>
      obtain ⟨hfirst, hrest⟩ := List.forall_mem_cons.mp hkept
      exact ih hrest (hstep.taken hfirst htaken)

/-- Between two claims of an id someone freed it. -/
theorem frees_between_claims {before between after : Trace Client α}
    (hrun : Run start (before ++ (c, .claimed id) :: between ++ (other, .claimed id) :: after) s) :
    ∃ entry ∈ between, entry.2.Frees id := by
  obtain ⟨_, hrun, hafter⟩ := run_append_iff.mp hrun
  obtain ⟨_, -, hrun⟩ := run_append_iff.mp hrun
  by_contra hnone
  have hkept : ∀ entry ∈ between, ¬entry.2.Frees id := fun entry hentry hfrees =>
    hnone ⟨entry, hentry, hfrees⟩
  cases hrun with
  | cons hclaim hbetween =>
    cases hafter with
    | cons hagain =>
      cases hagain with
      | claim hphase hreserve =>
          obtain ⟨hhidden, hfree, -⟩ := Registry.reserve_eq_ok_iff.mp hreserve
          rcases taken_of_run hbetween hkept (Or.inl hclaim.mem_reserved_of_claimed) with
            hreserved | hvisible
          · exact hfree hreserved
          · exact hhidden hvisible

/-- However deployments and undeployments interleave, a claim of an id has one holder, and no
claimed id is visible. What is published was not visible before, and only a removal makes an entry
change. No move of another client takes a claim from its holder, and two claims of an id are granted
only if a release or a removal of the id comes between them. -/
theorem run_exclusive (hstart : start.Fresh) (hrun : Run start trace s) :
    (∀ id c other, s.phase c = .holding id → s.phase other = .holding id → c = other) ∧
    (∀ id, id ∈ s.registry.reserved ↔ ∃ c, s.phase c = .holding id) ∧
    (∀ id ∈ s.registry.reserved, id ∉ s.registry.ids) ∧
    (∀ c move next, Step s c move next →
      (∀ id value, move = .published id value → id ∉ s.registry.ids) ∧
      (∀ id value, s.registry.get? id = some value → next.registry.get? id = some value ∨
        move = .removed id (some value)) ∧
      (∀ other id, other ≠ c → s.phase other = .holding id →
        next.phase other = .holding id ∧ id ∈ next.registry.reserved)) ∧
    (∀ before between after c other id,
      trace = before ++ (c, .claimed id) :: between ++ (other, .claimed id) :: after →
        ∃ entry ∈ between, entry.2.Frees id) := by
  have hexclusive : Exclusive s := exclusive_of_run (exclusive_of_fresh hstart) hrun
  refine ⟨hexclusive.single, hexclusive.held, hexclusive.hidden, ?_, ?_⟩
  · intro c move next hstep
    refine ⟨?_, ?_, ?_⟩
    · rintro id value rfl
      exact hexclusive.hidden_of_publish hstep
    · intro id value hget
      exact hexclusive.kept_or_removed hstep hget
    · intro other id hne hother
      have hphase : next.phase other = .holding id := (hstep.phase_of_ne hne).trans hother
      exact ⟨hphase, ((hexclusive.step hstep).held id).mpr ⟨other, hphase⟩⟩
  · rintro before between after c other id rfl
    exact frees_between_claims hrun

end Runs

theorem run_exclusive_handover :
    ∃ s, (System.calm {} : System Bool Nat).Fresh ∧
      Run (.calm {}) [(true, .claimed "a"), (false, .refused "a"), (true, .published "a" 1),
        (false, .got "a" 1), (false, .stopped "a" 1), (false, .removed "a" (some 1)),
        (false, .claimed "a")] s ∧
      (∀ c, s.phase c = .holding "a" → c = false) ∧ "a" ∉ s.registry.ids := by
  obtain ⟨s, hrun, hphase⟩ : ∃ s, Run (System.calm {} : System Bool Nat) [(true, .claimed "a"),
      (false, .refused "a"), (true, .published "a" 1), (false, .got "a" 1), (false, .stopped "a" 1),
      (false, .removed "a" (some 1)), (false, .claimed "a")] s ∧ s.phase false = .holding "a" :=
    ⟨_, .cons (.claim rfl rfl) (.cons (.refuse rfl rfl) (.cons (.publish 1 rfl)
      (.cons (.get rfl rfl) (.cons (.stop rfl) (.cons (.remove rfl) (.cons (.claim rfl rfl)
      .nil)))))), rfl⟩
  obtain ⟨hsingle, hheld, hhidden, -⟩ := run_exclusive (fresh_calm rfl) hrun
  refine ⟨s, fresh_calm rfl, hrun, ?_, ?_⟩
  · exact fun c hc => hsingle "a" c false hc hphase
  · exact hhidden "a" ((hheld "a").mpr ⟨false, hphase⟩)

end AppSupervisor.Interleaving
