import AppSupervisor.Proofs.Journal
import AppSupervisor.Proofs.Yields

/-!
Stages of a deployment.

Files are accessed first, and refusals by the operating system are expected there. Then ports are
drawn and launches are tried, and no file is accessed any more. In a stage, a fault that is raised
is either foreseen, so that it need not end anything, or it ends the stage. This holds of composed
actions because it holds of their parts.
-/

namespace AppSupervisor

variable {σ α β : Type}

def Fault.isDeployment : Fault → Bool
  | .invalidRequest _ _ | .alreadyDeployed _ | .unusable _ _ | .launchFailed _ _ _ => true
  | _ => false

def Event.isLate : Event → Bool
  | .drew _ _ _ | .launched _ _ | .refusedLaunch _ _ => true
  | _ => false

def LateFirst (done : List Event) : Prop :=
  ∃ event more, done = event :: more ∧ event.isLate

/-! ### Stages -/

/-- A stage of a deployment: the faults that do not end it, and what holds of its events. -/
structure Stage where
  foresees : Fault → Bool
  covers : List Event → Prop
  nil : covers []
  append : ∀ {done more}, covers done → covers more → covers (done ++ more)
  plain : ∀ {event : Event}, event.isFault = false → event.isLate = false → covers [event]
  expected : ∀ {fault : Fault}, fault.isDeployment → covers [.raised fault]

namespace Stage

def planning : Stage where
  foresees fault := fault.isDeployment || fault.isSystem
  covers done := ∀ event ∈ done, event.isLate = false
  nil := by simp
  append hdone hmore := List.forall_mem_append.mpr ⟨hdone, hmore⟩
  plain _ hlate := by simpa using hlate
  expected _ := by simp [Event.isLate]

def late : Stage where
  foresees := Fault.isDeployment
  covers _ := True
  nil := trivial
  append _ _ := trivial
  plain _ _ := trivial
  expected _ := trivial

def launching : Stage where
  foresees := Fault.isDeployment
  covers done := ∀ before fault after, done = before ++ .raised fault :: after →
    fault.isDeployment ∨ ∃ event ∈ before, event.isLate
  nil := by simp
  append := by
    intro done more hdone hmore before fault after hsplit
    rcases append_eq_append_cons hsplit with ⟨rest, hfirst, -⟩ | ⟨rest, rfl, hrest⟩
    · exact hdone before fault rest hfirst
    · refine (hmore rest fault after hrest).imp id ?_
      rintro ⟨event, hmem, hlate⟩
      exact ⟨event, List.mem_append_right done hmem, hlate⟩
  plain := by
    intro event hfault _ before fault after hsplit
    have hmem : .raised fault ∈ [event] := by simp [hsplit]
    obtain rfl := List.mem_singleton.mp hmem
    contradiction
  expected := by
    intro fault hfault before other after hsplit
    have hmem : .raised other ∈ [Event.raised fault] := by simp [hsplit]
    cases List.mem_singleton.mp hmem
    exact Or.inl hfault

theorem launching_covers_cons {event : Event} (hlate : event.isLate) (done : List Event) :
    launching.covers (event :: done) := by
  intro before fault after hsplit
  cases before with
  | nil =>
      cases (List.cons_eq_cons.mp hsplit).1
      contradiction
  | cons first rest =>
      cases (List.cons_eq_cons.mp hsplit).1
      exact Or.inr ⟨event, List.mem_cons_self, hlate⟩

end Stage

/-- In a stage, every fault is foreseen or ends it, and a fault that ends it was raised or could be
foreseen. -/
structure Told (stage : Stage) (ends : Fault → Prop) (outcome : Except Fault α)
    (done : List Event) : Prop where
  covered : stage.covers done
  raised : ∀ fault, .raised fault ∈ done → stage.foresees fault ∨ outcome = .error fault
  ends : ∀ fault, outcome = .error fault → ends fault ∧
    (stage.foresees fault ∨ .raised fault ∈ done)

section Told

variable {stage : Stage} {ends other : Fault → Prop} {outcome : Except Fault α}
  {done more : List Event} {fault : Fault}

theorem told_ok (a : α) : Told stage ends (.ok a) [] :=
  ⟨stage.nil, by simp, by simp⟩

theorem told_note {event : Event} (hfault : event.isFault = false)
    (hcovered : stage.covers [event]) : Told stage ends (.ok ()) [event] := by
  refine ⟨hcovered, fun fault hmem => ?_, by simp⟩
  cases List.mem_singleton.mp hmem
  contradiction

theorem told_thrown (hfault : stage.foresees fault) (hends : ends fault) :
    Told stage ends (.error fault : Except Fault α) [] := by
  refine ⟨stage.nil, by simp, ?_⟩
  rintro _ ⟨⟩
  exact ⟨hends, Or.inl hfault⟩

theorem told_raised (hcovered : stage.covers [.raised fault]) (hends : ends fault) :
    Told stage ends (.error fault : Except Fault α) [.raised fault] := by
  refine ⟨hcovered, fun other hmem => ?_, ?_⟩
  · cases List.mem_singleton.mp hmem
    exact Or.inr rfl
  · rintro _ ⟨⟩
    exact ⟨hends, Or.inr List.mem_cons_self⟩

theorem Told.forget {a : α} (h : Told stage ends (.ok a) done) : Told stage other (.ok a) done :=
  ⟨h.covered, h.raised, by simp⟩

theorem Told.append {a : β} (hdone : Told stage ends (.ok a) done)
    (hmore : Told stage ends outcome more) : Told stage ends outcome (done ++ more) := by
  refine ⟨stage.append hdone.covered hmore.covered, fun fault hmem => ?_, fun fault hfault => ?_⟩
  · rcases List.mem_append.mp hmem with hmem | hmem
    · exact Or.inl (by simpa using hdone.raised fault hmem)
    · exact hmore.raised fault hmem
  · refine (hmore.ends fault hfault).imp id (Or.imp id fun hmem => ?_)
    exact List.mem_append_right done hmem

theorem Told.rethrow (h : Told stage ends (.error fault : Except Fault α) done)
    (hends : ends fault → other fault) :
    Told stage other (.error fault : Except Fault β) done := by
  refine ⟨h.covered, by simpa using h.raised, ?_⟩
  rintro _ ⟨⟩
  exact (h.ends fault rfl).imp hends id

/-- A fault that is foreseen need not end anything. -/
theorem Told.pass (h : Told stage ends (.error fault : Except Fault α) done)
    (hfault : stage.foresees fault) (b : β) : Told stage other (.ok b) done := by
  refine ⟨h.covered, fun raised hmem => Or.inl ?_, by simp⟩
  rcases h.raised raised hmem with hforeseen | hsame
  · exact hforeseen
  · cases hsame
    exact hfault

/-- What is done behind a fault, and succeeds, changes nothing about it. -/
theorem Told.trail {b : β} (hdone : Told stage ends (.error fault : Except Fault α) done)
    (hmore : Told stage ends (.ok b) more) :
    Told stage ends (.error fault : Except Fault α) (done ++ more) := by
  refine ⟨stage.append hdone.covered hmore.covered, fun other hmem => ?_, fun other hother => ?_⟩
  · rcases List.mem_append.mp hmem with hmem | hmem
    · exact hdone.raised other hmem
    · exact Or.inl (by simpa using hmore.raised other hmem)
  · refine (hdone.ends other hother).imp id (Or.imp id fun hmem => ?_)
    exact List.mem_append_left more hmem

end Told

namespace Act

def Tells (act : Act σ α) (world : World σ) (stage : Stage) (ends : Fault → Prop) : Prop :=
  act.Yields world fun outcome done _ => Told stage ends outcome done

section Rules

variable {stage : Stage} {ends other : Fault → Prop} {act : Act σ α} {world : World σ}

theorem Tells.bind (h : act.Tells world stage ends) {next : α → Act σ β}
    (hnext : ∀ a between, (next a).Tells between stage ends) :
    (act >>= next).Tells world stage ends := by
  refine yields_bind (Yields.mono h fun outcome done between hdone => ?_)
  cases outcome with
  | ok a => exact Yields.mono (hnext a between) fun _ _ _ hmore => hdone.append hmore
  | error fault => exact hdone.rethrow id

theorem tells_pure (a : α) : (pure a : Act σ α).Tells world stage ends :=
  yields_pure (told_ok a)

theorem tells_get : (get : Act σ (World σ)).Tells world stage ends :=
  yields_get (told_ok world)

theorem tells_note {event : Event} (hfault : event.isFault = false)
    (hcovered : stage.covers [event]) : (note event : Act σ Unit).Tells world stage ends :=
  yields_note (told_note hfault hcovered)

theorem tells_log (level : LogLevel) (message : String) :
    (log level message : Act σ Unit).Tells world stage ends :=
  tells_note rfl (stage.plain rfl rfl)

theorem tells_ofExcept {outcome : Except Fault α} (h : ∀ fault, outcome = .error fault →
    stage.covers [.raised fault] ∧ ends fault) :
    (ofExcept outcome : Act σ α).Tells world stage ends :=
  yields_ofExcept (fun a _ => told_ok a) fun fault hfault =>
    told_raised (h fault hfault).1 (h fault hfault).2

/-- A fault of a deployment may be reported in every stage. -/
theorem tells_expected {outcome : Except Fault α}
    (h : ∀ fault, outcome = .error fault → fault.isDeployment)
    (hends : ∀ fault, fault.isDeployment → ends fault) :
    (ofExcept outcome : Act σ α).Tells world stage ends := by
  refine tells_ofExcept fun fault hfault => ?_
  have hexpected : fault.isDeployment := h fault hfault
  exact ⟨stage.expected hexpected, hends fault hexpected⟩

theorem tells_raise {fault : Fault} (hcovered : stage.covers [.raised fault])
    (hends : ends fault) : (raise fault : Act σ α).Tells world stage ends :=
  yields_raise (told_raised hcovered hends)

theorem tells_onMachine (op : σ → α × σ) : (onMachine op).Tells world stage ends :=
  yields_onMachine (told_ok _)

theorem tells_tryMachine {op : σ → Except Fault α × σ}
    (h : ∀ fault, (op world.machine).1 = .error fault →
      stage.covers [.raised fault] ∧ ends fault) : (tryMachine op).Tells world stage ends := by
  refine yields_tryMachine (fun a machine _ => told_ok a) fun fault machine hop => ?_
  have hfault : (op world.machine).1 = .error fault := by rw [hop]
  exact told_raised (h fault hfault).1 (h fault hfault).2

/-- A question leaves the world as it is, so what follows is told from there. -/
theorem tells_tryAskMachine {question : σ → Except Fault α} {next : α → Act σ β}
    (hnext : ∀ a, question world.machine = .ok a → (next a).Tells world stage ends)
    (herror : ∀ fault, question world.machine = .error fault →
      stage.covers [.raised fault] ∧ ends fault) :
    (tryAskMachine question >>= next).Tells world stage ends := by
  refine yields_bind (yields_bind_get (yields_ofExcept (fun a ha => ?_) fun fault hfault => ?_))
  · exact hnext a ha
  · exact told_raised (herror fault hfault).1 (herror fault hfault).2

def BeginsLate (act : Act σ α) (world : World σ) (ends : Fault → Prop) : Prop :=
  act.Yields world fun outcome done _ =>
    Told .late ends outcome done ∧ LateFirst done

theorem BeginsLate.bind (h : act.BeginsLate world ends) {next : α → Act σ β}
    (hnext : ∀ a between, (next a).Tells between .late ends) :
    (act >>= next).BeginsLate world ends := by
  refine yields_bind (Yields.mono h ?_)
  rintro outcome _ between ⟨hdone, event, rest, rfl, hlate⟩
  cases outcome with
  | ok a => exact Yields.mono (hnext a between) fun _ _ _ hmore =>
      ⟨hdone.append hmore, event, _, rfl, hlate⟩
  | error fault => exact ⟨hdone.rethrow id, event, rest, rfl, hlate⟩

theorem BeginsLate.tells (h : act.BeginsLate world ends) : act.Tells world .launching ends := by
  refine Yields.mono h ?_
  rintro outcome _ _ ⟨hdone, event, rest, rfl, hlate⟩
  exact ⟨Stage.launching_covers_cons hlate rest, hdone.raised, hdone.ends⟩

end Rules

end Act

end AppSupervisor
