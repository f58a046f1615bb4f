import AppSupervisor.Machine

/-!
What an action yields: its outcome, the events that it notes and the world behind it.

The rules below follow how actions are put together, so that what a composed action yields comes
from what its parts yield. A frame is a relation that holds of every part of an action and hence of
the whole.
-/

namespace AppSupervisor.Act

variable {σ α β : Type}

theorem perform_bind (act : Act σ α) (next : α → Act σ β) (world : World σ) :
    (act >>= next).perform world = match act.perform world with
      | (.ok a, after) => (next a).perform after
      | (.error fault, after) => (.error fault, after) := by
  unfold perform ExceptT.run
  simp only [bind, ExceptT.bind, ExceptT.mk, StateT.bind, ExceptT.bindCont]
  rcases act world with ⟨fault | a, after⟩ <;> rfl

theorem perform_bind_eq_ok {act : Act σ α} {next : α → Act σ β} {world after : World σ} {b : β}
    (h : (act >>= next).perform world = (.ok b, after)) : ∃ a between,
      act.perform world = (.ok a, between) ∧ (next a).perform between = (.ok b, after) := by
  rw [perform_bind] at h
  rcases hact : act.perform world with ⟨fault | a, between⟩
  · simp [hact] at h
  · exact ⟨a, between, rfl, by simpa [hact] using h⟩

theorem perform_of_toOption {act : Act σ α} {world : World σ} {a : α}
    (h : (act.perform world).1.toOption = some a) :
    act.perform world = (.ok a, (act.perform world).2) := by
  refine Prod.ext ?_ rfl
  cases houtcome : (act.perform world).1 with
  | error fault => simp [houtcome, Except.toOption] at h
  | ok b => simpa [houtcome, Except.toOption] using h

theorem perform_ensuring (act : Act σ α) (cleanup : Act σ β) (world : World σ) :
    (ensuring act cleanup).perform world =
      ((cleanup.perform (act.perform world).2).1.bind fun b => (act.perform world).1.map (·, b),
        (cleanup.perform (act.perform world).2).2) := by
  have hunfold : (ensuring act cleanup).perform world =
      match cleanup.perform (act.perform world).2 with
      | (.error fault, after) => (.error fault, after)
      | (.ok b, after) => ((act.perform world).1.map (·, b), after) := rfl
  rw [hunfold]
  rcases cleanup.perform (act.perform world).2 with ⟨fault | b, after⟩ <;> rfl

/-- The outcome of an action, the events noted on the way, the first one first, and the world behind
it have a property. -/
def Yields (act : Act σ α) (world : World σ)
    (post : Except Fault α → List Event → World σ → Prop) : Prop :=
  ∃ done, (act.perform world).2.journal = done.reverse ++ world.journal ∧
    post (act.perform world).1 done (act.perform world).2

section Rules

variable {act : Act σ α} {world : World σ}
  {post other : Except Fault α → List Event → World σ → Prop}

theorem Yields.mono (h : act.Yields world post)
    (himp : ∀ outcome done after, post outcome done after → other outcome done after) :
    act.Yields world other := by
  obtain ⟨done, hjournal, hpost⟩ := h
  exact ⟨done, hjournal, himp _ _ _ hpost⟩

/-- What an action yields is what performing it gives. -/
theorem Yields.located (h : act.Yields world post) : act.Yields world fun outcome done after =>
    act.perform world = (outcome, after) ∧ post outcome done after := by
  obtain ⟨done, hjournal, hpost⟩ := h
  exact ⟨done, hjournal, rfl, hpost⟩

/-- Whatever is said about an action is said about the events that its journal tells. -/
theorem Yields.of_journal (h : act.Yields world post) {done : List Event}
    (hjournal : (act.perform world).2.journal = done.reverse ++ world.journal) :
    post (act.perform world).1 done (act.perform world).2 := by
  obtain ⟨done', hjournal', hpost⟩ := h
  have hsame : done = done' := by
    rw [hjournal] at hjournal'
    exact List.reverse_inj.mp (List.append_cancel_right hjournal')
  subst hsame
  exact hpost

/-- Two descriptions of one action speak of the same events. -/
theorem Yields.and (hleft : act.Yields world post) (hright : act.Yields world other) :
    act.Yields world fun outcome done after =>
      post outcome done after ∧ other outcome done after := by
  obtain ⟨done, hjournal, hpost⟩ := hleft
  exact ⟨done, hjournal, hpost, hright.of_journal hjournal⟩

theorem yields_pure {a : α} (h : post (.ok a) [] world) : (pure a : Act σ α).Yields world post :=
  ⟨[], rfl, h⟩

theorem yields_throw {fault : Fault} (h : post (.error fault) [] world) :
    (throw fault : Act σ α).Yields world post :=
  ⟨[], rfl, h⟩

theorem yields_get {post : Except Fault (World σ) → List Event → World σ → Prop}
    (h : post (.ok world) [] world) : (get : Act σ (World σ)).Yields world post :=
  ⟨[], rfl, h⟩

theorem yields_set {after : World σ} {post : Except Fault Unit → List Event → World σ → Prop}
    (hjournal : after.journal = world.journal) (h : post (.ok ()) [] after) :
    (set after : Act σ Unit).Yields world post :=
  ⟨[], hjournal, h⟩

theorem yields_modify {f : World σ → World σ}
    {post : Except Fault Unit → List Event → World σ → Prop}
    (hjournal : (f world).journal = world.journal) (h : post (.ok ()) [] (f world)) :
    (modify f : Act σ Unit).Yields world post :=
  ⟨[], hjournal, h⟩

theorem yields_note {event : Event} {post : Except Fault Unit → List Event → World σ → Prop}
    (h : post (.ok ()) [event] { world with journal := event :: world.journal }) :
    (note event).Yields world post :=
  ⟨[event], rfl, h⟩

theorem yields_raise {fault : Fault}
    (h : post (.error fault) [.raised fault]
      { world with journal := .raised fault :: world.journal }) :
    (raise fault : Act σ α).Yields world post :=
  ⟨[.raised fault], rfl, h⟩

/-- What follows an action is described from the world behind it; after a fault, nothing follows. -/
theorem yields_bind {next : α → Act σ β} {post : Except Fault β → List Event → World σ → Prop}
    (h : act.Yields world fun outcome done after => match outcome with
      | .ok a => (next a).Yields after fun outcome more => post outcome (done ++ more)
      | .error fault => post (.error fault) done after) :
    (act >>= next).Yields world post := by
  obtain ⟨done, hjournal, hpost⟩ := h
  revert hjournal hpost
  rw [Yields, perform_bind]
  rcases act.perform world with ⟨fault | a, after⟩
  · exact fun hjournal hpost => ⟨done, hjournal, hpost⟩
  · rintro hjournal ⟨more, hmore, hpost⟩
    refine ⟨done ++ more, ?_, hpost⟩
    rw [hmore, hjournal, List.reverse_append, List.append_assoc]

theorem yields_onMachine {op : σ → α × σ}
    (h : post (.ok (op world.machine).1) [] { world with machine := (op world.machine).2 }) :
    (onMachine op).Yields world post :=
  ⟨[], rfl, h⟩

theorem yields_ofExcept {outcome : Except Fault α}
    (hok : ∀ a, outcome = .ok a → post (.ok a) [] world)
    (herror : ∀ fault, outcome = .error fault → post (.error fault) [.raised fault]
      { world with journal := .raised fault :: world.journal }) :
    (ofExcept outcome).Yields world post := by
  cases outcome with
  | ok a => exact yields_pure (hok a rfl)
  | error fault => exact yields_raise (herror fault rfl)

theorem yields_tryMachine {op : σ → Except Fault α × σ}
    (hok : ∀ a machine, op world.machine = (.ok a, machine) →
      post (.ok a) [] { world with machine })
    (herror : ∀ fault machine, op world.machine = (.error fault, machine) →
      post (.error fault) [.raised fault]
        { world with machine, journal := .raised fault :: world.journal }) :
    (tryMachine op).Yields world post := by
  refine yields_bind (yields_onMachine (yields_ofExcept (fun a ha => ?_) fun fault hfault => ?_))
  · exact hok a _ (Prod.ext ha rfl)
  · exact herror fault _ (Prod.ext hfault rfl)

theorem yields_attempt {post : Except Fault (Except Fault α) → List Event → World σ → Prop}
    (h : act.Yields world fun outcome => post (.ok outcome)) : (attempt act).Yields world post :=
  h

/-- Whatever follows an attempt sees its outcome, be it a fault or not. -/
theorem yields_bind_attempt {next : Except Fault α → Act σ β}
    {post : Except Fault β → List Event → World σ → Prop}
    (h : act.Yields world fun outcome done after =>
      (next outcome).Yields after fun outcome more => post outcome (done ++ more)) :
    (attempt act >>= next).Yields world post :=
  yields_bind (yields_attempt h)

/-- A cleanup begins in the world behind the action, however that ended. -/
theorem yields_ensuring {cleanup : Act σ β}
    {post : Except Fault (α × β) → List Event → World σ → Prop}
    (h : act.Yields world fun outcome done between => cleanup.Yields between fun result more =>
      post (result.bind fun b => outcome.map (·, b)) (done ++ more)) :
    (ensuring act cleanup).Yields world post := by
  obtain ⟨done, hjournal, more, hmore, hpost⟩ := h
  refine ⟨done ++ more, ?_, ?_⟩
  · rw [perform_ensuring, hmore, hjournal, List.reverse_append, List.append_assoc]
  · rw [perform_ensuring]
    exact hpost

theorem yields_bind_get {next : World σ → Act σ β}
    {post : Except Fault β → List Event → World σ → Prop} (h : (next world).Yields world post) :
    (get >>= next).Yields world post :=
  yields_bind (yields_get h)

theorem yields_bind_onMachine {op : σ → α × σ} {next : α → Act σ β}
    {post : Except Fault β → List Event → World σ → Prop}
    (h : (next (op world.machine).1).Yields { world with machine := (op world.machine).2 } post) :
    (onMachine op >>= next).Yields world post :=
  yields_bind (yields_onMachine h)

theorem yields_bind_note {event : Event} {next : Unit → Act σ β}
    {post : Except Fault β → List Event → World σ → Prop}
    (h : (next ()).Yields { world with journal := event :: world.journal }
      fun outcome more => post outcome (event :: more)) :
    (note event >>= next).Yields world post :=
  yields_bind (yields_note h)

theorem yields_forM_note (event : α → Event) (l : List α) (world : World σ) :
    (l.forM fun a => note (event a) : Act σ Unit).Yields world fun outcome done after =>
      outcome = .ok () ∧ done = l.map event ∧
        after = { world with journal := done.reverse ++ world.journal } := by
  induction l generalizing world with
  | nil => exact yields_pure ⟨rfl, rfl, rfl⟩
  | cons a rest ih =>
      refine yields_bind_note ((ih _).mono ?_)
      rintro outcome done after ⟨hok, rfl, rfl⟩
      exact ⟨hok, rfl, by simp⟩

end Rules

/-- A kill reports nothing, and only the machine sees it. -/
theorem kill_yields [Machine σ] (pid : Nat) (world : World σ) :
    (kill pid : Act σ Unit).Yields world fun outcome done after =>
      outcome = .ok () ∧ done = [.killed pid] ∧
        ∃ machine, after = { world with machine, journal := .killed pid :: world.journal } :=
  yields_bind_note (yields_onMachine ⟨rfl, rfl, _, rfl⟩)

end AppSupervisor.Act
