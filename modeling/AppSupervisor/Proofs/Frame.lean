import AppSupervisor.Proofs.Journal
import AppSupervisor.Proofs.Yields
import Mathlib.Logic.Relation

/-!
Frames: what every part of an action leaves as it is.

A frame relates the worlds before and behind an action and the events in between, and it may ask
more of an action that does not fail. It holds where nothing is done, it can be followed from step
to step, and neither the machine nor a quiet event breaks it. An action follows a frame if all its
parts do, however they end.

Some relations hold only as long as the machine does nothing but what it is asked for, or as long as
no directory is made. They compose in the same way, and so the rules below ask for no more than
they need.
-/

namespace AppSupervisor

variable {σ α β : Type}

@[simp]
def Event.isFiling : Event → Bool
  | .preparedDirectory _ | .madeDirectory _ => true
  | _ => false

@[simp]
def Event.isRequest : Event → Bool
  | .askedPage _ _ _ | .posted _ _ _ => true
  | _ => false

class Composes (R : Bool → World σ → List Event → World σ → Prop) : Prop where
  refl : ∀ isOk world, R isOk world [] world
  trans : ∀ {isOk world done between more after}, R true world done between →
    R isOk between more after → R isOk world (done ++ more) after
  note : ∀ world event, event.isQuiet → event.isFault = false → event.isFiling = false →
    R true world [event] { world with journal := event :: world.journal }
  fault : ∀ world fault,
    R false world [.raised fault] { world with journal := .raised fault :: world.journal }

class IsFrame (R : Bool → World σ → List Event → World σ → Prop) : Prop where
  refl : ∀ isOk world, R isOk world [] world
  trans : ∀ {isOk world done between more after}, R true world done between →
    R isOk between more after → R isOk world (done ++ more) after
  machine : ∀ world machine, R true world [] { world with machine }
  quiet : ∀ world event, event.isQuiet → event.isFault = false →
    R true world [event] { world with journal := event :: world.journal }
  fault : ∀ world fault,
    R false world [.raised fault] { world with journal := .raised fault :: world.journal }

instance (R : Bool → World σ → List Event → World σ → Prop) [IsFrame R] : Composes R where
  refl := IsFrame.refl
  trans := IsFrame.trans
  note world event hquiet hfault _ := IsFrame.quiet world event hquiet hfault
  fault := IsFrame.fault

/-! ### What a machine is asked for -/

/-- An operation of a machine, other than a deletion, leads from one of its states to another. -/
inductive Machine.Goes [Machine σ] : σ → σ → Prop
  | sleep (seconds : Rat) (machine : σ) : Goes machine (Machine.sleep seconds machine).2
  | stamp (machine : σ) : Goes machine (Machine.stamp machine).2
  | draw (low high : Int) (machine : σ) : Goes machine (Machine.draw low high machine).2
  | isPortFree (port : Int) (host : String) (machine : σ) :
      Goes machine (Machine.isPortFree port host machine).2
  | exitCode (pid : Nat) (machine : σ) : Goes machine (Machine.exitCode pid machine).2
  | kill (pid : Nat) (machine : σ) : Goes machine (Machine.kill pid machine)
  | httpGet (url : String) (timeout : Float) (machine : σ) :
      Goes machine (Machine.httpGet url timeout machine).2
  | httpPost (url : String) (timeout : Rat) (machine : σ) :
      Goes machine (Machine.httpPost url timeout machine).2
  | launch (order : LaunchOrder) (machine : σ) : Goes machine (Machine.launch order machine).2
  | makeDirectories (path : Files.Path) (machine : σ) :
      Goes machine (Machine.makeDirectories path machine).2
  | makeDirectory (mayExist : Bool) (path : Files.Path) (machine : σ) :
      Goes machine (Machine.makeDirectory mayExist path machine).2
  | makeTemporary (start : String) (above : Files.Path) (machine : σ) :
      Goes machine (Machine.makeTemporary start above machine).2
  | openFile (path : Files.Path) (machine : σ) : Goes machine (Machine.openFile path machine).2

abbrev Machine.Reaches [Machine σ] : σ → σ → Prop := Relation.ReflTransGen Machine.Goes

/-- A relation that holds as long as the machine does nothing but what it is asked for. -/
class IsWatched [Machine σ] (R : Bool → World σ → List Event → World σ → Prop) : Prop
    extends Composes R where
  goes : ∀ world machine, Machine.Goes world.machine machine →
    R true world [] { world with machine }

instance [Machine σ] (R : Bool → World σ → List Event → World σ → Prop) [IsFrame R] :
    IsWatched R where
  goes world machine _ := IsFrame.machine world machine

section AlwaysSame

variable {R : World σ → List Event → World σ → Prop} {world between after : World σ}
  {done more : List Event}

/-- A frame that asks the same of all actions, however they end. -/
theorem IsFrame.always (hrefl : ∀ world, R world [] world)
    (htrans : ∀ {world done between more after}, R world done between → R between more after →
      R world (done ++ more) after)
    (hmachine : ∀ world machine, R world [] { world with machine })
    (hquiet : ∀ world event, event.isQuiet →
      R world [event] { world with journal := event :: world.journal }) :
    IsFrame fun _ => R where
  refl _ := hrefl
  trans := htrans
  machine := hmachine
  quiet world event hevent _ := hquiet world event hevent
  fault world fault := hquiet world (.raised fault) rfl

variable [hR : Composes fun _ => R]

theorem Composes.append (hdone : R world done between) (hmore : R between more after) :
    R world (done ++ more) after :=
  @Composes.trans _ _ hR true _ _ _ _ _ hdone hmore

end AlwaysSame

namespace Act

def Follows (act : Act σ α) (R : Bool → World σ → List Event → World σ → Prop) : Prop :=
  ∀ world, act.Yields world fun outcome done after => R outcome.isOk world done after

variable {R S : Bool → World σ → List Event → World σ → Prop} {act : Act σ α}

theorem Follows.mono (hact : act.Follows R)
    (himp : ∀ isOk world done after, R isOk world done after → S isOk world done after) :
    act.Follows S :=
  fun world => (hact world).mono fun outcome => himp outcome.isOk world

/-- An attempt succeeds where the action fails, so the frame must not ask more of success. -/
theorem Follows.attempt {R : World σ → List Event → World σ → Prop}
    (hact : act.Follows fun _ => R) : (attempt act).Follows fun _ => R :=
  fun world => yields_attempt (hact world)

theorem Follows.ensuring {R : World σ → List Event → World σ → Prop} [Composes fun _ => R]
    (hact : act.Follows fun _ => R) {cleanup : Act σ β} (hcleanup : cleanup.Follows fun _ => R) :
    (ensuring act cleanup).Follows fun _ => R := by
  intro world
  refine yields_ensuring ((hact world).mono fun outcome done between hdone => ?_)
  exact (hcleanup between).mono fun _ _ _ hmore => Composes.append hdone hmore

section Composed

variable [Composes R]

theorem follows_pure (a : α) : (pure a : Act σ α).Follows R :=
  fun world => yields_pure (Composes.refl true world)

theorem follows_throw (fault : Fault) : (throw fault : Act σ α).Follows R :=
  fun world => yields_throw (Composes.refl false world)

theorem follows_get : (get : Act σ (World σ)).Follows R :=
  fun world => yields_get (Composes.refl true world)

theorem Follows.bind (hact : act.Follows R) {next : α → Act σ β}
    (hnext : ∀ a, (next a).Follows R) : (act >>= next).Follows R := by
  intro world
  refine yields_bind ((hact world).mono fun outcome done between hdone => ?_)
  cases outcome with
  | error fault => exact hdone
  | ok a => exact (hnext a between).mono fun _ _ _ hmore => Composes.trans hdone hmore

theorem Follows.map (hact : act.Follows R) (f : α → β) : (f <$> act).Follows R := by
  rw [map_eq_pure_bind]
  exact hact.bind fun a => follows_pure (f a)

theorem follows_forM {step : β → Act σ Unit} (hstep : ∀ b, (step b).Follows R)
    (items : List β) : (items.forM step).Follows R := by
  induction items with
  | nil => exact follows_pure ()
  | cons b rest ih => exact (hstep b).bind fun _ => ih

theorem follows_foldlM {step : α → β → Act σ α} (hstep : ∀ a b, (step a b).Follows R)
    (items : List β) (a : α) : (items.foldlM step a).Follows R := by
  induction items generalizing a with
  | nil => exact follows_pure a
  | cons b rest ih =>
      rw [List.foldlM_cons]
      exact (hstep a b).bind fun next => ih next

theorem follows_note {event : Event} (hquiet : event.isQuiet) (hfault : event.isFault = false)
    (hfiling : event.isFiling = false := by rfl) : (note event : Act σ Unit).Follows R :=
  fun world => yields_note (Composes.note world event hquiet hfault hfiling)

theorem follows_log (level : LogLevel) (message : String) :
    (log level message : Act σ Unit).Follows R :=
  follows_note rfl rfl

theorem follows_raise (fault : Fault) : (raise fault : Act σ α).Follows R :=
  fun world => yields_raise (Composes.fault world fault)

theorem follows_ofExcept (outcome : Except Fault α) :
    (ofExcept outcome : Act σ α).Follows R := by
  cases outcome with
  | error fault => exact follows_raise fault
  | ok a => exact follows_pure a

theorem follows_askMachine (question : σ → α) : (askMachine question).Follows R :=
  follows_get.bind fun world => follows_pure (question world.machine)

theorem follows_tryAskMachine (question : σ → Except Fault α) :
    (tryAskMachine question).Follows R :=
  follows_get.bind fun world => follows_ofExcept (question world.machine)

end Composed

section Watched

variable [Machine σ] [IsWatched R]

theorem follows_operation {op : σ → α × σ}
    (hop : ∀ machine, Machine.Goes machine (op machine).2) : (onMachine op).Follows R :=
  fun world => yields_onMachine (IsWatched.goes world _ (hop world.machine))

theorem follows_tryOperation {op : σ → Except Fault α × σ}
    (hop : ∀ machine, Machine.Goes machine (op machine).2) : (tryMachine op).Follows R :=
  (follows_operation hop).bind fun outcome => follows_ofExcept outcome

/-- An operation that is watched leads to where the machine may go. -/
theorem yields_tryOperation {op : σ → Except Fault α × σ} {world : World σ}
    {post : Except Fault α → List Event → World σ → Prop}
    (hop : ∀ machine, Machine.Goes machine (op machine).2)
    (hok : ∀ a machine, op world.machine = (.ok a, machine) → Machine.Goes world.machine machine →
      post (.ok a) [] { world with machine })
    (herror : ∀ fault machine, op world.machine = (.error fault, machine) →
      Machine.Goes world.machine machine → post (.error fault) [.raised fault]
        { world with machine, journal := .raised fault :: world.journal }) :
    (tryMachine op).Yields world post := by
  refine yields_tryMachine (fun a machine hdone => ?_) fun fault machine hfailed => ?_
  · exact hok a machine hdone (by simpa [hdone] using hop world.machine)
  · exact herror fault machine hfailed (by simpa [hfailed] using hop world.machine)

end Watched

section AnyMachine

variable [IsFrame R]

theorem follows_quiet {event : Event} (hquiet : event.isQuiet) (hfault : event.isFault = false) :
    (note event : Act σ Unit).Follows R :=
  fun world => yields_note (IsFrame.quiet world event hquiet hfault)

theorem follows_onMachine (op : σ → α × σ) : (onMachine op).Follows R :=
  fun world => yields_onMachine (IsFrame.machine world _)

theorem follows_tryMachine (op : σ → Except Fault α × σ) : (tryMachine op).Follows R :=
  (follows_onMachine op).bind fun outcome => follows_ofExcept outcome

end AnyMachine

/-- To kill a process follows what the event follows, whatever becomes of the machine. -/
theorem kill_follows [Machine σ] {pid : Nat}
    (hkilled : ∀ (world : World σ) (machine : σ), R true world [.killed pid]
      { world with machine, journal := .killed pid :: world.journal }) :
    (kill pid : Act σ Unit).Follows R := by
  intro world
  refine (kill_yields pid world).mono ?_
  rintro outcome done after ⟨rfl, rfl, machine, rfl⟩
  exact hkilled world machine

end Act

end AppSupervisor
