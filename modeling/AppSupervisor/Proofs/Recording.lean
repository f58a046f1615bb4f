import AppSupervisor.CommandLine.Program
import AppSupervisor.Proofs.Yields

/-!
A record of what a run asks of its deployer.

The record stands beside the machine: each call of the deployer and each pause adds a turn with its
outcome, and nothing else touches it. A recorded run does what the run does without a record, so
what the record says is said of the run itself. An interrupt is the outcome of a turn; one that
comes between two turns does what one at the end of the first or at the beginning of the second
does.
-/

namespace AppSupervisor

open AppSupervisor.CommandLine

variable {σ τ α β : Type}

/-- A call of a deployer, or a pause, with its outcome. A deployment and a look also tell the time
behind them. -/
inductive Turn
  | deploy (request : Request) (outcome : Except Fault String) (moment : Rat)
  | status (id : String) (outcome : Except Fault AppStatus) (moment : Rat)
  | pause (seconds : Rat) (outcome : Except Fault Unit)
  | undeploy (id : String) (outcome : Except Fault Unit)
  | shutdown (outcome : Except Fault Unit)

structure Recorded (σ : Type) where
  machine : σ
  turns : List Turn := []

def Recorded.lift (op : σ → α × σ) (recorded : Recorded σ) : α × Recorded σ :=
  ((op recorded.machine).1, { recorded with machine := (op recorded.machine).2 })

instance [Machine σ] : Machine (Recorded σ) where
  now recorded := Machine.now recorded.machine
  sleep seconds recorded :=
    let (outcome, machine) := Machine.sleep seconds recorded.machine
    (outcome, ⟨machine, recorded.turns ++ [.pause seconds outcome]⟩)
  stamp := Recorded.lift Machine.stamp
  draw low high := Recorded.lift (Machine.draw low high)
  isPortFree port host := Recorded.lift (Machine.isPortFree port host)
  exitCode pid := Recorded.lift (Machine.exitCode pid)
  kill pid recorded := { recorded with machine := Machine.kill pid recorded.machine }
  httpGet url timeout := Recorded.lift (Machine.httpGet url timeout)
  httpPost url timeout := Recorded.lift (Machine.httpPost url timeout)
  launch order := Recorded.lift (Machine.launch order)
  look text recorded := Machine.look text recorded.machine
  mayRead text recorded := Machine.mayRead text recorded.machine
  resolve path recorded := Machine.resolve path recorded.machine
  isFile path recorded := Machine.isFile path recorded.machine
  makeDirectories path := Recorded.lift (Machine.makeDirectories path)
  makeDirectory mayExist path := Recorded.lift (Machine.makeDirectory mayExist path)
  makeTemporary start above := Recorded.lift (Machine.makeTemporary start above)
  removeTree path recorded := { recorded with machine := Machine.removeTree path recorded.machine }
  openFile path := Recorded.lift (Machine.openFile path)
  readFrom file offset recorded := Machine.readFrom file offset recorded.machine

theorem Recorded.sleep_eq [Machine σ] (seconds : Rat) (recorded : Recorded σ) :
    Machine.sleep seconds recorded = ((Machine.sleep seconds recorded.machine).1,
      ⟨(Machine.sleep seconds recorded.machine).2,
        recorded.turns ++ [.pause seconds (Machine.sleep seconds recorded.machine).1]⟩) := rfl

def World.on (world : World σ) (machine : τ) : World τ :=
  { world with machine }

def World.recorded (world : World σ) (turns : List Turn) : World (Recorded σ) :=
  world.on ⟨world.machine, turns⟩

def World.plain (world : World (Recorded σ)) : World σ :=
  world.on world.machine.machine

namespace Act

def beside (act : Act σ α) : Act (Recorded σ) α := fun world =>
  let (outcome, after) := act.perform world.plain
  (outcome, after.recorded world.machine.turns)

def recording (turn : Except Fault α → σ → Turn) (act : Act σ α) : Act (Recorded σ) α :=
  fun world =>
  let (outcome, after) := act.perform world.plain
  (outcome, after.recorded (world.machine.turns ++ [turn outcome after.machine]))

end Act

variable [Machine σ]

def DeployerHandle.recorded (handle : DeployerHandle σ) : DeployerHandle (Recorded σ) where
  deploy request := (handle.deploy request).recording fun outcome machine =>
    .deploy request outcome (Machine.now machine)
  status id := (handle.status id).recording fun outcome machine =>
    .status id outcome (Machine.now machine)
  undeploy id := (handle.undeploy id).recording fun outcome _ => .undeploy id outcome
  shutdown := handle.shutdown.recording fun outcome _ => .shutdown outcome

def CommandLine.RunContext.recorded (context : RunContext σ) : RunContext (Recorded σ) where
  host := context.host
  environment := context.environment
  connect settings := do return (← (context.connect settings).beside).recorded
  horizon := context.horizon

namespace Act

/-- A recorded action does what the action itself does. Its outcome, the turns that it adds and the
world behind it have a property. -/
def Records (recorded : Act (Recorded σ) α) (act : Act σ α) (world : World σ)
    (post : Except Fault α → List Turn → World σ → Prop) : Prop :=
  ∃ turns, (∀ past, recorded.perform (world.recorded past) =
      ((act.perform world).1, (act.perform world).2.recorded (past ++ turns))) ∧
    post (act.perform world).1 turns (act.perform world).2

/-- A recorded action does what the action itself does, and adds no turn. -/
def Mirrors (recorded : Act (Recorded σ) α) (act : Act σ α) : Prop :=
  ∀ world past, recorded.perform (world.recorded past) =
    ((act.perform world).1, (act.perform world).2.recorded past)

/-! ### Actions without turns -/

section Mirrors

omit [Machine σ]

variable {recorded : Act (Recorded σ) α} {act : Act σ α}

theorem mirrors_pure (a : α) : Mirrors (pure a) (pure a : Act σ α) :=
  fun _ _ => rfl

theorem mirrors_throw (fault : Fault) : Mirrors (throw fault) (throw fault : Act σ α) :=
  fun _ _ => rfl

theorem mirrors_note (event : Event) : Mirrors (note event) (note event : Act σ Unit) :=
  fun _ _ => rfl

theorem mirrors_askMachine (question : σ → α) :
    Mirrors (askMachine fun recorded => question recorded.machine) (askMachine question) :=
  fun _ _ => rfl

theorem mirrors_beside (act : Act σ α) : Mirrors act.beside act :=
  fun _ _ => rfl

theorem Mirrors.attempt (h : Mirrors recorded act) : Mirrors (attempt recorded) (attempt act) :=
  fun world past => by
    have hunfold (τ : Type) (act : Act τ α) (world : World τ) : (Act.attempt act).perform world =
        (.ok (act.perform world).1, (act.perform world).2) := rfl
    rw [hunfold, hunfold, h]

theorem Mirrors.bind (h : Mirrors recorded act) {next' : α → Act (Recorded σ) β}
    {next : α → Act σ β} (hnext : ∀ a, Mirrors (next' a) (next a)) :
    Mirrors (recorded >>= next') (act >>= next) := by
  intro world past
  rw [perform_bind, perform_bind, h]
  rcases act.perform world with ⟨fault | a, after⟩
  · rfl
  · exact hnext a after past

theorem mirrors_onMachine (op : σ → α × σ) :
    Mirrors (onMachine (Recorded.lift op)) (onMachine op) :=
  fun _ _ => rfl

theorem mirrors_log (level : LogLevel) (message : String) :
    Mirrors (log level message) (log level message : Act σ Unit) :=
  mirrors_note _

theorem mirrors_raise (fault : Fault) : Mirrors (raise fault) (raise fault : Act σ α) :=
  (mirrors_note _).bind fun _ => mirrors_throw fault

theorem mirrors_ofExcept (outcome : Except Fault α) :
    Mirrors (ofExcept outcome) (ofExcept outcome : Act σ α) := by
  cases outcome with
  | ok a => exact mirrors_pure a
  | error fault => exact mirrors_raise fault

theorem mirrors_rethrow (outcome : Except Fault α) :
    Mirrors (MonadExcept.ofExcept outcome) (MonadExcept.ofExcept outcome : Act σ α) := by
  cases outcome with
  | ok a => exact mirrors_pure a
  | error fault => exact mirrors_throw fault

theorem mirrors_tryMachine (op : σ → Except Fault α × σ) :
    Mirrors (tryMachine (Recorded.lift op)) (tryMachine op) :=
  (mirrors_onMachine op).bind fun outcome => mirrors_ofExcept outcome

theorem mirrors_tryAskMachine (question : σ → Except Fault α) :
    Mirrors (tryAskMachine fun recorded => question recorded.machine) (tryAskMachine question) :=
  (mirrors_askMachine question).bind fun outcome => mirrors_ofExcept outcome

theorem mirrors_forM {step' : β → Act (Recorded σ) Unit} {step : β → Act σ Unit}
    (hstep : ∀ b, Mirrors (step' b) (step b)) (items : List β) :
    Mirrors (items.forM step') (items.forM step) := by
  induction items with
  | nil => exact mirrors_pure ()
  | cons b rest ih => exact (hstep b).bind fun _ => ih

theorem mirrors_foldlM {step' : α → β → Act (Recorded σ) α} {step : α → β → Act σ α}
    (hstep : ∀ a b, Mirrors (step' a b) (step a b)) (items : List β) (a : α) :
    Mirrors (items.foldlM step' a) (items.foldlM step a) := by
  induction items generalizing a with
  | nil => exact mirrors_pure a
  | cons b rest ih =>
      rw [List.foldlM_cons, List.foldlM_cons]
      exact (hstep a b).bind fun next => ih next

end Mirrors

/-! ### Actions with turns -/

section Records

omit [Machine σ]

variable {recorded : Act (Recorded σ) α} {act : Act σ α} {world : World σ}
  {post other : Except Fault α → List Turn → World σ → Prop}

theorem Records.mono (h : Records recorded act world post)
    (himp : ∀ outcome turns after, post outcome turns after → other outcome turns after) :
    Records recorded act world other := by
  obtain ⟨turns, hsame, hpost⟩ := h
  exact ⟨turns, hsame, himp _ _ _ hpost⟩

theorem Records.located (h : Records recorded act world post) :
    Records recorded act world fun outcome turns after =>
      act.perform world = (outcome, after) ∧ post outcome turns after := by
  obtain ⟨turns, hsame, hpost⟩ := h
  exact ⟨turns, hsame, rfl, hpost⟩

theorem Records.and (hleft : Records recorded act world post)
    (hright : Records recorded act world other) :
    Records recorded act world fun outcome turns after =>
      post outcome turns after ∧ other outcome turns after := by
  obtain ⟨turns, hsame, hpost⟩ := hleft
  obtain ⟨turns', hsame', hother⟩ := hright
  have hturns : turns = turns' := by
    have hboth := (hsame []).symm.trans (hsame' [])
    exact congrArg (fun result => result.2.machine.turns) hboth
  exact ⟨turns, hsame, hpost, hturns ▸ hother⟩

theorem Mirrors.records (h : Mirrors recorded act)
    (hpost : post (act.perform world).1 [] (act.perform world).2) :
    Records recorded act world post :=
  ⟨[], fun past => by rw [h, List.append_nil], hpost⟩

theorem records_pure {a : α} (h : post (.ok a) [] world) :
    Records (pure a) (pure a : Act σ α) world post :=
  (mirrors_pure a).records h

theorem records_throw {fault : Fault} (h : post (.error fault) [] world) :
    Records (throw fault) (throw fault : Act σ α) world post :=
  (mirrors_throw fault).records h

/-- Records are appended: what goes on behind an action adds its turns to those of the action. -/
theorem records_bind {next' : α → Act (Recorded σ) β} {next : α → Act σ β}
    {post : Except Fault β → List Turn → World σ → Prop}
    (h : Records recorded act world fun outcome turns between => match outcome with
      | .ok a => Records (next' a) (next a) between fun outcome more => post outcome (turns ++ more)
      | .error fault => post (.error fault) turns between) :
    Records (recorded >>= next') (act >>= next) world post := by
  obtain ⟨turns, hsame, hpost⟩ := h
  rw [Records, perform_bind]
  rcases hact : act.perform world with ⟨fault | a, between⟩
  · rw [hact] at hpost
    exact ⟨turns, fun past => by rw [perform_bind, hsame, hact], hpost⟩
  · rw [hact] at hpost
    obtain ⟨more, hmore, hpost⟩ := hpost
    refine ⟨turns ++ more, fun past => ?_, hpost⟩
    rw [perform_bind, hsame, hact, ← List.append_assoc]
    exact hmore (past ++ turns)

/-- What comes first without a turn may change the world, but not the record. -/
theorem Mirrors.bind_records {next' : α → Act (Recorded σ) β} {next : α → Act σ β}
    {post : Except Fault β → List Turn → World σ → Prop} (h : Mirrors recorded act)
    (hok : ∀ a between, act.perform world = (.ok a, between) →
      Records (next' a) (next a) between post)
    (herror : ∀ fault between, act.perform world = (.error fault, between) →
      post (.error fault) [] between) :
    Records (recorded >>= next') (act >>= next) world post := by
  refine records_bind (h.records ?_)
  rcases hact : act.perform world with ⟨fault | a, between⟩
  · exact herror fault between hact
  · exact hok a between hact

theorem records_ite {c : Prop} [Decidable c] {recorded' : Act (Recorded σ) α} {act' : Act σ α}
    (hpos : c → Records recorded act world post) (hneg : ¬c → Records recorded' act' world post) :
    Records (if c then recorded else recorded') (if c then act else act') world post := by
  by_cases hc : c
  · rw [if_pos hc, if_pos hc]
    exact hpos hc
  · rw [if_neg hc, if_neg hc]
    exact hneg hc

theorem records_attempt {post : Except Fault (Except Fault α) → List Turn → World σ → Prop}
    (h : Records recorded act world fun outcome => post (.ok outcome)) :
    Records (attempt recorded) (attempt act) world post := by
  obtain ⟨turns, hsame, hpost⟩ := h
  refine ⟨turns, fun past => ?_, hpost⟩
  have hunfold (τ : Type) (act : Act τ α) (world : World τ) : (attempt act).perform world =
      (.ok (act.perform world).1, (act.perform world).2) := rfl
  rw [hunfold, hunfold, hsame]

theorem records_bind_attempt {next' : Except Fault α → Act (Recorded σ) β}
    {next : Except Fault α → Act σ β} {post : Except Fault β → List Turn → World σ → Prop}
    (h : Records recorded act world fun outcome turns between =>
      Records (next' outcome) (next outcome) between fun outcome more =>
        post outcome (turns ++ more)) :
    Records (attempt recorded >>= next') (attempt act >>= next) world post :=
  records_bind (records_attempt h)

theorem records_ensuring {cleanup' : Act (Recorded σ) β} {cleanup : Act σ β}
    {post : Except Fault (α × β) → List Turn → World σ → Prop}
    (h : Records recorded act world fun outcome turns between =>
      Records cleanup' cleanup between fun result more =>
        post (result.bind fun b => outcome.map (·, b)) (turns ++ more)) :
    Records (ensuring recorded cleanup') (ensuring act cleanup) world post := by
  obtain ⟨turns, hsame, more, hmore, hpost⟩ := h
  rw [Records, perform_ensuring]
  refine ⟨turns ++ more, fun past => ?_, hpost⟩
  rw [perform_ensuring, hsame, ← List.append_assoc, hmore]

end Records

def Speaks (kind : Turn → Prop) (recorded : Act (Recorded σ) α) (act : Act σ α) : Prop :=
  ∀ world, Records recorded act world fun _ turns _ => ∀ turn ∈ turns, kind turn

section Speaks

omit [Machine σ]

variable {kind : Turn → Prop} {recorded : Act (Recorded σ) α} {act : Act σ α}

theorem Mirrors.speaks (h : Mirrors recorded act) : Speaks kind recorded act :=
  fun _ => h.records (by simp)

theorem Speaks.bind (h : Speaks kind recorded act) {next' : α → Act (Recorded σ) β}
    {next : α → Act σ β} (hnext : ∀ a, Speaks kind (next' a) (next a)) :
    Speaks kind (recorded >>= next') (act >>= next) := by
  intro world
  refine records_bind ((h world).mono fun outcome turns between hturns => ?_)
  cases outcome with
  | error fault => exact hturns
  | ok a =>
      refine (hnext a between).mono fun outcome more after hmore => ?_
      exact List.forall_mem_append.mpr ⟨hturns, hmore⟩

theorem Speaks.attempt (h : Speaks kind recorded act) :
    Speaks kind (attempt recorded) (attempt act) :=
  fun world => records_attempt (h world)

theorem Speaks.ite {c : Prop} [Decidable c] {recorded' : Act (Recorded σ) α} {act' : Act σ α}
    (h : Speaks kind recorded act) (h' : Speaks kind recorded' act') :
    Speaks kind (if c then recorded else recorded') (if c then act else act') :=
  fun world => records_ite (fun _ => h world) fun _ => h' world

end Speaks

/-! ### Calls and pauses -/

section Calls

variable (handle : DeployerHandle σ) {world : World σ} {kind : Turn → Prop}

theorem records_deploy (request : Request) {post : Except Fault String → List Turn → World σ → Prop}
    (h : ∀ outcome after,
      post outcome [.deploy request outcome (Machine.now after.machine)] after) :
    Records (handle.recorded.deploy request) (handle.deploy request) world post :=
  ⟨_, fun _ => rfl, h _ _⟩

theorem records_status (id : String) {post : Except Fault AppStatus → List Turn → World σ → Prop}
    (h : ∀ outcome after, post outcome [.status id outcome (Machine.now after.machine)] after) :
    Records (handle.recorded.status id) (handle.status id) world post :=
  ⟨_, fun _ => rfl, h _ _⟩

theorem records_undeploy (id : String) {post : Except Fault Unit → List Turn → World σ → Prop}
    (h : ∀ outcome after, post outcome [.undeploy id outcome] after) :
    Records (handle.recorded.undeploy id) (handle.undeploy id) world post :=
  ⟨_, fun _ => rfl, h _ _⟩

theorem records_shutdown {post : Except Fault Unit → List Turn → World σ → Prop}
    (h : ∀ outcome after, post outcome [.shutdown outcome] after) :
    Records handle.recorded.shutdown handle.shutdown world post :=
  ⟨_, fun _ => rfl, h _ _⟩

theorem speaks_deploy (request : Request)
    (h : ∀ outcome moment, kind (.deploy request outcome moment)) :
    Speaks kind (handle.recorded.deploy request) (handle.deploy request) :=
  fun _ => records_deploy handle request fun _ _ => List.forall_mem_singleton.mpr (h _ _)

theorem speaks_status (id : String) (h : ∀ outcome moment, kind (.status id outcome moment)) :
    Speaks kind (handle.recorded.status id) (handle.status id) :=
  fun _ => records_status handle id fun _ _ => List.forall_mem_singleton.mpr (h _ _)

theorem speaks_undeploy (id : String) (h : ∀ outcome, kind (.undeploy id outcome)) :
    Speaks kind (handle.recorded.undeploy id) (handle.undeploy id) :=
  fun _ => records_undeploy handle id fun _ _ => List.forall_mem_singleton.mpr (h _)

end Calls

/-- The outcome of a wait is what the machine says. -/
theorem perform_sleep {seconds : Rat} {world : World σ} {outcome : Except Fault Unit} {machine : σ}
    (h : Machine.sleep seconds world.machine = (outcome, machine)) :
    (sleep seconds).perform world = (ofExcept outcome).perform
      { world with machine, journal := .slept seconds :: world.journal } := by
  have hunfold : (sleep seconds).perform world =
      (ofExcept (Machine.sleep seconds world.machine).1).perform { world with
        machine := (Machine.sleep seconds world.machine).2
        journal := .slept seconds :: world.journal } := rfl
  rw [hunfold, h]

theorem records_sleep {seconds : Rat} {world : World σ}
    {post : Except Fault Unit → List Turn → World σ → Prop}
    (h : ∀ outcome after, post outcome [.pause seconds outcome] after) :
    Records (sleep seconds) (sleep seconds) world post := by
  refine ⟨[.pause seconds ((sleep seconds).perform world).1], fun past => ?_, h _ _⟩
  rcases hsleep : Machine.sleep seconds world.machine with ⟨outcome, machine⟩
  have hrecorded : Machine.sleep seconds (world.recorded past).machine =
      (outcome, ⟨machine, past ++ [.pause seconds outcome]⟩) := by
    simp only [Recorded.sleep_eq, World.recorded, World.on, hsleep]
  rw [perform_sleep hsleep, perform_sleep hrecorded]
  cases outcome <;> rfl

theorem speaks_sleep {seconds : Rat} {kind : Turn → Prop}
    (h : ∀ outcome, kind (.pause seconds outcome)) :
    Speaks kind (sleep seconds) (sleep seconds : Act σ Unit) :=
  fun _ => records_sleep fun _ _ => List.forall_mem_singleton.mpr (h _)

/-! ### Reading and printing -/

section CommandLine

omit [Machine σ]

theorem echo_mirrors (text : String) : Mirrors (echo text) (echo text : Act σ Unit) :=
  mirrors_note _

theorem echoError_mirrors (text : String) :
    Mirrors (echoError text) (echoError text : Act σ Unit) :=
  mirrors_note _

theorem display_mirrors (quiet : Bool) (status : AppStatus) :
    Mirrors (display quiet status) (display quiet status : Act σ Unit) :=
  mirrors_forM echo_mirrors _

theorem report_mirrors (fault : Fault) : Mirrors (report fault) (report fault : Act σ Nat) := by
  refine (mirrors_log _ _).bind fun _ => (echoError_mirrors _).bind fun _ => ?_
  refine Mirrors.bind ?_ fun _ => mirrors_pure _
  cases (Report.ofFault fault).detail with
  | none => exact mirrors_pure ()
  | some detail => exact echoError_mirrors _

theorem valueAt_mirrors (place : String) (value : Except ValueCause α) :
    Mirrors (valueAt place value) (valueAt place value : Act σ α) :=
  mirrors_ofExcept _

theorem progress_mirrors (quiet : Bool) (text : String) :
    Mirrors (progress quiet text) (progress quiet text : Act σ Unit) := by
  cases quiet with
  | false => exact echo_mirrors text
  | true => exact mirrors_pure ()

end CommandLine

theorem readableFile_mirrors (place text : String) :
    Mirrors (readableFile place text) (readableFile place text : Act σ Files.Path) := by
  refine (mirrors_askMachine (Machine.mayRead text)).bind fun isReadable => ?_
  cases isReadable with
  | true => exact mirrors_pure _
  | false => exact valueAt_mirrors _ _

theorem filePath_mirrors (place text : String) :
    Mirrors (filePath place text) (filePath place text : Act σ Files.Path) := by
  refine (mirrors_tryAskMachine (Machine.look text)).attempt.bind fun outcome => ?_
  rcases outcome with fault | kind
  · cases fault with
    | os refusal => exact valueAt_mirrors _ _
    | _ => exact mirrors_throw _
  · cases kind with
    | directory => exact valueAt_mirrors _ _
    | _ => exact readableFile_mirrors place text

theorem setOption_mirrors (options : RunOptions) (values : List String) (key : RunOption) :
    Mirrors (setOption options values key) (setOption options values key : Act σ RunOptions) := by
  cases key with
  | count => exact (valueAt_mirrors _ _).bind fun count => mirrors_pure _
  | config => exact (filePath_mirrors _ _).bind fun path => mirrors_pure _
  | waitTimeout => exact (valueAt_mirrors _ _).bind fun timeout => mirrors_pure _
  | _ => exact mirrors_pure _

theorem runOptions_mirrors (line : Parsed RunOption) :
    Mirrors (runOptions line) (runOptions line : Act σ RunOptions) := by
  refine (mirrors_foldlM (fun options key => setOption_mirrors _ _ _) _ _).bind fun options => ?_
  cases line.arguments with
  | nil => exact mirrors_raise _
  | cons artifact extra =>
      refine (filePath_mirrors _ _).bind fun path => ?_
      cases extra with
      | nil => exact mirrors_pure _
      | cons _ _ => exact mirrors_raise _

theorem loadSettings_mirrors (host : HostDefaults) (path? : Option String)
    (environment : List (String × String)) :
    Mirrors (loadSettings host path? environment)
      (loadSettings host path? environment : Act σ Settings) := by
  have hread (path : Files.Path) : Mirrors (readFile path) (readFile path : Act σ _) :=
    (mirrors_tryMachine (Machine.openFile path)).bind fun file =>
      mirrors_askMachine (Machine.readFrom file 0)
  have hfile (path : Files.Path) :
      Mirrors (readSettingsFile path) (readSettingsFile path : Act σ _) := by
    refine (hread path).attempt.bind fun outcome => ?_
    rcases outcome with fault | bytes
    · cases fault with
      | _ => exact mirrors_throw _
    · exact (mirrors_ofExcept _).bind fun document => mirrors_ofExcept _
  have hentries : Mirrors (settingsEntries path?) (settingsEntries path? : Act σ _) := by
    cases path? with
    | none => exact mirrors_pure _
    | some given =>
        refine (hfile _).bind fun entries => ?_
        exact (mirrors_log _ _).bind fun _ => mirrors_pure _
  refine hentries.bind fun file => (mirrors_ofExcept _).bind fun given => ?_
  cases given with
  | nil => exact mirrors_ofExcept _
  | cons _ _ => exact (mirrors_log _ _).bind fun _ => mirrors_ofExcept _

end Act

end AppSupervisor
