import AppSupervisor.Proofs.Journal
import AppSupervisor.Proofs.Watching
import AppSupervisor.Rehearsal.Deployer

/-!
In which order a run calls its deployer.

A run deploys, waits until the deployment has started, supervises it if that is asked for, undeploys
and shuts down. Whatever fails on the way is the outcome of the last turn in front of the shutdown.
So a run that ends goes through all of this exactly if nothing in its record fails but a look or a
pause of the supervision that is interrupted.
-/

namespace AppSupervisor

open AppSupervisor.CommandLine

variable {σ α : Type}

/-! ### Runs in order -/

/-- A run up to its shutdown: a deployment, a wait, a supervision unless there is nothing to
supervise or none is asked for, and the undeployment. It has a last status unless it was
interrupted. -/
def Operates (options : RunOptions) (turns : List Turn) (final? : Option AppStatus) : Prop :=
  ∃ request id start waits status watches,
    turns = .deploy request (.ok id) start :: (waits ++ watches) ++ [.undeploy id (.ok ())] ∧
    Waited id (isBefore start (.ofFloat options.waitTimeout)) waits status ∧
    (((options.supervise = false ∨ status.state.isTerminal) ∧ watches = [] ∧
        final? = some status) ∨
      (options.supervise = true ∧ ¬status.state.isTerminal ∧ Supervised id watches final?))

def HasFailed (final? : Option AppStatus) : Prop :=
  ∃ status, final? = some status ∧ (status.state = .failed ∨ status.state = .error)

theorem hasFailed_some {status : AppStatus} :
    HasFailed (some status) ↔ status.state = .failed ∨ status.state = .error := by
  constructor
  · rintro ⟨_, ⟨⟩, h⟩
    exact h
  · exact fun h => ⟨status, rfl, h⟩

def AsksToRun [Machine σ] (world : World σ) (arguments : List String) (options : RunOptions) :
    Prop :=
  ∃ rest line, readLine programForms false arguments = .ok ⟨[], runName :: rest⟩ ∧
    readLine runForms true rest = .ok line ∧ line.options.any (·.1 == .help) = false ∧
    ((Act.runOptions line).perform world).1 = .ok options

def IsStarted (options : RunOptions) (before : List Turn) : Prop :=
  ∃ request id start waits status rest, before = .deploy request (.ok id) start :: waits ++ rest ∧
    Waited id (isBefore start (.ofFloat options.waitTimeout)) waits status

def StopsSupervision (options : RunOptions) (fault : Fault) (before : List Turn) (turn : Turn) :
    Prop :=
  fault = .interrupted ∧ turn.isWatch ∧ IsStarted options before

/-- Something failed, and it was not the supervision that was interrupted. -/
def IsTroubled (options : RunOptions) (turns : List Turn) : Prop :=
  ∃ before turn after fault, turns = before ++ turn :: after ∧ turn.fault? = some fault ∧
    ¬StopsSupervision options fault before turn

/-- A wait that goes on is not interrupted as a supervision. -/
theorem IsWaiting.not_stopsSupervision {options : RunOptions} {request : Request} {id : String}
    {start : Rat} {fault : Fault} {before : List Turn} {turn : Turn}
    (h : IsWaiting id (isBefore start (.ofFloat options.waitTimeout)) before) :
    ¬StopsSupervision options fault (.deploy request (.ok id) start :: before) turn := by
  rintro ⟨-, -, request', id', start', waits, status, rest, hsplit, hwaited⟩
  obtain ⟨hdeploy, hbefore⟩ := List.cons_eq_cons.mp hsplit
  cases hdeploy
  exact h waits status rest hbefore hwaited

/-! ### Ends -/

def OperationEnds (options : RunOptions) : Except Fault (Option AppStatus) → List Turn → Prop
  | .ok final?, turns => Operates options turns final?
  | .error fault, turns =>
    Breaks fault (fun before turn => ¬StopsSupervision options fault before turn) turns

/-- The exit code for the outcome of a run. An interrupt and a run that does not end have none
here. -/
def codeOf : Except Fault Unit → Except Fault Nat
  | .ok _ => .ok 0
  | .error fault => if fault.isFailure then .ok (Report.ofFault fault).code else .error fault

def explained : Except Fault Nat → Except Fault Nat
  | .error (.usage _) => .ok refusedCode
  | outcome => outcome

def concluded : Except Fault Nat → Except Fault Nat
  | .error .interrupted => .ok interruptedCode
  | outcome => outcome

theorem codeOf_of_isFailure {fault : Fault} (h : fault.isFailure) :
    codeOf (.error fault) = .ok (Report.ofFault fault).code :=
  if_pos h

theorem codeOf_of_not_isFailure {fault : Fault} (h : ¬fault.isFailure) :
    codeOf (.error fault) = .error fault :=
  if_neg h

theorem CommandLine.Report.code_ne_zero (fault : Fault) : (Report.ofFault fault).code ≠ 0 := by
  have hrefused : refusedCode ≠ 0 := by decide
  have hfailed : failedCode ≠ 0 := by decide
  cases fault <;> first | exact hrefused | exact hfailed

theorem codeOf_error_ne_zero (fault : Fault) : codeOf (.error fault) ≠ .ok 0 := by
  by_cases h : fault.isFailure
  · rw [codeOf_of_isFailure h]
    simpa using Report.code_ne_zero fault
  · rw [codeOf_of_not_isFailure h]
    simp

/-- How a run ends: a fault of the shutdown counts more than one before it, and an app that failed
is a failure of the run. -/
def RunEnds (options : RunOptions) (outcome : Except Fault Unit) (turns : List Turn) : Prop :=
  ∃ front down operated, turns = front ++ [.shutdown down] ∧
    (∀ turn ∈ front, turn.isShutdown = false) ∧ OperationEnds options operated front ∧
    match down.bind fun _ => operated with
    | .error fault => outcome = .error fault
    | .ok final? => (HasFailed final? ∧ ∃ cause, outcome = .error (.operation "run" cause)) ∨
        (¬HasFailed final? ∧ outcome = .ok ())

def CommandEnds (options : RunOptions) (outcome : Except Fault Nat) (turns : List Turn) : Prop :=
  (turns = [] ∧ outcome ≠ .ok 0) ∨ ∃ result, RunEnds options result turns ∧ outcome = codeOf result

theorem CommandEnds.explained {options : RunOptions} {outcome : Except Fault Nat}
    {turns : List Turn} (h : CommandEnds options outcome turns) :
    CommandEnds options (explained outcome) turns := by
  rcases h with ⟨hturns, hnonzero⟩ | ⟨result, hends, rfl⟩
  · refine Or.inl ⟨hturns, ?_⟩
    rcases outcome with fault | code
    · cases fault <;> simp [AppSupervisor.explained, refusedCode]
    · exact hnonzero
  · refine Or.inr ⟨result, hends, ?_⟩
    rcases result with fault | ⟨⟩
    · cases fault <;> rfl
    · rfl

namespace Act

variable [Machine σ] (handle : DeployerHandle σ)

/-! ### Operating an app -/

def Prints (act : Act σ Unit) : Prop :=
  ∀ world, ∃ journal, act.perform world = (.ok (), { world with journal })

omit [Machine σ] in
theorem display_prints (quiet : Bool) (status : AppStatus) :
    Prints (display quiet status : Act σ Unit) := by
  intro world
  obtain ⟨done, -, hok, -, hafter⟩ := yields_forM_note (fun text => .printed false (text ++ "\n"))
    (statusLines quiet status) world
  exact ⟨_, Prod.ext hok hafter⟩

omit [Machine σ] in
theorem progress_prints (quiet : Bool) (text : String) :
    Prints (progress quiet text : Act σ Unit) := by
  cases quiet with
  | true => exact fun world => ⟨world.journal, rfl⟩
  | false => exact fun world => ⟨_, rfl⟩

omit [Machine σ] in
theorem Mirrors.bind_prints {recorded : Act (Recorded σ) Unit} {act : Act σ Unit}
    (h : Mirrors recorded act) (hprints : Prints act) {next' : Unit → Act (Recorded σ) α}
    {next : Unit → Act σ α} {world : World σ} {post : Except Fault α → List Turn → World σ → Prop}
    (hnext : ∀ journal, Records (next' ()) (next ()) { world with journal } post) :
    Records (recorded >>= next') (act >>= next) world post := by
  obtain ⟨journal, hperform⟩ := hprints world
  refine h.bind_records (fun a between hbetween => ?_) fun fault between hbetween => ?_
  · obtain ⟨rfl, rfl⟩ : () = a ∧ { world with journal } = between := by
      simpa using hperform.symm.trans hbetween
    exact hnext journal
  · have hcontra := hperform.symm.trans hbetween
    simp at hcontra

omit [Machine σ] in
theorem displayLast_mirrors (quiet : Bool) (final? : Option AppStatus) :
    Mirrors (final?.forM (display quiet)) (final?.forM (display quiet) : Act σ Unit) := by
  cases final? with
  | none => exact mirrors_pure ()
  | some final => exact display_mirrors quiet final

omit [Machine σ] in
theorem displayLast_prints (quiet : Bool) (final? : Option AppStatus) :
    Prints (final?.forM (display quiet) : Act σ Unit) := by
  cases final? with
  | none => exact fun world => ⟨world.journal, rfl⟩
  | some final => exact display_prints quiet final

omit [Machine σ] in
def finish (quiet : Bool) (id : String) (final? : Option AppStatus) : Act σ (Option AppStatus) := do
  progress quiet s!"Undeploying {id}..."
  handle.undeploy id
  return final?

theorem finish_records {options : RunOptions} {id : String} {front : List Turn}
    {final? : Option AppStatus} (h : Operates options (front ++ [.undeploy id (.ok ())]) final?)
    (quiet : Bool) (world : World σ) :
    Records (finish handle.recorded quiet id final?) (finish handle quiet id final?) world
      fun outcome turns _ => OperationEnds options outcome (front ++ turns) := by
  refine (progress_mirrors _ _).bind_prints (progress_prints _ _) fun journal => ?_
  refine records_bind (records_undeploy handle id fun outcome after => ?_)
  cases outcome with
  | error fault => exact breaks_concat front rfl fun h => Bool.false_ne_true h.2.1
  | ok _ => exact records_pure h

def oversee (options : RunOptions) (id : String) (status : AppStatus) (horizon : Nat) :
    Act σ (Option AppStatus) := do
  display options.quiet status
  let final? ← if !options.supervise || status.state.isTerminal then pure (some status) else do
    progress options.quiet "Supervising, press Ctrl-C to stop"
    let final? ← supervise handle id status.state horizon
    final?.forM (display options.quiet)
    pure final?
  finish handle options.quiet id final?

theorem oversee_records {options : RunOptions} (request : Request) {id : String} {start : Rat}
    {waits : List Turn} {status : AppStatus}
    (hwaited : Waited id (isBefore start (.ofFloat options.waitTimeout)) waits status)
    (horizon : Nat) (world : World σ) :
    Records (oversee handle.recorded options id status horizon)
      (oversee handle options id status horizon) world fun outcome turns _ =>
        OperationEnds options outcome (.deploy request (.ok id) start :: waits ++ turns) := by
  refine (display_mirrors _ _).bind_prints (display_prints _ _) fun journal => ?_
  refine records_ite (fun hquits => ?_) fun hquits => ?_
  · rw [pure_bind]
    have hfront : Operates options
        (.deploy request (.ok id) start :: waits ++ [.undeploy id (.ok ())]) (some status) :=
      ⟨request, id, start, waits, status, [], by simp, hwaited,
        Or.inl ⟨by simpa using hquits, rfl, rfl⟩⟩
    exact finish_records handle hfront _ _
  · obtain ⟨hsupervise, hstate⟩ : options.supervise = true ∧ ¬status.state.isTerminal := by
      simpa using hquits
    refine (progress_mirrors _ _).bind_prints (progress_prints _ _) fun journal => ?_
    refine records_bind ((supervise_records handle id _ _ _).mono ?_)
    intro outcome watches watched hends
    cases outcome with
    | error fault =>
        -- An interrupt does not make a supervision fail, so none is taken for one here.
        refine Breaks.prepend hends (_ :: waits) fun before turn hfault hstops => ?_
        exact hfault hstops.1
    | ok final? =>
        have hfront : Operates options (.deploy request (.ok id) start :: (waits ++ watches) ++
            [.undeploy id (.ok ())]) final? :=
          ⟨request, id, start, waits, status, watches, rfl, hwaited,
            Or.inr ⟨hsupervise, hstate, hends⟩⟩
        refine (displayLast_mirrors _ _).bind_prints (displayLast_prints _ _) fun journal => ?_
        rw [pure_bind]
        refine (finish_records handle hfront _ _).mono fun outcome turns _ hends => ?_
        simpa using hends

/-- The turns of a run in front of its shutdown. -/
theorem operate_records (context : RunContext σ) (options : RunOptions) (request : Request)
    (world : World σ) :
    Records (operate context.recorded handle.recorded options request)
      (operate context handle options request) world fun outcome turns _ =>
        OperationEnds options outcome turns := by
  refine records_bind (records_deploy handle request fun outcome between => ?_)
  cases outcome with
  | error fault => exact breaks_concat [] rfl fun h => Bool.false_ne_true h.2.1
  | ok id =>
      refine (progress_mirrors _ _).bind_prints (progress_prints _ _) fun journal => ?_
      refine records_bind ((waitUntilStarted_records handle id _ _ _).mono ?_)
      intro outcome waits started hends
      cases outcome with
      | error fault =>
          exact Breaks.prepend hends [_] fun before turn hbefore => hbefore.not_stopsSupervision
      | ok status =>
          refine (oversee_records handle request hends context.horizon started).mono ?_
          intro outcome turns after hends
          simpa using hends

theorem oversee_speaks {kind : Turn → Prop} (hwatch : ∀ turn : Turn, turn.isWatch → kind turn)
    (hundeploy : ∀ id outcome, kind (.undeploy id outcome)) (options : RunOptions) (id : String)
    (status : AppStatus) (horizon : Nat) :
    Speaks kind (oversee handle.recorded options id status horizon)
      (oversee handle options id status horizon) := by
  have hfinish (final? : Option AppStatus) : Speaks kind
      (finish handle.recorded options.quiet id final?) (finish handle options.quiet id final?) := by
    refine (progress_mirrors _ _).speaks.bind fun _ => ?_
    exact (speaks_undeploy handle id (hundeploy id)).bind fun _ => (mirrors_pure _).speaks
  refine (display_mirrors _ _).speaks.bind fun _ => Speaks.ite ?_ ?_
  · exact (mirrors_pure _).speaks.bind fun final? => hfinish final?
  · refine (progress_mirrors _ _).speaks.bind fun _ => ?_
    refine (supervise_speaks handle hwatch id _ _).bind fun final? => ?_
    refine (displayLast_mirrors _ final?).speaks.bind fun _ => ?_
    exact (mirrors_pure final?).speaks.bind fun final? => hfinish final?

/-- What follows a deployment that succeeds: the wait, and all that is left to do behind it. -/
theorem follow_speaks {kind : Turn → Prop} (hwatch : ∀ turn : Turn, turn.isWatch → kind turn)
    (hundeploy : ∀ id outcome, kind (.undeploy id outcome)) (options : RunOptions) (id : String)
    (horizon : Nat) :
    Speaks kind
      (do progress options.quiet s!"Deployed {id}, waiting for instances..."
          let status ← waitUntilStarted handle.recorded id options.waitTimeout horizon
          oversee handle.recorded options id status horizon)
      (do progress options.quiet s!"Deployed {id}, waiting for instances..."
          let status ← waitUntilStarted handle id options.waitTimeout horizon
          oversee handle options id status horizon) := by
  refine (progress_mirrors _ _).speaks.bind fun _ => ?_
  refine (waitUntilStarted_speaks handle hwatch id _ _).bind fun status => ?_
  exact oversee_speaks handle hwatch hundeploy options id status horizon

/-- In front of its shutdown a run does not shut down. -/
theorem operate_speaks (context : RunContext σ) (options : RunOptions) (request : Request) :
    Speaks (fun turn => turn.isShutdown = false)
      (operate context.recorded handle.recorded options request)
      (operate context handle options request) := by
  refine (speaks_deploy handle request fun _ _ => rfl).bind fun id => ?_
  exact follow_speaks handle (fun _ => isShutdown_of_isWatch) (fun _ _ => rfl) options id _

/-! ### Runs -/

theorem records_connect (context : RunContext σ) (settings : Settings) {world : World σ}
    {next' : DeployerHandle (Recorded σ) → Act (Recorded σ) α} {next : DeployerHandle σ → Act σ α}
    {post : Except Fault α → List Turn → World σ → Prop}
    (hok : ∀ (handle : DeployerHandle σ) between,
      (context.connect settings).perform world = (.ok handle, between) →
        Records (next' handle.recorded) (next handle) between post)
    (herror : ∀ fault between,
      (context.connect settings).perform world = (.error fault, between) →
        post (.error fault) [] between) :
    Records (context.recorded.connect settings >>= next') (context.connect settings >>= next) world
      post := by
  have hconnect : context.recorded.connect settings >>= next' =
      (context.connect settings).beside >>= fun handle => next' handle.recorded := by
    change ((context.connect settings).beside >>= fun handle => pure handle.recorded) >>= next' = _
    simp only [bind_assoc, pure_bind]
  rw [hconnect]
  exact (mirrors_beside _).bind_records hok herror

/-- A run fails before its first turn, or it ends as the protocol says. -/
theorem runApp_records (context : RunContext σ) (options : RunOptions)
    (properties deploymentProperties : List (String × String)) (world : World σ) :
    Records (runApp context.recorded options properties deploymentProperties)
      (runApp context options properties deploymentProperties) world fun outcome turns _ =>
        (turns = [] ∧ ∃ fault, outcome = .error fault) ∨ RunEnds options outcome turns := by
  refine (loadSettings_mirrors _ _ _).bind_records (fun settings between _ => ?_) ?_
  · refine records_connect context settings (fun handle between _ => ?_) ?_
    · refine records_bind (records_ensuring (((operate_records handle context options _ _).and
        (operate_speaks handle context options _ _)).mono ?_))
      rintro operated front between ⟨hends, hnone⟩
      refine records_shutdown handle fun down after => ?_
      rcases down with fault | ⟨⟩
      · exact Or.inr ⟨front, .error fault, operated, rfl, hnone, hends, rfl⟩
      · rcases operated with fault | final?
        · exact Or.inr ⟨front, .ok (), .error fault, rfl, hnone, hends, rfl⟩
        · have hrun (outcome : Except Fault Unit)
              (h : (HasFailed final? ∧ ∃ cause, outcome = .error (.operation "run" cause)) ∨
                (¬HasFailed final? ∧ outcome = .ok ())) :
              RunEnds options outcome (front ++ [.shutdown (.ok ())] ++ []) :=
            ⟨front, .ok (), .ok final?, List.append_nil _, hnone, hends, h⟩
          cases final? with
          | none =>
              refine records_pure (Or.inr (hrun _ (Or.inr ⟨?_, rfl⟩)))
              rintro ⟨status, ⟨⟩, -⟩
          | some status =>
              refine records_ite (fun hfailed => ?_) fun hfailed => ?_
              · refine (mirrors_raise _).records (Or.inr (hrun _ (Or.inl ⟨?_, _, rfl⟩)))
                exact hasFailed_some.mpr (by simpa using hfailed)
              · refine records_pure (Or.inr (hrun _ (Or.inr ⟨?_, rfl⟩)))
                exact fun h => hfailed (by simpa using hasFailed_some.mp h)
    · exact fun fault _ _ => Or.inl ⟨rfl, fault, rfl⟩
  · exact fun fault _ _ => Or.inl ⟨rfl, fault, rfl⟩

/-! ### Exit codes -/

omit [Machine σ] in
theorem perform_report (fault : Fault) (world : World σ) : ∃ journal,
    (report fault).perform world =
      (.ok (Report.ofFault fault).code, { world with journal }) := by
  cases hdetail : (Report.ofFault fault).detail with
  | none =>
      simp only [report, hdetail]
      exact ⟨_, rfl⟩
  | some detail =>
      simp only [report, hdetail]
      exact ⟨_, rfl⟩

theorem runWith_records (context : RunContext σ) (options : RunOptions) (world : World σ) :
    Records (runWith context.recorded options) (runWith context options) world
      fun outcome turns _ => CommandEnds options outcome turns := by
  have hread (place : String) (values : List String) : Mirrors
      (ofExcept ((readKeyValues place values).mapError .usage))
      (ofExcept ((readKeyValues place values).mapError .usage) : Act σ _) :=
    mirrors_ofExcept _
  have hrefused (fault : Fault) : CommandEnds options (.error fault) [] := Or.inl ⟨rfl, by simp⟩
  refine (mirrors_note _).bind_records (fun _ between _ => ?_) (by rintro _ _ ⟨⟩)
  refine (hread _ _).bind_records (fun properties between _ => ?_) fun fault _ _ => hrefused fault
  refine (hread _ _).bind_records (fun deployment between _ => ?_) fun fault _ _ => hrefused fault
  refine records_bind_attempt ((runApp_records context options _ _ between).mono ?_)
  intro outcome turns after hends
  have hcoded : CommandEnds options (codeOf outcome) (turns ++ []) := by
    rw [List.append_nil]
    rcases hends with ⟨hturns, fault, rfl⟩ | hends
    · exact Or.inl ⟨hturns, codeOf_error_ne_zero fault⟩
    · exact Or.inr ⟨outcome, hends, rfl⟩
  rcases outcome with fault | ⟨⟩
  · refine records_ite (fun hfailure => ?_) fun hfailure => ?_
    · obtain ⟨journal, hperform⟩ := perform_report fault after
      refine (report_mirrors fault).records ?_
      rwa [hperform, ← codeOf_of_isFailure hfailure]
    · rw [codeOf_of_not_isFailure hfailure] at hcoded
      exact records_throw hcoded
  · exact records_pure hcoded

omit [Machine σ] in
/-- An action whose misuse is answered by a usage ends as the action does, but for its outcome. -/
theorem explaining_records (usage command : String) {recorded : Act (Recorded σ) Nat}
    {act : Act σ Nat} {world : World σ} {post : Except Fault Nat → List Turn → Prop}
    (h : Records recorded act world fun outcome turns _ => post (explained outcome) turns) :
    Records (explaining usage command recorded) (explaining usage command act) world
      fun outcome turns _ => post outcome turns := by
  refine records_bind_attempt (h.mono fun outcome turns after hpost => ?_)
  rw [← List.append_nil turns] at hpost
  rcases outcome with fault | code
  · cases fault with
    | usage cause =>
        refine (mirrors_note _).bind_records (fun _ _ _ => ?_) (by rintro _ _ ⟨⟩)
        refine (mirrors_note _).bind_records (fun _ _ _ => ?_) (by rintro _ _ ⟨⟩)
        refine (mirrors_note _).bind_records (fun _ _ _ => ?_) (by rintro _ _ ⟨⟩)
        exact records_pure hpost
    | _ => exact (mirrors_rethrow _).records hpost
  · exact (mirrors_rethrow _).records hpost

/-- The program ends its run as the command does, with the exit code that concludes it. -/
theorem program_records (context : RunContext σ) {arguments : List String} {options : RunOptions}
    {world : World σ} (hasks : AsksToRun world arguments options) :
    Records (program context.recorded arguments) (program context arguments) world
      fun outcome turns _ => ∃ result, CommandEnds options result turns ∧
        outcome = concluded result := by
  obtain ⟨rest, line, harguments, hline, hhelp, hoptions⟩ := hasks
  have hrun : Records (runCommand context.recorded rest) (runCommand context rest) world
      fun outcome turns _ => CommandEnds options outcome turns := by
    refine explaining_records _ _ ?_
    rw [hline]
    refine (mirrors_pure line).bind_records ?_ (by rintro _ _ ⟨⟩)
    rintro _ _ ⟨⟩
    refine records_ite (fun h => absurd h (by simp [hhelp])) fun _ => ?_
    refine (runOptions_mirrors line).bind_records (fun read between hread => ?_) ?_
    · obtain rfl : read = options := by simpa [hread] using hoptions
      exact (runWith_records context read between).mono fun _ _ _ hends => hends.explained
    · intro fault between hread
      simp [hread] at hoptions
  have hcommands : Records (commands context.recorded arguments) (commands context arguments) world
      fun outcome turns _ => CommandEnds options outcome turns := by
    refine records_ite (fun hempty => ?_) fun _ => explaining_records _ _ ?_
    · rw [List.isEmpty_iff.mp hempty] at harguments
      cases harguments
    · rw [harguments]
      refine (mirrors_pure _).bind_records ?_ (by rintro _ _ ⟨⟩)
      rintro _ _ ⟨⟩
      exact hrun.mono fun _ _ _ hends => hends.explained
  refine records_bind_attempt (hcommands.mono fun outcome turns after hends => ?_)
  rw [← List.append_nil turns] at hends
  rcases outcome with fault | code
  · cases fault with
    | interrupted =>
        refine (mirrors_note _).bind_records (fun _ _ _ => ?_) (by rintro _ _ ⟨⟩)
        refine (mirrors_note _).bind_records (fun _ _ _ => ?_) (by rintro _ _ ⟨⟩)
        exact records_pure ⟨_, hends, rfl⟩
    | _ => exact (mirrors_rethrow _).records ⟨_, hends, rfl⟩
  · exact (mirrors_rethrow _).records ⟨_, hends, rfl⟩

end Act

/-! ### Order -/

theorem Waited.fault_eq_none {id : String} {isEarly : Rat → Bool} {turns : List Turn}
    {status : AppStatus} (h : Waited id isEarly turns status) :
    ∀ turn ∈ turns, turn.fault? = none := by
  induction h with
  | last _ => simp [Turn.fault?, faultOf?]
  | more _ _ _ ih => simpa [Turn.fault?, faultOf?] using ih

/-- In a supervision nothing fails but for an interrupt. -/
theorem Supervised.interrupted {id : String} {turns : List Turn} {final? : Option AppStatus}
    (h : Supervised id turns final?) : ∀ turn ∈ turns, ∀ fault, turn.fault? = some fault →
      fault = .interrupted ∧ turn.isWatch := by
  induction h with
  | pausing => simp [Turn.fault?, faultOf?, Turn.isWatch]
  | looking moment => simp [Turn.fault?, faultOf?, Turn.isWatch]
  | ended _ => simp [Turn.fault?, faultOf?]
  | more _ _ ih => simpa [Turn.fault?, faultOf?] using ih

theorem Operates.not_isTroubled {options : RunOptions} {front : List Turn}
    {final? : Option AppStatus} (h : Operates options front final?) :
    ¬IsTroubled options (front ++ [.shutdown (.ok ())]) := by
  obtain ⟨request, id, start, waits, status, watches, rfl, hwaited, hends⟩ := h
  rintro ⟨before, turn, after, fault, hsplit, hfault, hnot⟩
  have hwatches : ∀ turn ∈ watches, ∀ fault, turn.fault? = some fault →
      fault = .interrupted ∧ turn.isWatch := by
    rcases hends with ⟨-, rfl, -⟩ | ⟨-, -, hsupervised⟩
    · simp
    · exact hsupervised.interrupted
  have hparts : (.deploy request (.ok id) start :: waits) ++
      (watches ++ [.undeploy id (.ok ()), .shutdown (.ok ())]) = before ++ turn :: after := by
    simpa using hsplit
  rcases append_eq_append_cons hparts with ⟨rest, hfirst, -⟩ | ⟨rest, rfl, hlast⟩
  · have hmem : turn ∈ Turn.deploy request (.ok id) start :: waits := by simp [hfirst]
    rcases List.mem_cons.mp hmem with rfl | hmem
    · simp [Turn.fault?, faultOf?] at hfault
    · simp [hwaited.fault_eq_none turn hmem] at hfault
  · have hmem : turn ∈ watches ++ [.undeploy id (.ok ()), .shutdown (.ok ())] := by simp [hlast]
    rcases List.mem_append.mp hmem with hmem | hmem
    · obtain ⟨hinterrupted, hwatch⟩ := hwatches turn hmem fault hfault
      exact hnot ⟨hinterrupted, hwatch, request, id, start, waits, status, rest, rfl, hwaited⟩
    · have hcalls : turn = .undeploy id (.ok ()) ∨ turn = .shutdown (.ok ()) := by
        simpa using hmem
      rcases hcalls with rfl | rfl <;> simp [Turn.fault?, faultOf?] at hfault

/-- A run that ends well: with one shutdown behind all else, and with an exit code that tells
whether the app has failed by its last status. -/
def EndsWell (options : RunOptions) (outcome : Except Fault Nat) (turns : List Turn) : Prop :=
  ∃ front final?, turns = front ++ [.shutdown (.ok ())] ∧ Operates options front final? ∧
    ((HasFailed final? ∧ outcome = .ok 3) ∨ (¬HasFailed final? ∧ outcome = .ok 0))

theorem concluded_error (fault : Fault) :
    concluded (codeOf (.error fault)) ≠ .error .horizonReached → ∃ code,
      concluded (codeOf (.error fault)) = .ok code ∧ code ≠ 0 := by
  intro hends
  by_cases hfailure : fault.isFailure
  · rw [codeOf_of_isFailure hfailure]
    exact ⟨_, rfl, Report.code_ne_zero fault⟩
  · rw [codeOf_of_not_isFailure hfailure] at hends ⊢
    cases fault with
    | interrupted => exact ⟨_, rfl, by decide⟩
    | horizonReached => exact absurd rfl hends
    | _ => exact absurd rfl hfailure

theorem RunEnds.protocol {options : RunOptions} {result : Except Fault Unit} {turns : List Turn}
    (h : RunEnds options result turns) {outcome : Except Fault Nat}
    (houtcome : outcome = concluded (codeOf result)) :
    (∃ front down, turns = front ++ [.shutdown down] ∧ ∀ turn ∈ front, turn.isShutdown = false) ∧
      (outcome ≠ .error .horizonReached →
        (¬IsTroubled options turns → EndsWell options outcome turns) ∧
        (IsTroubled options turns → ∃ code, outcome = .ok code ∧ code ≠ 0)) := by
  obtain ⟨front, down, operated, rfl, hnone, hoperated, hresult⟩ := h
  refine ⟨⟨front, down, rfl, hnone⟩, fun hends => ?_⟩
  -- A shutdown that fails is trouble by itself; else what matters is how the turns before it end.
  rcases down with fault | ⟨⟩
  · obtain rfl : result = .error fault := hresult
    rw [houtcome] at hends ⊢
    refine ⟨fun hcalm => absurd ?_ hcalm, fun _ => concluded_error fault hends⟩
    exact ⟨front, _, [], fault, rfl, rfl, fun h => Bool.false_ne_true h.2.1⟩
  · rcases operated with fault | final?
    · obtain rfl : result = .error fault := hresult
      rw [houtcome] at hends ⊢
      refine ⟨fun hcalm => ?_, fun _ => concluded_error fault hends⟩
      rcases hoperated with rfl | ⟨before, turn, rfl, hfault, hnot⟩
      · exact absurd rfl hends
      · exact absurd ⟨before, turn, _, fault, List.append_assoc _ _ _, hfault, hnot⟩ hcalm
    · refine ⟨fun _ => ⟨front, final?, rfl, hoperated, ?_⟩, fun htroubled => ?_⟩
      · rcases hresult with ⟨hfailed, cause, rfl⟩ | ⟨hfailed, rfl⟩
        · exact Or.inl ⟨hfailed, houtcome⟩
        · exact Or.inr ⟨hfailed, houtcome⟩
      · exact absurd htroubled hoperated.not_isTroubled

/-- A run that comes to its deployer shuts it down once, behind all else. If it ends, and nothing
failed but a supervision that was interrupted, it deploys, waits, supervises if that is asked for
and there is something to supervise, and undeploys; and its exit code is 3 if the app has failed by
its last status, and 0 otherwise. If something else failed, its exit code is not 0. -/
theorem program_keeps_protocol [Machine σ] (context : RunContext σ) {arguments : List String}
    {options : RunOptions} {world : World σ} (hasks : AsksToRun world arguments options) :
    Act.Records (Act.program context.recorded arguments) (Act.program context arguments) world
      fun outcome turns _ => (turns = [] ∧ outcome ≠ .ok 0) ∨
        ((∃ front down, turns = front ++ [.shutdown down] ∧
            ∀ turn ∈ front, turn.isShutdown = false) ∧
          (outcome ≠ .error .horizonReached →
            (¬IsTroubled options turns → EndsWell options outcome turns) ∧
            (IsTroubled options turns → ∃ code, outcome = .ok code ∧ code ≠ 0))) := by
  refine (Act.program_records context hasks).mono ?_
  rintro outcome turns after ⟨result, ⟨hturns, hnonzero⟩ | ⟨ended, hends, rfl⟩, rfl⟩
  · refine Or.inl ⟨hturns, ?_⟩
    rcases result with fault | code
    · cases fault <;> simp [concluded, interruptedCode]
    · exact hnonzero
  · exact Or.inr (hends.protocol rfl)

open Rehearsal

def Rehearsal.failingSoon : World Rehearsal where
  machine := {
    statuses := [.ok [.deployed], .ok [.deployed], .ok [.failed]]
    tree := (Files.Tree.empty.writeFile (.ofString "/app.py") []).toOption.getD .empty }

def Rehearsal.runContext : RunContext Rehearsal where
  host := ⟨"/tmp", "python"⟩
  environment := []
  connect := Rehearsal.connect
  horizon := 10

def Rehearsal.failingTurns : List Turn :=
  ((Act.program runContext.recorded ["run", "/app.py"]).perform
    (failingSoon.recorded [])).2.machine.turns

theorem program_keeps_protocol_failing :
    ∃ options, AsksToRun failingSoon ["run", "/app.py"] options ∧
      ((Act.program runContext ["run", "/app.py"]).perform failingSoon).1 = .ok 3 ∧
      failingTurns.length = 8 ∧ EndsWell options (.ok 3) failingTurns := by
  obtain ⟨options, hoptions⟩ : ∃ options,
      ((Act.runOptions ⟨[], ["/app.py"]⟩).perform failingSoon).1 = .ok options := by
    have hread : ((Act.runOptions ⟨[], ["/app.py"]⟩).perform failingSoon).1.toOption.isSome := by
      decide +kernel
    cases h : ((Act.runOptions ⟨[], ["/app.py"]⟩).perform failingSoon).1 with
    | ok options => exact ⟨options, rfl⟩
    | error fault => simp [h, Except.toOption] at hread
  have harguments : readLine programForms false ["run", "/app.py"] =
      .ok ⟨[], [runName, "/app.py"]⟩ := by
    simp [readLine, isOptional, runName]
  have hline : readLine runForms true ["/app.py"] = .ok ⟨[], ["/app.py"]⟩ := by
    simp [readLine, isOptional, Functor.map, Except.map]
  have hasks : AsksToRun failingSoon ["run", "/app.py"] options :=
    ⟨["/app.py"], ⟨[], ["/app.py"]⟩, harguments, hline, rfl, hoptions⟩
  have hcode : ((Act.program runContext ["run", "/app.py"]).perform failingSoon).1 = .ok 3 := by
    have hsome : ((Act.program runContext ["run", "/app.py"]).perform
        failingSoon).1.toOption = some 3 := by
      decide +kernel
    rw [Act.perform_of_toOption hsome]
  have hlength : failingTurns.length = 8 := by decide +kernel
  have hsound : failingTurns.all fun turn => turn.fault?.isNone := by decide +kernel
  obtain ⟨turns, hsame, hkeeps⟩ := program_keeps_protocol runContext hasks
  obtain rfl : failingTurns = turns := by
    rw [failingTurns, hsame]
    simp [World.recorded, World.on]
  refine ⟨options, hasks, hcode, hlength, ?_⟩
  rw [hcode] at hkeeps
  rcases hkeeps with ⟨hturns, -⟩ | ⟨-, hends⟩
  · simp [hturns] at hlength
  · refine (hends (by simp)).1 ?_
    rintro ⟨before, turn, after, fault, hsplit, hfault, -⟩
    have hmem : turn ∈ failingTurns := by simp [hsplit]
    simpa [hfault] using List.all_eq_true.mp hsound turn hmem

end AppSupervisor
