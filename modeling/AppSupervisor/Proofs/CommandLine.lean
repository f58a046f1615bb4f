import AppSupervisor.CommandLine.Program
import AppSupervisor.Proofs.Frame

/-!
What the command line leaves as it is.

Reading options, loading settings, printing and waiting neither touch deployments nor processes, so
they follow every frame. What a run does besides is to call its deployer. So the whole program
follows a frame if running an app does, and what is done behind a deployment follows one if looking
at it and undeploying it do.
-/

namespace AppSupervisor.Act

open AppSupervisor.CommandLine

variable {σ α : Type} {R : World σ → List Event → World σ → Prop} [IsFrame fun _ => R]

/-! ### Printing -/

theorem echo_follows (text : String) : (echo text : Act σ Unit).Follows fun _ => R :=
  follows_note rfl rfl

theorem echoError_follows (text : String) : (echoError text : Act σ Unit).Follows fun _ => R :=
  follows_note rfl rfl

theorem display_follows (quiet : Bool) (status : AppStatus) :
    (display quiet status : Act σ Unit).Follows fun _ => R :=
  follows_forM echo_follows _

theorem progress_follows (quiet : Bool) (text : String) :
    (progress quiet text : Act σ Unit).Follows fun _ => R := by
  unfold progress
  split
  · exact follows_pure ()
  · exact echo_follows text

/-- An outcome that is passed on follows as it is. -/
theorem follows_rethrow (outcome : Except Fault α) :
    (MonadExcept.ofExcept outcome : Act σ α).Follows fun _ => R := by
  cases outcome with
  | ok a => exact follows_pure a
  | error fault => exact follows_throw fault

theorem report_follows (fault : Fault) : (report fault : Act σ Nat).Follows fun _ => R := by
  refine (follows_log _ _).bind fun _ => (echoError_follows _).bind fun _ => ?_
  refine Follows.bind ?_ fun _ => follows_pure _
  cases (Report.ofFault fault).detail with
  | none => exact follows_pure ()
  | some detail => exact echoError_follows _

theorem explaining_follows (usage command : String) {act : Act σ Nat}
    (hact : act.Follows fun _ => R) : (explaining usage command act).Follows fun _ => R := by
  refine hact.attempt.bind fun outcome => ?_
  split
  · refine (echoError_follows _).bind fun _ => (echoError_follows _).bind fun _ => ?_
    exact (echoError_follows _).bind fun _ => follows_pure _
  · exact follows_rethrow outcome

/-! ### Reading -/

theorem valueAt_follows (place : String) (value : Except ValueCause α) :
    (valueAt place value : Act σ α).Follows fun _ => R :=
  follows_ofExcept _

variable [Machine σ]

theorem readableFile_follows (place text : String) :
    (readableFile place text : Act σ Files.Path).Follows fun _ => R := by
  refine (follows_askMachine _).bind fun isReadable => ?_
  split
  · exact follows_pure _
  · exact valueAt_follows _ _

theorem filePath_follows (place text : String) :
    (filePath place text : Act σ Files.Path).Follows fun _ => R := by
  refine (follows_tryAskMachine _).attempt.bind fun outcome => ?_
  split
  · exact valueAt_follows _ _
  · exact readableFile_follows _ _
  · exact valueAt_follows _ _
  · exact follows_throw _

theorem setOption_follows (options : RunOptions) (values : List String) (key : RunOption) :
    (setOption options values key : Act σ RunOptions).Follows fun _ => R := by
  cases key with
  | count => exact (valueAt_follows _ _).bind fun count => follows_pure _
  | config => exact (filePath_follows _ _).bind fun path => follows_pure _
  | waitTimeout => exact (valueAt_follows _ _).bind fun timeout => follows_pure _
  | _ => exact follows_pure _

theorem runOptions_follows (line : Parsed RunOption) :
    (runOptions line : Act σ RunOptions).Follows fun _ => R := by
  refine (follows_foldlM (fun options key => setOption_follows _ _ _) _ _).bind fun options => ?_
  split
  · exact follows_raise _
  · refine (filePath_follows _ _).bind fun path => ?_
    split
    · exact follows_pure _
    · exact follows_raise _

theorem readSettingsFile_follows (path : Files.Path) :
    (readSettingsFile path : Act σ (List (Value × Value))).Follows fun _ => R := by
  have hread : (readFile path : Act σ (List UInt8)).Follows fun _ => R :=
    (follows_tryMachine _).bind fun file => follows_askMachine _
  refine hread.attempt.bind fun outcome => ?_
  split
  · exact (follows_ofExcept _).bind fun document => follows_ofExcept _
  · exact follows_throw _
  · exact follows_throw _

theorem loadSettings_follows (host : HostDefaults) (path? : Option String)
    (environment : List (String × String)) :
    (loadSettings host path? environment : Act σ Settings).Follows fun _ => R := by
  have hentries : (settingsEntries path? : Act σ (List (Value × Value))).Follows fun _ => R := by
    cases path? with
    | none => exact follows_pure _
    | some given =>
        refine (readSettingsFile_follows _).bind fun entries => ?_
        exact (follows_log _ _).bind fun _ => follows_pure _
  refine hentries.bind fun file => (follows_ofExcept _).bind fun given => ?_
  dsimp only
  split
  · exact (follows_log _ _).bind fun _ => follows_ofExcept _
  · exact follows_ofExcept _

/-! ### Watching a deployment -/

theorem sleep_follows (seconds : Rat) : (sleep seconds : Act σ Unit).Follows fun _ => R :=
  (follows_note rfl rfl).bind fun _ => follows_tryMachine _

section Handle

variable {handle : DeployerHandle σ} (hstatus : ∀ id, (handle.status id).Follows fun _ => R)

include hstatus

theorem waitLonger_follows (id : String) (isEarly : Rat → Bool) (status : AppStatus)
    (looks : Nat) :
    (waitLonger handle id isEarly status looks).Follows fun _ => R := by
  induction looks generalizing status with
  | zero => exact follows_raise _
  | succ looks ih =>
      refine (follows_askMachine _).bind fun moment => ?_
      split
      · refine (sleep_follows _).bind fun _ => ?_
        exact (hstatus id).bind fun status => ih status
      · exact follows_pure status

theorem watch_follows (id : String) (last : State) (looks : Nat) :
    (watch handle id last looks).Follows fun _ => R := by
  induction looks generalizing last with
  | zero => exact follows_raise _
  | succ looks ih =>
      refine (sleep_follows _).bind fun _ => (hstatus id).bind fun status => ?_
      have hrest : (if status.state.isTerminal then pure status
          else watch handle id status.state looks).Follows fun _ => R := by
        split
        · exact follows_pure status
        · exact ih status.state
      dsimp only
      split
      · exact (follows_log _ _).bind fun _ => hrest
      · exact hrest

theorem supervise_follows (id : String) (last : State) (horizon : Nat) :
    (supervise handle id last horizon).Follows fun _ => R := by
  refine (watch_follows hstatus id last horizon).attempt.bind fun outcome => ?_
  split
  · exact follows_pure _
  · exact follows_pure _
  · exact follows_throw _

/-- What follows a deployment that succeeds are looks at it and its undeployment. -/
theorem operate_yields {context : RunContext σ} {options : RunOptions} {request : Request}
    {world : World σ} {post : Except Fault (Option AppStatus) → List Event → World σ → Prop}
    (hundeploy : ∀ id, (handle.undeploy id).Follows fun _ => R)
    (hdeploy : (handle.deploy request).Yields world fun outcome done between => match outcome with
      | .ok _ => ∀ result more after, R between more after → post result (done ++ more) after
      | .error fault => post (.error fault) done between) :
    (operate context handle options request).Yields world post := by
  refine yields_bind (hdeploy.mono ?_)
  rintro (fault | id) done between hpost
  · exact hpost
  · refine Yields.mono (Follows.bind (progress_follows _ _) (fun _ => ?_) between) hpost
    have hstarted : (waitUntilStarted handle id options.waitTimeout context.horizon).Follows
        fun _ => R := by
      refine (follows_askMachine _).bind fun start => (hstatus id).bind fun status => ?_
      exact waitLonger_follows hstatus id _ status _
    refine hstarted.bind fun status => (display_follows _ status).bind fun _ => ?_
    have hclosing : ∀ final? : Option AppStatus, (do
        progress options.quiet s!"Undeploying {id}..."
        handle.undeploy id
        return final?).Follows fun _ => R :=
      fun final? => (progress_follows _ _).bind fun _ => (hundeploy id).bind fun _ => follows_pure _
    dsimp only
    split
    · exact (follows_pure _).bind hclosing
    · refine (progress_follows _ _).bind fun _ => ?_
      refine (supervise_follows hstatus id _ _).bind fun final? => ?_
      refine Follows.bind ?_ fun _ => (follows_pure _).bind hclosing
      cases final? with
      | none => exact follows_pure ()
      | some status => exact display_follows _ status

end Handle

/-! ### The program -/

section Program

variable {context : RunContext σ}
  (hrun : ∀ options properties deploymentProperties,
    (runApp context options properties deploymentProperties).Follows fun _ => R)

include hrun

theorem runWith_follows (options : RunOptions) : (runWith context options).Follows fun _ => R := by
  refine (follows_note rfl rfl).bind fun _ => ?_
  refine (follows_ofExcept _).bind fun properties => ?_
  refine (follows_ofExcept _).bind fun deploymentProperties => ?_
  refine (hrun options properties deploymentProperties).attempt.bind fun outcome => ?_
  split
  · exact follows_pure _
  · split
    · exact report_follows _
    · exact follows_throw _

theorem runCommand_follows (arguments : List String) :
    (runCommand context arguments).Follows fun _ => R := by
  refine explaining_follows _ _ ((follows_ofExcept _).bind fun line => ?_)
  split
  · exact (echo_follows _).bind fun _ => follows_pure _
  · exact (runOptions_follows line).bind fun options => runWith_follows hrun options

theorem dispatch_follows (arguments : List String) :
    (dispatch context arguments).Follows fun _ => R := by
  unfold dispatch
  split
  · exact follows_raise _
  · split
    · exact runCommand_follows hrun _
    · exact (follows_ofExcept _).bind fun _ => follows_raise _

theorem commands_follows (arguments : List String) :
    (commands context arguments).Follows fun _ => R := by
  unfold commands
  split
  · exact (echoError_follows _).bind fun _ => follows_pure _
  · refine explaining_follows _ _ ((follows_ofExcept _).bind fun line => ?_)
    split
    · exact (echo_follows _).bind fun _ => follows_pure _
    · exact (echo_follows _).bind fun _ => follows_pure _
    · exact dispatch_follows hrun _

/-- All that a program does to deployments and processes it does when it runs an app. -/
theorem program_follows (arguments : List String) :
    (program context arguments).Follows fun _ => R := by
  refine (commands_follows hrun arguments).attempt.bind fun outcome => ?_
  split
  · refine (echoError_follows _).bind fun _ => (echoError_follows _).bind fun _ => ?_
    exact follows_pure _
  · exact follows_rethrow outcome

end Program

end AppSupervisor.Act
