/-
A start that fails lets the user in.

The stages of a start are listed once more here, each by itself: why it
fails, and what it logs (`StartStage`). The first stage that fails gives
the cause, and what a failed start leaves behind is what the stages up
to that one leave behind, `reached`. `prepare_of_first` says that the
stages are carried out in this way and in this order; it goes through
one equation for each of them.

Without a mechanism the last stage fails, so some stage does, and the
screen locker is told to dismiss its dialog whichever it was.
-/
import ScreenUnlock.Proofs.Privilege.Drop
import ScreenUnlock.Proofs.Wire.Send
import ScreenUnlock.Startup.Prepare

namespace ScreenUnlock

-- ============================================================= the stages

/-- What can fail in a start. -/
inductive StartStage where
  | configuration
  -- Whether the invoker is root.
  | root
  | drop
  | identity
  | probe
  deriving DecidableEq, Repr

namespace StartStage

/-- The place of the stage in a start. -/
def rank : StartStage → Nat
  | configuration => 0
  | root => 1
  | drop => 2
  | identity => 3
  | probe => 4

/-- All stages, in their order. -/
def all : List StartStage := [configuration, root, drop, identity, probe]

/-- The stages up to and including this one. -/
def upTo (stage : StartStage) : List StartStage :=
  all.filter fun other => other.rank ≤ stage.rank

/-- Why there is no result, if there is none. -/
def failureOf {α : Type} : Except StartError α → Option StartError
  | .ok _ => none
  | .error cause => some cause

variable (options : Options) (world : World)

/-- The configuration that the first stage loads. -/
def loaded : Except ConfigError Config :=
  Config.load world.tree world.dirs (options.config.map Path.mk)
    world.credentials.ids.isPrivileged world.readToml

/-- The path that the first stage looks at. -/
def path : Path :=
  Config.resolvePath world.tree world.dirs (options.config.map Path.mk)
    world.credentials.ids.isPrivileged

/-- Why a stage fails, if it does. -/
def failure? : StartStage → Option StartError
  | configuration => failureOf ((loaded options world).mapError .config)
  | root =>
    if world.credentials.users.real = rootId then some .runningAsRoot
    else none
  | drop => failureOf world.credentials.drop.1
  | identity =>
    failureOf (world.database.resolve world.credentials.users.real world.user)
  | probe =>
    failureOf (world.authenticator.lockInit.mapError .lockingUnavailable)

/-- What a stage logs. -/
def notices : StartStage → List Notice
  | configuration =>
    (if world.credentials.ids.isPrivileged ∧ options.config.isSome then
      [.pathIgnored] else [])
    ++ [if world.tree.contains (path options world) then
      .configLoading (path options world)
      else .configAbsent (path options world)]
  | root =>
    match loaded options world with
    | .ok config => [.service (.find world.tree config)]
    | .error _ => []
  | drop =>
    match world.credentials.drop.1 with
    | .ok .keep => [.initialized .keep]
    | .ok (.switchTo user group clearGroups) =>
      [.dropped user group, .initialized (.switchTo user group clearGroups)]
    | .error _ => []
  | identity =>
    match world.database.lookup world.credentials.users.real with
    | .found _ => []
    | .unknown => [.userUnknown world.credentials.users.real]
    | .failed => [.databaseFailed world.credentials.users.real]
  | probe =>
    match world.authenticator.lockInit with
    | .ok _ => [.lockReady]
    | .error _ => []

/-- What a start has come to after the stages up to this one. Only giving
up rights makes calls that change ids. -/
def reached (stage : StartStage) : StartProgress where
  credentials :=
    if drop.rank ≤ stage.rank then world.credentials.drop.2
    else world.credentials
  log := .starting :: stage.upTo.flatMap (notices options world)

/-- No stage before this place fails. -/
def Passed (place : Nat) : Prop :=
  ∀ earlier : StartStage, earlier.rank < place →
    earlier.failure? options world = none

/-- The first stage that fails, and why. -/
structure First (stage : StartStage) (cause : StartError) : Prop where
  passed : Passed options world stage.rank
  fails : stage.failure? options world = some cause

variable {options : Options} {world : World}

theorem rank_inj {stage other : StartStage} (h : stage.rank = other.rank) :
    stage = other := by
  cases stage <;> cases other <;> first | rfl | cases h

theorem Passed.zero : Passed options world 0 := nofun

theorem Passed.succ (stage : StartStage) (h : Passed options world stage.rank)
    (hstage : stage.failure? options world = none) :
    Passed options world (stage.rank + 1) := by
  intro earlier hlt
  rcases Nat.lt_succ_iff_lt_or_eq.mp hlt with hless | heq
  · exact h earlier hless
  · rw [rank_inj heq, hstage]

theorem drop_of_root (h : world.credentials.users.real = rootId) :
    world.credentials.drop = (.error .runningAsRoot, world.credentials) := by
  rcases DropPlan.ofIds_cases world.credentials.ids with ⟨-, hplan⟩
    | ⟨hne, -⟩ | ⟨hne, -⟩
  · rw [Credentials.drop, hplan]
  · exact absurd h hne
  · exact absurd h hne

/-- What one more stage adds to the log. -/
theorem log_reached (stage next : StartStage)
    (h : next.rank = stage.rank + 1) :
    (reached options world next).log = (reached options world stage).log
      ++ notices options world next := by
  have hupTo : next.upTo = stage.upTo ++ [next] := by
    cases stage <;> cases next <;> first | rfl | cases h
  rw [reached, reached, hupTo, List.flatMap_append, List.flatMap_singleton,
    List.cons_append]

/-- The stages after the rights were given up only add to the log. -/
theorem reached_next (stage next : StartStage)
    (h : next.rank = stage.rank + 1) (hdropped : drop.rank ≤ stage.rank) :
    reached options world next
      = { reached options world stage with
          log := (reached options world stage).log
            ++ notices options world next } := by
  have hdropped' : drop.rank ≤ next.rank := by omega
  rw [← log_reached stage next h]
  unfold reached
  rw [if_pos hdropped, if_pos hdropped']

end StartStage

-- ================================================== carrying out the stages

namespace Stage

open StartStage

variable {α β : Type} {progress progress' : StartProgress}

theorem run_bind {stage : Stage α} {next : α → Stage β} :
    (stage >>= next).run progress
      = match stage.run progress with
        | (.ok result, progress') => (next result).run progress'
        | (.error cause, progress') => (.error cause, progress') := by
  show StateT.bind (ExceptT.run stage) (ExceptT.bindCont next) progress = _
  unfold StateT.bind
  rcases stage.run progress with ⟨cause | result, after⟩ <;> rfl

/-- A stage that passes hands on to the next one. -/
theorem run_bind_ok {stage : Stage α} {next : α → Stage β} {result : α}
    (h : stage.run progress = (.ok result, progress')) :
    (stage >>= next).run progress = (next result).run progress' := by
  rw [run_bind, h]

/-- After a stage that fails nothing else happens. -/
theorem run_bind_error {stage : Stage α} {next : α → Stage β}
    {cause : StartError} (h : stage.run progress = (.error cause, progress')) :
    (stage >>= next).run progress = (.error cause, progress') := by
  rw [run_bind, h]

theorem run_note (notice : Notice) :
    (note notice).run progress
      = (.ok (), { progress with log := progress.log ++ [notice] }) := rfl

theorem run_ofExcept (result : Except StartError α) :
    (ofExcept result).run progress = (result, progress) := by
  cases result <;> rfl

theorem run_get : (get : Stage StartProgress).run progress
    = (.ok progress, progress) := rfl

variable (options : Options) (world : World)

/-- The first stage loads the configuration. -/
theorem run_configuration :
    (configuration options world).run ⟨world.credentials, [.starting]⟩
      = ((loaded options world).mapError .config,
        reached options world .configuration) := by
  have hreached : reached options world .configuration
      = ⟨world.credentials,
        [.starting] ++ notices options world .configuration⟩ := by
    simp [reached, upTo, all, rank]
  rw [hreached]
  simp only [configuration, notices, path, loaded, Config.load,
    Option.isSome_map]
  rw [run_bind_ok run_get]
  dsimp only
  split <;> split <;> rename_i hignored hthere <;>
    simp only [run_bind_ok (run_note _), run_ofExcept, hthere, reduceIte,
      List.append_assoc, List.nil_append, Bool.false_eq_true]

/-- Looking for the service and giving up rights. -/
theorem run_privileges_from (config : Config) (log : List Notice) :
    (privileges world config).run ⟨world.credentials, log⟩
      = (world.credentials.drop.1.map fun _ => (),
        ⟨world.credentials.drop.2, log ++ [.service (.find world.tree config)]
          ++ notices options world .drop⟩) := by
  have htwo : ∀ (log : List Notice) (first second : Notice),
      log ++ [first] ++ [second] = log ++ [first, second] :=
    fun _ _ _ => List.append_assoc ..
  simp only [privileges, notices]
  rw [run_bind_ok (run_note _), run_bind_ok run_get]
  rcases world.credentials.drop with ⟨cause | plan, credentials⟩
  · rw [List.append_nil]
    rfl
  · cases plan with
    | keep => rfl
    | switchTo user group clearGroups =>
        exact congrArg (fun log => (Except.ok (), StartProgress.mk credentials
          log)) (htwo _ _ _)

/-- The next two stages: a start by root gives up nothing. -/
theorem run_privileges {config : Config}
    (hload : loaded options world = .ok config) :
    (privileges world config).run (reached options world .configuration)
      = (world.credentials.drop.1.map fun _ => (),
        reached options world (if world.credentials.users.real = rootId
          then .root else .drop)) := by
  have hservice : [Notice.service (.find world.tree config)]
      = notices options world .root := by
    rw [notices, hload]
  have hrun := run_privileges_from options world config
    (reached options world .configuration).log
  rw [hservice, ← log_reached .configuration .root rfl] at hrun
  refine hrun.trans (congrArg _ ?_)
  by_cases hroot : world.credentials.users.real = rootId
  · rw [if_pos hroot, notices, drop_of_root hroot, List.append_nil]
    rfl
  · rw [if_neg hroot, ← log_reached .root .drop rfl]
    rfl

theorem run_identity :
    (identity world world.credentials.users.real).run
        (reached options world .drop)
      = (world.database.resolve world.credentials.users.real world.user,
        reached options world .identity) := by
  rw [reached_next .drop .identity rfl (Nat.le_refl _)]
  unfold identity notices
  cases world.database.lookup world.credentials.users.real with
  | found name => rw [run_ofExcept, List.append_nil]
  | unknown | failed => rw [run_bind_ok (run_note _), run_ofExcept]

theorem run_backend :
    (backend world).run (reached options world .identity)
      = (world.authenticator.lockInit.mapError .lockingUnavailable,
        reached options world .probe) := by
  rw [reached_next .identity .probe rfl (by decide)]
  unfold backend notices
  cases world.authenticator.lockInit with
  | ok _ => rfl
  | error cause =>
      rw [List.append_nil]
      rfl

end Stage

namespace StartStage

open Stage (run_bind_ok run_bind_error run_note run_get)

variable (options : Options) (world : World)

/-- A start either stops at the first stage that fails or is prepared. -/
theorem prepare_cases :
    (∃ stage cause, First options world stage cause
        ∧ (Stage.prepare options world).run ⟨world.credentials, [.starting]⟩
          = (.error cause, reached options world stage))
      ∨ Passed options world (probe.rank + 1)
        ∧ ∃ prepared progress,
          (Stage.prepare options world).run ⟨world.credentials, [.starting]⟩
            = (.ok prepared, progress) := by
  have hloads := Stage.run_configuration options world
  have hnames : (Stage.identity world world.credentials.ids.realUser).run _
      = _ := Stage.run_identity options world
  have hprobes := Stage.run_backend options world
  unfold Stage.prepare
  rw [run_bind_ok run_get]
  rcases hload : loaded options world with cause | config
  · rw [hload] at hloads
    refine .inl ⟨configuration, .config cause, ⟨.zero, ?_⟩, ?_⟩
    · rw [failure?, hload]
      rfl
    · rw [run_bind_error hloads]
  have hfirst : Passed options world root.rank :=
    .succ configuration .zero (by rw [failure?, hload]; rfl)
  rw [hload] at hloads
  rw [run_bind_ok hloads]
  have hdrops := Stage.run_privileges options world hload
  by_cases hroot : world.credentials.users.real = rootId
  · rw [drop_of_root hroot, if_pos hroot] at hdrops
    exact .inl ⟨root, .runningAsRoot, ⟨hfirst, if_pos hroot⟩,
      run_bind_error hdrops⟩
  have hsecond : Passed options world drop.rank :=
    .succ root hfirst (if_neg hroot)
  rw [if_neg hroot] at hdrops
  rcases hdrop : world.credentials.drop.1 with cause | plan
  · rw [hdrop] at hdrops
    refine .inl ⟨drop, cause, ⟨hsecond, ?_⟩, run_bind_error hdrops⟩
    rw [failure?, hdrop]
    rfl
  have hthird : Passed options world identity.rank :=
    .succ drop hsecond (by rw [failure?, hdrop]; rfl)
  rw [hdrop] at hdrops
  rw [run_bind_ok hdrops]
  rcases hname : world.database.resolve world.credentials.users.real world.user
    with cause | user
  · rw [hname] at hnames
    refine .inl ⟨identity, cause, ⟨hthird, ?_⟩, run_bind_error hnames⟩
    rw [failure?, hname]
    rfl
  have hfourth : Passed options world probe.rank :=
    .succ identity hthird (by rw [failure?, hname]; rfl)
  rw [hname] at hnames
  rw [run_bind_ok hnames]
  rcases hprobe : world.authenticator.lockInit with cause | _
  · rw [hprobe] at hprobes
    refine .inl ⟨probe, .lockingUnavailable cause, ⟨hfourth, ?_⟩,
      run_bind_error hprobes⟩
    rw [failure?, hprobe]
    rfl
  · rw [hprobe] at hprobes
    rw [run_bind_ok hprobes]
    exact .inr ⟨.succ probe hfourth (by rw [failure?, hprobe]; rfl),
      _, _, rfl⟩

variable {options : Options} {world : World}

/-- A stage before the rights are given up makes no call. -/
theorem credentials_reached {stage : StartStage} (h : stage.rank < drop.rank) :
    (reached options world stage).credentials = world.credentials :=
  if_neg (Nat.not_le_of_lt h)

/-- Where a stage fails, the first to fail does not come after it. -/
theorem First.rank_le {first : StartStage} {cause cause' : StartError}
    (h : First options world first cause) (stage : StartStage)
    (hstage : stage.failure? options world = some cause') :
    first.rank ≤ stage.rank := by
  refine Nat.le_of_not_lt fun hlt => ?_
  cases hstage.symm.trans (h.passed stage hlt)

end StartStage

-- ============================================================ failing open

open StartStage

/-- The line that makes the screen locker dismiss its dialog. -/
def dismissal : Bytes := Bytes.ofText "CS_PAM_AUTH_SUCCESS\n"

/-- Reporting the failure writes that line, up to some byte, and all of it
where nothing goes wrong at the sink. -/
theorem Sink.accepted_reportUnavailable (sink : Sink) :
    ∃ torn, torn <+: dismissal
      ∧ sink.reportUnavailable.2.accepted = sink.accepted ++ torn
      ∧ (sink.Faultless → torn = dismissal) := by
  have hline : Message.success.lineBytes = dismissal := by decide +kernel
  unfold reportUnavailable
  match hsend : sink.send .success with
  | (.ok (), sink') =>
      refine ⟨dismissal, List.prefix_rfl, ?_, fun _ => rfl⟩
      rw [accepted_send hsend, hline]
  | (.error cause, sink') =>
      obtain ⟨torn, hbegins, haccepted⟩ := accepted_send_error hsend
      refine ⟨torn, hline ▸ hbegins, haccepted, fun hfaultless => ?_⟩
      obtain ⟨sink'', hsent, -⟩ := hfaultless.send .success
      rw [hsend] at hsent
      cases hsent

theorem failOpen_output (cause : StartError) (output : Sink) :
    (failOpen cause output).1 = output.reportUnavailable.2 := by
  unfold failOpen
  split <;> rename_i hreport <;> rw [hreport]

theorem failOpen_notices (cause : StartError) (output : Sink) :
    ∃ failed, (failOpen cause output).2 = .lockingDisabled cause :: failed := by
  unfold failOpen
  split
  · exact ⟨[], rfl⟩
  · exact ⟨_, rfl⟩

/-- A start that fails open. -/
structure FailsOpen (options : Options) (world : World)
    (report : StartReport) : Prop where
  exit : report.exit = some 1
  prepared : report.prepared = none
  -- The screen locker is told to dismiss its dialog, and nothing else.
  written : ∃ torn, torn <+: dismissal
    ∧ report.output.accepted = world.output.accepted ++ torn
    ∧ (world.output.Faultless → torn = dismissal)
  -- The first stage that fails gives the cause, and what is left behind is
  -- what the stages up to that one did.
  first : ∃ stage cause, First options world stage cause
    ∧ (Stage.prepare options world).run ⟨world.credentials, [.starting]⟩
      = (.error cause, reached options world stage)
    ∧ report.credentials = (reached options world stage).credentials
    ∧ ∃ failed, report.log = ((reached options world stage).log
      ++ Notice.lockingDisabled cause :: failed).filter
        (LogFilter.choose world.readFilter world.logFilter options)
  -- No id is touched for a configuration that is not in order, nor for root.
  untouched : (∃ cause, loaded options world = .error cause)
      ∨ world.credentials.users.real = rootId →
    report.credentials = world.credentials

/-- A start that does not get prepared fails open. -/
theorem failsOpen_of_first {options : Options} {world : World}
    {stage : StartStage} {cause : StartError}
    (hfirst : First options world stage cause)
    (hrun : (Stage.prepare options world).run ⟨world.credentials, [.starting]⟩
      = (.error cause, reached options world stage)) :
    FailsOpen options world (startWith options world) := by
  have hreport : startWith options world
      = { exit := some 1
          prepared := none
          output := (failOpen cause world.output).1
          credentials := (reached options world stage).credentials
          log := ((reached options world stage).log
            ++ (failOpen cause world.output).2).filter
              (LogFilter.choose world.readFilter world.logFilter options)
          toJournal := world.journalStream.isSome && world.hasJournal } := by
    unfold startWith
    rw [hrun]
  rw [hreport]
  refine ⟨rfl, rfl, ?_, ⟨stage, cause, hfirst, hrun, rfl, ?_⟩, ?_⟩
  · rw [failOpen_output]
    exact world.output.accepted_reportUnavailable
  · obtain ⟨failed, hfailed⟩ := failOpen_notices cause world.output
    exact ⟨failed, by rw [hfailed]⟩
  · intro hearly
    suffices hbefore : stage.rank < StartStage.drop.rank by
      show (reached options world stage).credentials = world.credentials
      exact credentials_reached hbefore
    rcases hearly with ⟨cause', hload⟩ | hroot
    · have hfails : failure? options world .configuration
          = some (.config cause') := by
        rw [failure?, hload]
        rfl
      exact Nat.lt_of_le_of_lt (hfirst.rank_le _ hfails) (by decide)
    · have hfails : failure? options world .root = some .runningAsRoot :=
        if_pos hroot
      exact Nat.lt_of_le_of_lt (hfirst.rank_le _ hfails) (by decide)

/-- Without a mechanism every start with an accepted command line fails
open, whatever the files, the environment, the users and the rights are,
however TOML and filters of the log are read, and whatever goes wrong with
the calls. -/
theorem start_fails_open {args : List String} {options : Options}
    {world : World} (hargs : Options.ofArgs args = .start options)
    (hunsupported : world.authenticator = .unsupported) :
    FailsOpen options world (start args world) := by
  have hstart : start args world = startWith options world := by
    unfold start
    rw [hargs]
  rw [hstart]
  rcases prepare_cases options world with ⟨stage, cause, hfirst, hrun⟩
    | ⟨hpassed, -⟩
  · exact failsOpen_of_first hfirst hrun
  · -- the probe of a backend without a mechanism does not pass
    have hprobe := hpassed .probe (Nat.lt_succ_self _)
    rw [failure?, hunsupported] at hprobe
    cases hprobe

/-- A world in which a privileged helper cannot change its user. -/
def World.undroppable : World where
  tree := .empty ⟨"/"⟩
  dirs := ⟨none, none, none⟩
  user := some "user"
  display := none
  logFilter := none
  journalStream := none
  hasJournal := false
  database := .unreadable
  authenticator := .unsupported
  credentials := .start ⟨1000, 0, 1000, 1000⟩
    { failing := [(.setresuid, .tryAgain)] }
  output := {}

theorem start_fails_open_undroppable :
    Options.ofArgs ["--quiet"] = .start { quiet := true }
      ∧ (start ["--quiet"] .undroppable).exit = some 1
      ∧ (start ["--quiet"] .undroppable).output.accepted = dismissal := by
  have hopen : FailsOpen { quiet := true } .undroppable
      (start ["--quiet"] .undroppable) := start_fails_open (by rfl) rfl
  obtain ⟨torn, -, haccepted, hall⟩ := hopen.written
  refine ⟨by rfl, hopen.exit, ?_⟩
  rw [haccepted, hall ⟨rfl, nofun, rfl, rfl⟩]
  rfl

end ScreenUnlock
