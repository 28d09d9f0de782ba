/-
The report loop (main.c).

`main` is cut where its comments cut it: bring the network up, acquire a
fix, report, report frequently, sleep. `continue` becomes a return of
the next cycle's wake reason. The two loops carry the fuel that a
program of finite calls needs; every finite part of a run is a run with
enough of it.
-/
import GpsTracker.Model.Agnss

namespace GpsTracker

open Proc

variable (cfg : Config)

-- ==================================================================== LTE

def lteIsRegistered : P Bool := do
  let (err, status) ← call .nwRegStatusGet
  if err ≠ 0 then
    pure false
  else
    pure (status == .registeredHome || status == .registeredRoaming)

def lteEnsureConnected : P Int :=
  scope .lteEnsureConnected do
    if ← lteIsRegistered then
      pure 0
    else
      call (.semReset .lteConnected)
      let err ← call (.lib .lteLcConnectAsync)
      if err ≠ 0 ∧ err ≠ -EINPROGRESS then
        pure err
      else if (← call (.semTake .lteConnected
          (cfg.lteConnectTimeoutSeconds * 1000))) ≠ 0 then
        pure (-ETIMEDOUT)
      else
        pure 0

-- ============================================================= predicates

def surgeActive (motionCycle : Bool) : P Bool :=
  scope (.surgeActive motionCycle) do
    if !motionCycle || !cfg.motionWake then
      pure false
    else
      let last ← motionLastEventUptime cfg
      if last = 0 then
        pure false
      else
        let now ← call .kUptimeGet
        pure (decide (now - last < cfg.motionSurgeSeconds * 1000))

def agnssWanted : P Bool := do
  if !cfg.agnss || cfg.skipLte then
    pure false
  else if (← gnssActiveSource) ≠ .modem then
    pure false
  else if !cloudSupportsAgnss cfg then
    pure false
  else
    cloudIsReady cfg

def ledPattern : P LedPattern := do
  if !cfg.statusLed then
    pure .solid
  else if !(← powerVbusPresent .ledPattern) then
    pure .battery
  else
    match ← powerRead with
    | .error _ => pure .charging
    | .ok (battMv, charge) =>
        if charge = .full ∨
            telemetryBatteryPercent battMv > cfg.statusLedFullPercent then
          pure .solid
        else
          pure .charging

def statusLedReport (haveFix : Bool) : P Unit := do
  let lte ← if cfg.skipLte then pure true else lteIsRegistered
  statusLedSet cfg
    (if !lte then .noLte else if haveFix then .lteFix else .lteNoFix)
  statusLedPattern cfg (← ledPattern cfg)

-- ================================================================= report

/-- The telemetry record of `report_fix`. -/
def telemetryOf (fix : Option TrackerFix) (now : Int) (wakeUptimeMs : Nat)
    (wakeReason : WakeReason) (power : Except Int (Nat × ChargeState))
    (rsrp : Int × Int) : Telemetry :=
  { longitude := (fix.map TrackerFix.longitude).getD 0
    latitude := (fix.map TrackerFix.latitude).getD 0
    hdop := (fix.map TrackerFix.hdop).getD 0
    awakeS := u32 ((now - wakeUptimeMs).tdiv 1000)
    wake := wakeReason
    battMv := match power with | .ok p => p.1 | .error _ => 0
    charge := match power with | .ok p => p.2 | .error _ => .discharging
    signalDbm := if rsrp.1 ≠ 0 then 0 else rsrp.2 }

/-- `report_fix`'s send: once, and once more over a link brought up again
where the first was refused. -/
def sendReport (payload : Text) : P Int := do
  let err ← scope .firstSend (cloudSendTelemetry cfg payload)
  if err = -EACCES ∨ err = -ENOTCONN then
    watchdogGuardStart cfg.cloudConnectBudgetSeconds
    let err ← cloudResume cfg
    watchdogGuardStop
    if err = 0 then
      scope .retrySend (cloudSendTelemetry cfg payload)
    else
      pure err
  else
    pure err

/-- `report_fix` from its payload on: send, and on success stamp the time
and share the location. -/
def deliver (fix : Option TrackerFix) (payload : Text) : P Int := do
  let err ← sendReport cfg payload
  if err = 0 then
    let now ← call .kUptimeGet
    Prog.modify fun s => { s with lastSendUptime := now }
    match fix with
    | none => pure ()
    | some fix =>
        let _ ← cloudSendLocation cfg fix
  watchdogFeed
  pure err

def reportFix (fix : Option TrackerFix) (wakeUptimeMs : Nat)
    (wakeReason : WakeReason) : P Int :=
  scope (.reportFix fix.isSome) do
    let now ← call .kUptimeGet
    let power ← powerRead
    let rsrp ← call .rsrpGet
    watchdogPhase .report
    let s ← Prog.get
    match telemetryBuildJson cfg s.phaseAtReset
        (telemetryOf fix now wakeUptimeMs wakeReason power rsrp) 256 with
    | .error _ => pure (-ENOMEM)
    | .ok payload => deliver cfg fix payload

-- ====================================================== silence, the sleep

def recoverIfSilent : P Unit :=
  scope .recoverIfSilent do
    let s ← Prog.get
    let now ← call .kUptimeGet
    let quietMin := (now - s.lastSendUptime).tdiv 60000
    if quietMin < cfg.modemRecoveryMinutes then
      Prog.modify fun s => { s with modemBounced := false }
    else if quietMin ≥ cfg.rebootMinutes then
      watchdogPhase .noNetwork
      call (.kSleep 200)
      call .sysReboot
      Prog.halt
    else if s.modemBounced then
      pure ()
    else
      Prog.modify fun s => { s with modemBounced := true }
      let _ ← call (.funcModeSet .offline)
      call (.kSleep 1000)
      let _ ← call (.funcModeSet .normal)

/-- `battery_sleep`, logged with the place that calls it. -/
def batterySleep (site : SleepSite) : P WakeReason :=
  scope (.batterySleep site) do
    let s ← Prog.get
    let arm := decide (cfg.motionSettleCycles ≤ s.batterySleeps)
    watchdogPhase .ledSleep
    statusLedSleep cfg
    watchdogPhase .motionArm
    motionSetArmed cfg arm
    if !arm then
      Prog.modify fun s => { s with batterySleeps := s.batterySleeps + 1 }
    watchdogPhase .sleep
    wakeWait cfg.sleepSeconds

-- =============================================================== the cycle

/-- `recover_if_silent`, then the network; false sends the cycle back to
sleep. -/
def bringUpNetwork : P Bool := do
  if cfg.skipLte then
    pure true
  else
    recoverIfSilent cfg
    watchdogPhase .lte
    pure ((← lteEnsureConnected cfg) == 0)

/-- `agnss_wanted() && gnss_agnss_request_wait(..) == 0`, and the fetch
where it holds: whether assistance was injected. -/
def assistIfAsked (mark : P Unit) : P (Option Bool) := do
  if !(← agnssWanted cfg) then
    pure none
  else if (← gnssAgnssRequestWait cfg.agnssProactiveWaitSeconds) ≠ 0 then
    pure none
  else
    mark
    pure (some ((← agnssFetchAndInject cfg) == 0))

/-- The fallback step of the acquisition: the fix, and whether assistance
was injected. -/
def acquireFallback (assisted : Bool) : P (Option TrackerFix × Bool) := do
  if (← gnssFallback cfg) ≠ 0 then
    pure (none, assisted)
  else
    let asked ← assistIfAsked cfg (pure ())
    let fix ← gnssWaitFix cfg (← gnssFixTimeoutSeconds cfg)
    pure (fix.toOption, asked.getD assisted)

/-- The last resort of the acquisition: assistance, and one more wait. -/
def acquireAssisted : P (Option TrackerFix) := do
  if (← agnssFetchAndInject cfg) ≠ 0 then
    pure none
  else
    let fix ← gnssWaitFix cfg cfg.agnssFixTimeoutSeconds
    pure fix.toOption

/-- From the running receiver to the cycle's first fix, if any. -/
def acquire : P (Option TrackerFix) := do
  let asked ← assistIfAsked cfg (watchdogPhase .agnss)
  let assisted := asked.getD false
  watchdogPhase .fix
  let fix ← gnssWaitFix cfg (← gnssFixTimeoutSeconds cfg)
  let (fix, assisted) ←
    match fix with
    | .ok fix => pure (some fix, assisted)
    | .error _ =>
        if ← gnssFallbackAvailable cfg then acquireFallback cfg assisted
        else pure (none, assisted)
  match fix with
  | some fix => pure (some fix)
  | none =>
      if assisted then
        pure none
      else if ← agnssWanted cfg then
        acquireAssisted cfg
      else
        pure none

/-- A report, or none, and the LED to match. -/
def reportOrSkip (fix : Option TrackerFix) (wakeUptimeMs : Nat)
    (wakeReason : WakeReason) : P Unit := do
  match fix with
  | some fix =>
      let _ ← reportFix cfg (some fix) wakeUptimeMs wakeReason
      statusLedReport cfg true
  | none =>
      if cfg.forcePublishWithoutFix then
        let _ ← reportFix cfg none wakeUptimeMs wakeReason
      statusLedReport cfg false

/-- The improved fix a few seconds after the first. -/
def settleFix (fix : TrackerFix) : P TrackerFix := do
  if cfg.gnssExtraFixSeconds > 0 then
    call (.kSleep (cfg.gnssExtraFixSeconds * 1000))
    let better ← gnssWaitFix cfg 5
    pure (better.toOption.getD fix)
  else
    pure fix

/-- The first report of a cycle. -/
def firstReport (fix : Option TrackerFix) (wakeUptimeMs : Nat)
    (wakeReason : WakeReason) : P Unit := do
  watchdogFeed
  match fix with
  | some fix =>
      let fix ← settleFix cfg fix
      reportOrSkip cfg (some fix) wakeUptimeMs wakeReason
  | none => reportOrSkip cfg none wakeUptimeMs wakeReason
  watchdogFeed

/-- `power_vbus_present() || surge_active(motion_cycle)`. -/
def keepReporting (site : VbusSite) (motionCycle : Bool) : P Bool := do
  if ← powerVbusPresent site then pure true
  else surgeActive cfg motionCycle

/-- Powered in the loop: stop watching for jolts and restart the settle
count. -/
def holdOffMotion : P Unit := do
  if ← powerVbusPresent .body then
    motionSetArmed cfg false
    Prog.modify fun s => { s with batterySleeps := 0 }

/-- One pass of the frequent report loop. -/
def frequentPass (wakeUptimeMs : Nat) (wakeReason : WakeReason) :
    P Unit := do
  watchdogPhase .frequent
  holdOffMotion cfg
  call (.kSleep (cfg.chargingIntervalSeconds * 1000))
  watchdogFeed
  let fix ← gnssWaitFix cfg 10
  reportOrSkip cfg fix.toOption wakeUptimeMs wakeReason

/-- The frequent report loop. -/
def frequentLoop (wakeUptimeMs : Nat) (wakeReason : WakeReason)
    (motionCycle : Bool) : Nat → P Unit
  | 0 => Prog.halt
  | fuel + 1 => do
      if ← keepReporting cfg .whileCond motionCycle then
        frequentPass cfg wakeUptimeMs wakeReason
        frequentLoop wakeUptimeMs wakeReason motionCycle fuel

/-- The frequent reporting section; its log line looks at the supply once
more. -/
def frequentReports (fuel : Nat) (wakeUptimeMs : Nat)
    (wakeReason : WakeReason) (motionCycle : Bool) : P Unit := do
  if ← keepReporting cfg .ifCond motionCycle then
    let _ ← powerVbusPresent .logLine
    frequentLoop cfg wakeUptimeMs wakeReason motionCycle fuel

/-- Stop the receiver, release the link, sleep. -/
def endOfCycle : P WakeReason := do
  watchdogPhase .gnssStop
  gnssStop cfg
  watchdogPhase .cloudPause
  cloudPause cfg
  batterySleep cfg .endOfCycle

/-- The cycle once the network is up. -/
def onlineCycle (fuel : Nat) (wakeUptimeMs : Nat)
    (wakeReason : WakeReason) : P WakeReason := do
  watchdogPhase .cloudResume
  watchdogGuardStart cfg.cloudConnectBudgetSeconds
  let _ ← cloudResume cfg
  watchdogGuardStop
  statusLedReport cfg false
  watchdogPhase .gnssStart
  if (← gnssStart cfg) ≠ 0 then
    cloudPause cfg
    batterySleep cfg .gnssStart
  else
    let fix ← acquire cfg
    firstReport cfg fix wakeUptimeMs wakeReason
    frequentReports cfg fuel wakeUptimeMs wakeReason
      (wakeReason == .motion)
    endOfCycle cfg

/-- The bookkeeping at the top of a cycle: its start time, narrowed to 32
bits. -/
def topOfCycle (wakeReason : WakeReason) : P Nat := do
  call (.enter (.cycle wakeReason))
  let now ← call .kUptimeGet
  if wakeReason = .vbus then
    Prog.modify fun s => { s with batterySleeps := 0 }
  watchdogPhase .wake
  watchdogFeed
  pure (u32 now)

/-- One pass of `while (1)`, from wake reason to wake reason. -/
def cycle (fuel : Nat) (wakeReason : WakeReason) : P WakeReason := do
  let wakeUptimeMs ← topOfCycle wakeReason
  if ← bringUpNetwork cfg then
    onlineCycle cfg fuel wakeUptimeMs wakeReason
  else
    statusLedSet cfg .noLte
    batterySleep cfg .noNetwork

/-- `while (1)`. -/
def mainLoop (fuel : Nat) : Nat → WakeReason → P Int
  | 0, _ => Prog.halt
  | n + 1, wakeReason => do
      mainLoop fuel n (← cycle cfg fuel wakeReason)

-- =================================================================== main

/-- The radio set-up of `main`. -/
def radioInit : P Int := do
  if cfg.skipLte then
    if (← call (.funcModeSet .activateGnss)) ≠ 0 then pure (- EIO)
    else pure 0
  else
    let _ ← call (.lib .lteLcRegisterHandler)
    let _ ← call (.lib .lteLcPsmReq)
    pure 0

/-- `main` up to its loop: zero, or what it returns. -/
def setUp : P Int := do
  let err ← call (.lib .nrfModemLibInit)
  if err ≠ 0 then
    pure err
  else
    let _ ← watchdogInit
    let _ ← call (.lib .modemInfoInit)
    let _ ← powerInit
    let _ ← motionInit cfg
    let _ ← statusLedInit cfg
    if (← gnssInit cfg) ≠ 0 then
      pure (- EIO)
    else if (← radioInit cfg) ≠ 0 then
      pure (- EIO)
    else
      let _ ← cloudInit cfg
      statusLedReport cfg false
      pure 0

def main (cycles fuel : Nat) : P Int := do
  let err ← setUp cfg
  if err ≠ 0 then pure err else mainLoop cfg fuel cycles .boot

end GpsTracker
