/-
The main thread's statics and the small drivers: watchdog.c, power.c,
wake.c, motion.c and status_led.c.

`Statics` holds the static variables only the main thread writes. What a
handler shares (`pending`, `vbus_connected`, the last jolt's two words,
the LED flags, `guard_feeds_left`) is in `Dev` and reached by calls.
`device_is_ready` answers 0 for a ready device, like every other call.
-/
import GpsTracker.Model.Device

namespace GpsTracker

open Proc

-- ================================================================ statics

/-- The main thread's static variables, file by file. -/
structure Statics where
  /-- main.c -/
  lastSendUptime : Int := 0
  modemBounced : Bool := false
  batterySleeps : Nat
  /-- cloud_nrf.c -/
  linkState : LinkState := .disconnected
  credsOk : Bool := false
  modemTimeReady : Bool := false
  /-- agnss.c -/
  lastFetchUptimeMs : Int := 0
  /-- gnss.c -/
  active : FixSource := .modem
  externalUsable : Bool := false
  /-- gnss_ext.c -/
  powered : Bool := false
  /-- motion.c -/
  usable : Bool := false
  armed : Bool := false
  /-- watchdog.c; the first two are retained across a reset -/
  phaseMagic : Nat
  phaseCurrent : Nat
  phaseAtReset : Nat := 0
  wdtChannel : Int := -1
  /-- status_led.c -/
  ledAvailable : Bool := false
deriving DecidableEq, Repr

/-- The statics at boot: initialisers of the source, and two retained
words that hold anything. -/
def Statics.boot (cfg : Config) (magic phase : Nat) : Statics :=
  { batterySleeps := cfg.motionSettleCycles
    phaseMagic := magic
    phaseCurrent := phase }

/-- Programs of the main thread. -/
abbrev P := Prog Statics Calls

/-- One call of the main thread. -/
def call (o : Op) : P o.Ret := Prog.op (S := Calls) o

/-- Values as the log shows them. -/
class Code (α : Type) where
  code : α → Int

instance : Code Int := ⟨id⟩
instance : Code Unit := ⟨fun _ => 0⟩
instance : Code Bool := ⟨fun b => if b then 1 else 0⟩
instance : Code WakeReason :=
  ⟨fun | .boot => 0 | .timer => 1 | .vbus => 2 | .motion => 3⟩

/-- `p` as the body of `f`: entry and return are logged. -/
def scope {α : Type} [Code α] (f : Fn) (p : P α) : P α := do
  call (.enter f)
  let a ← p
  call (.leave f (Code.code a))
  pure a

-- ============================================================= watchdog.c

/-- `PHASE_MAGIC`. -/
def PHASE_MAGIC : Nat := 0x57445431

/-- `WDT_TIMEOUT_MS`, what the hardware counts down from. -/
def WDT_TIMEOUT_MS (cfg : Config) : Nat :=
  u32 ((cfg.sleepSeconds + cfg.watchdogMarginSeconds : Nat) * 1000)

/-- `WDT_GUARD_PERIOD_S`. -/
def WDT_GUARD_PERIOD_S : Nat := 30

def watchdogPhase (p : Phase) : P Unit :=
  Prog.modify fun s => { s with phaseCurrent := p.code }

def watchdogFeed : P Unit := do
  let s ← Prog.get
  if s.wdtChannel ≥ 0 then call .wdtFeed

/-- `DIV_ROUND_UP(n, d)` in 32-bit unsigned arithmetic. -/
def divRoundUp (n d : Nat) : Nat := u32 ((n : Int) + d - 1) / d

def watchdogGuardStart (budgetS : Nat) : P Unit := do
  call (.guardFeedsLeftSet (divRoundUp budgetS WDT_GUARD_PERIOD_S))
  watchdogFeed
  call (.guardTimerSet true)

def watchdogGuardStop : P Unit := do
  call (.guardTimerSet false)
  watchdogFeed

/-- `phase_init`. -/
def phaseInit : P Unit :=
  Prog.modify fun s =>
    if s.phaseMagic = PHASE_MAGIC then
      { s with phaseAtReset := s.phaseCurrent
               phaseCurrent := Phase.none.code }
    else
      { s with phaseMagic := PHASE_MAGIC
               phaseAtReset := Phase.none.code
               phaseCurrent := Phase.none.code }

def watchdogInit : P Int := do
  phaseInit
  if (← call (.lib .deviceReadyWdt)) ≠ 0 then
    pure (-ENODEV)
  else
    let channel ← call (.lib .wdtInstallTimeout)
    Prog.modify fun s => { s with wdtChannel := channel }
    if channel < 0 then
      pure channel
    else
      let err ← call (.lib .wdtSetup)
      if err ≠ 0 then
        Prog.modify fun s => { s with wdtChannel := -1 }
        pure err
      else pure 0

-- ================================================================= wake.c

/-- `wake_wait`: drop what was raised before, then wait. -/
def wakeWait (seconds : Nat) : P WakeReason :=
  scope .wakeWait do
    call (.pendingSet .timer)
    call (.semReset .wake)
    if (← call (.semTake .wake (seconds * 1000))) ≠ 0 then
      pure .timer
    else
      call .pendingGet

-- ================================================================ power.c

/-- `VBUS_STAT_PRESENT` read from the charger, or the handler's last word
where the charger cannot be read. -/
def readVbusPresent : P Bool := do
  if (← call .chargerFetch) ≠ 0 then
    call .vbusConnectedGet
  else
    let (err, present) ← call .vbusStatusGet
    if err ≠ 0 then call .vbusConnectedGet else pure present

def powerInit : P Int := do
  if (← call (.lib .deviceReadyPmic)) ≠ 0 then
    pure (-ENODEV)
  else
    let err ← call (.lib .mfdAddCallback)
    if err ≠ 0 then
      pure err
    else
      let present ← readVbusPresent
      call (.vbusConnectedSet present)
      pure 0

def powerVbusPresent (site : VbusSite) : P Bool :=
  scope (.powerVbusPresent site) do
    let present ← readVbusPresent
    call (.vbusConnectedSet present)
    call .vbusConnectedGet

/-- `charge_state_from_status`: bit 1 is COMPLETED, bits 2 to 4 are the
charging stages. -/
def chargeStateFromStatus (status : Nat) : ChargeState :=
  if status / 2 % 2 = 1 then .full
  else if status / 4 % 8 ≠ 0 then .charging
  else .discharging

/-- `power_read`: voltage and charge state, or an error. -/
def powerRead : P (Except Int (Nat × ChargeState)) := do
  let err ← call .chargerFetch
  if err ≠ 0 then
    pure (.error err)
  else
    let (err, val1, val2) ← call .gaugeVoltageGet
    if err ≠ 0 then
      pure (.error err)
    else
      let battMv := ((val1 * 1000 + val2.tdiv 1000) % 65536).toNat
      let (err, status) ← call .chargerStatusGet
      if err ≠ 0 then
        pure (.ok (battMv, .discharging))
      else
        pure (.ok (battMv, chargeStateFromStatus status))

-- =============================================================== motion.c

/-- `motion_init`; the five attribute writes all fail the same way. -/
def motionInit (cfg : Config) : P Int := do
  if !cfg.motionWake then
    pure 0
  else if (← call (.lib .deviceReadyAccel)) ≠ 0 then
    pure (-ENODEV)
  else if (← call (.lib .attrFullScale)) ≠ 0 then
    pure (- EIO)
  else if (← call (.lib .attrSamplingFrequency)) ≠ 0 then
    pure (- EIO)
  else if (← call (.lib .attrConfiguration)) ≠ 0 then
    pure (- EIO)
  else if (← call (.lib .attrSlopeTh)) ≠ 0 then
    pure (- EIO)
  else if (← call (.lib .attrSlopeDur)) ≠ 0 then
    pure (- EIO)
  else
    Prog.modify fun s => { s with usable := true }
    pure 0

def motionSetArmed (cfg : Config) (arm : Bool) : P Unit :=
  scope (.motionSetArmed arm) do
    let s ← Prog.get
    if !cfg.motionWake || !s.usable || arm == s.armed then
      pure ()
    else if (← call (.sensorTriggerSet arm)) ≠ 0 then
      pure ()
    else
      Prog.modify fun s => { s with armed := arm }

/-- `motion_last_event_uptime`: low word first, then high word. -/
def motionLastEventUptime (cfg : Config) : P Int := do
  if !cfg.motionWake then
    pure 0
  else
    let lo ← call .lastEventLoGet
    let hi ← call .lastEventHiGet
    pure ((hi * 4294967296 + lo : Nat) : Int)

-- =========================================================== status_led.c

/-- `apply`: set the phase, then drive the channels for the status. -/
def ledApply (on : Bool) : P Unit := do
  let v ← call .ledGet
  call (.ledSet { v with lit := on })
  let c := ledColour v.status on
  call (.ledChannels c.1 c.2)

/-- `stop_blink`. -/
def stopBlink : P Unit := do
  let v ← call .ledGet
  call (.ledSet { v with blinking := false })
  call (.blinkSchedule none)

def statusLedSet (cfg : Config) (status : Status) : P Unit := do
  let s ← Prog.get
  if !cfg.statusLed || !s.ledAvailable then
    pure ()
  else
    let v ← call .ledGet
    call (.ledSet { v with status := status })
    if status = .off then stopBlink
    ledApply true
    let v ← call .ledGet
    if v.blinking then
      call (.blinkSchedule (phaseDelay cfg v.pattern true))

def statusLedInit (cfg : Config) : P Int := do
  if !cfg.statusLed then
    pure 0
  else if (← call (.lib .deviceReadyLeds)) ≠ 0 then
    pure (-ENODEV)
  else
    Prog.modify fun s => { s with ledAvailable := true }
    let _ ← call (.lib .ledBlueOff)
    statusLedSet cfg .off
    pure 0

def statusLedPattern (cfg : Config) (pattern : LedPattern) : P Unit := do
  let s ← Prog.get
  if !cfg.statusLed || !s.ledAvailable then
    pure ()
  else
    let wantBlink := pattern != .solid
    let v ← call .ledGet
    if pattern = v.pattern && wantBlink == v.blinking then
      pure ()
    else
      call (.ledSet { v with pattern := pattern })
      if pattern = .solid then
        stopBlink
        ledApply true
      else
        let v ← call .ledGet
        call (.ledSet { v with blinking := true })
        ledApply true
        call (.blinkSchedule (phaseDelay cfg pattern true))

def statusLedSleep (cfg : Config) : P Unit :=
  scope .statusLedSleep do
    if cfg.statusLed && !cfg.statusLedOnBattery then
      statusLedSet cfg .off

end GpsTracker
