/-
The device as the main thread meets it: every call the modelled code
makes outside itself, what each call may answer and what it does, and
the moves the device makes by itself.

# What is state here

`Dev` holds what outlives a call: the clock, the VBUS line, the shared
variables of the interrupt and work-queue handlers, the receivers' run
and power states, the cloud session and the guard timer. The rest of the
libraries is nondeterminism: `Op.lib` and the reads of sensors and modem
answer anything.

# The handlers

`event_callback` (power.c) and `motion_handler` (motion.c) run on the
system work queue, one after the other, and the main thread may preempt
them anywhere. A handler is therefore a list of small steps (`Micro`):
`queue` holds the handlers raised and not yet started, `busy` what is
left of the running one.

# Time

`now` is `k_uptime_get()` and moves only by `Move.tick`. `since` is when
the main thread's last call completed, so a `k_sleep` or `k_sem_take`
completes relative to it.
-/
import GpsTracker.Lib.Safe
import GpsTracker.Model.Telemetry

namespace GpsTracker

open Proc

-- ================================================================ markers

/-- The three places that call `battery_sleep`. -/
inductive SleepSite | noNetwork | gnssStart | endOfCycle
deriving DecidableEq, Repr

/-- The places that call `power_vbus_present`. -/
inductive VbusSite | ledPattern | ifCond | logLine | whileCond | body
deriving DecidableEq, Repr

/-- The three places that call `gnss_modem_start`. -/
inductive StartSite | cycle | fallback | assistance
deriving DecidableEq, Repr

/-- Source functions whose entry and return are logged, with the
arguments that matter. `cycle` is one pass of main's `while (1)`, and
`firstSend`/`retrySend` are the two `cloud_send_telemetry` calls of
`report_fix`. -/
inductive Fn
  | cycle (wakeReason : WakeReason)
  | lteEnsureConnected | recoverIfSilent
  | cloudInit | cloudResume | cloudPause
  | gnssInit | gnssExtInit | gnssModemInit
  | gnssStart | gnssStop | gnssFallback | gnssWaitFix
  | gnssExtStart | gnssExtStop
  | gnssModemStart (site : StartSite) | gnssModemStop
  | agnssFetchAndInject
  | reportFix (haveFix : Bool) | firstSend | retrySend
  | surgeActive (motionCycle : Bool)
  | powerVbusPresent (site : VbusSite)
  | batterySleep (site : SleepSite)
  | statusLedSleep | motionSetArmed (arm : Bool) | wakeWait
deriving DecidableEq, Repr

-- ================================================================== calls

/-- The binary semaphores. -/
inductive Sem | wake | lteConnected | modemFix | extFix | agnssReq
deriving DecidableEq, Repr

/-- Devices under power management. -/
inductive PmDev | uart | gnssDriver
deriving DecidableEq, Repr

/-- `enum lte_lc_func_mode`, the values used. -/
inductive FuncMode | offline | normal | activateGnss
deriving DecidableEq, Repr

/-- `modem_info_string_get`'s selectors. -/
inductive ModemInfo | cellid | areaCode | operator
deriving DecidableEq, Repr

/-- Library functions whose result is an `int` and which change nothing
the model follows. -/
inductive LibFn
  | nrfModemLibInit | modemInfoInit | lteLcConnectAsync
  | lteLcRegisterHandler | lteLcPsmReq
  | nrfCloudClientIdGet | nrfCloudCoapInit | nrfModemAtCmd
  | gnssEventHandlerSet | gnssUseCaseSet | gnssFixRetrySet
  | gnssFixIntervalSet | gnssElevationThresholdSet
  | deviceReadyWdt | wdtInstallTimeout | wdtSetup
  | deviceReadyPmic | mfdAddCallback
  | deviceReadyAccel | attrFullScale | attrSamplingFrequency
  | attrConfiguration | attrSlopeTh | attrSlopeDur
  | deviceReadyLeds | ledBlueOff
  | deviceReadyGpio | deviceReadyUart | deviceReadyGnss
  | cjsonCreateObject | cjsonCreateArray | cjsonAddString
  | cjsonCreateString | cjsonAddItem | cjsonPrintPreallocated
  | getaddrinfo | socket | connect | setsockopt | close
deriving DecidableEq, Repr

/-- `struct nrf_cloud_credentials_status`, the fields read. -/
structure CredStatus where
  ca : Bool
  caAws : Bool
  prvKey : Bool
deriving DecidableEq, Repr

/-- `struct nrf_modem_gnss_agnss_data_frame`, the fields read or
written: the item flags and the first system's masks, if any. -/
structure AgnssDataFrame where
  dataFlags : Nat
  systems : List (Nat × Nat)
deriving DecidableEq, Repr

/-- `struct lte_lc_cell`, the fields filled in. -/
structure LteCell where
  id : Int
  tac : Int
  mcc : Int
  mnc : Int
deriving DecidableEq, Repr

/-- The request of `nrf_cloud_coap_agnss_data_get`. -/
structure AgnssRequest where
  agnssReq : AgnssDataFrame
  netInfo : Option LteCell
  filtered : Bool
  maskAngle : Nat
deriving DecidableEq, Repr

/-- `struct nrf_cloud_gnss_data` as `cloud_send_location` fills it;
`tsMs` is `none` for `NRF_CLOUD_NO_TIMESTAMP`. -/
structure GnssMessage where
  tsMs : Option Int
  lat : Rat
  lon : Rat
  accuracy : Rat
  alt : Rat
  speed : Rat
  heading : Rat
deriving DecidableEq, Repr

/-- What `blink_work_handler` shares with the main thread: the status,
pattern and blink flags, and whether the LED is in its lit phase. -/
structure LedVars where
  status : Status := .off
  pattern : LedPattern := .solid
  blinking : Bool := false
  lit : Bool := false
deriving DecidableEq, Repr

/-- One call of the main thread; `uninitialised` is the content of an
automatic array before its first write. -/
inductive Op
  | enter (f : Fn)
  | leave (f : Fn) (r : Int)
  | kUptimeGet
  | kSleep (ms : Nat)
  | sysReboot
  | semReset (s : Sem)
  | semTake (s : Sem) (ms : Nat)
  | pendingSet (r : WakeReason)
  | pendingGet
  | vbusConnectedGet
  | vbusConnectedSet (b : Bool)
  | chargerFetch
  | vbusStatusGet
  | gaugeVoltageGet
  | chargerStatusGet
  | sensorTriggerSet (on : Bool)
  | lastEventLoGet
  | lastEventHiGet
  | nwRegStatusGet
  | funcModeSet (m : FuncMode)
  | rsrpGet
  | modemInfoString (i : ModemInfo)
  | uninitialised
  | dateTimeNow
  | credentialsCheck
  | coapConnect
  | coapDisconnect
  | coapPause
  | coapResume
  | keepopenIsSupported
  | jsonMessageSend (envelope : Text)
  | locationSend (msg : GnssMessage)
  | sendSocket (envelope : Text)
  | recv (len : Nat)
  | agnssRequestGet
  | agnssDataGet (req : AgnssRequest)
  | agnssProcess
  | gnssRun (on : Bool)
  | lastPvtGet
  | lastFixGet
  | gpioPinConfigure
  | gpioPinSet (on : Bool)
  | pmAction (dev : PmDev) (resume : Bool)
  | guardFeedsLeftSet (n : Nat)
  | guardTimerSet (run : Bool)
  | wdtFeed
  | ledGet
  | ledSet (v : LedVars)
  | ledChannels (red green : Bool)
  | blinkSchedule (ms : Option Nat)
  | lib (f : LibFn)

/-- What each call answers. Pairs are an error number and the value
written through a pointer. -/
@[reducible] def Op.Ret : Op → Type
  | .kUptimeGet => Int
  | .semTake .. | .sensorTriggerSet _ | .funcModeSet _ | .coapConnect
  | .coapDisconnect | .coapPause | .coapResume | .jsonMessageSend _
  | .locationSend _ | .sendSocket _ | .agnssDataGet _ | .agnssProcess | .gnssRun _ | .gpioPinConfigure
  | .gpioPinSet _ | .pmAction .. | .chargerFetch | .lib _ => Int
  | .pendingGet => WakeReason
  | .vbusConnectedGet | .keepopenIsSupported => Bool
  | .vbusStatusGet => Int × Bool
  | .gaugeVoltageGet => Int × Int × Int
  | .chargerStatusGet => Int × Nat
  | .lastEventLoGet | .lastEventHiGet => Nat
  | .nwRegStatusGet => Int × NwRegStatus
  | .rsrpGet | .dateTimeNow => Int × Int
  | .modemInfoString _ | .recv _ => Int × Text
  | .uninitialised => Text
  | .credentialsCheck => Int × CredStatus
  | .agnssRequestGet => Option AgnssDataFrame
  | .lastPvtGet => PvtFrame
  | .lastFixGet => TrackerFix
  | .ledGet => LedVars
  | _ => Unit

/-- The calls of the tracker as a signature. -/
@[reducible] def Calls : Sig := ⟨Op, Op.Ret⟩

-- ================================================================= device

/-- One step of a work-queue handler. -/
inductive Micro
  | vbusConnected (b : Bool)
  | storeHi (t : Nat)
  | storeLo (t : Nat)
  | pend (r : WakeReason)
  | give
deriving DecidableEq, Repr

/-- A handler raised on the work queue. -/
inductive Work | vbusDetected | vbusRemoved | motion
deriving DecidableEq, Repr

/-- Device state. -/
structure Dev where
  now : Nat := 0
  since : Nat := 0
  vbus : Bool := false
  vbusConnected : Bool := false
  pending : WakeReason := .timer
  semWake : Bool := false
  semLte : Bool := false
  semModemFix : Bool := false
  semExtFix : Bool := false
  semAgnssReq : Bool := false
  queue : List Work := []
  busy : List Micro := []
  trig : Bool := false
  lastEventHi : Nat := 0
  lastEventLo : Nat := 0
  registered : Bool := false
  live : Bool := false
  modemOn : Bool := false
  pin : Bool := false
  uart : Bool := false
  driver : Bool := false
  guardArmed : Bool := false
  guardFeedsLeft : Nat := 0
  led : LedVars := {}
  red : Bool := false
  green : Bool := false
  blink : Option Nat := none
deriving DecidableEq, Repr

namespace Dev

def sem (d : Dev) : Sem → Bool
  | .wake => d.semWake
  | .lteConnected => d.semLte
  | .modemFix => d.semModemFix
  | .extFix => d.semExtFix
  | .agnssReq => d.semAgnssReq

def setSem (d : Dev) (s : Sem) (b : Bool) : Dev :=
  match s with
  | .wake => { d with semWake := b }
  | .lteConnected => { d with semLte := b }
  | .modemFix => { d with semModemFix := b }
  | .extFix => { d with semExtFix := b }
  | .agnssReq => { d with semAgnssReq := b }

/-- Whether a device is resumed. -/
def active (d : Dev) : PmDev → Bool
  | .uart => d.uart
  | .gnssDriver => d.driver

def setActive (d : Dev) (dev : PmDev) (b : Bool) : Dev :=
  match dev with
  | .uart => { d with uart := b }
  | .gnssDriver => { d with driver := b }

end Dev

-- ================================================= what a call may answer

/-- The answers the device may give.

A send is refused with `-EACCES` or `-ENOTCONN` exactly when the session
is dead, `-EALREADY` is the answer to a power transition that is already
made, and a semaphore is taken at once where it is available and timed
out where it stayed unavailable for the whole timeout. -/
def ok : (o : Op) → o.Ret → Dev → Bool
  | .kUptimeGet, r, d => r == (d.now : Int)
  | .kSleep ms, _, d => decide (d.since + ms ≤ d.now)
  | .semTake s ms, r, d =>
      if d.sem s then r == 0 && decide (d.now ≤ d.since + ms)
      else r == -EAGAIN && decide (d.since + ms ≤ d.now)
  | .pendingGet, r, d => r == d.pending
  | .vbusConnectedGet, r, d => r == d.vbusConnected
  | .vbusStatusGet, r, d => r.1 != 0 || r.2 == d.vbus
  | .lastEventLoGet, r, d => r == d.lastEventLo
  | .lastEventHiGet, r, d => r == d.lastEventHi
  | .nwRegStatusGet, r, d =>
      r.1 != 0 || (r.2 != .other) == d.registered
  | .jsonMessageSend _, r, d =>
      (r == -EACCES || r == -ENOTCONN) == !d.live
  | .pmAction dev resume, r, d =>
      (r == -EALREADY) == (d.active dev == resume)
  | .ledGet, r, d => r == d.led
  | _, _, _ => true

/-- What an answered call does to the device. A power-management action
or a pin write that fails leaves its device as it was; stopping the
modem receiver always stops it. -/
def act : (o : Op) → o.Ret → Dev → Dev
  | .semReset s, _, d => d.setSem s false
  | .semTake s _, r, d => if r == 0 then d.setSem s false else d
  | .pendingSet p, _, d => { d with pending := p }
  | .vbusConnectedSet b, _, d => { d with vbusConnected := b }
  | .sensorTriggerSet on, r, d => if r == 0 then { d with trig := on } else d
  | .coapConnect, r, d => if r == 0 then { d with live := true } else d
  | .coapResume, r, d => if r == 0 then { d with live := true } else d
  | .coapDisconnect, _, d => { d with live := false }
  | .gnssRun on, r, d =>
      if on then (if r == 0 then { d with modemOn := true } else d)
      else { d with modemOn := false }
  | .gpioPinConfigure, r, d => if r == 0 then { d with pin := false } else d
  | .gpioPinSet on, r, d => if r == 0 then { d with pin := on } else d
  | .pmAction dev resume, r, d =>
      if r == 0 then d.setActive dev resume else d
  | .guardFeedsLeftSet n, _, d => { d with guardFeedsLeft := n }
  | .guardTimerSet run, _, d => { d with guardArmed := run }
  | .ledSet v, _, d => { d with led := v }
  | .ledChannels red green, _, d => { d with red := red, green := green }
  | .blinkSchedule ms, _, d => { d with blink := ms }
  | _, _, d => d

/-- `act`, and the call completes now. -/
def effect (o : Op) (r : o.Ret) (d : Dev) : Dev :=
  { act o r d with since := d.now }

-- ============================================================== own moves

/-- `wake_signal` (wake.c) as the two steps other threads can see. -/
def wakeSignal (r : WakeReason) : List Micro := [.pend r, .give]

/-- `event_callback` (power.c), one PMIC event at a time. -/
def eventCallback : Bool → List Micro
  | true => .vbusConnected true :: wakeSignal .vbus
  | false => [.vbusConnected false]

/-- `motion_handler` (motion.c), from the clock value it read on. -/
def motionHandler (now : Nat) : List Micro :=
  [.storeHi (now / 4294967296), .storeLo (now % 4294967296)]
    ++ wakeSignal .motion

/-- The steps of a handler started at uptime `now`. -/
def Work.steps (now : Nat) : Work → List Micro
  | .vbusDetected => eventCallback true
  | .vbusRemoved => eventCallback false
  | .motion => motionHandler now

/-- One step of a handler. -/
def Micro.run (d : Dev) : Micro → Dev
  | .vbusConnected b => { d with vbusConnected := b }
  | .storeHi t => { d with lastEventHi := t }
  | .storeLo t => { d with lastEventLo := t }
  | .pend r => { d with pending := r }
  | .give => { d with semWake := true }

/-- `phase_delay` (status_led.c) in milliseconds, `none` for
`K_FOREVER`. -/
def phaseDelay (cfg : Config) (pattern : LedPattern) (nowLit : Bool) :
    Option Nat :=
  match pattern with
  | .charging => some cfg.statusLedBlinkMs
  | .battery =>
      if nowLit then some cfg.statusLedFlashOnMs
      else some cfg.statusLedFlashOffMs
  | .solid => none

/-- The red and green channels of `apply` (status_led.c). -/
def ledColour (status : Status) (on : Bool) : Bool × Bool :=
  (on && (status == .noLte || status == .lteNoFix),
    on && (status == .lteFix || status == .lteNoFix))

/-- The moves the device makes by itself. -/
inductive Move
  | tick (ms : Nat)
  | vbusIn
  | vbusOut
  | jolt
  | workStart
  | workStep
  | sessionDies
  | lteReg (registered : Bool)
  | give (s : Sem)
  | guardTick
  | blinkTick
deriving DecidableEq, Repr

/-- Which moves are enabled: the jolt interrupt needs its trigger set,
a handler starts when none is running, and the wake semaphore is given
by handler steps only. -/
def can : Move → Dev → Bool
  | .vbusIn, d => !d.vbus
  | .vbusOut, d => d.vbus
  | .jolt, d => d.trig
  | .workStart, d => d.busy.isEmpty && !d.queue.isEmpty
  | .workStep, d => !d.busy.isEmpty
  | .give s, _ => s != .wake
  | .guardTick, d => d.guardArmed
  | .blinkTick, d => d.blink.isSome
  | _, _ => true

/-- What a move does. Registration gives `lte_connected_sem` through
`lte_handler`; a guard tick is one `guard_expiry`; a blink tick is one
`blink_work_handler`. -/
def move (cfg : Config) : Move → Dev → Dev
  | .tick ms, d => { d with now := d.now + ms }
  | .vbusIn, d => { d with vbus := true, queue := d.queue ++ [.vbusDetected] }
  | .vbusOut, d => { d with vbus := false, queue := d.queue ++ [.vbusRemoved] }
  | .jolt, d => { d with queue := d.queue ++ [.motion] }
  | .workStart, d =>
      match d.queue with
      | [] => d
      | w :: q => { d with queue := q, busy := w.steps d.now }
  | .workStep, d =>
      match d.busy with
      | [] => d
      | m :: ms => m.run { d with busy := ms }
  | .sessionDies, d => { d with live := false }
  | .lteReg b, d => { d with registered := b, semLte := b || d.semLte }
  | .give s, d => d.setSem s true
  | .guardTick, d =>
      if d.guardFeedsLeft = 0 then { d with guardArmed := false }
      else { d with guardFeedsLeft := d.guardFeedsLeft - 1 }
  | .blinkTick, d =>
      let c := ledColour d.led.status !d.led.lit
      { d with
        led := { d.led with lit := !d.led.lit }
        red := c.1
        green := c.2
        blink := phaseDelay cfg d.led.pattern !d.led.lit }

/-- The tracker's surroundings as a machine. -/
def device (cfg : Config) : Machine Dev Move Calls :=
  { ok := ok, effect := effect, can := can, move := move cfg }

end GpsTracker
