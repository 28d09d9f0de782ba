/-
Scripted surroundings, for runs on fixed inputs.

`calm` is a device on which everything works and nothing happens: every
library call succeeds, waits run to their end, and no fix, no jolt and no
power arrive. A script for a particular run overrides it call by call.
-/
import GpsTracker.Run.Surroundings

namespace GpsTracker

open Proc

/-- A position without a fix. -/
def noPvt : PvtFrame :=
  { fixValid := false, latitude := 0, longitude := 0, altitude := 0
    accuracy := 0, speed := 0, heading := 0, hdop := 0, svUsedInFix := [] }

/-- The answer of the calm device. -/
def calmAnswer (d : Dev) : (o : Op) → o.Ret
  | .kUptimeGet => (d.now : Int)
  | .semTake s _ => if d.sem s then (0 : Int) else -EAGAIN
  | .pendingGet => d.pending
  | .vbusConnectedGet => d.vbusConnected
  | .vbusStatusGet => ((0 : Int), d.vbus)
  | .lastEventLoGet => d.lastEventLo
  | .lastEventHiGet => d.lastEventHi
  | .nwRegStatusGet =>
      ((0 : Int), if d.registered then .registeredHome else .other)
  | .jsonMessageSend _ => if d.live then (0 : Int) else -ENOTCONN
  | .pmAction dev resume =>
      if d.active dev == resume then -EALREADY else (0 : Int)
  | .ledGet => d.led
  | .gaugeVoltageGet => ((0 : Int), (4 : Int), (0 : Int))
  | .chargerStatusGet => ((0 : Int), (0 : Nat))
  | .rsrpGet => ((0 : Int), (-90 : Int))
  | .dateTimeNow => ((0 : Int), (d.now : Int))
  | .keepopenIsSupported => true
  | .modemInfoString _ => ((0 : Int), "00000".toList)
  | .recv _ => ((0 : Int), ([] : Text))
  | .uninitialised => ([] : Text)
  | .credentialsCheck =>
      ((0 : Int), { ca := true, caAws := true, prvKey := true })
  | .agnssRequestGet => none
  | .lastPvtGet => noPvt
  | .lastFixGet => fixOfPvt noPvt
  | .sensorTriggerSet _ | .funcModeSet _ | .coapConnect | .coapDisconnect
  | .coapPause | .coapResume | .locationSend _ | .sendSocket _
  | .agnssDataGet _ | .agnssProcess | .gnssRun _ | .gpioPinConfigure
  | .gpioPinSet _ | .chargerFetch | .lib _ => (0 : Int)
  | .enter _ | .leave .. | .kSleep _ | .sysReboot | .semReset _
  | .pendingSet _ | .vbusConnectedSet _ | .guardFeedsLeftSet _
  | .guardTimerSet _ | .wdtFeed | .ledSet _ | .ledChannels ..
  | .blinkSchedule _ => ()

/-- The time the calm device lets pass before a call. -/
def calmMoves (d : Dev) : Op → List Move
  | .kSleep ms => [.tick ms]
  | .semTake s ms => if d.sem s then [] else [.tick ms]
  | _ => []

/-- Everything works and nothing happens. -/
def calm : Script Statics Dev Move Calls := fun w o =>
  (calmMoves w.dev o, calmAnswer w.dev o)

/-- Whether a fetch has begun. -/
def fetched (l : Trace) : Bool :=
  l.any fun
    | .call _ _ (.enter .agnssFetchAndInject) _ => true
    | _ => false

/-- The modem wants assistance whenever it is asked and no fix arrives;
an injection answers `inject`, a restart after a fetch `restart`. -/
def thirsty (inject restart : Int) : Script Statics Dev Move Calls :=
  fun w o =>
    match o with
    | .semTake .agnssReq _ => ([.give .agnssReq], (0 : Int))
    | .agnssProcess => ([], inject)
    | .gnssRun true => ([], if fetched w.log then restart else (0 : Int))
    | o => calm w o

/-- Whether a connect has been tried. -/
def tried (l : Trace) : Bool :=
  l.any fun
    | .call _ _ .coapConnect _ => true
    | _ => false

/-- A first connect that fails, if `down`, and a session that dies under
every send, if not. -/
def unsteady (down : Bool) : Script Statics Dev Move Calls := fun w o =>
  match o with
  | .coapConnect => ([], if down && !tried w.log then -ETIMEDOUT else (0 : Int))
  | .jsonMessageSend text =>
      if down then calm w (.jsonMessageSend text)
      else ([.sessionDies], -ENOTCONN)
  | o => calm w o

/-- A modem receiver that does not start. -/
def deaf : Script Statics Dev Move Calls := fun w o =>
  match o with
  | .gnssRun true => ([], - EIO)
  | o => calm w o

/-- A cloud that cannot be reached, and power, if `power`, from the first
cycle on. -/
def unreachable (power : Bool) : Script Statics Dev Move Calls :=
  fun w o =>
    match o with
    | .coapConnect => ([], -ETIMEDOUT)
    | .enter (.cycle _) => (if power && !w.dev.vbus then [.vbusIn] else [], ())
    | o => calm w o

/-- Power applied on the way into the last sleep; its handler runs at
once, if `prompt`, or while the thread sleeps. -/
def plugged (prompt : Bool) : Script Statics Dev Move Calls :=
  fun w o =>
    match o with
    | .enter (.batterySleep .endOfCycle) =>
        (if prompt then
          [.vbusIn, .workStart, .workStep, .workStep, .workStep]
        else [.vbusIn], ())
    | .semTake .wake ms =>
        if prompt then calm w (.semTake .wake ms)
        else ([.workStart, .workStep, .workStep, .workStep], (0 : Int))
    | o => calm w o

/-- Power from the first cycle on: with the network gone, if `offline`,
or until the first pause. -/
def driven (offline : Bool) : Script Statics Dev Move Calls :=
  fun w o =>
    match o with
    | .enter (.cycle .boot) =>
        (if offline then [.lteReg false, .vbusIn] else [.vbusIn], ())
    | .kSleep ms =>
        (if w.dev.vbus then [.tick ms, .vbusOut] else [.tick ms], ())
    | o => calm w o

/-- A position with a fix. -/
def somePvt : PvtFrame :=
  { noPvt with fixValid := true, latitude := 52, longitude := 13, hdop := 1 }

/-- A fix for every wait, and power for the first pass. -/
def sighted : Script Statics Dev Move Calls := fun w o =>
  match o with
  | .semTake .modemFix _ => ([.give .modemFix], (0 : Int))
  | .lastPvtGet => ([], somePvt)
  | o => driven false w o

/-- A jolt whose handler runs at once. -/
def joltMoves : List Move :=
  [.jolt, .workStart, .workStep, .workStep, .workStep, .workStep]

/-- A jolt in the first sleep, if `asleep`, or with every report of an
armed cycle. -/
def jolted (asleep : Bool) : Script Statics Dev Move Calls := fun w o =>
  match o with
  | .semTake .wake ms =>
      if asleep && w.dev.lastEventLo == 0 then
        (.tick 1000 :: joltMoves, (0 : Int))
      else calm w (.semTake .wake ms)
  | .enter (.reportFix _) =>
      (if !asleep && w.dev.trig then joltMoves else [], ())
  | o => calm w o

/-- The modem receiver alone, unassisted, and a report with or without a
fix. -/
def fixless : Config :=
  { forcePublishWithoutFix := true, gnssExternal := false, agnss := false }

/-- `fixless`, with the modem restarted after a minute's silence. -/
def hasty : Config := { fixless with modemRecoveryMinutes := 1 }

/-- `fixless`, with the first fix good enough. -/
def hurried : Config := { fixless with gnssExtraFixSeconds := 0 }

/-- A registered device at power-on. -/
def start (cfg : Config) : Tracker :=
  { st := Statics.boot cfg 0 0, dev := { registered := true }, log := [] }

/-- The device at power-on has booted and done nothing. -/
theorem start_booted (cfg : Config) : Booted cfg (start cfg) :=
  ⟨⟨0, 0, rfl⟩, rfl, rfl, rfl, rfl, rfl, rfl, rfl, rfl⟩

/-- The state of `main` after `steps` steps of a scripted run. -/
@[irreducible] def playMain (cfg : Config) (scr : Script Statics Dev Move Calls)
    (cycles fuel steps : Nat) : P Int × Tracker :=
  play (device cfg) scr steps (main cfg cycles fuel) (start cfg)

/-- What a script plays is a run of `main`. -/
theorem playMain_reach (cfg : Config) (scr : Script Statics Dev Move Calls)
    (cycles fuel steps : Nat) :
    Reach (device cfg) (main cfg cycles fuel) (start cfg)
      (playMain cfg scr cycles fuel steps) := by
  unfold playMain
  exact play_reach .init

/-- The same of `main`'s loop, with credentials. -/
@[irreducible] def playLoop (cfg : Config) (scr : Script Statics Dev Move Calls)
    (cycles fuel steps : Nat) (w : Tracker) : P Int × Tracker :=
  play (device cfg) scr steps (mainLoop cfg fuel cycles .boot) w

/-- And of its loop, from any state. -/
theorem playLoop_reach (cfg : Config) (scr : Script Statics Dev Move Calls)
    (cycles fuel steps : Nat) (w : Tracker) :
    Reach (device cfg) (mainLoop cfg fuel cycles .boot) w
      (playLoop cfg scr cycles fuel steps w) := by
  unfold playLoop
  exact play_reach .init

/-- A registered device at the top of `main`'s loop, with credentials. -/
def ready (cfg : Config) : Tracker :=
  { start cfg with st := { Statics.boot cfg 0 0 with credsOk := true } }

end GpsTracker
