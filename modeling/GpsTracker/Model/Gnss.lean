/-
The two receivers and their arbiter: gnss_modem.c, gnss_ext.c, gnss.c.

`gnss_start` is the arbiter's; the receivers' own starts and stops are
logged under their own names, a modem start with the place that asked
for it. What a `wait_fix` returns is the frame the device hands over;
which frame that is, is the subject of the mailbox model.
-/
import GpsTracker.Model.Peripherals

namespace GpsTracker

open Proc

-- =========================================================== gnss_modem.c

def gnssModemInit : P Int :=
  scope .gnssModemInit (call (.lib .gnssEventHandlerSet))

/-- `gnss_modem_start`: the four settings only warn when they fail. -/
def gnssModemStart (cfg : Config) (site : StartSite) : P Int :=
  scope (.gnssModemStart site) do
    let _ ← call (.lib .gnssUseCaseSet)
    let _ ← call (.lib .gnssFixRetrySet)
    let _ ← call (.lib .gnssFixIntervalSet)
    if cfg.agnssFiltered then
      let _ ← call (.lib .gnssElevationThresholdSet)
    call (.semReset .modemFix)
    call (.semReset .agnssReq)
    let err ← call (.gnssRun true)
    if err ≠ 0 then pure err else pure 0

def gnssModemStop : P Unit :=
  scope .gnssModemStop do
    let _ ← call (.gnssRun false)

/-- `gnss_modem_wait_fix`: the fix, or an error and no fix. -/
def gnssModemWaitFix (timeoutS : Nat) : P (Except Int TrackerFix) := do
  call (.semReset .modemFix)
  if (← call (.semTake .modemFix (timeoutS * 1000))) ≠ 0 then
    pure (.error (-EAGAIN))
  else
    let pvt ← call .lastPvtGet
    pure (.ok (fixOfPvt pvt))

def gnssModemAgnssRequestGet : P (Option AgnssDataFrame) :=
  call .agnssRequestGet

def gnssModemAgnssRequestWait (timeoutS : Nat) : P Int := do
  if (← call (.semTake .agnssReq (timeoutS * 1000))) = 0 then
    pure 0
  else
    pure (-EAGAIN)

-- ============================================================= gnss_ext.c

/-- `power_set`. -/
def powerSet (on : Bool) : P Unit := do
  if (← call (.gpioPinSet on)) ≠ 0 then
    pure ()
  else
    Prog.modify fun s => { s with powered := on }

def gnssExtInit : P Int :=
  scope .gnssExtInit do
    if (← call (.lib .deviceReadyGpio)) ≠ 0 then
      pure (-ENODEV)
    else if (← call (.lib .deviceReadyUart)) ≠ 0 then
      pure (-ENODEV)
    else if (← call (.lib .deviceReadyGnss)) ≠ 0 then
      pure (-ENODEV)
    else
      let err ← call .gpioPinConfigure
      if err ≠ 0 then
        pure err
      else
        let _ ← call (.pmAction .uart false)
        pure 0

/-- The tail of `gnss_ext_start` once the module is powered. -/
def gnssExtOpen : P Int := do
  let err ← call (.pmAction .uart true)
  if err ≠ 0 ∧ err ≠ -EALREADY then
    powerSet false
    pure err
  else
    let err ← call (.pmAction .gnssDriver true)
    if err ≠ 0 ∧ err ≠ -EALREADY then
      let _ ← call (.pmAction .uart false)
      powerSet false
      pure err
    else
      call (.semReset .extFix)
      pure 0

def gnssExtStart (cfg : Config) : P Int :=
  scope .gnssExtStart do
    let s ← Prog.get
    if !s.powered then
      powerSet true
      let s ← Prog.get
      if !s.powered then
        pure (- EIO)
      else
        call (.kSleep cfg.gnssExtWarmupMs)
        gnssExtOpen
    else
      gnssExtOpen

def gnssExtStop (powerOff : Bool) : P Unit :=
  scope .gnssExtStop do
    let _ ← call (.pmAction .uart false)
    if powerOff then powerSet false

/-- `gnss_ext_wait_fix`: the fix, or an error and no fix. -/
def gnssExtWaitFix (timeoutS : Nat) : P (Except Int TrackerFix) := do
  call (.semReset .extFix)
  if (← call (.semTake .extFix (timeoutS * 1000))) ≠ 0 then
    pure (.error (-EAGAIN))
  else
    let fix ← call .lastFixGet
    pure (.ok fix)

-- ================================================================= gnss.c

def gnssInit (cfg : Config) : P Int :=
  scope .gnssInit do
    let modemErr ← gnssModemInit
    if cfg.gnssExternal then
      if (← gnssExtInit) = 0 then
        Prog.modify fun s => { s with externalUsable := true }
    let s ← Prog.get
    if !s.externalUsable && modemErr != 0 then
      pure modemErr
    else
      Prog.modify fun s =>
        { s with active := if s.externalUsable then .external else .modem }
      pure 0

/-- The part of `gnss_start` that hands the cycle to the modem. -/
def gnssStartModem (cfg : Config) : P Int := do
  Prog.modify fun s => { s with active := .modem }
  gnssModemStart cfg .cycle

def gnssStart (cfg : Config) : P Int :=
  scope .gnssStart do
    let s ← Prog.get
    if cfg.gnssExternal && s.externalUsable then
      Prog.modify fun s => { s with active := .external }
      if (← gnssExtStart cfg) = 0 then
        pure 0
      else
        gnssStartModem cfg
    else
      gnssStartModem cfg

def gnssStop (cfg : Config) : P Unit :=
  scope .gnssStop do
    let s ← Prog.get
    if cfg.gnssExternal ∧ s.active = .external then
      gnssExtStop cfg.gnssExtPowerCycle
    else
      gnssModemStop

instance {α : Type} : Code (Except Int α) :=
  ⟨fun | .ok _ => 0 | .error e => e⟩

def gnssWaitFix (cfg : Config) (timeoutS : Nat) :
    P (Except Int TrackerFix) :=
  scope .gnssWaitFix do
    let s ← Prog.get
    if cfg.gnssExternal ∧ s.active = .external then
      gnssExtWaitFix timeoutS
    else
      gnssModemWaitFix timeoutS

def gnssActiveSource : P FixSource := do
  let s ← Prog.get
  pure s.active

def gnssFixTimeoutSeconds (cfg : Config) : P Nat := do
  let s ← Prog.get
  if cfg.gnssExternal ∧ s.active = .external then
    pure cfg.gnssExtFixTimeoutSeconds
  else
    pure cfg.gnssFixTimeoutSeconds

def gnssFallbackAvailable (cfg : Config) : P Bool := do
  let s ← Prog.get
  pure (cfg.gnssExternal && s.active == .external
    && cfg.gnssExtModemFallback)

def gnssFallback (cfg : Config) : P Int :=
  scope .gnssFallback do
    if !(← gnssFallbackAvailable cfg) then
      pure (-ENOTSUP)
    else
      if cfg.gnssExternal then
        gnssExtStop true
      Prog.modify fun s => { s with active := .modem }
      let err ← gnssModemStart cfg .fallback
      if err ≠ 0 then pure err else pure 0

def gnssAgnssRequestWait (timeoutS : Nat) : P Int := do
  let s ← Prog.get
  if s.active ≠ .modem then
    pure (-EAGAIN)
  else
    gnssModemAgnssRequestWait timeoutS

end GpsTracker
