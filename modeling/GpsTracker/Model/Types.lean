/-
The tracker's vocabulary: the enumerations of its headers, its error
numbers and its Kconfig options.

Enumerations keep the source's names without their prefix
(`TRACKER_WAKE_VBUS` is `WakeReason.vbus`). Results are `Int`, zero for
success and a negated error number otherwise, as in the source. Kconfig
integers are `Nat`, with the defaults of `Kconfig`; strings are lists of
characters.
-/

namespace GpsTracker

/-- Text as the C strings hold it, without the terminating NUL. -/
abbrev Text := List Char

/-- The terminator of a C string. -/
def NUL : Char := Char.ofNat 0

/-- The C string at the head of a buffer. -/
def cstr (buf : Text) : Text := buf.takeWhile (· ≠ NUL)

-- =========================================================== error numbers

def EIO : Int := 5
def EAGAIN : Int := 11
def ENOMEM : Int := 12
def EACCES : Int := 13
def ENODEV : Int := 19
def ETIMEDOUT : Int := 116
def EINPROGRESS : Int := 119
def EALREADY : Int := 120
def ENOTCONN : Int := 128
def ENOTSUP : Int := 134

-- ============================================================ enumerations

/-- `enum tracker_wake_reason` (wake.h). -/
inductive WakeReason | boot | timer | vbus | motion
deriving DecidableEq, Repr

/-- `enum tracker_fix_source` (fix.h). -/
inductive FixSource | modem | external
deriving DecidableEq, Repr

/-- `enum tracker_charge_state` (power.h), in the source's order. -/
inductive ChargeState | discharging | charging | full
deriving DecidableEq, Repr

/-- `enum link_state` (cloud_nrf.c). -/
inductive LinkState | disconnected | connected | paused
deriving DecidableEq, Repr

/-- `enum tracker_status` (status_led.h). -/
inductive Status | off | noLte | lteNoFix | lteFix
deriving DecidableEq, Repr

/-- `enum tracker_led_pattern` (status_led.h). -/
inductive LedPattern | solid | charging | battery
deriving DecidableEq, Repr

/-- `enum tracker_phase` (watchdog.h), in the source's order. -/
inductive Phase
  | none | wake | lte | cloudResume | gnssStart | agnss | fix | report
  | frequent | gnssStop | cloudPause | ledSleep | motionArm | sleep
  | noNetwork
deriving DecidableEq, Repr

/-- The number stored in retained memory and sent as `wdt`. -/
def Phase.code : Phase → Nat
  | .none => 0 | .wake => 1 | .lte => 2 | .cloudResume => 3
  | .gnssStart => 4 | .agnss => 5 | .fix => 6 | .report => 7
  | .frequent => 8 | .gnssStop => 9 | .cloudPause => 10
  | .ledSleep => 11 | .motionArm => 12 | .sleep => 13
  | .noNetwork => 14

/-- `enum lte_lc_nw_reg_status`, as far as the tracker tells its values
apart. -/
inductive NwRegStatus | registeredHome | registeredRoaming | other
deriving DecidableEq, Repr

/-- `CONFIG_TRACKER_CLOUD_PROVIDER`. -/
inductive Provider | nrfcloud | hologram
deriving DecidableEq, Repr

-- ================================================================= Kconfig

/-- The Kconfig options the modelled code reads. -/
structure Config where
  cloudProvider : Provider := .nrfcloud
  nrfCloudAppId : Text := "GPSTRACKER".toList
  nrfCloudPortalLocation : Bool := false
  cloudConnectBudgetSeconds : Nat := 240
  modemTimeWaitSeconds : Nat := 60
  agnss : Bool := true
  agnssProactiveWaitSeconds : Nat := 5
  agnssFixTimeoutSeconds : Nat := 90
  agnssBudgetSeconds : Nat := 180
  agnssMinIntervalSeconds : Nat := 1800
  agnssStopGnssDuringFetch : Bool := true
  agnssFullRequestFallback : Bool := true
  agnssFiltered : Bool := true
  agnssElevationMask : Nat := 5
  motionWake : Bool := true
  motionSettleCycles : Nat := 1
  motionSurgeSeconds : Nat := 600
  hwRevision : Text := "feather-nrf9151".toList
  buildStamp : Text := "2026-08-02T17:51Z".toList
  sleepSeconds : Nat := 540
  watchdogMarginSeconds : Nat := 300
  chargingIntervalSeconds : Nat := 60
  gnssFixTimeoutSeconds : Nat := 120
  gnssExtraFixSeconds : Nat := 5
  gnssExternal : Bool := true
  gnssExtWarmupMs : Nat := 500
  gnssExtFixTimeoutSeconds : Nat := 60
  gnssExtUereMeters : Nat := 3
  gnssExtPowerCycle : Bool := true
  gnssExtModemFallback : Bool := true
  lteConnectTimeoutSeconds : Nat := 120
  modemRecoveryMinutes : Nat := 30
  rebootMinutes : Nat := 120
  statusLed : Bool := true
  statusLedBlinkMs : Nat := 500
  statusLedFlashOnMs : Nat := 50
  statusLedFlashOffMs : Nat := 1950
  statusLedFullPercent : Nat := 95
  statusLedOnBattery : Bool := false
  forcePublishWithoutFix : Bool := false
  skipLte : Bool := false
  offlineDebug : Bool := false
  hologramDeviceKey : Text := "CHANGEME".toList
  hologramTopic : Text := "TRACKER".toList

-- ==================================================================== fixes

/-- `struct tracker_fix` (fix.h). A C `double` or `float` is a rational
here, and arithmetic on it is exact. -/
structure TrackerFix where
  latitude : Rat
  longitude : Rat
  altitude : Rat
  accuracy : Rat
  speed : Rat
  heading : Rat
  hdop : Rat
  satellites : Nat
  source : FixSource
deriving DecidableEq, Repr

/-- `struct nrf_modem_gnss_pvt_data_frame`, the fields read: the
`FIX_VALID` flag, the position, and which satellites were used in it. -/
structure PvtFrame where
  fixValid : Bool
  latitude : Rat
  longitude : Rat
  altitude : Rat
  accuracy : Rat
  speed : Rat
  heading : Rat
  hdop : Rat
  svUsedInFix : List Bool
deriving DecidableEq, Repr

/-- `satellites_in_fix` (gnss_modem.c). -/
def satellitesInFix (pvt : PvtFrame) : Nat :=
  pvt.svUsedInFix.count true

/-- The `*out` of `gnss_modem_wait_fix`. -/
def fixOfPvt (pvt : PvtFrame) : TrackerFix :=
  { latitude := pvt.latitude
    longitude := pvt.longitude
    altitude := pvt.altitude
    accuracy := pvt.accuracy
    speed := pvt.speed
    heading := pvt.heading
    hdop := pvt.hdop
    satellites := satellitesInFix pvt
    source := .modem }

/-- `struct gnss_data`, the fields read; `fix` is a status other than
`GNSS_FIX_STATUS_NO_FIX`. -/
structure GnssData where
  fix : Bool
  hdop : Nat
  latitude : Int
  longitude : Int
  altitude : Int
  speed : Nat
  bearing : Nat
  satellitesCnt : Nat
deriving DecidableEq, Repr

/-- The conversion in `gnss_data_handler` (gnss_ext.c). -/
def fixOfGnssData (cfg : Config) (data : GnssData) : TrackerFix :=
  let hdop : Rat := data.hdop / 1000
  { latitude := data.latitude / 1000000000
    longitude := data.longitude / 1000000000
    altitude := data.altitude / 1000
    accuracy := hdop * cfg.gnssExtUereMeters
    speed := data.speed / 1000
    heading := data.bearing / 1000
    hdop := hdop
    satellites := data.satellitesCnt
    source := .external }

end GpsTracker
