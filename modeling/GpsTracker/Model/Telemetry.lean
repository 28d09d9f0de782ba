/-
The telemetry payload (telemetry.c, wake.c's reason names).

`printf` conversions are functions to text: `%u` and `%d` print a number
in decimal, `%.6f` and `%.2f` print the rational a `double` denotes,
rounded to the nearest decimal with ties to even. A `snprintf` that
would not fit is the caller's to notice: `snprintf` gives the whole
text, and the length test of the source decides.
-/
import GpsTracker.Model.Types
import Mathlib.Algebra.Group.Nat.Defs

namespace GpsTracker

-- ============================================================ conversions

/-- `x` modulo 2³², as a C `unsigned int` keeps it. -/
def u32 (x : Int) : Nat := (x % 4294967296).toNat

/-- A 32-bit word read as a C `int`. -/
def toInt32 (n : Nat) : Int :=
  if n % 4294967296 < 2147483648 then (n % 4294967296 : Nat)
  else (n % 4294967296 : Nat) - 4294967296

/-- `%u`. -/
def fmtU (n : Nat) : Text := Nat.toDigits 10 n

/-- `%d` and `%lld`. -/
def fmtD (i : Int) : Text :=
  if i < 0 then '-' :: fmtU i.natAbs else fmtU i.natAbs

/-- The nearest integer to `n / d`, ties to even. -/
def roundHalfEven (n d : Nat) : Nat :=
  let q := n / d
  let r := n % d
  if 2 * r < d then q
  else if d < 2 * r then q + 1
  else q + q % 2

/-- `n` in decimal with at least `k` digits. -/
def padded (k n : Nat) : Text :=
  let ds := fmtU n
  List.replicate (k - ds.length) '0' ++ ds

/-- `%.<places>f`. -/
def fmtF (places : Nat) (q : Rat) : Text :=
  let n := roundHalfEven (q.num.natAbs * 10 ^ places) q.den
  (if q < 0 then ['-'] else [])
    ++ fmtU (n / 10 ^ places) ++ '.' :: padded places (n % 10 ^ places)

-- ========================================================== battery curve

/-- `struct battery_level_point`. -/
structure BatteryLevelPoint where
  lvlPptt : Nat
  lvlMv : Nat
deriving DecidableEq, Repr

/-- `lipo_curve`. -/
def lipoCurve : List BatteryLevelPoint :=
  [⟨10000, 4200⟩, ⟨9000, 4050⟩, ⟨7500, 3900⟩, ⟨5000, 3750⟩,
   ⟨2500, 3600⟩, ⟨1000, 3450⟩, ⟨0, 3200⟩]

/-- The `while` of `battery_level_pptt`: advance to the first point at
or below the measured voltage, keeping the point before it; `none` past
the end of the table. -/
def batteryWalk (battMv : Nat) :
    Option BatteryLevelPoint → List BatteryLevelPoint →
      Option (Option BatteryLevelPoint × BatteryLevelPoint)
  | _, [] => none
  | pa, pb :: rest =>
      if pb.lvlPptt > 0 ∧ battMv < pb.lvlMv then
        batteryWalk battMv (some pb) rest
      else some (pa, pb)

/-- `battery_level_pptt` over any table; `none` where the source would
read outside it. -/
def batteryLevelPptt (curve : List BatteryLevelPoint) (battMv : Nat) :
    Option Nat :=
  match curve with
  | [] => none
  | top :: _ =>
      if battMv ≥ top.lvlMv then some top.lvlPptt
      else
        match batteryWalk battMv none curve with
        | none => none
        | some (pa, pb) =>
            if battMv < pb.lvlMv then some pb.lvlPptt
            else
              pa.map fun pa =>
                -- int operands meet an unsigned one, so all of it is
                -- computed modulo 2³²
                u32 (pb.lvlPptt
                  + (u32 (u32 ((pa.lvlPptt : Int) - pb.lvlPptt)
                      * u32 ((battMv : Int) - pb.lvlMv)) : Nat)
                    / u32 ((pa.lvlMv : Int) - pb.lvlMv))

/-- `telemetry_battery_percent`. -/
def telemetryBatteryPercent (battMv : Nat) : Nat :=
  ((batteryLevelPptt lipoCurve battMv).getD 0 / 100) % 256

-- ================================================================ payload

/-- `struct tracker_telemetry`. -/
structure Telemetry where
  longitude : Rat
  latitude : Rat
  hdop : Rat
  battMv : Nat
  charge : ChargeState
  signalDbm : Int
  awakeS : Nat
  wake : WakeReason

/-- `(int)t->charge`. -/
def ChargeState.code : ChargeState → Int
  | .discharging => 0
  | .charging => 1
  | .full => 2

/-- `wake_reason_name`. -/
def wakeReasonName : WakeReason → Text
  | .boot => "boot".toList
  | .vbus => "vbus".toList
  | .motion => "motion".toList
  | .timer => "timer".toList

/-- The `wdt` member as it is spliced in: `char wdt[16]` cuts it to
fifteen characters. -/
def wdtMember (phase : Nat) : Text :=
  if phase = Phase.none.code then []
  else ("\"wdt\": ".toList ++ fmtD (toInt32 phase) ++ ", ".toList).take 15

/-- The text `telemetry_build_json` prints, before its length test. -/
def telemetryText (cfg : Config) (phase : Nat) (t : Telemetry) : Text :=
  "\x7b\"coords\": [".toList ++ fmtF 6 t.longitude ++ ", ".toList
    ++ fmtF 6 t.latitude ++ "], \"hdop\": ".toList ++ fmtF 2 t.hdop
    ++ ", \"batt\": ".toList ++ fmtU (telemetryBatteryPercent t.battMv)
    ++ ", \"volt\": ".toList ++ fmtU t.battMv
    ++ ", \"charge\": ".toList ++ fmtD t.charge.code
    ++ ", \"signal\": ".toList ++ fmtD t.signalDbm
    ++ ", \"awake\": ".toList ++ fmtU t.awakeS
    ++ ", \"wake\": \"".toList ++ wakeReasonName t.wake ++ "\", ".toList
    ++ wdtMember phase
    ++ "\"fw\": \"".toList ++ cfg.buildStamp
    ++ "\", \"hw\": \"".toList ++ cfg.hwRevision ++ "\"\x7d".toList

/-- `telemetry_build_json` into a buffer of `len` bytes. -/
@[irreducible] def telemetryBuildJson (cfg : Config) (phase : Nat) (t : Telemetry)
    (len : Nat) : Except Int Text :=
  let text := telemetryText cfg phase t
  if text.length ≥ len then .error (-ENOMEM) else .ok text

end GpsTracker
