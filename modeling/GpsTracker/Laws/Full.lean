/-
When the LED shows a full battery (main.c's led_pattern).

On external power `led_pattern` answers solid where the charger has
finished or the charge level, in whole percent, is above
`CONFIG_TRACKER_STATUS_LED_FULL_PERCENT`. The option's text says at or
above. With `V(T)` the least voltage of level `T`, the code switches at
`V(T + 1)`, so the two differ from `V(T)` up to there, and at 100 percent
no voltage is enough.
-/
import GpsTracker.Laws.Curve
import GpsTracker.Run.Script
import Mathlib.Order.Lattice.Nat

namespace GpsTracker

open Proc

-- ================================================================= voltages

/-- The voltages whose level is at least `percent`. -/
def reaching (percent : Nat) : Set Nat :=
  { v | (100 * percent : ℚ) ≤ exactLevel v lipo.points }

/-- The least of them. -/
noncomputable def fullVoltage (percent : Nat) : Nat := sInf (reaching percent)

theorem exactLevel_mono {v v' : Nat} (h : v ≤ v') :
    exactLevel v lipo.points ≤ exactLevel v' lipo.points :=
  Polyline.value_mono lipo.descends.falling (Nat.cast_le.mpr h)

/-- `fullVoltage` inverts the curve. -/
theorem fullVoltage_le_iff {percent v : Nat} (h : percent ≤ 100) :
    fullVoltage percent ≤ v ↔
      (100 * percent : ℚ) ≤ exactLevel v lipo.points := by
  have htop : exactLevel 4200 lipo.points = 10000 :=
    Polyline.value_high (le_refl _)
  have hsome : (100 * percent : ℚ) ≤ exactLevel 4200 lipo.points := by
    rw [htop]
    exact_mod_cast (by omega : 100 * percent ≤ 10000)
  constructor
  · intro hv
    have hmem : fullVoltage percent ∈ reaching percent :=
      Nat.sInf_mem ⟨4200, hsome⟩
    exact le_trans hmem (exactLevel_mono hv)
  · intro hv
    exact Nat.sInf_le hv

/-- `telemetry_battery_percent` is the level in whole percent. -/
theorem telemetryBatteryPercent_floor (v : Nat) :
    ⌊exactLevel v lipo.points⌋₊ ≤ 10000 ∧
      telemetryBatteryPercent v = ⌊exactLevel v lipo.points⌋₊ / 100 := by
  have htop : exactLevel v lipo.points ≤ (10000 : Nat) :=
    Polyline.value_le lipo.descends.falling
  have hle : ⌊exactLevel v lipo.points⌋₊ ≤ 10000 := Nat.floor_le_of_le htop
  have hlevel : batteryLevelPptt lipoCurve v
      = some ⌊exactLevel v lipo.points⌋₊ := lipo.level_floor v
  refine ⟨hle, ?_⟩
  unfold telemetryBatteryPercent
  rw [hlevel, Option.getD_some]
  omega

/-- It reaches `percent` at `V(percent)`. -/
theorem percent_le_iff {percent v : Nat} (hpos : 0 < percent)
    (h : percent ≤ 100) :
    percent ≤ telemetryBatteryPercent v ↔ fullVoltage percent ≤ v := by
  have hfloor : 100 * percent ≤ ⌊exactLevel v lipo.points⌋₊
      ↔ ((100 * percent : Nat) : ℚ) ≤ exactLevel v lipo.points :=
    Nat.le_floor_iff' (by omega)
  rw [(telemetryBatteryPercent_floor v).2, fullVoltage_le_iff h,
    Nat.le_div_iff_mul_le (by omega), Nat.mul_comm percent, hfloor,
    Nat.cast_mul, Nat.cast_ofNat]

/-- What `led_pattern` compares. -/
theorem percent_gt_iff {percent v : Nat} (h : percent ≤ 100) :
    telemetryBatteryPercent v > percent ↔
      percent < 100 ∧ fullVoltage (percent + 1) ≤ v := by
  have htop := telemetryBatteryPercent_floor v
  constructor
  · intro hv
    exact ⟨by omega, (percent_le_iff (by omega) (by omega)).mp hv⟩
  · rintro ⟨hlt, hv⟩
    exact (percent_le_iff (by omega) (by omega)).mpr hv

/-- A higher charge needs a higher voltage. -/
theorem fullVoltage_mono {percent : Nat} (h : percent < 100) :
    fullVoltage percent ≤ fullVoltage (percent + 1) := by
  have hnext := (fullVoltage_le_iff (by omega)).mp
    (le_refl (fullVoltage (percent + 1)))
  refine (fullVoltage_le_iff h.le).mpr (le_trans ?_ hnext)
  exact_mod_cast (by omega : 100 * percent ≤ 100 * (percent + 1))

-- ================================================================== readings

/-- What was last read of the supply and the battery. -/
structure Readout where
  supply : Bool
  fetch : Int
  gauge : Int × Int × Int
  charger : Int × Nat

/-- What an event says of the supply: the answer `led_pattern` got. -/
def supplyWord : Ev → Option Bool
  | .call _ _ (.leave (.powerVbusPresent .ledPattern) r) _ => some (r == 1)
  | _ => none

def fetchWord : Ev → Option Int
  | .call _ _ .chargerFetch r => some r
  | _ => none

def gaugeWord : Ev → Option (Int × Int × Int)
  | .call _ _ .gaugeVoltageGet r => some r
  | _ => none

def chargerWord : Ev → Option (Int × Nat)
  | .call _ _ .chargerStatusGet r => some r
  | _ => none

/-- The readings of a log. -/
def readings (l : Trace) : Readout :=
  { supply := latest supplyWord false l
    fetch := latest fetchWord (- EIO) l
    gauge := latest gaugeWord (- EIO, 0, 0) l
    charger := latest chargerWord (- EIO, 0) l }

/-- The voltage and charge state of a `power_read` that succeeded. -/
def Readout.power (ρ : Readout) : Option (Nat × ChargeState) :=
  if ρ.fetch ≠ 0 ∨ ρ.gauge.1 ≠ 0 then none
  else some (((ρ.gauge.2.1 * 1000 + ρ.gauge.2.2.tdiv 1000) % 65536).toNat,
    if ρ.charger.1 ≠ 0 then .discharging
    else chargeStateFromStatus ρ.charger.2)

variable {cfg : Config}

/-- The promise that asks for nothing. -/
abbrev Anything (_ : Tracker) : Prop := True

theorem readings_stable (p : Readout → Prop) :
    Stable (device cfg) Free fun w => p (readings w.log) :=
  fun _ _ h _ _ => h

/-- `power_read` returns what its answers say. -/
theorem powerRead_reads (b : Bool) :
    Triple (device cfg) Free Anything
      (fun w => (readings w.log).supply = b) powerRead
      fun r w => (readings w.log).supply = b ∧
        r.toOption = (readings w.log).power := by
  refine Triple.bind (R := fun err w => (readings w.log).supply = b ∧
    (readings w.log).fetch = err) ?_ fun err => ?_
  · exact Triple.op (readings_stable fun ρ => ρ.supply = b)
      fun w r h _ _ => ⟨trivial, h, rfl⟩
  refine Triple.ite (fun herr => Triple.ret fun w h => ⟨h.1, ?_⟩)
    fun herr => ?_
  · rw [Readout.power, h.2, if_pos (.inl herr)]
    rfl
  refine Triple.bind (R := fun g w => (readings w.log).supply = b ∧
    (readings w.log).fetch = err ∧ (readings w.log).gauge = g) ?_ fun g => ?_
  · exact Triple.op (readings_stable fun ρ => ρ.supply = b ∧ ρ.fetch = err)
      fun w r h _ _ => ⟨trivial, h.1, h.2, rfl⟩
  obtain ⟨err', val1, val2⟩ := g
  refine Triple.ite (fun herr' => Triple.ret fun w h => ⟨h.1, ?_⟩)
    fun herr' => ?_
  · rw [Readout.power, h.2.2, if_pos (.inr herr')]
    rfl
  refine Triple.bind (R := fun c w => (readings w.log).supply = b ∧
    (readings w.log).fetch = err ∧
    (readings w.log).gauge = (err', val1, val2) ∧
    (readings w.log).charger = c) ?_ fun c => ?_
  · exact Triple.op (readings_stable fun ρ => ρ.supply = b ∧ ρ.fetch = err ∧
      ρ.gauge = (err', val1, val2))
      fun w r h _ _ => ⟨trivial, h.1, h.2.1, h.2.2, rfl⟩
  obtain ⟨err'', status⟩ := c
  -- three calls, the first two of which end the reading when they fail
  have hread : ¬(err ≠ 0 ∨ err' ≠ 0) := by
    rintro (h | h)
    · exact herr h
    · exact herr' h
  refine Triple.ite (fun h'' => Triple.ret fun w h => ⟨h.1, ?_⟩)
    fun h'' => Triple.ret fun w h => ⟨h.1, ?_⟩
  · rw [Readout.power, h.2.1, h.2.2.1, h.2.2.2, if_neg hread, if_pos h'']
    rfl
  · rw [Readout.power, h.2.1, h.2.2.1, h.2.2.2, if_neg hread, if_neg h'']
    rfl

/-- `power_vbus_present` in `led_pattern` is what the reading says. -/
theorem powerVbusPresent_reads :
    Triple (device cfg) Free Anything Anything
      (powerVbusPresent .ledPattern)
      fun b w => (readings w.log).supply = b := by
  have F : Frame (device cfg) Free Anything Anything (fun _ => True)
      fun _ _ => True := ⟨fun _ _ _ _ _ => trivial,
    fun _ _ _ _ _ _ _ => trivial, fun _ _ _ _ => trivial, fun _ _ => trivial⟩
  refine triple_scope (F.invariant _) (F.invariant _) fun b =>
    Triple.op F.stable fun w r _ _ _ => ⟨trivial, ?_⟩
  cases b <;> rfl

/-- `led_pattern` on external power, by its readings. -/
theorem ledPattern_reads (hled : cfg.statusLed = true) :
    Triple (device cfg) Free Anything Anything (ledPattern cfg)
      fun pattern w => (readings w.log).supply = true →
        ∀ battMv charge, (readings w.log).power = some (battMv, charge) →
          (pattern = .solid ↔ charge = .full ∨
            telemetryBatteryPercent battMv > cfg.statusLedFullPercent) := by
  unfold ledPattern
  rw [hled]
  refine powerVbusPresent_reads.bind fun b => Triple.ite
    (fun hb => Triple.ret fun w h hsupply => ?_) fun _ => ?_
  · rw [h] at hsupply
    rw [hsupply] at hb
    cases hb
  refine (powerRead_reads b).bind fun power => ?_
  cases power with
  | error err =>
      refine Triple.ret fun w h _ battMv charge hpower => ?_
      rw [hpower] at h
      cases h.2
  | ok p =>
      obtain ⟨battMv', charge'⟩ := p
      refine Triple.ite
        (fun hfull => Triple.ret fun w h _ battMv charge hpower => ?_)
        fun hfull => Triple.ret fun w h _ battMv charge hpower => ?_
      · rw [hpower] at h
        cases h.2
        exact ⟨fun _ => hfull, fun _ => rfl⟩
      · rw [hpower] at h
        cases h.2
        exact ⟨nofun, fun hn => absurd hn hfull⟩

-- =================================================================== the law

/-- `led_pattern` on external power is solid from `V(T + 1)` on, and never
by voltage at 100 percent; that is what `V(T)` asks for exactly outside
the percent that `V(T)` begins. -/
theorem led_full_iff (hled : cfg.statusLed = true)
    (hT : 50 ≤ cfg.statusLedFullPercent ∧ cfg.statusLedFullPercent ≤ 100)
    {w w' : Tracker} {pattern : LedPattern}
    (hr : Reach (device cfg) (ledPattern cfg) w (.ret pattern, w'))
    (hsupply : (readings w'.log).supply = true)
    {battMv : Nat} {charge : ChargeState}
    (hpower : (readings w'.log).power = some (battMv, charge)) :
    (pattern = .solid ↔ charge = .full ∨ cfg.statusLedFullPercent < 100 ∧
      fullVoltage (cfg.statusLedFullPercent + 1) ≤ battMv) ∧
    ((pattern = .solid ↔
        charge = .full ∨ fullVoltage cfg.statusLedFullPercent ≤ battMv) ↔
      charge = .full ∨ battMv < fullVoltage cfg.statusLedFullPercent ∨
        cfg.statusLedFullPercent < 100 ∧
          fullVoltage (cfg.statusLedFullPercent + 1) ≤ battMv) := by
  have hcode := (ledPattern_reads hled).result (w := w) trivial trivial hr
    (always_free _) hsupply battMv charge hpower
  rw [percent_gt_iff hT.2] at hcode
  refine ⟨hcode, ?_⟩
  rw [hcode]
  have hmono : cfg.statusLedFullPercent < 100 →
      fullVoltage cfg.statusLedFullPercent
        ≤ fullVoltage (cfg.statusLedFullPercent + 1) := fullVoltage_mono
  by_cases hfull : charge = .full
  · simp only [hfull, true_or]
  · simp only [hfull, false_or]
    omega

/-- External power and a battery `microvolts` above 4 V. -/
def topped (microvolts : Int) : Script Statics Dev Move Calls :=
  fun w o =>
    match o with
    | .gaugeVoltageGet => ([], ((0 : Int), (4 : Int), microvolts))
    | o => calm w o

/-- A powered device. -/
def powered : Tracker := { start {} with dev := { vbus := true } }

/-- `led_pattern` on it. -/
def playPattern (microvolts : Int) : P LedPattern × Tracker :=
  play (device {}) (topped microvolts) 20 (ledPattern {}) powered

theorem playPattern_reach (microvolts : Int) :
    Reach (device {}) (ledPattern {}) powered
      ((playPattern microvolts).1, (playPattern microvolts).2) :=
  play_reach .init

/-- A battery at 4.15 V. -/
theorem led_full_iff_full :
    ∃ w', Reach (device {}) (ledPattern {}) powered (.ret .solid, w') ∧
      (LedPattern.solid = .solid ↔ ChargeState.discharging = .full ∨
        ({} : Config).statusLedFullPercent < 100 ∧
          fullVoltage (({} : Config).statusLedFullPercent + 1) ≤ 4150) := by
  have hr := playPattern_reach 150000
  rw [show (playPattern 150000).1 = .ret .solid from rfl] at hr
  exact ⟨_, hr, (led_full_iff rfl (by decide) hr (by decide +kernel)
    (by decide +kernel)).1⟩

/-- At 4.125 V the level is 95 percent, and the LED blinks. -/
theorem led_full_blinks :
    ∃ w', Reach (device {}) (ledPattern {}) powered (.ret .charging, w') ∧
      (readings w'.log).supply = true ∧
      (readings w'.log).power = some (4125, .discharging) ∧
      ¬(LedPattern.charging = .solid ↔ ChargeState.discharging = .full ∨
        fullVoltage ({} : Config).statusLedFullPercent ≤ 4125) := by
  have hr := playPattern_reach 125000
  rw [show (playPattern 125000).1 = .ret .charging from rfl] at hr
  refine ⟨_, hr, by decide +kernel, by decide +kernel, fun h => ?_⟩
  have hlevel : fullVoltage 95 ≤ 4125 :=
    (percent_le_iff (by decide) (by decide)).mp (by decide +kernel)
  cases h.mpr (.inr hlevel)

end GpsTracker
