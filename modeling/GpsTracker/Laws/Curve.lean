/-
The battery level is the discharge curve, read exactly (telemetry.c).

`battery_level_pptt` walks its table down to the first point at or below
the measured voltage and interpolates from there, in a mix of `int` and
`unsigned int`. Over any table whose voltages and levels fall to a last
level of 0, the walk ends inside the table with a point before the one it
ends at, no operand is negative and no result leaves 32 bits, so what it
computes is the polyline through the table, rounded down.
-/
import GpsTracker.Lib.Polyline
import GpsTracker.Model.Telemetry
import Mathlib.Data.List.Chain
import Mathlib.Data.Rat.Floor

namespace GpsTracker

-- ================================================================== tables

/-- A table of 16-bit points for `battery_level_pptt`: voltages and levels
fall from the top to a last level of 0. -/
structure DischargeCurve where
  top : BatteryLevelPoint
  rest : List BatteryLevelPoint
  word : ∀ p ∈ top :: rest, p.lvlPptt < 65536 ∧ p.lvlMv < 65536
  falling : (top :: rest).IsChain fun p q =>
    q.lvlMv < p.lvlMv ∧ q.lvlPptt < p.lvlPptt
  empties : ((top :: rest).getLast (List.cons_ne_nil _ _)).lvlPptt = 0

/-- The table itself. -/
def DischargeCurve.points (c : DischargeCurve) : List BatteryLevelPoint :=
  c.top :: c.rest

/-- `lipo_curve` is such a table. -/
def lipo : DischargeCurve where
  top := ⟨10000, 4200⟩
  rest := lipoCurve.tail
  word := by decide
  falling := by decide
  empties := by decide

/-- A point of a table as a point of the plane. -/
def BatteryLevelPoint.point (p : BatteryLevelPoint) : Polyline.Point ℚ :=
  ⟨p.lvlMv, p.lvlPptt⟩

/-- The level at a voltage, before rounding. -/
def exactLevel (battMv : Nat) (ps : List BatteryLevelPoint) : ℚ :=
  Polyline.value (battMv : ℚ) (ps.map BatteryLevelPoint.point)

/-- Voltages and levels fall along the rest of a table. -/
def Descends (ps : List BatteryLevelPoint) : Prop :=
  ps.IsChain fun p q => q.lvlMv < p.lvlMv ∧ q.lvlPptt < p.lvlPptt

theorem Descends.falling {ps : List BatteryLevelPoint} (h : Descends ps) :
    Polyline.Falling (ps.map BatteryLevelPoint.point) := by
  refine (List.isChain_map _).mpr (h.imp fun p q hpq => ⟨?_, ?_⟩)
  · exact Nat.cast_lt.mpr hpq.1
  · exact Nat.cast_le.mpr hpq.2.le

variable {p q : BatteryLevelPoint} {ps : List BatteryLevelPoint}
variable {battMv : Nat}

theorem Descends.head (h : Descends (p :: q :: ps)) :
    q.lvlMv < p.lvlMv ∧ q.lvlPptt < p.lvlPptt :=
  (List.isChain_cons_cons.mp h).1

theorem Descends.tail (h : Descends (p :: q :: ps)) : Descends (q :: ps) :=
  (List.isChain_cons_cons.mp h).2

-- ==================================================================== walk

/-- Where the walk stops: two neighbours of the table, the voltage below
the upper one and, unless the lower one is empty, not below it. -/
structure StopsAt (battMv : Nat) (pa pb : BatteryLevelPoint) : Prop where
  drop : pb.lvlMv < pa.lvlMv ∧ pb.lvlPptt < pa.lvlPptt
  below : battMv < pa.lvlMv
  floor : battMv < pb.lvlMv → pb.lvlPptt = 0

/-- From its second point on the walk stops inside the table, and the
segment it stops at is the polyline's. -/
theorem batteryWalk_stops (h : Descends (p :: q :: ps))
    (hlast : ((q :: ps).getLast (List.cons_ne_nil _ _)).lvlPptt = 0)
    (hp : battMv < p.lvlMv) :
    ∃ pa pb, batteryWalk battMv (some p) (q :: ps) = some (some pa, pb) ∧
      StopsAt battMv pa pb ∧ pa ∈ p :: q :: ps ∧ pb ∈ q :: ps ∧
      exactLevel battMv (p :: q :: ps) = if battMv < pb.lvlMv then 0 else
        Polyline.chord pa.point pb.point battMv := by
  -- on what is left of the table; `p` is the point passed last
  induction ps generalizing p q with
  | nil =>
      have hq : q.lvlPptt = 0 := hlast
      refine ⟨p, q, ?_, ⟨h.head, hp, fun _ => hq⟩, by simp, by simp, ?_⟩
      · rw [batteryWalk, if_neg]
        rw [hq]
        omega
      · have hp' : (battMv : ℚ) < p.point.arg := Nat.cast_lt.mpr hp
        unfold exactLevel
        split
        next hlow =>
          have hlow' : (battMv : ℚ) < q.point.arg := Nat.cast_lt.mpr hlow
          rw [List.map_cons, List.map_cons, Polyline.value_low h.falling hlow']
          show ((q.lvlPptt : Nat) : ℚ) = 0
          rw [hq, Nat.cast_zero]
        next hlow =>
          exact Polyline.value_chord hp' (Nat.cast_le.mpr (not_lt.mp hlow))
  | cons r ps ih =>
      have hq : 0 < q.lvlPptt := Nat.zero_lt_of_lt h.tail.head.2
      -- the code walks on while the voltage is below the point it is at
      by_cases hlow : battMv < q.lvlMv
      · obtain ⟨pa, pb, hwalk, hstop, hpa, hpb, hlevel⟩ :=
          ih h.tail (by simpa using hlast) hlow
        refine ⟨pa, pb, ?_, hstop, List.mem_cons_of_mem _ hpa,
          List.mem_cons_of_mem _ hpb, ?_⟩
        · rw [batteryWalk, if_pos ⟨hq, hlow⟩]
          exact hwalk
        · rw [← hlevel]
          exact Polyline.value_low h.falling (Nat.cast_lt.mpr hlow)
      · refine ⟨p, q, ?_, ⟨h.head, hp, fun hn => absurd hn hlow⟩, by simp,
          by simp, ?_⟩
        · rw [batteryWalk, if_neg fun hn => hlow hn.2]
        · rw [if_neg hlow]
          exact Polyline.value_chord (Nat.cast_lt.mpr hp)
            (Nat.cast_le.mpr (not_lt.mp hlow))

-- ============================================================== arithmetic

theorem u32_cast {n : Nat} (h : n < 4294967296) : u32 n = n := by
  unfold u32
  omega

theorem u32_sub {m n : Nat} (hle : n ≤ m) (h : m < 4294967296) :
    u32 ((m : Int) - n) = m - n := by
  rw [← Nat.cast_sub hle]
  exact u32_cast (by omega)

/-- No operation of the interpolation between `pa` and `pb` wraps: each is
what it would be on integers, and the divisor is not zero. -/
structure NoWrap (battMv : Nat) (pa pb : BatteryLevelPoint) : Prop where
  levels : (u32 ((pa.lvlPptt : Int) - pb.lvlPptt) : Int)
    = pa.lvlPptt - pb.lvlPptt
  rise : (u32 ((battMv : Int) - pb.lvlMv) : Int) = battMv - pb.lvlMv
  span : (u32 ((pa.lvlMv : Int) - pb.lvlMv) : Int) = pa.lvlMv - pb.lvlMv
  product : (u32 (u32 ((pa.lvlPptt : Int) - pb.lvlPptt)
      * u32 ((battMv : Int) - pb.lvlMv)) : Int)
    = (pa.lvlPptt - pb.lvlPptt) * (battMv - pb.lvlMv)
  divisor : u32 ((pa.lvlMv : Int) - pb.lvlMv) ≠ 0
  sum : (u32 (pb.lvlPptt + (u32 (u32 ((pa.lvlPptt : Int) - pb.lvlPptt)
        * u32 ((battMv : Int) - pb.lvlMv)) : Nat)
        / u32 ((pa.lvlMv : Int) - pb.lvlMv)) : Int)
    = pb.lvlPptt + (pa.lvlPptt - pb.lvlPptt) * (battMv - pb.lvlMv)
        / (pa.lvlMv - pb.lvlMv)

variable {pa pb : BatteryLevelPoint}

/-- What the interpolation computes between two points it stops at. -/
theorem interpolation_sum (hstop : StopsAt battMv pa pb)
    (hbatt : pb.lvlMv ≤ battMv) (hpptt : pa.lvlPptt < 65536)
    (hmv : pa.lvlMv < 65536) :
    NoWrap battMv pa pb ∧
      u32 (pb.lvlPptt + (u32 (u32 ((pa.lvlPptt : Int) - pb.lvlPptt)
          * u32 ((battMv : Int) - pb.lvlMv)) : Nat)
          / u32 ((pa.lvlMv : Int) - pb.lvlMv))
        = pb.lvlPptt + (pa.lvlPptt - pb.lvlPptt) * (battMv - pb.lvlMv)
          / (pa.lvlMv - pb.lvlMv) := by
  obtain ⟨⟨hmono, hlvl⟩, hbelow, -⟩ := hstop
  have hlevels := u32_sub hlvl.le (by omega : pa.lvlPptt < 4294967296)
  have hrise := u32_sub hbatt (by omega : battMv < 4294967296)
  have hspan := u32_sub hmono.le (by omega : pa.lvlMv < 4294967296)
  have hprod : (pa.lvlPptt - pb.lvlPptt) * (battMv - pb.lvlMv)
      < 65536 * 65535 :=
    Nat.mul_lt_mul_of_lt_of_le (by omega) (by omega) (by omega)
  have hmul : u32 ((pa.lvlPptt - pb.lvlPptt : Nat)
      * (battMv - pb.lvlMv : Nat))
      = (pa.lvlPptt - pb.lvlPptt) * (battMv - pb.lvlMv) := by
    rw [← Nat.cast_mul]
    exact u32_cast (by omega)
  -- the voltage is below the upper point, so the quotient is below the
  -- difference of the levels
  have hquot : (pa.lvlPptt - pb.lvlPptt) * (battMv - pb.lvlMv)
      / (pa.lvlMv - pb.lvlMv) ≤ pa.lvlPptt - pb.lvlPptt := by
    refine Nat.div_le_of_le_mul ?_
    rw [Nat.mul_comm (pa.lvlMv - pb.lvlMv)]
    exact Nat.mul_le_mul_left _ (by omega)
  have hsum : u32 (pb.lvlPptt + (u32 (u32 ((pa.lvlPptt : Int) - pb.lvlPptt)
          * u32 ((battMv : Int) - pb.lvlMv)) : Nat)
          / u32 ((pa.lvlMv : Int) - pb.lvlMv))
        = pb.lvlPptt + (pa.lvlPptt - pb.lvlPptt) * (battMv - pb.lvlMv)
          / (pa.lvlMv - pb.lvlMv) := by
    rw [hlevels, hrise, hspan, hmul, ← Int.natCast_ediv, ← Nat.cast_add]
    exact u32_cast (by omega)
  have hlevels' : ((pa.lvlPptt - pb.lvlPptt : Nat) : Int)
      = pa.lvlPptt - pb.lvlPptt := Nat.cast_sub hlvl.le
  have hrise' : ((battMv - pb.lvlMv : Nat) : Int) = battMv - pb.lvlMv :=
    Nat.cast_sub hbatt
  have hspan' : ((pa.lvlMv - pb.lvlMv : Nat) : Int) = pa.lvlMv - pb.lvlMv :=
    Nat.cast_sub hmono.le
  refine ⟨⟨?_, ?_, ?_, ?_, ?_, ?_⟩, hsum⟩
  · rw [hlevels, hlevels']
  · rw [hrise, hrise']
  · rw [hspan, hspan']
  · rw [hlevels, hrise, hmul, Nat.cast_mul, hlevels', hrise']
  · rw [hspan]
    omega
  · rw [hsum, Nat.cast_add, Int.natCast_ediv, Nat.cast_mul, hlevels', hrise',
      hspan']

/-- Rounded down, the chord is what integers compute. -/
theorem chord_floor (hdrop : pb.lvlMv < pa.lvlMv ∧ pb.lvlPptt < pa.lvlPptt)
    (hbatt : pb.lvlMv ≤ battMv) :
    ⌊Polyline.chord pa.point pb.point (battMv : ℚ)⌋₊
      = pb.lvlPptt + (pa.lvlPptt - pb.lvlPptt) * (battMv - pb.lvlMv)
          / (pa.lvlMv - pb.lvlMv) := by
  have hchord : Polyline.chord pa.point pb.point (battMv : ℚ)
      = (((pa.lvlPptt - pb.lvlPptt) * (battMv - pb.lvlMv) : Nat) : ℚ)
          / ((pa.lvlMv - pb.lvlMv : Nat) : ℚ) + (pb.lvlPptt : Nat) := by
    rw [Nat.cast_mul, Nat.cast_sub hdrop.2.le, Nat.cast_sub hdrop.1.le,
      Nat.cast_sub hbatt, add_comm]
    rfl
  have hpos : (0 : ℚ) ≤ (((pa.lvlPptt - pb.lvlPptt) * (battMv - pb.lvlMv)
      : Nat) : ℚ) / ((pa.lvlMv - pb.lvlMv : Nat) : ℚ) :=
    div_nonneg (Nat.cast_nonneg _) (Nat.cast_nonneg _)
  rw [hchord, Nat.floor_add_natCast hpos, Rat.natFloor_natCast_div_natCast,
    Nat.add_comm]

-- ================================================================= the law

namespace DischargeCurve

variable (c : DischargeCurve)

theorem descends : Descends c.points := c.falling

/-- From the top voltage on the walk stops at once. -/
theorem walk_above (h : c.top.lvlMv ≤ battMv) :
    batteryWalk battMv none c.points = some (none, c.top) := by
  rw [points, batteryWalk, if_neg]
  rintro ⟨-, hlow⟩
  omega

/-- Below the top voltage the walk stops at the only point, an empty one,
or between two neighbours. -/
theorem walk_below (h : battMv < c.top.lvlMv) :
    (batteryWalk battMv none c.points = some (none, c.top) ∧
      exactLevel battMv c.points = c.top.lvlPptt) ∨
    ∃ pa pb, batteryWalk battMv none c.points = some (some pa, pb) ∧
      StopsAt battMv pa pb ∧ pa ∈ c.points ∧
      exactLevel battMv c.points = if battMv < pb.lvlMv then 0 else
        Polyline.chord pa.point pb.point battMv := by
  obtain ⟨top, rest, word, falling, empties⟩ := c
  cases rest with
  | nil =>
      have htop : top.lvlPptt = 0 := empties
      refine .inl ⟨?_, rfl⟩
      rw [points, batteryWalk, if_neg]
      rw [htop]
      omega
  | cons q ps =>
      have hdesc : Descends (top :: q :: ps) := falling
      have hpos : 0 < top.lvlPptt := Nat.zero_lt_of_lt hdesc.head.2
      obtain ⟨pa, pb, hwalk, hstop, hpa, -, hlevel⟩ :=
        batteryWalk_stops hdesc (by simpa using empties) h
      refine .inr ⟨pa, pb, ?_, hstop, hpa, hlevel⟩
      rw [points, batteryWalk, if_pos ⟨hpos, h⟩]
      exact hwalk

/-- The walk ends inside the table; where its result is interpolated, it
has a point before the one it ended at and nothing wraps. -/
theorem walk_ends (battMv : Nat) :
    ∃ pa pb, batteryWalk battMv none c.points = some (pa, pb) ∧
      (battMv < c.top.lvlMv → ¬battMv < pb.lvlMv →
        ∃ p, pa = some p ∧ NoWrap battMv p pb) := by
  rcases Nat.lt_or_ge battMv c.top.lvlMv with h | h
  · rcases c.walk_below h with ⟨hwalk, -⟩ | ⟨pa, pb, hwalk, hstop, hpa, -⟩
    · exact ⟨none, c.top, hwalk, fun _ hn => absurd h hn⟩
    · refine ⟨some pa, pb, hwalk, fun _ hn => ⟨pa, rfl, ?_⟩⟩
      exact (interpolation_sum hstop (by omega) (c.word pa hpa).1
        (c.word pa hpa).2).1
  · exact ⟨none, c.top, c.walk_above h, fun hn => by omega⟩

/-- `battery_level_pptt` is the polyline, rounded down. -/
theorem level_floor (battMv : Nat) :
    batteryLevelPptt c.points battMv
      = some ⌊exactLevel battMv c.points⌋₊ := by
  rcases Nat.lt_or_ge battMv c.top.lvlMv with h | h
  · show (if battMv ≥ c.top.lvlMv then some c.top.lvlPptt else _) = _
    rw [if_neg (Nat.not_le.mpr h)]
    rcases c.walk_below h with
      ⟨hwalk, hlevel⟩ | ⟨pa, pb, hwalk, hstop, hpa, hlevel⟩
    · rw [hwalk, hlevel, Nat.floor_natCast]
      exact if_pos h
    · rw [hwalk, hlevel]
      by_cases hlow : battMv < pb.lvlMv
      · rw [if_pos hlow, Nat.floor_zero]
        show (if battMv < pb.lvlMv then _ else _) = _
        rw [if_pos hlow, hstop.floor hlow]
      · rw [if_neg hlow, chord_floor hstop.drop (by omega)]
        show (if battMv < pb.lvlMv then _ else _) = _
        rw [if_neg hlow]
        exact congrArg some (interpolation_sum hstop (by omega)
          (c.word pa hpa).1 (c.word pa hpa).2).2
  · have htop : exactLevel battMv c.points = (c.top.lvlPptt : ℚ) :=
      Polyline.value_high (Nat.cast_le.mpr h)
    rw [htop, Nat.floor_natCast]
    exact if_pos h

/-- Interpolation over any table: the walk ends inside it and nothing
wraps, the level is the polyline rounded down, the first level above the
table and 0 below it, goes through the table, never falls while the
voltage rises and never exceeds the first level. -/
theorem battery_level_interpolates (battMv : Nat) :
    (∃ pa pb, batteryWalk battMv none c.points = some (pa, pb) ∧
      (battMv < c.top.lvlMv → ¬battMv < pb.lvlMv →
        ∃ p, pa = some p ∧ NoWrap battMv p pb)) ∧
    batteryLevelPptt c.points battMv
      = some ⌊exactLevel battMv c.points⌋₊ ∧
    (c.top.lvlMv ≤ battMv →
      batteryLevelPptt c.points battMv = some c.top.lvlPptt) ∧
    ((∀ p ∈ c.points, battMv < p.lvlMv) →
      batteryLevelPptt c.points battMv = some 0) ∧
    (∀ p ∈ c.points, batteryLevelPptt c.points p.lvlMv = some p.lvlPptt) ∧
    (∀ battMv' ≥ battMv, ∃ l l', batteryLevelPptt c.points battMv = some l ∧
      batteryLevelPptt c.points battMv' = some l' ∧ l ≤ l') ∧
    ∃ l, batteryLevelPptt c.points battMv = some l ∧ l ≤ c.top.lvlPptt := by
  -- the floor of the polyline gives the points of the table, and its slope
  -- the order
  refine ⟨c.walk_ends battMv, c.level_floor battMv, fun h => if_pos h,
    fun h => ?_, fun p hp => ?_,
    fun v hv => ⟨_, _, c.level_floor battMv, c.level_floor v, ?_⟩,
    _, c.level_floor battMv, ?_⟩
  · have hne : c.points.map BatteryLevelPoint.point ≠ [] := by
      simp [DischargeCurve.points]
    have hlast := Polyline.value_below (x := (battMv : ℚ)) hne fun p hp => by
        obtain ⟨q, hq, rfl⟩ := List.mem_map.mp hp
        exact Nat.cast_lt.mpr (h q hq)
    have hempty : exactLevel battMv c.points = ((0 : Nat) : ℚ) := by
      refine hlast.trans ?_
      rw [List.getLast_map]
      exact congrArg Nat.cast c.empties
    rw [c.level_floor, hempty, Nat.floor_natCast]
  · have hat : exactLevel p.lvlMv c.points = (p.lvlPptt : ℚ) :=
      Polyline.value_at c.descends.falling (List.mem_map_of_mem hp)
    rw [c.level_floor, hat, Nat.floor_natCast]
  · have hmono : exactLevel battMv c.points ≤ exactLevel v c.points :=
      Polyline.value_mono c.descends.falling (Nat.cast_le.mpr hv)
    exact Nat.floor_le_floor hmono
  · have hle : exactLevel battMv c.points ≤ (c.top.lvlPptt : ℚ) :=
      Polyline.value_le c.descends.falling
    exact Nat.floor_le_of_le hle

end DischargeCurve

end GpsTracker
