/-
The telemetry payload reads back (telemetry.c).

The format string of `telemetry_build_json` is an object with a blank
behind every comma and colon; the spliced `wdt` is one more member of it.
What each conversion prints is a JSON number or string of its own, so the
whole is read member by member. How long each piece can get decides the
buffer: at their extremes together the fields fill it to the last byte.
-/
import GpsTracker.Lib.Json
import GpsTracker.Model.Telemetry
import Mathlib.Tactic.NormNum

namespace GpsTracker

open Json (Reads Plain)

-- ============================================================= conversions

/-- `%u` prints a number. -/
theorem fmtU_reads (n : Nat) : Reads (fmtU n) (.num n) :=
  (Json.Numeral.nat n).pos

/-- So does `%d`. -/
theorem fmtD_reads (i : Int) : Reads (fmtD i) (.num i) := by
  unfold fmtD
  split
  next h =>
    have hi : (i : Rat) = -((i.natAbs : Nat) : Rat) := by
      have habs : i = -(i.natAbs : Int) := by omega
      rw [← Int.cast_natCast, ← Int.cast_neg, ← habs]
    rw [hi]
    exact (Json.Numeral.nat i.natAbs).neg
  next h =>
    have hi : (i : Rat) = ((i.natAbs : Nat) : Rat) := by
      have habs : i = (i.natAbs : Int) := by omega
      rw [← Int.cast_natCast, ← habs]
    rw [hi]
    exact (Json.Numeral.nat i.natAbs).pos

/-- A padded number is made of digits. -/
theorem padded_digit (k n : Nat) : ∀ c ∈ padded k n, c.isDigit = true := by
  intro c hc
  rcases List.mem_append.mp hc with hc | hc
  · rw [(List.mem_replicate.mp hc).2]
    rfl
  · exact Json.toDigits_digit c hc

/-- Zeros in front leave the number as it is. -/
theorem padded_value (k n : Nat) : Nat.ofDigitChars 10 (padded k n) 0 = n := by
  unfold padded fmtU
  rw [Nat.ofDigitChars_append, Nat.ofDigitChars_replicate_zero, Nat.mul_zero,
    Nat.ofDigitChars_ten_toDigits]

/-- A number below a power of ten has no more digits than that, -/
theorem fmtU_length {n k : Nat} (hk : 0 < k) (h : n < 10 ^ k) :
    (fmtU n).length ≤ k :=
  (Nat.length_toDigits_le_iff (by decide) hk).mpr h

/-- and padded it has exactly as many. -/
theorem padded_length {k n : Nat} (hk : 0 < k) (h : n < 10 ^ k) :
    (padded k n).length = k := by
  have := fmtU_length hk h
  simp only [padded, List.length_append, List.length_replicate]
  omega

/-- A number in units of its last printed place. -/
def units (places : Nat) (q : Rat) : Nat :=
  roundHalfEven (q.num.natAbs * 10 ^ places) q.den

/-- What `%.<places>f` prints of a number: it rounded. -/
def rounded (places : Nat) (q : Rat) : Rat :=
  if q < 0 then -(units places q / 10 ^ places) else units places q / 10 ^ places

/-- The text of a number without its sign. -/
theorem fixed_numeral {places : Nat} (hp : 0 < places) (n : Nat) :
    Json.Numeral (fmtU (n / 10 ^ places)
      ++ '.' :: padded places (n % 10 ^ places)) (n / 10 ^ places) := by
  have hlen : (padded places (n % 10 ^ places)).length = places :=
    padded_length hp (Nat.mod_lt n (Nat.pow_pos (by decide)))
  have hne : padded places (n % 10 ^ places) ≠ [] := by
    intro he
    rw [he] at hlen
    exact absurd hlen.symm (Nat.ne_of_gt hp)
  have hnum := Json.Numeral.fixed (n / 10 ^ places) hne
    (padded_digit places (n % 10 ^ places))
  have hdm : (n : Rat) = (10 : Rat) ^ places * ((n / 10 ^ places : Nat) : Rat)
      + ((n % 10 ^ places : Nat) : Rat) := by
    exact_mod_cast (Nat.div_add_mod n (10 ^ places)).symm
  have hpos : (10 : Rat) ^ places ≠ 0 := by positivity
  have hq : ((n / 10 ^ places : Nat) : Rat) + ((n % 10 ^ places : Nat) : Rat)
      / 10 ^ places = (n : Rat) / 10 ^ places := by
    rw [hdm, add_div, mul_div_cancel_left₀ _ hpos]
  rw [padded_value, hlen, hq] at hnum
  exact hnum

/-- `%.<places>f` prints a number. -/
theorem fmtF_reads {places : Nat} (hp : 0 < places) (q : Rat) :
    Reads (fmtF places q) (.num (rounded places q)) := by
  have hnum := fixed_numeral hp (units places q)
  unfold fmtF rounded
  by_cases hq : q < 0
  · simp only [if_pos hq]
    exact hnum.neg
  · simp only [if_neg hq]
    exact hnum.pos

/-- An exact quotient is not rounded. -/
theorem roundHalfEven_mul {d : Nat} (hd : 0 < d) (m : Nat) :
    roundHalfEven (m * d) d = m := by
  unfold roundHalfEven
  simp only [Nat.mul_div_cancel m hd, Nat.mul_mod_left]
  rw [if_pos (by omega)]

/-- A number with no more places than are printed has that many units. -/
theorem units_exact {places : Nat} {q : Rat} {k : Int}
    (h : q = k / 10 ^ places) : units places q = k.natAbs := by
  have hpow : (10 : Rat) ^ places ≠ 0 := by positivity
  have hden : (q.den : Rat) ≠ 0 := Nat.cast_ne_zero.mpr q.den_nz
  have hcross : q.num * 10 ^ places = k * q.den := by
    have hq : (q.num : Rat) / q.den = k / 10 ^ places :=
      (Rat.num_div_den q).trans h
    rw [div_eq_div_iff hden hpow] at hq
    exact_mod_cast hq
  have habs : q.num.natAbs * 10 ^ places = k.natAbs * q.den := by
    have := congrArg Int.natAbs hcross
    rwa [Int.natAbs_mul, Int.natAbs_mul, Int.natAbs_pow, Int.natAbs_natCast]
      at this
  rw [units, habs, roundHalfEven_mul q.den_pos]

/-- Such a number is printed as it is. -/
theorem rounded_exact {places : Nat} {q : Rat} {k : Int}
    (h : q = k / 10 ^ places) : rounded places q = q := by
  have hpow : (0 : Rat) < 10 ^ places := by positivity
  rw [rounded, units_exact h]
  by_cases hq : q < 0
  · have hk : k < 0 := by
      rw [h, div_neg_iff] at hq
      rcases hq with ⟨-, hneg⟩ | ⟨hneg, -⟩
      · exact absurd hneg (not_lt.mpr hpow.le)
      · exact_mod_cast hneg
    have habs : ((k.natAbs : Nat) : Rat) = -(k : Rat) := by
      have hnat : (k.natAbs : Int) = -k := by omega
      rw [← Int.cast_natCast, hnat, Int.cast_neg]
    rw [if_pos hq, habs, neg_div, neg_neg, ← h]
  · have hk : 0 ≤ k := by
      rw [h, not_lt, div_nonneg_iff] at hq
      rcases hq with ⟨hpos, -⟩ | ⟨-, hneg⟩
      · exact_mod_cast hpos
      · exact absurd hpow (not_lt.mpr hneg)
    have habs : ((k.natAbs : Nat) : Rat) = (k : Rat) := by
      have hnat : (k.natAbs : Int) = k := by omega
      rw [← Int.cast_natCast, hnat]
    rw [if_neg hq, habs, ← h]

-- =============================================================== the object

/-- The members of the payload, each with its text. -/
def payloadTexts (cfg : Config) (p : Phase) (t : Telemetry) :
    List (Text × Text) :=
  [("coords".toList, Json.arrayText [' ']
      [fmtF 6 t.longitude, fmtF 6 t.latitude]),
    ("hdop".toList, fmtF 2 t.hdop),
    ("batt".toList, fmtU (telemetryBatteryPercent t.battMv)),
    ("volt".toList, fmtU t.battMv),
    ("charge".toList, fmtD t.charge.code),
    ("signal".toList, fmtD t.signalDbm),
    ("awake".toList, fmtU t.awakeS),
    ("wake".toList, '"' :: wakeReasonName t.wake ++ ['"'])]
  ++ (if p = .none then [] else [("wdt".toList, fmtD p.code)])
  ++ [("fw".toList, '"' :: cfg.buildStamp ++ ['"']),
    ("hw".toList, '"' :: cfg.hwRevision ++ ['"'])]

/-- The members of the payload, each with its value. -/
def payloadValues (cfg : Config) (p : Phase) (t : Telemetry) :
    List (Text × Json) :=
  [("coords".toList, .arr
      [.num (rounded 6 t.longitude), .num (rounded 6 t.latitude)]),
    ("hdop".toList, .num (rounded 2 t.hdop)),
    ("batt".toList, .num (telemetryBatteryPercent t.battMv)),
    ("volt".toList, .num t.battMv),
    ("charge".toList, .num t.charge.code),
    ("signal".toList, .num t.signalDbm),
    ("awake".toList, .num t.awakeS),
    ("wake".toList, .str (wakeReasonName t.wake))]
  ++ (if p = .none then [] else [("wdt".toList, .num p.code)])
  ++ [("fw".toList, .str cfg.buildStamp), ("hw".toList, .str cfg.hwRevision)]

/-- The spliced member, whole: no phase is cut by its buffer. -/
theorem wdtMember_eq {p : Phase} (h : p ≠ .none) :
    wdtMember p.code = "\"wdt\": ".toList ++ fmtD p.code ++ ", ".toList := by
  cases p with
  | none => exact absurd rfl h
  | _ => rfl

/-- What the format string prints is the object of these members. -/
theorem telemetryText_eq (cfg : Config) (p : Phase) (t : Telemetry) :
    telemetryText cfg p.code t
      = Json.objectText [' '] (payloadTexts cfg p t) := by
  unfold telemetryText payloadTexts
  generalize fmtF 6 t.longitude = longitude
  generalize fmtF 6 t.latitude = latitude
  generalize fmtF 2 t.hdop = hdop
  generalize fmtU (telemetryBatteryPercent t.battMv) = batt
  generalize fmtU t.battMv = volt
  generalize fmtD t.charge.code = charge
  generalize fmtD t.signalDbm = signal
  generalize fmtU t.awakeS = awake
  generalize wakeReasonName t.wake = wake
  generalize cfg.buildStamp = fw
  generalize cfg.hwRevision = hw
  by_cases h : p = .none
  · subst h
    simp [wdtMember, Json.objectText, Json.arrayText, Json.listed,
      Json.member]
  · rw [wdtMember_eq h]
    generalize fmtD p.code = wdt
    simp [h, Json.objectText, Json.arrayText, Json.listed, Json.member]

/-- The space that the payload puts between its members. -/
private theorem blank_space : Json.Blank [' '] := by decide

/-- The names of the wake reasons need no escape. -/
private theorem wake_plain (wr : WakeReason) : Plain (wakeReasonName wr) := by
  cases wr <;> decide

/-- Member by member, each text is read as its value. -/
theorem payload_members {cfg : Config} (hfw : Plain cfg.buildStamp)
    (hhw : Plain cfg.hwRevision) (p : Phase) (t : Telemetry) :
    List.Forall₂ Json.ReadsMember (payloadTexts cfg p t)
      (payloadValues cfg p t) := by
  have hcoords : Reads (Json.arrayText [' ']
      [fmtF 6 t.longitude, fmtF 6 t.latitude]) (.arr
      [.num (rounded 6 t.longitude), .num (rounded 6 t.latitude)]) :=
    Reads.array blank_space (.cons (fmtF_reads (by decide) _)
      (.cons (fmtF_reads (by decide) _) .nil))
  have hquote : ∀ {s : Text}, Plain s → Reads ('"' :: s ++ ['"']) (.str s) :=
    fun hs => Reads.str (Json.Encodes.plain hs)
  have hwdt : Reads (fmtD p.code) (.num p.code) := by
    simpa using fmtD_reads (p.code : Int)
  refine List.rel_append (List.rel_append ?_ ?_) ?_
  · exact .cons (hcoords.named (by decide))
      (.cons ((fmtF_reads (by decide) t.hdop).named (by decide))
      (.cons ((fmtU_reads _).named (by decide))
      (.cons ((fmtU_reads t.battMv).named (by decide))
      (.cons ((fmtD_reads t.charge.code).named (by decide))
      (.cons ((fmtD_reads t.signalDbm).named (by decide))
      (.cons ((fmtU_reads t.awakeS).named (by decide))
      (.cons ((hquote (wake_plain t.wake)).named (by decide)) .nil)))))))
  · split
    next => exact .nil
    next => exact .cons (hwdt.named (by decide)) .nil
  · exact .cons ((hquote hfw).named (by decide))
      (.cons ((hquote hhw).named (by decide)) .nil)

/-- The payload is one object. -/
theorem telemetryText_reads {cfg : Config} (hfw : Plain cfg.buildStamp)
    (hhw : Plain cfg.hwRevision) (p : Phase) (t : Telemetry) :
    Reads (telemetryText cfg p.code t) (.obj (payloadValues cfg p t)) := by
  rw [telemetryText_eq]
  exact Reads.object blank_space (payload_members hfw hhw p t)

-- ================================================================ a backend

/-- What a backend reads of a payload. -/
structure Record where
  telemetry : Telemetry
  batt : Nat
  phase : Phase
  fw : Text
  hw : Text

/-- A number. -/
def asRat : Json → Option Rat
  | .num q => some q
  | _ => none

/-- A whole number. -/
def asInt (j : Json) : Option Int :=
  match asRat j with
  | some q => if q.den = 1 then some q.num else none
  | none => none

/-- A whole number that is not negative. -/
def asNat (j : Json) : Option Nat :=
  match asInt j with
  | some i => if 0 ≤ i then some i.toNat else none
  | none => none

def asText : Json → Option Text
  | .str s => some s
  | _ => none

def asPair : Json → Option (Rat × Rat)
  | .arr [.num a, .num b] => some (a, b)
  | _ => none

/-- `enum tracker_charge_state` by its number. -/
def chargeOf (i : Int) : Option ChargeState :=
  [.discharging, .charging, .full].find? fun c => c.code == i

/-- `enum tracker_wake_reason` by its name. -/
def wakeOf (s : Text) : Option WakeReason :=
  [.boot, .timer, .vbus, .motion].find? fun wr => wakeReasonName wr == s

/-- `enum tracker_phase` by its number. -/
def phaseOf (n : Nat) : Option Phase :=
  [.none, .wake, .lte, .cloudResume, .gnssStart, .agnss, .fix, .report,
    .frequent, .gnssStop, .cloudPause, .ledSleep, .motionArm, .sleep,
    .noNetwork].find? fun p => p.code == n

/-- The phase, `NONE` where the member is left out. -/
def readPhase (j : Json) : Option Phase :=
  match j.find "wdt".toList with
  | none => some .none
  | some v => (asNat v).bind phaseOf

/-- Every field of a payload, by the names of its members. -/
def readBack (j : Json) : Option Record := do
  let coords ← (j.find "coords".toList).bind asPair
  let hdop ← (j.find "hdop".toList).bind asRat
  let batt ← (j.find "batt".toList).bind asNat
  let volt ← (j.find "volt".toList).bind asNat
  let charge ← ((j.find "charge".toList).bind asInt).bind chargeOf
  let signal ← (j.find "signal".toList).bind asInt
  let awake ← (j.find "awake".toList).bind asNat
  let wake ← ((j.find "wake".toList).bind asText).bind wakeOf
  let phase ← readPhase j
  let fw ← (j.find "fw".toList).bind asText
  let hw ← (j.find "hw".toList).bind asText
  some
    { telemetry :=
        { longitude := coords.1, latitude := coords.2, hdop := hdop
          battMv := volt, charge := charge, signalDbm := signal
          awakeS := awake, wake := wake }
      batt := batt, phase := phase, fw := fw, hw := hw }

@[simp] theorem asInt_int (i : Int) : asInt (.num i) = some i := by
  simp [asInt, asRat]

@[simp] theorem asNat_nat (n : Nat) : asNat (.num n) = some n := by
  have h : asInt (.num n) = some (n : Int) := asInt_int n
  simp [asNat, h]

/-- The codes of the charge states, -/
theorem chargeOf_code (c : ChargeState) : chargeOf c.code = some c := by
  cases c <;> rfl

/-- the names of the wake reasons, -/
theorem wakeOf_name (wr : WakeReason) :
    wakeOf (wakeReasonName wr) = some wr := by
  cases wr <;> rfl

/-- and the codes of the phases are told apart by the backend. -/
theorem phaseOf_code (p : Phase) : phaseOf p.code = some p := by
  cases p <;> rfl

/-- The names of a payload's members, in order. -/
def payloadKeys (p : Phase) : List Text :=
  ["coords".toList, "hdop".toList, "batt".toList, "volt".toList,
    "charge".toList, "signal".toList, "awake".toList, "wake".toList]
  ++ (if p = .none then [] else ["wdt".toList])
  ++ ["fw".toList, "hw".toList]

/-- The payload has these members, in this order. -/
theorem payloadValues_keys (cfg : Config) (p : Phase) (t : Telemetry) :
    (Json.obj (payloadValues cfg p t)).keys = payloadKeys p := by
  by_cases h : p = .none
  · simp [Json.keys, payloadValues, payloadKeys, h]
  · simp [Json.keys, payloadValues, payloadKeys, h]

/-- The phase, which only a `wdt` member tells. -/
theorem readPhase_payload (cfg : Config) (p : Phase) (t : Telemetry) :
    readPhase (.obj (payloadValues cfg p t)) = some p := by
  by_cases h : p = .none
  · subst h
    rfl
  · have hwdt : (Json.obj (payloadValues cfg p t)).find "wdt".toList
        = some (.num p.code) := by
      cases p with
      | none => exact absurd rfl h
      | _ => rfl
    simp only [readPhase, hwdt, asNat_nat, Option.bind_some, phaseOf_code]

/-- A backend recovers every field, the positions as they were printed. -/
theorem readBack_payload (cfg : Config) (p : Phase) (t : Telemetry) :
    readBack (.obj (payloadValues cfg p t)) = some
      { telemetry :=
          { t with longitude := rounded 6 t.longitude
                   latitude := rounded 6 t.latitude
                   hdop := rounded 2 t.hdop }
        batt := telemetryBatteryPercent t.battMv
        phase := p, fw := cfg.buildStamp, hw := cfg.hwRevision } := by
  -- the coordinates and the dilution are the only ones that were rounded
  have hcoords : (Json.obj (payloadValues cfg p t)).find "coords".toList
      = some (.arr [.num (rounded 6 t.longitude),
        .num (rounded 6 t.latitude)]) := rfl
  have hhdop : (Json.obj (payloadValues cfg p t)).find "hdop".toList
      = some (.num (rounded 2 t.hdop)) := rfl
  have hbatt : (Json.obj (payloadValues cfg p t)).find "batt".toList
      = some (.num (telemetryBatteryPercent t.battMv)) := rfl
  have hvolt : (Json.obj (payloadValues cfg p t)).find "volt".toList
      = some (.num t.battMv) := rfl
  have hcharge : (Json.obj (payloadValues cfg p t)).find "charge".toList
      = some (.num t.charge.code) := rfl
  have hsignal : (Json.obj (payloadValues cfg p t)).find "signal".toList
      = some (.num t.signalDbm) := rfl
  have hawake : (Json.obj (payloadValues cfg p t)).find "awake".toList
      = some (.num t.awakeS) := rfl
  have hwake : (Json.obj (payloadValues cfg p t)).find "wake".toList
      = some (.str (wakeReasonName t.wake)) := rfl
  have hfw : (Json.obj (payloadValues cfg p t)).find "fw".toList
      = some (.str cfg.buildStamp) := by cases p <;> rfl
  have hhw : (Json.obj (payloadValues cfg p t)).find "hw".toList
      = some (.str cfg.hwRevision) := by cases p <;> rfl
  simp only [readBack, hcoords, hhdop, hbatt, hvolt, hcharge, hsignal, hawake,
    hwake, hfw, hhw, readPhase_payload, asPair, asRat, asText, asInt_int,
    asNat_nat, chargeOf_code, wakeOf_name, Option.bind_some,
    Option.bind_eq_bind]

-- ================================================================= lengths

/-- A position with six places, a precision with two, and the ranges of
the C types of the rest. -/
structure Telemetry.Measured (t : Telemetry) : Prop where
  longitude : ∃ k : Int, t.longitude = k / 10 ^ 6
  latitude : ∃ k : Int, t.latitude = k / 10 ^ 6
  hdop : ∃ k : Int, t.hdop = k / 10 ^ 2
  longitude_le : |t.longitude| ≤ 180
  latitude_le : |t.latitude| ≤ 90
  hdop_nonneg : 0 ≤ t.hdop
  hdop_lt : t.hdop < 10 ^ 7
  battMv_lt : t.battMv < 65536
  signal_ge : -2147483648 ≤ t.signalDbm
  signal_lt : t.signalDbm < 2147483648
  awake_lt : t.awakeS < 4294967296

/-- A sign takes one more. -/
theorem fmtD_length {i : Int} {k : Nat} (hk : 0 < k)
    (h : i.natAbs < 10 ^ k) : (fmtD i).length ≤ k + 1 := by
  have hlen := fmtU_length hk h
  unfold fmtD
  split
  · simpa using hlen
  · omega

/-- The length of a printed number: its sign, its integer part, the point
and its places. -/
theorem fmtF_length {places k : Nat} (hp : 0 < places) (hk : 0 < k) {q : Rat}
    (h : units places q / 10 ^ places < 10 ^ k) :
    (fmtF places q).length
      ≤ (if q < 0 then 1 else 0) + k + 1 + places := by
  have hint := fmtU_length hk h
  have hfrac : (padded places (units places q % 10 ^ places)).length
      = places := padded_length hp (Nat.mod_lt _ (Nat.pow_pos (by decide)))
  have hlen : (fmtF places q).length = (if q < 0 then 1 else 0)
      + (fmtU (units places q / 10 ^ places)).length
      + ((padded places (units places q % 10 ^ places)).length + 1) := by
    show (((if q < 0 then ['-'] else []) ++ fmtU _) ++ '.' :: padded _ _).length
      = _
    rw [List.length_append, List.length_append, List.length_cons]
    split <;> rfl
  omega

/-- The integer part of a number within `m`. -/
theorem intPart_le {places m : Nat} {q : Rat} {k : Int}
    (h : q = k / 10 ^ places) (hq : |q| ≤ m) :
    units places q / 10 ^ places ≤ m := by
  have hpow : (0 : Rat) < 10 ^ places := by positivity
  have hk : |(k : Rat)| ≤ m * 10 ^ places := by
    rwa [h, abs_div, abs_of_pos hpow, div_le_iff₀ hpow] at hq
  have hnat : k.natAbs ≤ m * 10 ^ places := by
    have hcast : ((k.natAbs : Nat) : Rat) = |(k : Rat)| := by
      rw [← Int.cast_natCast, Int.natCast_natAbs, Int.cast_abs]
    rw [← hcast] at hk
    exact_mod_cast hk
  rw [units_exact h]
  exact Nat.div_le_of_le_mul (by rwa [Nat.mul_comm] at hnat)

/-- With every field at its longest the payload still fits. -/
theorem telemetryText_length {cfg : Config} {t : Telemetry}
    (ht : t.Measured) (hfw : cfg.buildStamp.length = 17)
    (hhw : cfg.hwRevision.length ≤ 47) (p : Phase) :
    (telemetryText cfg p.code t).length ≤ 255 := by
  obtain ⟨klon, hklon⟩ := ht.longitude
  obtain ⟨klat, hklat⟩ := ht.latitude
  obtain ⟨khdop, hkhdop⟩ := ht.hdop
  -- each field at its longest: sign, digits before the point, and those after
  -- it
  have hlon : (fmtF 6 t.longitude).length ≤ 11 := by
    have hint : units 6 t.longitude / 10 ^ 6 ≤ 180 :=
      intPart_le hklon (by exact_mod_cast ht.longitude_le)
    have hlen := fmtF_length (k := 3) (by decide) (by decide)
      (Nat.lt_of_le_of_lt hint (by decide))
    split at hlen <;> omega
  have hlat : (fmtF 6 t.latitude).length ≤ 10 := by
    have hint : units 6 t.latitude / 10 ^ 6 ≤ 90 :=
      intPart_le hklat (by exact_mod_cast ht.latitude_le)
    have hlen := fmtF_length (k := 2) (by decide) (by decide)
      (Nat.lt_of_le_of_lt hint (by decide))
    split at hlen <;> omega
  have hhdop : (fmtF 2 t.hdop).length ≤ 10 := by
    -- the dilution is given in hundredths
    have hlt : khdop < 10 ^ 7 * 10 ^ 2 := by
      have hlt' : (khdop : Rat) < 10 ^ 7 * 10 ^ 2 := by
        have := ht.hdop_lt
        rwa [hkhdop, div_lt_iff₀ (by positivity)] at this
      exact_mod_cast hlt'
    have hge : 0 ≤ khdop := by
      have hge' : (0 : Rat) ≤ khdop := by
        have := ht.hdop_nonneg
        rwa [hkhdop, le_div_iff₀ (by positivity), zero_mul] at this
      exact_mod_cast hge'
    have hint : units 2 t.hdop / 10 ^ 2 < 10 ^ 7 := by
      rw [units_exact hkhdop]
      omega
    have hlen := fmtF_length (k := 7) (by decide) (by decide) hint
    rw [if_neg (not_lt.mpr ht.hdop_nonneg)] at hlen
    omega
  have hbatt : (fmtU (telemetryBatteryPercent t.battMv)).length ≤ 3 :=
    fmtU_length (by decide)
      (Nat.lt_of_lt_of_le (Nat.mod_lt _ (by decide)) (by decide))
  have hvolt : (fmtU t.battMv).length ≤ 5 :=
    fmtU_length (by decide) (Nat.lt_of_lt_of_le ht.battMv_lt (by decide))
  have hcharge : (fmtD t.charge.code).length ≤ 1 := by
    cases t.charge <;> decide
  have hsignal : (fmtD t.signalDbm).length ≤ 11 := by
    have hge := ht.signal_ge
    have hlt := ht.signal_lt
    exact fmtD_length (k := 10) (by decide) (by omega)
  have hawake : (fmtU t.awakeS).length ≤ 10 :=
    fmtU_length (by decide) (Nat.lt_of_lt_of_le ht.awake_lt (by decide))
  have hwake : (wakeReasonName t.wake).length ≤ 6 := by
    cases t.wake <;> decide
  have hwdt : (wdtMember p.code).length ≤ 11 := by
    cases p <;> decide
  -- the rest of the text is fixed
  unfold telemetryText
  simp only [List.length_append]
  simp
  omega

-- ================================================================= the law

/-- A payload that fits its buffer is built. -/
theorem telemetryBuildJson_fits {phase len : Nat} {t : Telemetry}
    (h : (telemetryText cfg phase t).length < len) :
    telemetryBuildJson cfg phase t len = .ok (telemetryText cfg phase t) := by
  simp only [telemetryBuildJson, if_neg (Nat.not_le_of_lt h)]

/-- A payload is never too large for its buffer, is one object with its
members in order, and gives every field back. -/
theorem payload_round_trip {cfg : Config} {t : Telemetry} (ht : t.Measured)
    (hfw : cfg.buildStamp.length = 17) (hfw' : Plain cfg.buildStamp)
    (hhw : cfg.hwRevision.length ≤ 47) (hhw' : Plain cfg.hwRevision)
    (p : Phase) :
    ∃ text j, telemetryBuildJson cfg p.code t 256 = .ok text ∧
      text.length ≤ 255 ∧ Json.parse text = some j ∧
      j.keys = payloadKeys p ∧
      readBack j = some
        { telemetry := t, batt := telemetryBatteryPercent t.battMv
          phase := p, fw := cfg.buildStamp, hw := cfg.hwRevision } := by
  have hlen := telemetryText_length ht hfw hhw p
  obtain ⟨klon, hklon⟩ := ht.longitude
  obtain ⟨klat, hklat⟩ := ht.latitude
  obtain ⟨khdop, hkhdop⟩ := ht.hdop
  refine ⟨telemetryText cfg p.code t, .obj (payloadValues cfg p t), ?_, hlen,
    (telemetryText_reads hfw' hhw' p t).parse, payloadValues_keys cfg p t, ?_⟩
  · exact telemetryBuildJson_fits (Nat.lt_succ_of_le hlen)
  · rw [readBack_payload, rounded_exact hklon, rounded_exact hklat,
      rounded_exact hkhdop]

/-- Every field at its longest. -/
def longest : Telemetry :=
  { longitude := -180, latitude := -90, hdop := 999999999 / 100
    battMv := 65535, charge := .full, signalDbm := -2147483648
    awakeS := 4294967295, wake := .motion }

/-- A hardware string of 47 characters. -/
def roomy : Config := { hwRevision := List.replicate 47 'x' }

/-- The longest record has every field within its bounds. -/
theorem longest_measured : longest.Measured where
  longitude := ⟨-180000000, by norm_num [longest]⟩
  latitude := ⟨-90000000, by norm_num [longest]⟩
  hdop := ⟨999999999, by norm_num [longest]⟩
  longitude_le := by norm_num [longest]
  latitude_le := by norm_num [longest]
  hdop_nonneg := by norm_num [longest]
  hdop_lt := by norm_num [longest]
  battMv_lt := by decide
  signal_ge := by decide
  signal_lt := by decide
  awake_lt := by decide

/-- The longest payload fills the buffer. -/
theorem payload_round_trip_longest :
    (telemetryText roomy Phase.noNetwork.code longest).length = 255 ∧
    ∃ text j, telemetryBuildJson roomy Phase.noNetwork.code longest 256
        = .ok text ∧
      text.length ≤ 255 ∧ Json.parse text = some j ∧
      j.keys = payloadKeys .noNetwork ∧
      readBack j = some
        { telemetry := longest
          batt := telemetryBatteryPercent longest.battMv
          phase := .noNetwork, fw := roomy.buildStamp
          hw := roomy.hwRevision } :=
  ⟨by decide +kernel, payload_round_trip longest_measured (by decide)
    (by decide) (by decide) (by decide) .noNetwork⟩

end GpsTracker
