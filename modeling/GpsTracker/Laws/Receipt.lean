/-
What a backend reads of a message is what the tracker observed.

The notes on a run say what was observed (`Provenance`), a payload is
printed of them into an envelope, and the backend undoes both: it parses
the envelope, takes the payload out and reads its members. This composes
the three over whole runs. The only loss on the way is that of printing:
positions come back to within half a unit of the last place printed.
-/
import GpsTracker.Laws.Provenance
import GpsTracker.Laws.Retained
import Mathlib.Tactic.Linarith

namespace GpsTracker

open Proc

open Json (Plain Reads)

-- ================================================================== rounding

/-- The nearest integer is at most half a unit away. -/
theorem roundHalfEven_near (n : Nat) {d : Nat} (hd : 0 < d) :
    2 * (roundHalfEven n d * d) ≤ 2 * n + d
      ∧ 2 * n ≤ 2 * (roundHalfEven n d * d) + d := by
  have hdm : n = n / d * d + n % d := (Nat.div_add_mod' n d).symm
  have hlt : n % d < d := Nat.mod_lt n hd
  unfold roundHalfEven
  generalize n / d = q at *
  generalize n % d = r at *
  have hsucc : (q + 1) * d = q * d + d := Nat.succ_mul q d
  dsimp only
  split
  · omega
  · split
    · omega
    · rcases Nat.mod_two_eq_zero_or_one q with h | h
      · rw [h, Nat.add_zero]
        omega
      · rw [h]
        omega

theorem units_near (places : Nat) (q : Rat) :
    |(units places q : Rat) / 10 ^ places - abs q| ≤ 1 / 2 / 10 ^ places := by
  have hpow : (0 : Rat) < 10 ^ places := by positivity
  have hden : (0 : Rat) < q.den := Nat.cast_pos.mpr q.den_pos
  obtain ⟨hhi, hlo⟩ := roundHalfEven_near (q.num.natAbs * 10 ^ places)
    q.den_pos
  have hq : |q| = q.num.natAbs / q.den := by
    rw [Rat.abs_def, Rat.divInt_eq_div]
    norm_num
  have hhi' : 2 * ((units places q : Rat) * q.den)
      ≤ 2 * (q.num.natAbs * 10 ^ places) + q.den := by
    exact_mod_cast hhi
  have hlo' : 2 * ((q.num.natAbs : Rat) * 10 ^ places)
      ≤ 2 * (units places q * q.den) + q.den := by
    exact_mod_cast hlo
  have hnum : (q.num.natAbs : Rat) = |q| * q.den := by
    rw [hq, div_mul_cancel₀ _ hden.ne']
  rw [hnum] at hhi' hlo'
  have hup : (units places q : Rat) ≤ abs q * 10 ^ places + 1 / 2 := by
    refine le_of_mul_le_mul_right ?_ hden
    linarith
  have hdown : abs q * 10 ^ places ≤ (units places q : Rat) + 1 / 2 := by
    refine le_of_mul_le_mul_right ?_ hden
    linarith
  rw [abs_le, neg_le_sub_iff_le_add, sub_le_iff_le_add, ← add_div,
    le_div_iff₀ hpow, div_le_iff₀ hpow, add_mul, div_mul_cancel₀ _ hpow.ne']
  constructor
  · linarith
  · linarith

/-- A printed number is within half a unit of its last place. -/
theorem rounded_near (places : Nat) (q : Rat) :
    |rounded places q - q| ≤ 1 / 2 / 10 ^ places := by
  have h := units_near places q
  unfold rounded
  by_cases hq : q < 0
  · rw [if_pos hq, ← neg_add', abs_neg]
    rwa [abs_of_neg hq, sub_neg_eq_add] at h
  · rw [if_neg hq]
    rwa [abs_of_nonneg (not_lt.mp hq)] at h

-- ================================================================= the record

/-- What a backend reads of the message an event hands over. -/
def recordOf : Ev → Option Record
  | .call _ _ (.jsonMessageSend text) _ => (ofNrf text).bind readBack
  | .call _ _ (.sendSocket text) _ => (ofHologram text).bind readBack
  | _ => none

/-- The time a device message carries. -/
def timestamp (text : Text) : Option Json :=
  (Json.parse text).bind (Json.find "ts".toList)

/-- `r` tells the notes `n`: the battery, the signal, the wake reason and
the time awake exactly, positions and precision as closely as printed, and
zeros where no fix is reported. -/
structure Tells (cfg : Config) (phase : Nat) (n : Notes) (r : Record) :
    Prop where
  rest : r.telemetry = { n.telemetry with
    longitude := r.telemetry.longitude
    latitude := r.telemetry.latitude
    hdop := r.telemetry.hdop }
  longitude : |r.telemetry.longitude - n.telemetry.longitude|
    ≤ 1 / 2 / 10 ^ 6
  latitude : |r.telemetry.latitude - n.telemetry.latitude| ≤ 1 / 2 / 10 ^ 6
  hdop : |r.telemetry.hdop - n.telemetry.hdop| ≤ 1 / 2 / 10 ^ 2
  unfixed : n.told = none → r.telemetry.longitude = 0
    ∧ r.telemetry.latitude = 0 ∧ r.telemetry.hdop = 0
  batt : r.batt = telemetryBatteryPercent n.telemetry.battMv
  phase : r.phase.code = phase
  fw : r.fw = cfg.buildStamp
  hw : r.hw = cfg.hwRevision

/-- The message is read as a record that tells the notes, at the time the
notes have. -/
def Received (cfg : Config) (e : Ev) (l : Trace) : Prop :=
  match e with
  | .call s _ (.jsonMessageSend text) _ =>
      (∃ r, recordOf e = some r ∧ Tells cfg s.phaseAtReset (notes l) r)
      ∧ timestamp text = (notes l).stamp.map fun ms => .num ms
  | .call s _ (.sendSocket _) _ =>
      ∃ r, recordOf e = some r ∧ Tells cfg s.phaseAtReset (notes l) r
  | _ => True

-- =================================================================== one message

variable {cfg : Config}

theorem rounded_zero (places : Nat) : rounded places 0 = 0 := by
  have h : units places 0 = (0 : Int).natAbs :=
    units_exact (by rw [Int.cast_zero, zero_div])
  unfold rounded
  rw [h, if_neg (lt_irrefl 0), Int.natAbs_zero, Nat.cast_zero, zero_div]

/-- What is read back of a payload tells the notes it was built of. -/
theorem readBack_tells (p : Phase) (n : Notes) :
    Tells cfg p.code n
      { telemetry :=
          { n.telemetry with
            longitude := rounded 6 n.telemetry.longitude
            latitude := rounded 6 n.telemetry.latitude
            hdop := rounded 2 n.telemetry.hdop }
        batt := telemetryBatteryPercent n.telemetry.battMv
        phase := p, fw := cfg.buildStamp, hw := cfg.hwRevision } where
  rest := rfl
  longitude := rounded_near 6 _
  latitude := rounded_near 6 _
  hdop := rounded_near 2 _
  unfixed h := by
    have hlon : n.telemetry.longitude = 0 := by
      rw [Notes.telemetry, h]
    have hlat : n.telemetry.latitude = 0 := by
      rw [Notes.telemetry, h]
    have hhdop : n.telemetry.hdop = 0 := by
      rw [Notes.telemetry, h]
    rw [hlon, hlat, hhdop]
    exact ⟨rounded_zero 6, rounded_zero 6, rounded_zero 2⟩
  batt := rfl
  phase := rfl
  fw := rfl
  hw := rfl

/-- A device message hands on the payload's value and its own time. -/
theorem nrf_read (happ : Plain cfg.nrfCloudAppId) {payload : Text} {j : Json}
    (hj : Reads payload j) (ts : Option Int) :
    ofNrf (Nrf.envelope cfg ts payload) = some j
      ∧ timestamp (Nrf.envelope cfg ts payload)
        = ts.map fun ms => .num ms := by
  have hreads := (nrfEnvelope_reads happ ts hj).parse
  rw [ofNrf, timestamp, hreads]
  cases ts with
  | none => exact ⟨rfl, rfl⟩
  | some ms => exact ⟨rfl, rfl⟩

/-- A Hologram message hands on the payload's value. -/
theorem hologram_read (cfg : Config) {payload : Text} {j : Json}
    (hj : Reads payload j) (topic list : Bool) :
    ofHologram (Hologram.envelope cfg payload topic list ++ "\n\n".toList)
      = some j := by
  have henv : Json.parse
      (Hologram.envelope cfg payload topic list ++ "\n\n".toList)
      = some (.obj (hologramValues cfg payload topic list)) :=
    (hologramEnvelope_reads cfg payload topic list).parse_gap (by decide)
  have hd : (Json.obj (hologramValues cfg payload topic list)).find
      "d".toList = some (.str payload) := rfl
  simp only [ofHologram, henv, Option.bind_some, hd, asText,
    Option.bind_eq_bind, hj.parse]

/-- A payload built of the notes reads as a record that tells them. -/
theorem built_tells (hfw : Plain cfg.buildStamp)
    (hhw : Plain cfg.hwRevision) {phase : Nat} {n : Notes} {payload : Text}
    (hp : ∃ p : Phase, phase = p.code)
    (h : telemetryBuildJson cfg phase n.telemetry 256 = .ok payload) :
    ∃ j r, Reads payload j ∧ readBack j = some r ∧ Tells cfg phase n r := by
  obtain ⟨p, hp⟩ := hp
  rw [hp] at h ⊢
  obtain ⟨htext, -⟩ := telemetryBuildJson_ok h
  have hreads := telemetryText_reads hfw hhw p n.telemetry
  rw [← htext] at hreads
  exact ⟨_, _, hreads, readBack_payload cfg p n.telemetry,
    readBack_tells p n⟩

/-- A message that says what the notes say is read so. -/
theorem truthful_received (happ : Plain cfg.nrfCloudAppId)
    (hfw : Plain cfg.buildStamp) (hhw : Plain cfg.hwRevision) {e : Ev}
    {l : Trace} (ht : Truthful cfg e l)
    (hphase : ∀ text, messageOf e = some text →
      ∃ p : Phase, e.st.phaseAtReset = p.code) :
    Received cfg e l := by
  cases e with
  | env s d a => trivial
  | call s d o r =>
      cases o with
      | jsonMessageSend text =>
          obtain ⟨payload, hbuilt, rfl⟩ := ht
          obtain ⟨j, rec, hreads, hback, htells⟩ :=
            built_tells hfw hhw (hphase _ rfl) hbuilt
          obtain ⟨hdata, hts⟩ := nrf_read happ hreads (notes l).stamp
          exact ⟨⟨rec, by rw [recordOf, hdata, Option.bind_some, hback],
            htells⟩, hts⟩
      | sendSocket text =>
          obtain ⟨payload, topic, list, hbuilt, rfl⟩ := ht
          obtain ⟨j, rec, hreads, hback, htells⟩ :=
            built_tells hfw hhw (hphase _ rfl) hbuilt
          have hdata := hologram_read cfg hreads topic list
          exact ⟨rec, by rw [recordOf, hdata, Option.bind_some, hback],
            htells⟩
      | _ => trivial

theorem latch_coded {s : Statics} (h : s.Sane) :
    ∃ p : Phase, latchOf s = p.code := by
  unfold latchOf
  by_cases hm : s.phaseMagic = PHASE_MAGIC
  · rw [if_pos hm]
    exact code_of_le (h hm)
  · rw [if_neg hm]
    exact ⟨.none, rfl⟩

-- ==================================================================== the law

/-- In every run from a sane breadcrumb, what a backend reads of a message
is what was last observed before it. -/
theorem backend_reads_observations (happ : Plain cfg.nrfCloudAppId)
    (hfw : Plain cfg.buildStamp) (hhw : Plain cfg.hwRevision) {w : Tracker}
    (hw : Booted cfg w) (hs : w.st.Sane) {n fuel : Nat}
    {c : P Int × Tracker} (hr : Reach (device cfg) (main cfg n fuel) w c) :
    Always (Received cfg) c.2.log := by
  have hhonest : Honest cfg c.2 := honest_reach hw.log hr
  have hreport := (boot_reporting hw hs hr).reports
  rw [always_iff]
  intro l₁ e l₂ hl
  have ht := always_iff.mp hhonest l₁ e l₂ hl
  refine truthful_received happ hfw hhw ht fun text he => ?_
  obtain ⟨hphase, -⟩ := always_iff.mp hreport l₁ e l₂ hl text he
  rw [hphase]
  exact latch_coded hs

/-- Two reports with a fix, and what a backend reads of them. -/
theorem backend_reads_observations_sighted :
    let c := playMain hurried sighted 1 2 400
    (c.2.log.filterMap recordOf).map (fun r => r.telemetry.latitude)
      = [52, 52] ∧
    Always (Received hurried) c.2.log := by
  have hs : (start hurried).st.Sane := fun h => absurd h (by decide)
  exact ⟨by decide +kernel, backend_reads_observations (by decide)
    (by decide) (by decide) (start_booted hurried) hs
    (playMain_reach hurried sighted 1 2 400)⟩

end GpsTracker
