/-
A corrupt breadcrumb and the payload (watchdog.c, telemetry.c).

`phase_init` checks the magic and not the word beside it, so whatever a
matching magic leaves there is latched and printed into `wdt`. The buffer
of the member cuts it to fifteen characters, seven of them its name: a
number of six characters or fewer is spliced in whole, one of seven loses
the blank behind its comma, and a longer one the comma itself, and with
that the payload its form.
-/
import GpsTracker.Laws.Forensics

namespace GpsTracker

open Proc
open Json (Reads Plain)

variable {cfg : Config}

-- ================================================================= statements

/-- A well-formed object whose `wdt`, if it has one, is a phase other than
NONE. -/
def Uncorrupted (payload : Text) : Prop :=
  ∃ ms, Json.parse payload = some (.obj ms) ∧
    ∀ v, (Json.obj ms).find "wdt".toList = some v →
      ∃ p : Phase, p ≠ .none ∧ v = .num p.code

/-- The second retained word counts where the first is the magic, and is
then a phase. -/
def Statics.Sane (s : Statics) : Prop :=
  s.phaseMagic = PHASE_MAGIC → s.phaseCurrent ≤ Phase.noNetwork.code

-- ================================================================== the number

/-- A printed number cut short is a number, as long as a digit is left. -/
theorem fmtD_take_reads (i : Int) (k : Nat) :
    ∃ q, Reads ((fmtD i).take (k + 2)) (.num q) := by
  have hwf := Json.toDigits_wellFormed i.natAbs
  have hds : ∀ n, ∀ c ∈ (fmtU i.natAbs).take n, c.isDigit = true :=
    fun n c hc => Json.toDigits_digit c (List.mem_of_mem_take hc)
  unfold fmtD
  by_cases hi : i < 0
  · rw [if_pos hi, List.take_succ_cons]
    exact ⟨_, (Json.Numeral.digits (Json.wellFormedInt_take hwf k)
      (hds _)).neg⟩
  · rw [if_neg hi]
    exact ⟨_, (Json.Numeral.digits (Json.wellFormedInt_take hwf (k + 1))
      (hds _)).pos⟩

/-- No `int` but a phase prints as one. -/
theorem toInt32_code {n : Nat} (hn : n < 4294967296) {p : Phase}
    (h : toInt32 n = p.code) : n = p.code := by
  have hp := p.code_le
  unfold toInt32 at h
  simp only [Phase.code] at hp
  split at h <;> omega

-- ================================================================== the member

/-- What the format string puts behind the spliced member. -/
def versionText (cfg : Config) : Text :=
  "\"fw\": \"".toList ++ cfg.buildStamp
    ++ "\", \"hw\": \"".toList ++ cfg.hwRevision ++ "\"\x7d".toList

/-- The members in front of it. -/
def measuredTexts (cfg : Config) (t : Telemetry) : List (Text × Text) :=
  (payloadTexts cfg .none t).take 8

def measuredValues (cfg : Config) (t : Telemetry) : List (Text × Json) :=
  (payloadValues cfg .none t).take 8

theorem telemetryText_spliced (cfg : Config) (phase : Nat) (t : Telemetry) :
    telemetryText cfg phase t = '\x7b' ::
      ((measuredTexts cfg t).flatMap (Json.leading [' '])
        ++ (wdtMember phase ++ versionText cfg)) := by
  unfold telemetryText measuredTexts payloadTexts versionText
  generalize fmtF 6 t.longitude = longitude
  generalize fmtF 6 t.latitude = latitude
  generalize fmtF 2 t.hdop = hdop
  generalize fmtU (telemetryBatteryPercent t.battMv) = batt
  generalize fmtU t.battMv = volt
  generalize fmtD t.charge.code = charge
  generalize fmtD t.signalDbm = signal
  generalize fmtU t.awakeS = awake
  generalize wakeReasonName t.wake = wake
  generalize cfg.buildStamp = fw
  generalize cfg.hwRevision = hw
  generalize wdtMember phase = wdt
  simp [Json.leading, Json.arrayText, Json.listed, Json.member]

/-- The spliced member is its number whole, with a comma behind it, or cut,
with nothing behind it. -/
theorem wdtMember_cut {phase : Nat} (h : phase ≠ Phase.none.code)
    (rest : Text) :
    ∃ ds tail, wdtMember phase ++ rest
        = Json.member [' '] ("wdt".toList, ds) ++ tail ∧
      ((ds = fmtD (toInt32 phase) ∧ ∃ tail', tail = ',' :: tail') ∨
        (∃ q, Reads ds (.num q)) ∧ tail = rest) := by
  have hcut : ∀ text : Text, ("\"wdt\": ".toList ++ text).take 15
      = "\"wdt\": ".toList ++ text.take 8 := fun text => rfl
  have hname : ∀ text : Text, "\"wdt\": ".toList ++ text
      = Json.member [' '] ("wdt".toList, text) := fun text => rfl
  have hsplit : wdtMember phase = "\"wdt\": ".toList
      ++ (fmtD (toInt32 phase) ++ ", ".toList).take 8 := by
    rw [wdtMember, if_neg h, List.append_assoc, hcut]
  by_cases hlen : (fmtD (toInt32 phase)).length < 8
  · obtain ⟨k, hk⟩ : ∃ k, 8 - (fmtD (toInt32 phase)).length = k + 1 :=
      ⟨8 - (fmtD (toInt32 phase)).length - 1, by omega⟩
    refine ⟨fmtD (toInt32 phase), ',' :: ([' '].take k ++ rest), ?_,
      .inl ⟨rfl, _, rfl⟩⟩
    rw [hsplit, List.take_append, List.take_of_length_le (by omega), hk,
      ← hname]
    simp
  · refine ⟨(fmtD (toInt32 phase)).take 8, rest, ?_,
      .inr ⟨fmtD_take_reads _ 6, rfl⟩⟩
    rw [hsplit, List.take_append_of_le_length (by omega), ← hname]

-- ================================================================= the payload

/-- If the payload of a latched phase is read at all, its `wdt` is the
printed number, whole. -/
theorem telemetryText_wdt (hfw : Plain cfg.buildStamp)
    (hhw : Plain cfg.hwRevision) {phase : Nat} (h : phase ≠ Phase.none.code)
    {t : Telemetry} {j : Json}
    (hp : Json.parse (telemetryText cfg phase t) = some j) :
    j.find "wdt".toList = some (.num (toInt32 phase)) := by
  have hspace : Json.Blank [' '] := by decide
  have hms : List.Forall₂ Json.ReadsMember (measuredTexts cfg t)
      (measuredValues cfg t) :=
    List.forall₂_take 8 (payload_members hfw hhw .none t)
  rw [telemetryText_spliced] at hp
  obtain ⟨k, ms, rest, hk, hmem, rfl⟩ :=
    Json.parse_leading hspace hms (by simp [measuredTexts, payloadTexts]) hp
  obtain ⟨ds, tail, htext, hcase⟩ := wdtMember_cut h (versionText cfg)
  rw [htext] at hk hmem
  simp only [Json.member, List.length_append, List.length_cons] at hk
  obtain ⟨k, rfl⟩ : ∃ k', k = k' + 1 := ⟨k - 1, by omega⟩
  -- the member is there whole, or cut off within its comma
  rcases hcase with ⟨hds, tail', rfl⟩ | ⟨⟨q, hq⟩, rfl⟩
  · have hread : Json.ReadsMember ("wdt".toList, ds)
        ("wdt".toList, .num (toInt32 phase)) := by
      rw [hds]
      exact (fmtD_reads _).named (by decide)
    have hcomma := Json.members_comma hspace hread (n := k) (g := [])
      (t := tail') (by decide) (by show ds.length ≤ k; omega)
    rw [List.nil_append, hmem] at hcomma
    cases hrest : Json.members k tail' with
    | none =>
        rw [hrest] at hcomma
        cases hcomma
    | some p =>
        rw [hrest] at hcomma
        have hfirst : ms = ("wdt".toList, .num (toInt32 phase)) :: p.1 :=
          congrArg Prod.fst (Option.some.inj hcomma)
        rw [hfirst]
        rfl
  · have hread : Json.ReadsMember ("wdt".toList, ds) ("wdt".toList, .num q) :=
      hq.named (by decide)
    -- cut off, a quote stands where a comma or a brace must: the text would
    -- not be read
    have hbroken := Json.members_broken hspace hread (n := k) (c := '"')
      (t := (versionText cfg).tail) (by show ds.length ≤ k; omega)
      (by decide) (by decide) (by decide) (by decide)
    have hhead : '"' :: (versionText cfg).tail = versionText cfg := rfl
    rw [hhead, hmem] at hbroken
    cases hbroken

/-- A payload is uncorrupted if and only if it is made of a phase. -/
theorem payload_uncorrupted_iff (hfw : Plain cfg.buildStamp)
    (hhw : Plain cfg.hwRevision) {phase : Nat} (hword : phase < 4294967296)
    (t : Telemetry) :
    Uncorrupted (telemetryText cfg phase t) ↔ phase ≤ Phase.noNetwork.code := by
  constructor
  · rintro ⟨ms, hp, hwdt⟩
    by_cases h : phase = Phase.none.code
    · rw [h]
      decide
    · obtain ⟨p, -, hv⟩ := hwdt _ (telemetryText_wdt hfw hhw h hp)
      have hcode : toInt32 phase = p.code := by
        have hq : ((toInt32 phase : Int) : Rat) = ((p.code : Nat) : Rat) :=
          Json.num.inj hv
        exact_mod_cast hq
      rw [toInt32_code hword hcode]
      exact p.code_le
  · intro h
    obtain ⟨p, rfl⟩ := code_of_le h
    refine ⟨_, (telemetryText_reads hfw hhw p t).parse, fun v hv => ?_⟩
    have hread := readPhase_payload cfg p t
    by_cases hnone : p = .none
    · subst hnone
      cases hv
    · refine ⟨p, hnone, ?_⟩
      cases p with
      | none => exact absurd rfl hnone
      | _ => exact (Option.some.inj hv).symm

-- ==================================================================== the boot

/-- `watchdog_init` is past `phase_init`: it has asked for its device. -/
def pastPhaseInit (l : Trace) : Bool :=
  l.any fun
    | .call _ _ (.lib .deviceReadyWdt) _ => true
    | _ => false

/-- The promise at every step of a boot: once latched, the phase stays. -/
def Latched (phase : Nat) (w : Tracker) : Prop :=
  pastPhaseInit w.log = true → w.st.phaseAtReset = phase

theorem latched_frame (phase : Nat) :
    Frame (device cfg) Free (Latched phase)
      (fun w => w.st.phaseAtReset = phase) (Off []) (Keep [.latch]) where
  stable := fun _ _ h _ _ => h
  calls := fun _ _ _ _ h _ _ => h
  writes := by
    intro w f hf h
    obtain ⟨-, hat, -⟩ : Var.Same w.st (f w.st) .latch := hf .latch (by simp)
    exact hat.trans h
  gives := fun _ h _ => h

/-- `phase_init` latches; only a call of the modem library comes before
it. -/
theorem setUp_latched (phase : Nat) :
    Triple (device cfg) Free (Latched phase)
      (fun w => pastPhaseInit w.log = false ∧ latchOf w.st = phase)
      (setUp cfg) fun r w => r = 0 → w.st.phaseAtReset = phase := by
  have F : Frame (device cfg) Free (Latched phase)
    (fun w => w.st.phaseAtReset = phase) (Off []) (Keep [.latch]) :=
    latched_frame phase
  have hmodem : Triple (device cfg) Free (Latched phase)
      (fun w => pastPhaseInit w.log = false ∧ latchOf w.st = phase)
      (call (.lib .nrfModemLibInit))
      fun _ w => pastPhaseInit w.log = false ∧ latchOf w.st = phase := by
    refine Triple.op (fun w a h _ _ => h) fun w r h _ _ => ?_
    have hlog : pastPhaseInit (w.called (device cfg)
        (.lib .nrfModemLibInit) r).log = false := h.1
    exact ⟨fun hpast => absurd (hlog.symm.trans hpast) nofun, hlog, h.2⟩
  -- whatever the magic says, the latch takes what the phase was due to be
  have hlatch : Triple (device cfg) Free (Latched phase)
      (fun w => pastPhaseInit w.log = false ∧ latchOf w.st = phase)
      phaseInit fun _ w => w.st.phaseAtReset = phase := by
    refine Triple.modify fun w h => ?_
    have hat : (if w.st.phaseMagic = PHASE_MAGIC then
        { w.st with phaseAtReset := w.st.phaseCurrent
                    phaseCurrent := Phase.none.code }
      else
        { w.st with phaseMagic := PHASE_MAGIC
                    phaseAtReset := Phase.none.code
                    phaseCurrent := Phase.none.code }).phaseAtReset = phase := by
      have hl := h.2
      unfold latchOf at hl
      by_cases hm : w.st.phaseMagic = PHASE_MAGIC
      · rw [if_pos hm] at hl ⊢
        exact hl
      · rw [if_neg hm] at hl ⊢
        exact hl
    exact ⟨fun _ => hat, hat⟩
  exact setUp_latches F (by simp) hmodem hlatch

/-- In every run the latch is what the retained words make it. -/
theorem boot_latched {w : Tracker} (hw : Booted cfg w) {n fuel : Nat}
    {c : P Int × Tracker} (hr : Reach (device cfg) (main cfg n fuel) w c) :
    Latched (latchOf w.st) c.2 := by
  have F := @latched_frame cfg (latchOf w.st)
  have hloop : Outline cfg Free (Latched (latchOf w.st)) (looping
      (fun w' => w'.st.phaseAtReset = latchOf w.st) fun _ => False) :=
    outline_looping F (by simp) (by simp) Frame.never Triple.never
      (part F (recoverIfSilent_foot cfg) (by simp) (by simp))
      (part F (cloudResume_foot cfg) (by simp) (by simp))
      (part F (agnssFetchAndInject_foot cfg) (by simp) (by simp))
      (fun fix wakeUptimeMs wr => part F
        (reportFix_foot cfg fix wakeUptimeMs wr) (by simp) (by simp))
      (part F (cloudPause_foot cfg) (by simp) (by simp))
  have hmain : Triple (device cfg) Free (Latched (latchOf w.st))
      (fun w' => pastPhaseInit w'.log = false ∧ latchOf w'.st = latchOf w.st)
      (main cfg n fuel) fun _ _ => True := by
    refine (setUp_latched _).bind fun r => Triple.ite
      (fun _ => Triple.ret fun _ _ => trivial) fun hr => ?_
    exact (hloop.mainLoop fuel n .boot).pre
      fun _ h => h (Decidable.not_not.mp hr)
  have hpast : pastPhaseInit w.log = false := by
    rw [hw.log]
    rfl
  refine hmain.reach ⟨hpast, rfl⟩ (fun h => ?_) hr (always_free _)
  rw [hpast] at h
  cases h

/-- A boot on which everything works gets past `phase_init`. -/
theorem boot_past (cfg : Config) (w : Tracker) :
    ∃ c, Reach (device cfg) (main cfg 0 0) w c ∧
      pastPhaseInit c.2.log = true :=
  ⟨play (device cfg) calm 3 (main cfg 0 0) w, play_reach .init, rfl⟩

-- ===================================================================== the law

/-- After `phase_init` every payload is a well-formed object whose `wdt`,
if any, is a phase other than NONE, if and only if the magic does not
match or the word beside it is a phase. -/
theorem uncorrupted_iff (hfw : Plain cfg.buildStamp)
    (hhw : Plain cfg.hwRevision) {w : Tracker} (hw : Booted cfg w)
    (hword : w.st.phaseCurrent < 4294967296) :
    (∀ n fuel c, Reach (device cfg) (main cfg n fuel) w c →
      pastPhaseInit c.2.log = true → ∀ t len payload,
        telemetryBuildJson cfg c.2.st.phaseAtReset t len = .ok payload →
          Uncorrupted payload) ↔ w.st.Sane := by
  have hlatch : latchOf w.st < 4294967296 := by
    unfold latchOf
    split
    next => exact hword
    next => decide
  have hsane : latchOf w.st ≤ Phase.noNetwork.code ↔ w.st.Sane := by
    unfold latchOf Statics.Sane
    by_cases hm : w.st.phaseMagic = PHASE_MAGIC
    · simp only [hm, if_true, true_implies]
    · simp only [hm, if_false, false_implies, iff_true]
      exact Phase.code_le .none
  rw [← hsane]
  constructor
  · intro h
    obtain ⟨c, hr, hpast⟩ := boot_past cfg w
    have hat := boot_latched hw hr hpast
    have hgood := h 0 0 c hr hpast longest _ _
      (telemetryBuildJson_fits (Nat.lt_succ_self _))
    rw [hat] at hgood
    exact (payload_uncorrupted_iff hfw hhw hlatch longest).mp hgood
  · intro hle n fuel c hr hpast t len payload hbuilt
    obtain ⟨htext, -⟩ := telemetryBuildJson_ok hbuilt
    rw [htext, boot_latched hw hr hpast]
    exact (payload_uncorrupted_iff hfw hhw hlatch t).mpr hle

/-- A watchdog reset in the sleep. -/
theorem uncorrupted_iff_asleep :
    (∀ n fuel c, Reach (device {}) (main {} n fuel)
        (resumed {} PHASE_MAGIC Phase.sleep.code) c →
      pastPhaseInit c.2.log = true → ∀ t len payload,
        telemetryBuildJson {} c.2.st.phaseAtReset t len = .ok payload →
          Uncorrupted payload) ↔
      (resumed {} PHASE_MAGIC Phase.sleep.code).st.Sane :=
  uncorrupted_iff (by decide) (by decide) (resumed_booted ..) (by decide)

/-- The magic beside an address of another image: the number is cut to
eight digits, and the comma behind it is gone. -/
theorem address_corrupts :
    ∃ c t payload, Reach (device {}) (main {} 0 0)
        (resumed {} PHASE_MAGIC 0x20000a40) c ∧
      pastPhaseInit c.2.log = true ∧
      telemetryBuildJson {} c.2.st.phaseAtReset t 256 = .ok payload ∧
      ¬Uncorrupted payload := by
  obtain ⟨c, hr, hpast⟩ := boot_past {} (resumed {} PHASE_MAGIC 0x20000a40)
  have hat : c.2.st.phaseAtReset = 0x20000a40 :=
    boot_latched (resumed_booted ..) hr hpast
  refine ⟨c, longest, _, hr, hpast, telemetryBuildJson_fits ?_, ?_⟩
  · rw [hat]
    decide +kernel
  · rw [hat, payload_uncorrupted_iff (by decide) (by decide) (by decide)]
    decide

end GpsTracker
