/-
Every cycle reports (main.c, with FORCE_PUBLISH_WITHOUT_FIX on).

From a running receiver on there is no way past the first report: the
acquisition ends with a fix or without one, and both are reported. Two
ways lead to sleep before it. Without a network the cycle is given up,
which the promise excepts; and where `gnss_start` fails it is given up as
well, network or not. The heartbeat is kept exactly in the cycles that do
not take the second.

# The invariant

Along the acquisition the fix in hand is there exactly if some wait of
the cycle returned one. The wait that lets a fix settle comes after one
of the ladder's succeeded, so it decides nothing.
-/
import GpsTracker.Run.Script

namespace GpsTracker

open Proc

variable {cfg : Config}

/-- What an event says of registration in this cycle. -/
def lteWord : Ev → Option Bool
  | .call _ _ (.enter (.cycle _)) _ => some false
  | .call _ _ (.leave .lteEnsureConnected r) _ => some (r != 0)
  | _ => none

/-- `lte_ensure_connected` failed in this cycle. -/
def lteFailed (l : Trace) : Bool := latest lteWord false l

/-- What an event says of the receiver's start in this cycle. -/
def startWord : Ev → Option Bool
  | .call _ _ (.enter (.cycle _)) _ => some false
  | .call _ _ (.leave .gnssStart r) _ => some (r != 0)
  | _ => none

/-- `gnss_start` failed in this cycle. -/
def startFailed (l : Trace) : Bool := latest startWord false l

/-- What an event says of fixes in this cycle. -/
def foundWord : Ev → Option Bool
  | .call _ _ (.enter (.cycle _)) _ => some false
  | .call _ _ (.leave .gnssWaitFix r) _ => if r = 0 then some true else none
  | _ => none

/-- A fix wait of this cycle returned 0. -/
def fixFound (l : Trace) : Bool := latest foundWord false l

/-- What an event says of reports in this cycle. -/
def begunWord : Ev → Option Bool
  | .call _ _ (.enter (.cycle _)) _ => some false
  | .call _ _ (.enter (.reportFix _)) _ => some true
  | _ => none

/-- `report_fix` was called in this cycle. -/
def reportBegun (l : Trace) : Bool := latest begunWord false l

/-- A cycle with a network calls `report_fix` before it sleeps, the first
time with a fix exactly where a wait returned one. -/
def beats : Ev → Trace → Bool
  | .call _ _ (.enter (.batterySleep _)) _, l => lteFailed l || reportBegun l
  | .call _ _ (.enter (.reportFix haveFix)) _, l =>
      reportBegun l || haveFix == fixFound l
  | _, _ => true

abbrev Beats (e : Ev) (l : Trace) : Prop := beats e l

/-- No cycle sleeps after its `gnss_start` failed. -/
def sleepsStarted : Ev → Trace → Bool
  | .call _ _ (.enter (.batterySleep _)) _, l => !startFailed l
  | _, _ => true

abbrev SleepsStarted (e : Ev) (l : Trace) : Prop := sleepsStarted e l

-- =============================================================== assertions

/-- The promise at every step: the two agree. -/
abbrev Beating (w : Tracker) : Prop :=
  Always (fun e l => Beats e l ↔ SleepsStarted e l) w.log

/-- Within a cycle, before its report. -/
structure InCycle (offline failed found : Bool) (w : Tracker) : Prop where
  kept : Beating w
  lte : lteFailed w.log = offline
  start : startFailed w.log = failed
  fix : fixFound w.log = found
  begun : reportBegun w.log = false

/-- Within a cycle, once it has reported. -/
structure Told (w : Tracker) : Prop where
  kept : Beating w
  start : startFailed w.log = false
  begun : reportBegun w.log = true

/-- The marks of cycles. -/
abbrev cycleMarks : List Group :=
  [.mark (.cycle .boot), .mark (.cycle .timer), .mark (.cycle .vbus),
    .mark (.cycle .motion)]

/-- The marks of sleeps. -/
abbrev bedMarks : List Group :=
  [.mark (.batterySleep .noNetwork), .mark (.batterySleep .gnssStart),
    .mark (.batterySleep .endOfCycle)]

/-- The marks of reports. -/
abbrev fixMarks : List Group :=
  [.mark (.reportFix true), .mark (.reportFix false)]

/-- The marks the record of a cycle reads. -/
abbrev beatMarks : List Group :=
  .mark .lteEnsureConnected :: .mark .gnssStart :: .mark .gnssWaitFix
    :: (cycleMarks ++ bedMarks ++ fixMarks)

/-- Only sleeps and reports are beats, -/
private theorem beat_call {o : Op} (h : Off (bedMarks ++ fixMarks) o)
    (s : Statics) (d : Dev) (r : o.Ret) (l : Trace) :
    Beats (.call s d o r) l ↔ SleepsStarted (.call s d o r) l := by
  cases o with
  | enter f =>
      cases f with
      | batterySleep site => cases site <;> exact absurd h (by simp [Off])
      | reportFix b => cases b <;> exact absurd h (by simp [Off])
      | _ => exact Iff.rfl
  | _ => exact Iff.rfl

/-- only `gnss_start` fails a start, -/
private theorem start_call {o : Op}
    (h : Off (.mark .gnssStart :: cycleMarks) o) (s : Statics) (d : Dev)
    (r : o.Ret) (l : Trace) :
    startFailed (.call s d o r :: l) = startFailed l := by
  have hword : startWord (.call s d o r) = none := by
    cases o with
    | enter f =>
        cases f with
        | cycle wr => cases wr <;> exact absurd h (by simp [Off])
        | _ => rfl
    | leave f r =>
        cases f with
        | gnssStart => exact absurd h (by simp [Off])
        | _ => rfl
    | _ => rfl
  exact latest_none hword

/-- and only the marks of a cycle change what is known of it. -/
private theorem cycle_call {o : Op} (h : Off beatMarks o)
    (s : Statics) (d : Dev) (r : o.Ret) (l : Trace) :
    lteFailed (.call s d o r :: l) = lteFailed l
      ∧ fixFound (.call s d o r :: l) = fixFound l
      ∧ reportBegun (.call s d o r :: l) = reportBegun l := by
  have hword : lteWord (.call s d o r) = none
      ∧ foundWord (.call s d o r) = none
      ∧ begunWord (.call s d o r) = none := by
    cases o with
    | enter f =>
        cases f with
        | cycle wr => cases wr <;> exact absurd h (by simp [Off])
        | reportFix b => cases b <;> exact absurd h (by simp [Off])
        | _ => exact ⟨rfl, rfl, rfl⟩
    | leave f r =>
        cases f with
        | lteEnsureConnected => exact absurd h (by simp [Off])
        | gnssWaitFix => exact absurd h (by simp [Off])
        | _ => exact ⟨rfl, rfl, rfl⟩
    | _ => exact ⟨rfl, rfl, rfl⟩
  obtain ⟨hl, hf, hb⟩ := hword
  exact ⟨latest_none hl, latest_none hf, latest_none hb⟩

/-- A report on record stays there until the next cycle. -/
private theorem begun_call {o : Op} (h : Off cycleMarks o)
    (s : Statics) (d : Dev) (r : o.Ret) {l : Trace}
    (hl : reportBegun l = true) :
    reportBegun (.call s d o r :: l) = true := by
  have hword : begunWord (.call s d o r) = none
      ∨ begunWord (.call s d o r) = some true := by
    cases o with
    | enter f =>
        cases f with
        | cycle wr => cases wr <;> exact absurd h (by simp [Off])
        | reportFix b => exact .inr rfl
        | _ => exact .inl rfl
    | _ => exact .inl rfl
  rcases hword with hword | hword
  · exact (latest_none hword).trans hl
  · exact latest_some hword

/-- The law is about sleeps and reports, -/
theorem beating_frame :
    Frame (device cfg) Free Beating Beating (Off (bedMarks ++ fixMarks))
      (Keep []) where
  stable := fun _ _ h _ _ => ⟨Iff.rfl, h⟩
  calls := fun _ _ _ ho h _ _ => ⟨beat_call ho .., h⟩
  writes := fun _ _ _ h => h
  gives := fun _ h => h

/-- and what is known in a cycle turns on its own marks. -/
theorem inCycle_frame (offline failed found : Bool) :
    Frame (device cfg) Free Beating (InCycle offline failed found)
      (Off beatMarks) (Keep []) where
  stable := fun _ _ h _ _ =>
    ⟨⟨Iff.rfl, h.kept⟩, h.lte, h.start, h.fix, h.begun⟩
  calls := by
    intro w o r ho h _ _
    obtain ⟨hl, hf, hb⟩ := cycle_call ho w.st w.dev r w.log
    have hs : startFailed (w.called (device cfg) o r).log
        = startFailed w.log := start_call (ho.mono (by simp)) ..
    exact ⟨⟨beat_call (ho.mono (by simp)) .., h.kept⟩, hl.trans h.lte,
      hs.trans h.start, hf.trans h.fix, hb.trans h.begun⟩
  writes := fun _ _ _ h => ⟨h.kept, h.lte, h.start, h.fix, h.begun⟩
  gives := fun _ h => h.kept

/-- Once the cycle has reported, every further report is welcome. -/
theorem told_frame :
    Frame (device cfg) Free Beating Told
      (Off (.mark .gnssStart :: (cycleMarks ++ bedMarks))) (Keep []) where
  stable := fun _ _ h _ _ => ⟨⟨Iff.rfl, h.kept⟩, h.start, h.begun⟩
  calls := by
    intro w o r ho h _ _
    have he : Beats (.call w.st w.dev o r) w.log
        ↔ SleepsStarted (.call w.st w.dev o r) w.log := by
      cases o with
      | enter f =>
          cases f with
          | batterySleep site =>
              cases site <;> exact absurd ho (by simp [Off])
          | reportFix b =>
              simp [Beats, SleepsStarted, beats, sleepsStarted, h.begun]
          | _ => exact Iff.rfl
      | _ => exact Iff.rfl
    have hs : startFailed (w.called (device cfg) o r).log
        = startFailed w.log := start_call (ho.mono (by simp)) ..
    exact ⟨⟨he, h.kept⟩, hs.trans h.start,
      begun_call (ho.mono (by simp)) _ _ _ h.begun⟩
  writes := fun _ _ _ h => ⟨h.kept, h.start, h.begun⟩
  gives := fun _ h => h.kept

-- ================================================================ the sleep

/-- A sleep entered where the record agrees. -/
theorem batterySleep_beats {X : Tracker → Prop} (site : SleepSite)
    (hs : Stable (device cfg) Free X) (hk : ∀ w, X w → Beating w)
    (ha : ∀ w, X w → ((lteFailed w.log || reportBegun w.log) = true
      ↔ startFailed w.log = false)) :
    Triple (device cfg) Free Beating X (batterySleep cfg site)
      fun _ => Beating := by
  have F : Frame (device cfg) Free Beating Beating
    (Off (bedMarks ++ fixMarks)) (Keep []) := beating_frame
  refine triple_scoped (batterySleep_scoped cfg site) F (by simp)
    (by simp) ?_ fun wr => ?_
  · refine Triple.op hs fun w r h _ _ => ?_
    have hkept : Beating
        (w.called (device cfg) (.enter (.batterySleep site)) r) := by
      refine ⟨?_, hk w h⟩
      show (lteFailed w.log || reportBegun w.log) = true
        ↔ (!startFailed w.log) = true
      rw [ha w h, Bool.not_eq_true']
    exact ⟨hkept, hkept⟩
  · exact Triple.op F.stable fun w r h _ _ =>
      ⟨⟨Iff.rfl, h⟩, ⟨Iff.rfl, h⟩⟩

-- ================================================= what is put on record

section record

variable {offline failed found : Bool}

/-- The functions whose results the record keeps are entered without a
word. -/
private theorem enter_inCycle {f : Fn} (hf : f = .lteEnsureConnected
    ∨ f = .gnssStart ∨ f = .gnssWaitFix) :
    Triple (device cfg) Free Beating (InCycle offline failed found)
      (call (.enter f)) fun _ => InCycle offline failed found := by
  refine Triple.op (inCycle_frame ..).stable fun w r h _ _ => ?_
  have hkept : InCycle offline failed found
      (w.called (device cfg) (.enter f) r) := by
    rcases hf with rfl | rfl | rfl <;>
      exact ⟨⟨Iff.rfl, h.kept⟩, (latest_none rfl).trans h.lte,
        (latest_none rfl).trans h.start, (latest_none rfl).trans h.fix,
        (latest_none rfl).trans h.begun⟩
  exact ⟨hkept.kept, hkept⟩

/-- `lte_ensure_connected` leaves its result on record. -/
theorem lteEnsureConnected_beats :
    Triple (device cfg) Free Beating (InCycle offline failed found)
      (lteEnsureConnected cfg) fun r => InCycle (r != 0) failed found := by
  refine triple_scoped (lteEnsureConnected_scoped cfg)
    (inCycle_frame offline failed found) (by simp) (by simp)
    (enter_inCycle (.inl rfl)) fun r => ?_
  refine Triple.op (inCycle_frame ..).stable fun w u h _ _ => ?_
  have hkept : InCycle (r != 0) failed found
      (w.called (device cfg) (.leave .lteEnsureConnected (Code.code r)) u) :=
    ⟨⟨Iff.rfl, h.kept⟩, latest_some rfl, (latest_none rfl).trans h.start,
      (latest_none rfl).trans h.fix, (latest_none rfl).trans h.begun⟩
  exact ⟨hkept.kept, hkept⟩

/-- So does `gnss_start`. -/
theorem gnssStart_beats :
    Triple (device cfg) Free Beating (InCycle offline failed found)
      (gnssStart cfg) fun r => InCycle offline (r != 0) found := by
  refine triple_scoped (gnssStart_scoped cfg)
    (inCycle_frame offline failed found) (by simp) (by simp)
    (enter_inCycle (.inr (.inl rfl))) fun r => ?_
  refine Triple.op (inCycle_frame ..).stable fun w u h _ _ => ?_
  have hkept : InCycle offline (r != 0) found
      (w.called (device cfg) (.leave .gnssStart (Code.code r)) u) :=
    ⟨⟨Iff.rfl, h.kept⟩, (latest_none rfl).trans h.lte, latest_some rfl,
      (latest_none rfl).trans h.fix, (latest_none rfl).trans h.begun⟩
  exact ⟨hkept.kept, hkept⟩

/-- A fix wait that returns no fix returns an error. -/
private theorem wait_body (timeoutS : Nat) :
    Triple (device cfg) Free Beating (InCycle offline failed found)
      (do
        let s ← Prog.get
        if cfg.gnssExternal ∧ s.active = .external then
          gnssExtWaitFix timeoutS
        else
          gnssModemWaitFix timeoutS)
      fun r w => InCycle offline failed found w
        ∧ (Code.code r = 0 ↔ r.toOption.isSome) := by
  have F : Frame (device cfg) Free Beating
    (InCycle offline failed found) (Off beatMarks) (Keep []) :=
    inCycle_frame offline failed found
  have herr : ∀ w, InCycle offline failed found w →
      InCycle offline failed found w
        ∧ (Code.code (.error (-EAGAIN) : Except Int TrackerFix) = 0
          ↔ (Except.error (-EAGAIN) : Except Int TrackerFix).toOption.isSome) :=
    fun w h => ⟨h, by decide⟩
  refine Triple.get fun s => Triple.pre (P := InCycle offline failed found)
    (Triple.ite (fun _ => ?_) fun _ => ?_) fun w h => h.1
  all_goals
    refine (plain_keeps F (by rfl) (by simp)).bind fun _ =>
      (plain_keeps F (by rfl) (by simp)).bind fun r =>
      Triple.ite (fun _ => Triple.ret herr) fun _ => ?_
    exact (plain_keeps F (by rfl) (by simp)).bind fun fix =>
      Triple.ret fun w h => ⟨h, by simp [Code.code, Except.toOption]⟩

/-- A wait is on record as a fix exactly if it returned one. -/
theorem gnssWaitFix_beats (timeoutS : Nat) :
    Triple (device cfg) Free Beating (InCycle offline failed found)
      (gnssWaitFix cfg timeoutS)
      fun r => InCycle offline failed (found || r.toOption.isSome) := by
  refine triple_scope (enter_inCycle (.inr (.inr rfl)))
    (wait_body timeoutS) fun r => ?_
  have hs : Stable (device cfg) Free fun w : Tracker =>
      InCycle offline failed found w
        ∧ (Code.code r = 0 ↔ r.toOption.isSome) :=
    (inCycle_frame ..).stable.and fun _ _ h _ _ => h
  refine Triple.op hs fun w u h _ _ => ?_
  have hfix : fixFound (w.called (device cfg)
      (.leave .gnssWaitFix (Code.code r)) u).log
      = (found || r.toOption.isSome) := by
    by_cases hr : Code.code r = 0
    · rw [h.2.mp hr, Bool.or_true]
      exact latest_some (if_pos hr)
    · have hnone : r.toOption.isSome = false := by
        rw [Bool.eq_false_iff]
        exact fun hsome => hr (h.2.mpr hsome)
      rw [hnone, Bool.or_false]
      exact (latest_none (if_neg hr)).trans h.1.fix
  have hkept : InCycle offline failed (found || r.toOption.isSome)
      (w.called (device cfg) (.leave .gnssWaitFix (Code.code r)) u) :=
    ⟨⟨Iff.rfl, h.1.kept⟩, (latest_none rfl).trans h.1.lte,
      (latest_none rfl).trans h.1.start, hfix,
      (latest_none rfl).trans h.1.begun⟩
  exact ⟨hkept.kept, hkept⟩

end record

-- ============================================================ acquisition

/-- From the running receiver on: a cycle with a network and no fix on
record yet. -/
abbrev Seeking (w : Tracker) : Prop := InCycle false false false w

/-- What the acquisition returns is on record. -/
abbrev Sought (fix : Option TrackerFix) (w : Tracker) : Prop :=
  InCycle false false fix.isSome w

/-- The first fix that a wait returns is on record, -/
theorem gnssWaitFix_sought (timeoutS : Nat) :
    Triple (device cfg) Free Beating Seeking (gnssWaitFix cfg timeoutS)
      fun r => Sought r.toOption :=
  (gnssWaitFix_beats timeoutS).post fun r w h => by
    rwa [Bool.false_or] at h

/-- on the second receiver -/
theorem acquireFallback_sought (assisted : Bool) :
    Triple (device cfg) Free Beating Seeking
      (acquireFallback cfg assisted) fun r => Sought r.1 := by
  have F : Frame (device cfg) Free Beating Seeking (Off beatMarks)
    (Keep []) := inCycle_frame false false false
  refine (part F (gnssFallback_foot cfg) (by simp) (by simp)).bind
    fun r => Triple.ite (fun _ => Triple.ret fun w h => h) fun _ => ?_
  refine (part F (assistIfAsked_foot cfg (foot_pure ())) (by simp)
    (by simp)).bind fun asked => ?_
  refine (part F (g := []) (v := []) (by simp [gnssFixTimeoutSeconds])
    (by simp) (by simp)).bind fun t => ?_
  exact (gnssWaitFix_sought t).bind fun fix => Triple.ret fun w h => h

/-- and at the last resort as well. -/
theorem acquireAssisted_sought :
    Triple (device cfg) Free Beating Seeking (acquireAssisted cfg)
      Sought := by
  have F : Frame (device cfg) Free Beating Seeking (Off beatMarks)
    (Keep []) := inCycle_frame false false false
  refine (part F (agnssFetchAndInject_foot cfg) (by simp) (by simp)).bind
    fun r => Triple.ite (fun _ => Triple.ret fun w h => h) fun _ => ?_
  exact (gnssWaitFix_sought _).bind fun fix => Triple.ret fun w h => h

/-- The ladder: whichever way it is left, the fix in hand is there exactly
if a wait of it returned one. -/
theorem acquire_sought :
    Triple (device cfg) Free Beating Seeking (acquire cfg) Sought := by
  have F : Frame (device cfg) Free Beating Seeking (Off beatMarks)
    (Keep []) := inCycle_frame false false false
  refine acquire_ladder Sought Sought ?_
    (part F (watchdogPhase_foot .fix) (by simp) (by simp)) ?_
    gnssWaitFix_sought ?_ acquireFallback_sought (fun _ _ h => h) ?_
    fun _ _ h => h
  · exact part F (assistIfAsked_foot cfg (watchdogPhase_foot .agnss))
      (by simp) (by simp)
  · exact part F (g := []) (v := []) (by simp [gnssFixTimeoutSeconds])
      (by simp) (by simp)
  · exact part F (g := []) (v := []) (by simp [gnssFallbackAvailable])
      (by simp) (by simp)
  · -- the last rung keeps what the earlier ones found
    refine (part F (agnssWanted_foot cfg) (by simp) (by simp)).bind fun b =>
      Triple.ite (fun _ => acquireAssisted_sought) fun _ => ?_
    exact Triple.ret fun w h => h

-- ========================================================= the first report

/-- `report_fix` with what was found. -/
theorem reportFix_told (fix : Option TrackerFix) (wakeUptimeMs : Nat)
    (wr : WakeReason) :
    Triple (device cfg) Free Beating (Sought fix)
      (reportFix cfg fix wakeUptimeMs wr) fun _ => Told := by
  have F : Frame (device cfg) Free Beating Told
    (Off (.mark .gnssStart :: (cycleMarks ++ bedMarks))) (Keep []) :=
    told_frame
  refine triple_scoped (reportFix_scoped cfg fix wakeUptimeMs wr) F
    (by simp) (by simp) ?_ fun r => leave_keeps F (by simp)
  refine Triple.op (inCycle_frame ..).stable fun w r h _ _ => ?_
  have hkept : Beating
      (w.called (device cfg) (.enter (.reportFix fix.isSome)) r) := by
    refine ⟨?_, h.kept⟩
    show (reportBegun w.log || fix.isSome == fixFound w.log) = true
      ↔ true = true
    rw [h.fix, beq_self_eq_true, Bool.or_true]
  exact ⟨hkept, hkept, (latest_none rfl).trans h.start, latest_some rfl⟩

/-- Fix or no fix, the first report is made. -/
theorem firstReport_told (hforce : cfg.forcePublishWithoutFix = true)
    (fix : Option TrackerFix) (wakeUptimeMs : Nat) (wr : WakeReason) :
    Triple (device cfg) Free Beating (Sought fix)
      (firstReport cfg fix wakeUptimeMs wr) fun _ => Told := by
  have F : Frame (device cfg) Free Beating Told
    (Off (.mark .gnssStart :: (cycleMarks ++ bedMarks))) (Keep []) :=
    told_frame
  have S : ∀ b, Frame (device cfg) Free Beating (InCycle false false b)
    (Off beatMarks) (Keep []) := inCycle_frame false false
  have hrest : ∀ b : Bool, Triple (device cfg) Free Beating Told (do
      statusLedReport cfg b
      watchdogFeed) fun _ => Told := fun b =>
    (part F (statusLedReport_foot cfg b) (by simp) (by simp)).bind
      fun _ => part F watchdogFeed_foot (by simp) (by simp)
  refine (part (S fix.isSome) watchdogFeed_foot (by simp) (by simp)).bind
    fun _ => ?_
  cases fix with
  | none =>
      show Triple _ _ _ _ (reportOrSkip cfg none wakeUptimeMs wr >>=
        fun _ => watchdogFeed) _
      -- the option makes it report without a fix as well
      rw [show reportOrSkip cfg none wakeUptimeMs wr = (do
        let _ ← reportFix cfg none wakeUptimeMs wr
        statusLedReport cfg false) by simp [reportOrSkip, hforce],
        Prog.bind_assoc]
      exact (reportFix_told none wakeUptimeMs wr).bind fun _ => hrest false
  | some fix =>
      -- settling a fix may better it, and cannot lose it
      have hsettle : Triple (device cfg) Free Beating (Sought (some fix))
          (settleFix cfg fix) fun _ => Sought (some fix) := by
        refine Triple.ite (fun _ => ?_) fun _ => Triple.ret fun w h => h
        refine (plain_keeps (S true) (by rfl) (by simp)).bind fun _ =>
          (gnssWaitFix_beats 5).bind fun better => Triple.ret fun w h => ?_
        rwa [Bool.true_or] at h
      refine hsettle.bind fun fix' => ?_
      show Triple _ _ _ _ (reportOrSkip cfg (some fix') wakeUptimeMs wr >>=
        fun _ => watchdogFeed) _
      rw [show reportOrSkip cfg (some fix') wakeUptimeMs wr = (do
        let _ ← reportFix cfg (some fix') wakeUptimeMs wr
        statusLedReport cfg true) from rfl, Prog.bind_assoc]
      exact (reportFix_told (some fix') wakeUptimeMs wr).bind
        fun _ => hrest true

-- ================================================================ the cycle

/-- With the report made, the sleep keeps the promise. -/
theorem endOfCycle_beats :
    Triple (device cfg) Free Beating Told (endOfCycle cfg)
      fun _ => Beating := by
  have F : Frame (device cfg) Free Beating Told
    (Off (.mark .gnssStart :: (cycleMarks ++ bedMarks))) (Keep []) :=
    told_frame
  refine (part F (watchdogPhase_foot _) (by simp) (by simp)).bind fun _ =>
    (part F (gnssStop_foot cfg) (by simp) (by simp)).bind fun _ =>
    (part F (watchdogPhase_foot _) (by simp) (by simp)).bind fun _ =>
    (part F (cloudPause_foot cfg) (by simp) (by simp)).bind fun _ => ?_
  refine batterySleep_beats _ F.stable (fun _ h => h.kept) fun w h => ?_
  rw [h.begun, h.start, Bool.or_true]
  exact ⟨fun _ => rfl, fun _ => rfl⟩

/-- A cycle with the network up reports, or sleeps on a failed start: there
both sides fail. -/
theorem onlineCycle_beats (hforce : cfg.forcePublishWithoutFix = true)
    (fuel wakeUptimeMs : Nat) (wr : WakeReason) :
    Triple (device cfg) Free Beating Seeking
      (onlineCycle cfg fuel wakeUptimeMs wr) fun _ => Beating := by
  have F : Frame (device cfg) Free Beating Seeking (Off beatMarks)
    (Keep []) := inCycle_frame false false false
  have T : Frame (device cfg) Free Beating Told
    (Off (.mark .gnssStart :: (cycleMarks ++ bedMarks))) (Keep []) :=
    told_frame
  refine (part F (watchdogPhase_foot _) (by simp) (by simp)).bind fun _ =>
    (part F (watchdogGuardStart_foot _) (by simp) (by simp)).bind fun _ =>
    (part F (cloudResume_foot cfg) (by simp) (by simp)).bind fun _ =>
    (part F watchdogGuardStop_foot (by simp) (by simp)).bind fun _ =>
    (part F (statusLedReport_foot cfg false) (by simp) (by simp)).bind
    fun _ => (part F (watchdogPhase_foot _) (by simp) (by simp)).bind
    fun _ => gnssStart_beats.bind fun r => Triple.ite (fun hr => ?_)
    fun hr => ?_
  · -- no receiver: the cycle is given up, and its record says so
    have hne : (r != 0) = true := bne_iff_ne.mpr hr
    rw [hne]
    have S : Frame (device cfg) Free Beating (InCycle false true false)
      (Off beatMarks) (Keep []) := inCycle_frame false true false
    refine (part S (cloudPause_foot cfg) (by simp) (by simp)).bind
      fun _ => ?_
    refine batterySleep_beats _ S.stable (fun _ h => h.kept) fun w h => ?_
    rw [h.lte, h.begun, h.start]
    decide
  · have hz : (r != 0) = false := by
      rw [Decidable.not_not.mp hr]
      rfl
    rw [hz]
    refine acquire_sought.bind fun fix =>
      (firstReport_told hforce fix wakeUptimeMs wr).bind fun _ => ?_
    exact (part T (frequentReports_foot cfg fuel wakeUptimeMs wr _)
      (by simp) (by simp)).bind fun _ => endOfCycle_beats

/-- The record starts over with each cycle. -/
theorem topOfCycle_beats (wr : WakeReason) :
    Triple (device cfg) Free Beating Beating (topOfCycle wr)
      fun _ => Seeking := by
  have F : Frame (device cfg) Free Beating Seeking (Off beatMarks)
    (Keep []) := inCycle_frame false false false
  have hrest : ∀ now : Int, Foot [.plain] [.phase, .batterySleeps] (do
      if wr = .vbus then
        Prog.modify fun s => { s with batterySleeps := 0 }
      watchdogPhase .wake
      watchdogFeed
      pure (u32 now)) := fun now => by
    simp [watchdogPhase, watchdogFeed, Var.forall]
  refine Triple.bind (R := fun _ => Seeking)
    (Triple.op beating_frame.stable fun w r h _ _ => ?_) fun _ => ?_
  · have hkept : Seeking (w.called (device cfg) (.enter (.cycle wr)) r) :=
      ⟨⟨Iff.rfl, h⟩, latest_some rfl, latest_some rfl, latest_some rfl,
        latest_some rfl⟩
    exact ⟨hkept.kept, hkept⟩
  · exact (plain_keeps F (by rfl) (by simp)).bind fun now =>
      part F (hrest now) (by simp) (by simp)

/-- One without it sleeps as it may. -/
theorem cycle_beats (hforce : cfg.forcePublishWithoutFix = true)
    (fuel : Nat) (wr : WakeReason) :
    Triple (device cfg) Free Beating Beating (cycle cfg fuel wr)
      fun _ => Beating := by
  have F : ∀ b, Frame (device cfg) Free Beating (InCycle b false false)
    (Off beatMarks) (Keep []) := fun b => inCycle_frame b false false
  have hnet : Triple (device cfg) Free Beating Seeking
      (bringUpNetwork cfg) fun b => InCycle (!b) false false := by
    refine Triple.ite (fun _ => Triple.ret fun w h => h) fun _ => ?_
    refine (part (F false) (recoverIfSilent_foot cfg) (by simp)
      (by simp)).bind fun _ => (part (F false) (watchdogPhase_foot .lte)
      (by simp) (by simp)).bind fun _ => lteEnsureConnected_beats.bind
      fun r => Triple.ret fun w h => h
  refine (topOfCycle_beats wr).bind fun wakeUptimeMs => hnet.bind fun b => ?_
  cases b with
  | true => exact onlineCycle_beats hforce fuel wakeUptimeMs wr
  | false =>
      -- no network: the promise excepts this sleep
      refine (part (F true) (statusLedSet_foot cfg .noLte) (by simp)
        (by simp)).bind fun _ => ?_
      refine batterySleep_beats _ (F true).stable (fun _ h => h.kept)
        fun w h => ?_
      rw [h.lte, h.start, Bool.true_or]
      exact ⟨fun _ => rfl, fun _ => rfl⟩

/-- `while (1)`, by induction on the cycles left. -/
theorem mainLoop_beats (hforce : cfg.forcePublishWithoutFix = true)
    (fuel : Nat) :
    ∀ n wr, Triple (device cfg) Free Beating Beating
      (mainLoop cfg fuel n wr) fun _ _ => True := by
  intro n
  induction n with
  | zero => exact fun wr => Triple.halt
  | succ n ih =>
      intro wr
      exact (cycle_beats hforce fuel wr).bind fun wr' => ih wr'

-- ================================================================= the law

/-- With the heartbeat on, every cycle with a network reports before it
sleeps, first with a fix exactly where a wait returned one, if and only if
no cycle whose `gnss_start` failed goes to sleep. -/
theorem heartbeat_iff {n fuel : Nat} {w : Tracker}
    (hforce : cfg.forcePublishWithoutFix = true) (hw : Booted cfg w)
    {c : P Int × Tracker}
    (hr : Reach (device cfg) (main cfg n fuel) w c) :
    Always Beats c.2.log ↔ Always SleepsStarted c.2.log := by
  have hk : Beating w := by
    rw [Beating, hw.log]
    trivial
  have hmain : Triple (device cfg) Free Beating Beating (main cfg n fuel)
      fun _ _ => True := by
    refine (part beating_frame setUp_foot (by simp) (by simp)).bind
      fun err => Triple.ite (fun _ => Triple.ret fun _ _ => trivial)
      fun _ => mainLoop_beats hforce fuel n .boot
  exact always_congr (hmain.reach hk hk hr (always_free _))

/-- No fix arrives: every cycle reports without one and sleeps. -/
theorem heartbeat_iff_calm :
    let c := playMain fixless calm 2 0 400
    c.2.log.any (fun
      | .call _ _ (.enter (.batterySleep .endOfCycle)) _ => true
      | _ => false) = true ∧
    (Always Beats c.2.log ↔ Always SleepsStarted c.2.log) :=
  ⟨by decide +kernel, heartbeat_iff rfl (start_booted fixless)
    (playMain_reach fixless calm 2 0 400)⟩

/-- The network is up and the receiver does not start: the cycle sleeps
without a report. -/
theorem sleep_without_report :
    ∃ cfg w c, cfg.forcePublishWithoutFix = true ∧ Booted cfg w ∧
      Reach (device cfg) (main cfg 1 0) w c ∧
      lteFailed c.2.log = false ∧ ¬Always Beats c.2.log :=
  ⟨fixless, _, _, rfl, start_booted fixless,
    playMain_reach fixless deaf 1 0 400, by decide +kernel,
    by decide +kernel⟩

end GpsTracker
