/-
The settle count (main.c, Kconfig).

`battery_sleeps` counts the sleeps taken since power was last observed, up
to `TRACKER_MOTION_SETTLE_CYCLES`, and starts there. Power is observed by a
cycle that it woke and by the body of the frequent loop; every
`battery_sleep` asks once, for motion disarmed as long as the count has not
run out.
-/
import GpsTracker.Run.Script

namespace GpsTracker

open Proc

variable {cfg : Config}

-- ================================================================= statements

/-- What is on record of the count: the sleeps begun since power was
observed last, if it ever was; what the last of them asked for, newest
first; and whether it lasts. -/
structure Grace where
  sleeps : Option Nat := none
  asks : List Bool := []
  asleep : Bool := false
deriving DecidableEq

/-- What one more call adds. -/
def Grace.note : (o : Op) → o.Ret → Grace → Grace
  | .enter (.cycle .vbus), _, g => { g with sleeps := some 0 }
  | .leave (.powerVbusPresent .body) r, _, g =>
      if r = 0 then g else { g with sleeps := some 0 }
  | .enter (.batterySleep _), _, g =>
      { sleeps := g.sleeps.map (· + 1), asleep := true }
  | .enter (.motionSetArmed arm), _, g => { g with asks := arm :: g.asks }
  | .leave (.batterySleep _) _, _, g => { g with asleep := false }
  | _, _, g => g

def grace : Trace → Grace
  | [] => {}
  | .call _ _ o r :: l => (grace l).note o r
  | .env .. :: l => grace l

/-- What the last sleep is to ask for: of the sleeps since power was
observed, the first `TRACKER_MOTION_SETTLE_CYCLES` go unwatched. -/
def Grace.due (cfg : Config) (g : Grace) : Bool :=
  match g.sleeps with
  | none => true
  | some m => decide (cfg.motionSettleCycles < m)

/-- A sleep asks for what is due, and has asked once when it ends. -/
def asksDue (cfg : Config) : Ev → Trace → Bool
  | .call _ _ (.enter (.motionSetArmed arm)) _, l =>
      !(grace l).asleep || arm == (grace l).due cfg
  | .call _ _ (.leave (.batterySleep _) _) _, l =>
      (grace l).asks == [(grace l).due cfg]
  | _, _ => true

abbrev AsksDue (cfg : Config) (e : Ev) (l : Trace) : Prop := asksDue cfg e l

-- ================================================================= assertions

/-- The promise at every step. -/
structure Counts (cfg : Config) (w : Tracker) : Prop where
  asks : Always (AsksDue cfg) w.log
  bound : w.st.batterySleeps ≤ cfg.motionSettleCycles

/-- `R` is known of the record and the count. -/
structure Counted (cfg : Config) (R : Grace → Nat → Prop) (w : Tracker) :
    Prop extends Counts cfg w where
  record : R (grace w.log) w.st.batterySleeps

/-- The count that belongs to a number of sleeps. -/
def Grace.count (cfg : Config) (g : Grace) : Nat :=
  match g.sleeps with
  | none => cfg.motionSettleCycles
  | some k => min cfg.motionSettleCycles k

/-- Outside a sleep the count is what the record says. -/
def Even (cfg : Config) (g : Grace) (n : Nat) : Prop :=
  n = g.count cfg ∧ g.asleep = false

/-- What the record turns on. -/
abbrev graceMarks : List Group :=
  [.mark (.cycle .vbus), .mark (.powerVbusPresent .body),
    .mark (.batterySleep .noNetwork), .mark (.batterySleep .gnssStart),
    .mark (.batterySleep .endOfCycle), .mark (.motionSetArmed true),
    .mark (.motionSetArmed false)]

/-- A call the record does not turn on. -/
theorem note_off {o : Op} (h : Off graceMarks o) (r : o.Ret) (g : Grace) :
    g.note o r = g := by
  cases o with
  | enter f =>
      cases f with
      | cycle wr => cases wr <;> first | rfl | exact absurd h (by simp [Off])
      | batterySleep site => cases site <;> exact absurd h (by simp [Off])
      | motionSetArmed arm => cases arm <;> exact absurd h (by simp [Off])
      | _ => rfl
  | leave f c =>
      cases f with
      | powerVbusPresent site =>
          cases site <;> first | rfl | exact absurd h (by simp [Off])
      | batterySleep site => cases site <;> exact absurd h (by simp [Off])
      | _ => rfl
  | _ => rfl

/-- The law asks about the motion calls only. -/
theorem asksDue_off {o : Op} (h : Off graceMarks o) (s : Statics) (d : Dev)
    (r : o.Ret) (l : Trace) : AsksDue cfg (.call s d o r) l := by
  cases o with
  | enter f =>
      cases f with
      | motionSetArmed arm => cases arm <;> exact absurd h (by simp [Off])
      | _ => rfl
  | leave f c =>
      cases f with
      | batterySleep site => cases site <;> exact absurd h (by simp [Off])
      | _ => rfl
  | _ => rfl

/-- The other calls, and the moves of the device, leave the count alone. -/
theorem counted_frame {R : Grace → Nat → Prop} :
    Frame (device cfg) Free (Counts cfg) (Counted cfg R) (Off graceMarks)
      (Keep [.batterySleeps]) where
  stable := fun w a h _ _ => ⟨⟨⟨rfl, h.asks⟩, h.bound⟩, h.record⟩
  calls := by
    intro w o r ho h _ _
    refine ⟨⟨⟨asksDue_off ho w.st w.dev r w.log, h.asks⟩, h.bound⟩, ?_⟩
    show R ((grace w.log).note o r) w.st.batterySleeps
    rw [note_off ho]
    exact h.record
  writes := by
    intro w f hf h
    have hcount : (f w.st).batterySleeps = w.st.batterySleeps :=
      hf .batterySleeps (by simp)
    refine ⟨⟨h.asks, ?_⟩, ?_⟩
    · show (f w.st).batterySleeps ≤ _
      rw [hcount]
      exact h.bound
    · show R (grace w.log) (f w.st).batterySleeps
      rw [hcount]
      exact h.record
  gives := fun _ h => h.toCounts

variable {R : Grace → Nat → Prop}

/-- A call that the record may turn on. -/
theorem turns {o : Op} {Q : o.Ret → Grace → Nat → Prop}
    (hasks : ∀ s d r l, R (grace l) s.batterySleeps →
      AsksDue cfg (.call s d o r) l)
    (h : ∀ r g n, n ≤ cfg.motionSettleCycles → R g n → Q r (g.note o r) n) :
    Triple (device cfg) Free (Counts cfg) (Counted cfg R) (call o)
      fun r => Counted cfg (Q r) :=
  Triple.op counted_frame.stable fun w r hw _ _ =>
    have hkept : Counts cfg (w.called (device cfg) o r) :=
      ⟨⟨hasks w.st w.dev r w.log hw.record, hw.asks⟩, hw.bound⟩
    ⟨hkept, hkept, h r _ _ hw.bound hw.record⟩

/-- The count is written. -/
theorem recounts {f : Nat → Nat}
    {Q : Grace → Nat → Prop}
    (hle : ∀ g n, n ≤ cfg.motionSettleCycles → R g n →
      f n ≤ cfg.motionSettleCycles ∧ Q g (f n)) :
    Triple (device cfg) Free (Counts cfg) (Counted cfg R)
      (Prog.modify fun s => { s with batterySleeps := f s.batterySleeps })
      fun _ => Counted cfg Q :=
  Triple.modify fun w hw =>
    have hf := hle (grace w.log) w.st.batterySleeps hw.bound hw.record
    ⟨⟨hw.asks, hf.1⟩, ⟨hw.asks, hf.1⟩, hf.2⟩

/-- A weaker relation between record and count does. -/
theorem Counted.mono {Q : Grace → Nat → Prop} (h : ∀ g n, R g n → Q g n)
    {w : Tracker} (hw : Counted cfg R w) : Counted cfg Q w :=
  ⟨hw.toCounts, h _ _ hw.record⟩

-- ================================================================= observation

/-- Where power was observed the count is still to be restarted. -/
def Restarting (cfg : Config) (seen : Prop) (g : Grace) (n : Nat) : Prop :=
  (seen → g.sleeps = some 0) ∧ (¬seen → n = g.count cfg) ∧ g.asleep = false

/-- Where power was not observed there is nothing to restart. -/
theorem Restarting.even {seen : Prop} {g : Grace} {n : Nat}
    (h : Restarting cfg seen g n) (hseen : ¬seen) : Even cfg g n :=
  ⟨h.2.1 hseen, h.2.2⟩

/-- The restart. -/
theorem restart_even {seen : Prop} (hseen : seen) :
    Triple (device cfg) Free (Counts cfg) (Counted cfg (Restarting cfg seen))
      (Prog.modify fun s => { s with batterySleeps := 0 })
      fun _ => Counted cfg (Even cfg) := by
  refine recounts (f := fun _ => 0) fun g n _ h => ⟨Nat.zero_le _, ?_, h.2.2⟩
  unfold Grace.count
  rw [h.1 hseen]
  exact (Nat.min_zero _).symm

/-- The head of a cycle restarts the count with the record where VBUS was the
wake reason, and leaves both elsewhere. -/
theorem topOfCycle_even (wr : WakeReason) :
    Triple (device cfg) Free (Counts cfg) (Counted cfg (Even cfg))
      (topOfCycle wr) fun _ => Counted cfg (Even cfg) := by
  have henter : Triple (device cfg) Free (Counts cfg)
      (Counted cfg (Even cfg)) (call (.enter (.cycle wr)))
      fun _ => Counted cfg (Restarting cfg (wr = .vbus)) := by
    refine turns (fun _ _ _ _ _ => rfl) fun _ g n _ h => ?_
    cases wr with
    | vbus => exact ⟨fun _ => rfl, fun hne => absurd rfl hne, h.2⟩
    | _ => exact ⟨nofun, fun _ => h.1, h.2⟩
  have F : Frame (device cfg) Free (Counts cfg) (Counted cfg (Even cfg)) _ _ :=
    counted_frame
  have hrest : ∀ now : Int, Triple (device cfg) Free (Counts cfg)
      (Counted cfg (Even cfg)) (do
        watchdogPhase .wake
        watchdogFeed
        pure (u32 now)) fun _ => Counted cfg (Even cfg) := fun now =>
    (part F (watchdogPhase_foot _) (by simp) (by simp)).bind fun _ =>
      (part F watchdogFeed_foot (by simp) (by simp)).bind fun _ =>
        Triple.ret fun w h => h
  refine henter.bind fun _ => (plain_keeps counted_frame (by rfl)
    (by simp)).bind fun now => Triple.ite (fun hwr => ?_) fun hwr => ?_
  · exact (restart_even hwr).bind fun _ => hrest now
  · exact (hrest now).pre fun w h => h.mono fun _ _ h => h.even hwr

/-- So does the look of the frequent loop. It disarms before it restarts,
outside any sleep, where nothing is due. -/
theorem holdOffMotion_even :
    Triple (device cfg) Free (Counts cfg) (Counted cfg (Even cfg))
      (holdOffMotion cfg) fun _ => Counted cfg (Even cfg) := by
  have hlook : Triple (device cfg) Free (Counts cfg)
      (Counted cfg (Even cfg)) (powerVbusPresent .body)
      fun b => Counted cfg (Restarting cfg (b = true)) := by
    refine triple_scope (Y := Counted cfg (Even cfg))
      (turns (fun _ _ _ _ _ => rfl) fun _ g n _ h => h)
      (part counted_frame (g := [.plain]) (v := [])
        (by simp [readVbusPresent]) (by simp) (by simp)) fun b =>
      turns (fun _ _ _ _ _ => rfl) fun _ g n _ h => ?_
    cases b with
    | true => exact ⟨fun _ => rfl, fun hne => absurd rfl hne, h.2⟩
    | false => exact ⟨fun h => (by cases h), fun _ => h.1, h.2⟩
  have hdisarm : Triple (device cfg) Free (Counts cfg)
      (Counted cfg (Restarting cfg True)) (motionSetArmed cfg false)
      fun _ => Counted cfg (Restarting cfg True) := by
    refine triple_scoped (Y := Counted cfg (Restarting cfg True))
      (motionSetArmed_scoped cfg false) counted_frame (by simp) (by simp)
      (turns (fun s d r l h => ?_) fun _ g n _ h => h)
      fun _ => turns (fun _ _ _ _ _ => rfl) fun _ g n _ h => h
    show (!(grace l).asleep || _) = true
    rw [h.2.2]
    rfl
  refine hlook.bind fun b => Triple.ite (fun hb => ?_) fun hb =>
    Triple.ret fun w h => h.mono fun _ _ h => h.even hb
  refine Triple.pre (P := Counted cfg (Restarting cfg True)) ?_ fun w h =>
    h.mono fun g n h => ⟨fun _ => h.1 hb, fun hn => absurd trivial hn, h.2.2⟩
  exact hdisarm.bind fun _ => restart_even trivial

-- ================================================================= the sleep

/-- In a sleep that has not asked yet, and whose predecessors since the last
observation the count holds. -/
def Asking (cfg : Config) (g : Grace) (n : Nat) : Prop :=
  g.asks = [] ∧ g.due cfg = decide (cfg.motionSettleCycles ≤ n) ∧
    (if cfg.motionSettleCycles ≤ n then n else n + 1) = g.count cfg

/-- In a sleep that has asked for `arm`; the count is still to follow. -/
def Asked (cfg : Config) (arm : Bool) (g : Grace) (n : Nat) : Prop :=
  g.asks = [arm] ∧ g.due cfg = arm ∧
    arm = decide (cfg.motionSettleCycles ≤ n) ∧
    (if cfg.motionSettleCycles ≤ n then n else n + 1) = g.count cfg

/-- In a sleep that has asked and counted itself. -/
def Resting (cfg : Config) (g : Grace) (n : Nat) : Prop :=
  g.asks = [g.due cfg] ∧ n = g.count cfg

/-- At the entry of `battery_sleep` the record is one sleep ahead, and what is
due can be read off the count. -/
theorem asking_of_even {g : Grace} {n : Nat}
    (hn : n ≤ cfg.motionSettleCycles) (h : Even cfg g n)
    (site : SleepSite) (u : Unit) :
    Asking cfg (g.note (.enter (.batterySleep site)) u) n := by
  obtain ⟨hcount, -⟩ := h
  obtain ⟨sleeps, asks, asleep⟩ := g
  cases sleeps with
  | none =>
      have hfull : n = cfg.motionSettleCycles := hcount
      refine ⟨rfl, (decide_eq_true (Nat.le_of_eq hfull.symm)).symm, ?_⟩
      rw [if_pos (Nat.le_of_eq hfull.symm)]
      exact hfull
  | some k =>
      have hmin : n = min cfg.motionSettleCycles k := hcount
      refine ⟨rfl, ?_, ?_⟩
      · show decide (cfg.motionSettleCycles < k + 1) = _
        rw [decide_eq_decide]
        omega
      · show _ = min cfg.motionSettleCycles (k + 1)
        split <;> omega

/-- `battery_sleep` asks once for what is due and counts itself. -/
theorem batterySleep_even (site : SleepSite) :
    Triple (device cfg) Free (Counts cfg) (Counted cfg (Even cfg))
      (batterySleep cfg site) fun _ => Counted cfg (Even cfg) := by
  have F : ∀ R, Frame (device cfg) Free (Counts cfg) (Counted cfg R)
      (Off graceMarks) (Keep [.batterySleeps]) := fun _ => counted_frame
  have hask : ∀ arm, Triple (device cfg) Free (Counts cfg)
      (Counted cfg fun g n => Asking cfg g n ∧
        arm = decide (cfg.motionSettleCycles ≤ n))
      (motionSetArmed cfg arm) fun _ => Counted cfg (Asked cfg arm) := by
    intro arm
    refine triple_scoped (Y := Counted cfg (Asked cfg arm))
      (motionSetArmed_scoped cfg arm) counted_frame (by simp) (by simp)
      (turns (fun s d r l h => ?_) fun _ g n _ h => ?_)
      fun _ => turns (fun _ _ _ _ _ => rfl) fun _ g n _ h => h
    · show (!(grace l).asleep || arm == (grace l).due cfg) = true
      rw [h.1.2.1, h.2, beq_self_eq_true, Bool.or_true]
    · obtain ⟨⟨hasks, hdue, hcount⟩, harm⟩ := h
      refine ⟨?_, ?_, harm, hcount⟩
      · show arm :: g.asks = [arm]
        rw [hasks]
      · show g.due cfg = arm
        rw [hdue, harm]
  refine triple_scope (R := fun _ => Counted cfg (Resting cfg))
    (turns (fun _ _ _ _ _ => rfl) fun u g n hn h =>
      asking_of_even hn h site u) ?_ fun wr =>
    turns (fun s d r l h => by
      show ((grace l).asks == [(grace l).due cfg]) = true
      rw [h.1, beq_self_eq_true]) fun _ g n _ h => ⟨h.2, rfl⟩
  refine Triple.get fun s => ?_
  generalize harm : decide (cfg.motionSettleCycles ≤ s.batterySleeps) = arm
  have hwait : Triple (device cfg) Free (Counts cfg)
      (Counted cfg (Resting cfg)) (do
        watchdogPhase .sleep
        wakeWait cfg.sleepSeconds) fun _ => Counted cfg (Resting cfg) :=
    (part (F _) (watchdogPhase_foot _) (by simp) (by simp)).bind fun _ =>
      part (F _) (wakeWait_foot _) (by simp) (by simp)
  refine Triple.pre (P := Counted cfg fun g n => Asking cfg g n ∧
    arm = decide (cfg.motionSettleCycles ≤ n)) ?_ fun w h =>
      ⟨h.1.toCounts, h.1.record, by rw [h.2, harm]⟩
  refine (part (F _) (watchdogPhase_foot _) (by simp) (by simp)).bind fun _ =>
    (part (F _) (statusLedSleep_foot cfg) (by simp) (by simp)).bind fun _ =>
    (part (F _) (watchdogPhase_foot _) (by simp) (by simp)).bind fun _ =>
    (hask arm).bind fun _ => Triple.ite (fun hoff => ?_) fun hon => ?_
  · refine Triple.bind (R := fun _ => Counted cfg (Resting cfg))
      (recounts (f := fun n => n + 1) fun g n hn h => ?_) fun _ => hwait
    obtain ⟨hasks, hdue, hdec, hcount⟩ := h
    have hless : ¬cfg.motionSettleCycles ≤ n := by
      rw [hdec] at hoff
      simpa using hoff
    rw [if_neg hless] at hcount
    refine ⟨by omega, ?_, hcount⟩
    rw [hasks, hdue]
  · refine hwait.pre fun w h => h.mono fun g n h => ?_
    obtain ⟨hasks, hdue, hdec, hcount⟩ := h
    have hfull : cfg.motionSettleCycles ≤ n := by
      rw [hdec] at hon
      simpa using hon
    rw [if_pos hfull] at hcount
    refine ⟨?_, hcount⟩
    rw [hasks, hdue]

-- ===================================================================== the law

/-- The count is even at every point: only three functions look at it. -/
theorem settle_outline : Outline cfg Free (Counts cfg)
    fun _ => Counted cfg (Even cfg) := by
  have F : Frame (device cfg) Free (Counts cfg) (Counted cfg (Even cfg))
      (Off graceMarks) (Keep [.batterySleeps]) := counted_frame
  exact
    { quiet := fun _ => quiet F (by simp) (by simp)
      setUp := (part F setUp_foot (by simp) (by simp)).post fun _ _ h _ => h
      topOfCycle := topOfCycle_even
      recover := part F (recoverIfSilent_foot cfg) (by simp) (by simp)
      noLte := fun _ _ h => h
      lte := part F (lteEnsureConnected_foot cfg) (by simp) (by simp)
      offline := fun _ h => h
      resume := part F (cloudResume_foot cfg) (by simp) (by simp)
      ledOn := part F (statusLedReport_foot cfg false) (by simp) (by simp)
      start := (part F (gnssStart_foot cfg) (by simp) (by simp)).post
        fun _ _ h => by split <;> exact h
      fetch := (part F (agnssFetchAndInject_foot cfg) (by simp)
        (by simp)).pre fun _ h => h.1
      wait := fun t => part F (gnssWaitFix_foot cfg t) (by simp) (by simp)
      fallback := part F (gnssFallback_foot cfg) (by simp) (by simp)
      report := fun fix _ _ => part F (reportFix_foot cfg fix _ _)
        (by simp) (by simp)
      unreported := fun _ h => h
      ledTold := fun b => part F (statusLedReport_foot cfg b) (by simp)
        (by simp)
      keepIf := fun mc => (part F (keepReporting_foot cfg .ifCond mc)
        (by simp) (by simp)).post fun _ _ h => by split <;> exact h
      logLine := part F (powerVbusPresent_foot _) (by simp) (by simp)
      keepWhile := fun mc => (part F (keepReporting_foot cfg .whileCond mc)
        (by simp) (by simp)).post fun _ _ h => by split <;> exact h
      holdOff := holdOffMotion_even
      stop := part F (gnssStop_foot cfg) (by simp) (by simp)
      pause := fun _ => part F (cloudPause_foot cfg) (by simp) (by simp)
      sleep := batterySleep_even }

/-- In every state of every run the count is at most
`TRACKER_MOTION_SETTLE_CYCLES`, and every sleep has asked once and for what
is due: disarmed in the first `TRACKER_MOTION_SETTLE_CYCLES` sleeps after
power was observed, armed in all later ones and where it never was. -/
theorem settle_counts {n fuel : Nat} {w : Tracker} (hw : Booted cfg w)
    {c : P Int × Tracker} (hr : Reach (device cfg) (main cfg n fuel) w c) :
    c.2.st.batterySleeps ≤ cfg.motionSettleCycles ∧
      Always (AsksDue cfg) c.2.log := by
  obtain ⟨magic, phase, hst⟩ := hw.st
  have hfull : w.st.batterySleeps = cfg.motionSettleCycles := by rw [hst]; rfl
  have hboot : Counted cfg (Even cfg) w := by
    refine ⟨⟨?_, Nat.le_of_eq hfull⟩, ?_⟩
    · rw [hw.log]
      trivial
    · rw [hw.log]
      exact ⟨hfull, rfl⟩
  have hkept := settle_outline.reach hboot hr (always_free _)
  exact ⟨hkept.bound, hkept.asks⟩

/-- The arms that the sleeps of a run asked for, newest first. -/
def sleepAsks : Trace → List Bool
  | [] => []
  | .call _ _ (.leave (.batterySleep _) _) _ :: l => (grace l).asks ++ sleepAsks l
  | _ :: l => sleepAsks l

/-- Power in the first cycle and not after: one sleep disarmed, then armed. -/
theorem settle_counts_driven :
    sleepAsks (playMain fixless (driven false) 2 9 900).2.log = [true, false] ∧
    (playMain fixless (driven false) 2 9 900).2.st.batterySleeps ≤ 1 ∧
      Always (AsksDue fixless) (playMain fixless (driven false) 2 9 900).2.log :=
  ⟨by decide +kernel, settle_counts (start_booted fixless)
    (playMain_reach fixless (driven false) 2 9 900)⟩

end GpsTracker
