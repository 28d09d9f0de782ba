/-
A hang is caught (watchdog.c, main.c, agnss.c).

While the main thread stands still only the guard feeds the watchdog, and
only as often as it has feeds left. So what is to be shown of every run is
how many it has: never more than one budget's worth, because the guard is
started where it is not armed, and it is armed nowhere but around
`cloud_resume` and the assistance fetch.
-/
import GpsTracker.Laws.Guard

namespace GpsTracker

open Proc

variable {cfg : Config}

-- ================================================================= statements

/-- `budgetS / WDT_GUARD_PERIOD_S`, rounded up. -/
def guardPeriods (budgetS : Nat) : Nat :=
  (budgetS + (WDT_GUARD_PERIOD_S - 1)) / WDT_GUARD_PERIOD_S

/-- The feeds that the guard ever has. -/
def guardCeiling (cfg : Config) : Nat :=
  max (guardPeriods cfg.cloudConnectBudgetSeconds)
    (guardPeriods cfg.agnssBudgetSeconds)

/-- What an event says about the guarded windows: one is entered or left. -/
def windowWord : Ev → Option Bool
  | .call _ _ (.enter .cloudResume) _ => some true
  | .call _ _ (.leave .cloudResume _) _ => some false
  | .call _ _ (.enter .agnssFetchAndInject) _ => some true
  | .call _ _ (.leave .agnssFetchAndInject _) _ => some false
  | _ => none

/-- The thread is in `cloud_resume` or in the assistance fetch. -/
def inWindow (l : Trace) : Bool := latest windowWord false l

/-- In a window; or between the guard and `cloud_resume`, with no call of the
main thread between the two. -/
def windowed : Trace → Bool
  | [] => false
  | .env .. :: l => windowed l
  | .call _ _ (.guardTimerSet true) _ :: _ => true
  | .call _ _ (.leave .cloudResume _) _ :: _ => true
  | e :: l => inWindow (e :: l)

/-- The guard is armed in a window only, and started only where it is not
armed. -/
structure GuardedWell (e : Ev) (l : Trace) : Prop where
  windowed : e.dev.guardArmed = true → windowed l = true
  unnested : match e with
    | .call _ d (.guardTimerSet true) _ => d.guardArmed = false
    | .call _ d (.guardFeedsLeftSet _) _ => d.guardArmed = false
    | _ => True

-- ================================================================= assertions

/-- The promise at every step. -/
structure Leashed (cfg : Config) (w : Tracker) : Prop where
  record : Always GuardedWell w.log
  window : w.dev.guardArmed = true → windowed w.log = true
  left : w.dev.guardArmed = true → w.dev.guardFeedsLeft ≤ guardCeiling cfg

/-- The guard is not armed. -/
structure Unarmed (cfg : Config) (w : Tracker) : Prop
    extends Leashed cfg w where
  unarmed : w.dev.guardArmed = false

/-- The thread is in a window. -/
structure Inside (cfg : Config) (w : Tracker) : Prop
    extends Leashed cfg w where
  inside : inWindow w.log = true

/-- Right behind a start, or right before a stop. -/
structure Between (cfg : Config) (w : Tracker) : Prop
    extends Leashed cfg w where
  between : windowed w.log = true

/-- Before a start: whether in a window, and whether the feeds of the guard
are counted. -/
structure Disarmed (cfg : Config) (inside counted : Bool) (w : Tracker) : Prop
    extends Unarmed cfg w where
  place : inWindow w.log = inside
  counted : counted = true → w.dev.guardFeedsLeft ≤ guardCeiling cfg

/-- A move never arms the guard, nor gives it feeds. -/
theorem move_guards (cfg : Config) (a : Move) (d : Dev) :
    ((move cfg a d).guardArmed = true → d.guardArmed = true) ∧
      (move cfg a d).guardFeedsLeft ≤ d.guardFeedsLeft := by
  by_cases ha : a = .guardTick
  · subst ha
    simp only [move]
    split
    · exact ⟨fun h => (by cases h), Nat.le_refl _⟩
    · exact ⟨fun h => h, Nat.sub_le _ _⟩
  · rw [(move_guard ha d).1, (move_guard ha d).2]
    exact ⟨fun h => h, Nat.le_refl _⟩

/-- Nor does a call that is not the guard's. -/
theorem effect_guard {o : Op} (h : kind o ≠ .guard) (r : o.Ret) (d : Dev) :
    (effect o r d).guardArmed = d.guardArmed ∧
      (effect o r d).guardFeedsLeft = d.guardFeedsLeft := by
  cases o with
  | guardFeedsLeftSet n => exact absurd rfl h
  | guardTimerSet run => exact absurd rfl h
  | semReset s => cases s <;> exact ⟨rfl, rfl⟩
  | semTake s ms =>
      simp only [effect, act]
      split
      · cases s <;> exact ⟨rfl, rfl⟩
      · exact ⟨rfl, rfl⟩
  | pmAction dev resume =>
      simp only [effect, act]
      split
      · cases dev <;> exact ⟨rfl, rfl⟩
      · exact ⟨rfl, rfl⟩
  | gnssRun on =>
      simp only [effect, act]
      split
      · split <;> exact ⟨rfl, rfl⟩
      · exact ⟨rfl, rfl⟩
  | sensorTriggerSet on => simp only [effect, act]; split <;> exact ⟨rfl, rfl⟩
  | gpioPinSet on => simp only [effect, act]; split <;> exact ⟨rfl, rfl⟩
  | gpioPinConfigure => simp only [effect, act]; split <;> exact ⟨rfl, rfl⟩
  | coapConnect => simp only [effect, act]; split <;> exact ⟨rfl, rfl⟩
  | coapResume => simp only [effect, act]; split <;> exact ⟨rfl, rfl⟩
  | _ => exact ⟨rfl, rfl⟩

/-- The promise outlives the moves of the surroundings. -/
theorem leashed_moved {w : Tracker} (h : Leashed cfg w) (a : Move) :
    Leashed cfg (w.moved (device cfg) a) := by
  obtain ⟨harmed, hleft⟩ := move_guards cfg a w.dev
  refine ⟨⟨⟨h.window, trivial⟩, h.record⟩, fun ha => h.window (harmed ha),
    fun ha => ?_⟩
  exact Nat.le_trans hleft (h.left (harmed ha))

/-- A call that is not the guard's, with what the record says of the
windows behind it. -/
theorem leashed_called {w : Tracker} (h : Leashed cfg w) {o : Op}
    (ho : kind o ≠ .guard) (r : o.Ret)
    (hw : w.dev.guardArmed = true →
      windowed (.call w.st w.dev o r :: w.log) = true) :
    Leashed cfg (w.called (device cfg) o r) := by
  obtain ⟨harmed, hleft⟩ := effect_guard ho r w.dev
  have hunnested : GuardedWell (.call w.st w.dev o r) w.log := by
    refine ⟨h.window, ?_⟩
    cases o with
    | guardTimerSet run => exact absurd rfl ho
    | guardFeedsLeftSet n => exact absurd rfl ho
    | _ => trivial
  refine ⟨⟨hunnested, h.record⟩, fun ha => hw (harmed ▸ ha), fun ha => ?_⟩
  show (effect o r w.dev).guardFeedsLeft ≤ _
  rw [hleft]
  exact h.left (harmed ▸ ha)

/-- The marks of the windows. -/
abbrev windowMarks : List Group :=
  [.mark .cloudResume, .mark .agnssFetchAndInject]

theorem windowWord_off {o : Op} (h : Off windowMarks o) (s : Statics)
    (d : Dev) (r : o.Ret) : windowWord (.call s d o r) = none := by
  cases o with
  | enter f => cases f <;> first | rfl | exact absurd h (by simp [Off])
  | leave f c => cases f <;> first | rfl | exact absurd h (by simp [Off])
  | _ => rfl

/-- In a window every call but its own marks and the guard's keeps to it. -/
theorem inside_windowed {o : Op} (hk : kind o ≠ .guard)
    (h : Off windowMarks o) (s : Statics) (d : Dev) (r : o.Ret) {l : Trace}
    (hl : inWindow l = true) :
    inWindow (.call s d o r :: l) = true ∧
      windowed (.call s d o r :: l) = true := by
  have hin : inWindow (.call s d o r :: l) = true := by
    unfold inWindow at hl ⊢
    rw [latest_none (windowWord_off h s d r)]
    exact hl
  refine ⟨hin, ?_⟩
  cases o with
  | guardTimerSet run => exact absurd rfl hk
  | leave f c => cases f <;> first | exact hin | exact absurd h (by simp [Off])
  | _ => exact hin

-- =================================================================== frames

theorem unarmed_frame :
    Frame (device cfg) Free (Leashed cfg) (Unarmed cfg)
      (fun o => kind o ≠ .guard) (fun _ _ => True) where
  stable := fun w a h _ _ => by
    refine ⟨leashed_moved h.toLeashed a, Bool.eq_false_iff.mpr fun ha => ?_⟩
    have harmed := (move_guards cfg a w.dev).1 ha
    rw [h.unarmed] at harmed
    cases harmed
  calls := fun w o r ho h _ _ => by
    refine ⟨leashed_called h.toLeashed ho r fun ha => ?_,
      ((effect_guard ho r w.dev).1).trans h.unarmed⟩
    rw [h.unarmed] at ha
    cases ha
  writes := fun w f _ h => ⟨⟨h.record, h.window, h.left⟩, h.unarmed⟩
  gives := fun w h => h.toLeashed

theorem inside_frame :
    Frame (device cfg) Free (Leashed cfg) (Inside cfg)
      (fun o => kind o ≠ .guard ∧ Off windowMarks o) (fun _ _ => True) where
  stable := fun w a h _ _ =>
    ⟨leashed_moved h.toLeashed a, (latest_none rfl).trans h.inside⟩
  calls := fun w o r ho h _ _ => by
    obtain ⟨hin, hwindowed⟩ := inside_windowed ho.1 ho.2 w.st w.dev r h.inside
    exact ⟨leashed_called h.toLeashed ho.1 r fun _ => hwindowed, hin⟩
  writes := fun w f _ h => ⟨⟨h.record, h.window, h.left⟩, h.inside⟩
  gives := fun w h => h.toLeashed

theorem disarmed_frame {inside counted : Bool} :
    Frame (device cfg) Free (Leashed cfg) (Disarmed cfg inside counted)
      (fun o => kind o ≠ .guard ∧ Off windowMarks o) (fun _ _ => True) where
  stable := fun w a h hcan hG =>
    ⟨unarmed_frame.stable w a h.toUnarmed hcan hG,
      (latest_none rfl).trans h.place,
      fun hc => Nat.le_trans (move_guards cfg a w.dev).2 (h.counted hc)⟩
  calls := fun w o r ho h hok hG => by
    have hunarmed := unarmed_frame.calls w o r ho.1 h.toUnarmed hok hG
    refine ⟨hunarmed, (latest_none (windowWord_off ho.2 w.st w.dev r)).trans
      h.place, fun hc => ?_⟩
    show (effect o r w.dev).guardFeedsLeft ≤ _
    rw [(effect_guard ho.1 r w.dev).2]
    exact h.counted hc
  writes := fun w f hf h =>
    ⟨unarmed_frame.writes w f hf h.toUnarmed, h.place, h.counted⟩
  gives := fun w h => h.toLeashed

theorem between_stable :
    Stable (device cfg) Free (Between cfg) :=
  fun _ a h _ _ => ⟨leashed_moved h.toLeashed a, h.between⟩

/-- A part without calls of the guard, outside the marks of the windows. -/
theorem part_of {ks : List Kind} {gs : List Group} {vs : List Var}
    {α : Type} {p : P α} (hp : Paced ks p) (hf : Foot gs vs p)
    (hk : Kind.guard ∉ ks) (hg : ∀ g ∈ gs, g ∉ windowMarks) :
    Within (S := Calls) (fun o => kind o ≠ .guard ∧ Off windowMarks o)
      (fun _ _ => True) p := by
  have hoff : Within (S := Calls) (Off windowMarks) (Keep []) p :=
    hf.off hg (by simp)
  refine (Within.and hp hoff).mono (fun o h => ⟨fun ho => hk ?_, h.2⟩)
    fun _ _ _ => trivial
  rw [← ho]
  exact h.1

-- ================================================================ the guard

/-- The rounding of the source never gives more than the ceiling. -/
theorem divRoundUp_le (budgetS : Nat) :
    divRoundUp budgetS WDT_GUARD_PERIOD_S ≤ guardPeriods budgetS := by
  unfold divRoundUp guardPeriods
  apply Nat.div_le_div_right
  unfold u32
  have hsum : (budgetS : Int) + (WDT_GUARD_PERIOD_S : Nat) - 1
      = ((budgetS + (WDT_GUARD_PERIOD_S - 1) : Nat) : Int) := by
    unfold WDT_GUARD_PERIOD_S
    omega
  rw [hsum]
  omega

theorem watchdogFeed_disarmed {inside counted : Bool} :
    Triple (device cfg) Free (Leashed cfg) (Disarmed cfg inside counted)
      watchdogFeed fun _ => Disarmed cfg inside counted := by
  apply disarmed_frame.keeps
  exact part_of watchdogFeed_paced watchdogFeed_foot (by simp) (by simp)

/-- Where the guard is not armed, a start arms it for one budget. -/
theorem guardStart_between {budgetS : Nat}
    (hb : guardPeriods budgetS ≤ guardCeiling cfg) {inside : Bool} :
    Triple (device cfg) Free (Leashed cfg) (Disarmed cfg inside false)
      (watchdogGuardStart budgetS)
      fun _ w => Between cfg w ∧ inWindow w.log = inside := by
  have hcount : Triple (device cfg) Free (Leashed cfg)
      (Disarmed cfg inside false)
      (call (.guardFeedsLeftSet (divRoundUp budgetS WDT_GUARD_PERIOD_S)))
      fun _ => Disarmed cfg inside true := by
    refine Triple.op disarmed_frame.stable fun w r h _ _ => ?_
    have hleft : divRoundUp budgetS WDT_GUARD_PERIOD_S ≤ guardCeiling cfg :=
      Nat.le_trans (divRoundUp_le budgetS) hb
    have harmed : w.dev.guardArmed ≠ true := by
      rw [h.unarmed]
      exact nofun
    have hleashed : Leashed cfg (w.called (device cfg)
        (.guardFeedsLeftSet (divRoundUp budgetS WDT_GUARD_PERIOD_S)) r) :=
      ⟨⟨⟨h.window, h.unarmed⟩, h.record⟩, fun ha => absurd ha harmed,
        fun ha => absurd ha harmed⟩
    exact ⟨hleashed, ⟨hleashed, h.unarmed⟩, (latest_none rfl).trans h.place,
      fun _ => hleft⟩
  refine hcount.bind fun _ => watchdogFeed_disarmed.bind fun _ => ?_
  refine Triple.op disarmed_frame.stable fun w r h _ _ => ?_
  have hleashed : Leashed cfg (w.called (device cfg) (.guardTimerSet true) r) :=
    ⟨⟨⟨h.window, h.unarmed⟩, h.record⟩, fun _ => rfl,
      fun _ => h.counted rfl⟩
  exact ⟨hleashed, ⟨hleashed, rfl⟩, (latest_none rfl).trans h.place⟩

/-- A stop disarms it, whatever came before. -/
theorem guardStop_disarms {inside : Bool} :
    Triple (device cfg) Free (Leashed cfg)
      (fun w => Leashed cfg w ∧ inWindow w.log = inside) watchdogGuardStop
      fun _ => Disarmed cfg inside false := by
  have hstable : Stable (device cfg) Free
      fun w => Leashed cfg w ∧ inWindow w.log = inside :=
    fun w a h _ _ => ⟨leashed_moved h.1 a, (latest_none rfl).trans h.2⟩
  refine Triple.bind (R := fun _ => Disarmed cfg inside false)
    (Triple.op hstable fun w r h _ _ => ?_) fun _ => watchdogFeed_disarmed
  have hleashed : Leashed cfg
      (w.called (device cfg) (.guardTimerSet false) r) :=
    ⟨⟨⟨h.1.window, trivial⟩, h.1.record⟩, nofun, nofun⟩
  exact ⟨hleashed, ⟨hleashed, rfl⟩, (latest_none rfl).trans h.2, nofun⟩

-- ============================================================== the windows

/-- `cloud_resume` is a window. -/
theorem cloudResume_between :
    Triple (device cfg) Free (Leashed cfg) (Between cfg) (cloudResume cfg)
      fun _ => Between cfg := by
  obtain ⟨body, he, hfoot⟩ := cloudResume_scoped cfg
  have hpaced : Paced [.other, .wait] body :=
    within_of_scope (f := .cloudResume) (he ▸ cloudResume_paced cfg)
  rw [he]
  refine triple_scope (Y := Inside cfg) (R := fun _ => Inside cfg) ?_
    (inside_frame.keeps (part_of hpaced hfoot (by simp) (by simp))) fun r => ?_
  · refine Triple.op between_stable fun w r h _ _ => ?_
    have hleashed : Leashed cfg
        (w.called (device cfg) (.enter .cloudResume) r) :=
      leashed_called (o := .enter .cloudResume) h.toLeashed nofun r
        fun _ => rfl
    exact ⟨hleashed, hleashed, rfl⟩
  · refine Triple.op inside_frame.stable fun w a h _ _ => ?_
    have hleashed : Leashed cfg
        (w.called (device cfg) (.leave .cloudResume (Code.code r)) a) :=
      leashed_called (o := .leave .cloudResume (Code.code r)) h.toLeashed
        nofun a fun _ => rfl
    exact ⟨hleashed, hleashed, rfl⟩

/-- The guarded fetch, in its window. -/
theorem fetch_disarmed :
    Triple (device cfg) Free (Leashed cfg) (Disarmed cfg true false)
      (do
        watchdogGuardStart cfg.agnssBudgetSeconds
        let err ← fetchAndInject cfg
        watchdogGuardStop
        if cfg.agnssStopGnssDuringFetch then
          if (← gnssModemStart cfg .assistance) ≠ 0 then
            pure (- EIO)
          else
            pure err
        else
          pure err : P Int)
      fun _ => Disarmed cfg true false := by
  have hinside : ∀ w, Between cfg w ∧ inWindow w.log = true → Inside cfg w :=
    fun w h => ⟨h.1.toLeashed, h.2⟩
  refine ((guardStart_between (Nat.le_max_right _ _)).post
    fun _ => hinside).bind fun _ => ?_
  refine (inside_frame.keeps (part_of (fetchAndInject_paced cfg)
    (fetchAndInject_foot cfg) (by simp) (by simp))).bind fun err => ?_
  refine (guardStop_disarms.pre fun w h => ⟨h.toLeashed, h.inside⟩).bind
    fun _ => Triple.ite (fun _ => ?_) fun _ => Triple.ret fun w h => h
  refine (disarmed_frame.keeps (part_of (gnssModemStart_paced cfg .assistance)
    (gnssModemStart_foot cfg .assistance) (by simp) (by simp))).bind
    fun r => Triple.ite (fun _ => Triple.ret fun w h => h)
      fun _ => Triple.ret fun w h => h

/-- The assistance fetch leaves the guard as it found it. -/
theorem agnssFetchAndInject_unarmed :
    Triple (device cfg) Free (Leashed cfg) (Unarmed cfg)
      (agnssFetchAndInject cfg) fun _ => Unarmed cfg := by
  refine triple_scope (Y := Disarmed cfg true false)
    (R := fun _ => Disarmed cfg true false) ?_ ?_ fun r => ?_
  · refine Triple.op unarmed_frame.stable fun w r h hok hG => ?_
    have hunarmed := unarmed_frame.calls w (.enter .agnssFetchAndInject) r
      (by simp) h hok hG
    exact ⟨hunarmed.toLeashed, hunarmed, rfl, nofun⟩
  · refine Triple.ite (fun _ => Triple.ret fun w h => h) fun _ => ?_
    refine (disarmed_frame.keeps (part_of (rateLimited_paced cfg)
      (rateLimited_foot cfg) (by simp) (by simp))).bind fun b =>
      Triple.ite (fun _ => Triple.ret fun w h => h) fun _ => ?_
    refine Triple.ite (fun _ => ?_) fun _ => fetch_disarmed
    exact (disarmed_frame.keeps (part_of gnssModemStop_paced
      gnssModemStop_foot (by simp) (by simp))).bind fun _ => fetch_disarmed
  · exact (unarmed_frame.keeps (Within.op (by simp))).pre
      fun w h => h.toUnarmed

-- ============================================================ the guarded send

/-- A part without calls of the guard leaves it unarmed. -/
theorem unarmed_keeps (ks : List Kind) {α : Type} {p : P α}
    (hp : Paced ks p) (hk : Kind.guard ∉ ks) :
    Triple (device cfg) Free (Leashed cfg) (Unarmed cfg) p
      fun _ => Unarmed cfg :=
  unarmed_frame.keeps (Within.mono hp
    (fun o (ho : kind o ∈ ks) he => hk (he ▸ ho)) fun _ _ _ => trivial)

/-- A start that finds the guard unarmed. -/
theorem guardStart_unarmed :
    Triple (device cfg) Free (Leashed cfg) (Unarmed cfg)
      (watchdogGuardStart cfg.cloudConnectBudgetSeconds)
      fun _ => Between cfg := fun w h =>
  (guardStart_between (Nat.le_max_left _ _) w
    ⟨h, rfl, nofun⟩).conseq fun _ _ h => h.1

/-- And the stop behind `cloud_resume`. -/
theorem guardStop_between :
    Triple (device cfg) Free (Leashed cfg) (Between cfg) watchdogGuardStop
      fun _ => Unarmed cfg := fun w h =>
  (guardStop_disarms w ⟨h.toLeashed, rfl⟩).conseq fun _ _ h => h.toUnarmed

theorem sendReport_unarmed (payload : Text) :
    Triple (device cfg) Free (Leashed cfg) (Unarmed cfg)
      (sendReport cfg payload) fun _ => Unarmed cfg := by
  have hsend : ∀ f, f = .firstSend ∨ f = .retrySend →
      Triple (device cfg) Free (Leashed cfg) (Unarmed cfg)
        (scope f (cloudSendTelemetry cfg payload)) fun _ => Unarmed cfg := by
    intro f hf
    refine unarmed_keeps [.send, .other] (within_scope ?_
      ((cloudSendTelemetry_paced cfg payload).mono (by simp)) fun c => ?_)
      (by simp)
    · rcases hf with rfl | rfl <;> simp
    · rcases hf with rfl | rfl <;> simp
  refine (hsend _ (.inl rfl)).bind fun err => Triple.ite (fun _ => ?_)
    fun _ => Triple.ret fun w h => h
  exact guardStart_unarmed.bind fun _ => cloudResume_between.bind fun err =>
    guardStop_between.bind fun _ => Triple.ite (fun _ => hsend _ (.inr rfl))
      fun _ => Triple.ret fun w h => h

theorem deliver_unarmed (fix : Option TrackerFix) (payload : Text) :
    Triple (device cfg) Free (Leashed cfg) (Unarmed cfg)
      (deliver cfg fix payload) fun _ => Unarmed cfg := by
  have htail : ∀ err : Int, Triple (device cfg) Free (Leashed cfg)
      (Unarmed cfg) (do
        watchdogFeed
        pure err : P Int) fun _ => Unarmed cfg := fun err =>
    (unarmed_keeps _ watchdogFeed_paced (by simp)).bind fun _ =>
      Triple.ret fun w h => h
  refine (sendReport_unarmed payload).bind fun err => Triple.ite (fun _ => ?_)
    fun _ => htail err
  refine (unarmed_keeps [.other] (by simp) (by simp)).bind fun now =>
    (unarmed_keeps [] (by simp) (by simp)).bind fun _ => ?_
  cases fix with
  | none => exact htail err
  | some fix =>
      exact (unarmed_keeps _ (cloudSendLocation_paced cfg fix) (by simp)).bind
        fun _ => htail err

/-- A report leaves the guard as it found it. -/
theorem reportFix_unarmed (fix : Option TrackerFix) (wakeUptimeMs : Nat)
    (wr : WakeReason) :
    Triple (device cfg) Free (Leashed cfg) (Unarmed cfg)
      (reportFix cfg fix wakeUptimeMs wr) fun _ => Unarmed cfg := by
  refine triple_scope (Y := Unarmed cfg) (R := fun _ => Unarmed cfg)
    (unarmed_keeps [.other] (by simp) (by simp)) ?_
    fun r => unarmed_keeps [.other] (by simp) (by simp)
  refine (unarmed_keeps [.other] (by simp) (by simp)).bind fun now =>
    (unarmed_keeps _ powerRead_paced (by simp)).bind fun power =>
    (unarmed_keeps [.other] (by simp) (by simp)).bind fun rsrp =>
    (unarmed_keeps _ (watchdogPhase_paced .report) (by simp)).bind fun _ =>
    Triple.get fun s => ?_
  generalize telemetryBuildJson _ _ _ _ = built
  cases built with
  | error err => exact Triple.ret fun w h => h.1
  | ok payload => exact (deliver_unarmed fix payload).pre fun w h => h.1

-- =================================================================== main

theorem hang_receiving (wakeUptimeMs : Nat) (wr : WakeReason) :
    Receiving cfg Free (Leashed cfg) (Unarmed cfg) (Unarmed cfg) (Unarmed cfg)
      (Unarmed cfg) wakeUptimeMs wr := by
  have hquiet : Frame (device cfg) Free (Leashed cfg) (Unarmed cfg) Unguarded
      (Touch [.phase]) := unarmed_frame.mono (fun _ h => h.2) fun _ _ _ => trivial
  have hbrisk : Frame (device cfg) Free (Leashed cfg) (Unarmed cfg) Brisk
      (Touch [.phase]) := hquiet.mono (fun _ h => h.1) fun _ _ h => h
  exact
    { runs := hbrisk
      tolds := hbrisk
      passes := hbrisk
      request := request_keeps hquiet
      fetch := agnssFetchAndInject_unarmed.pre fun _ h => h.1
      wait := fun t => unarmed_keeps _ (gnssWaitFix_paced cfg t) (by simp)
      fallback := unarmed_keeps _ (gnssFallback_paced cfg) (by simp)
      report := fun fix => reportFix_unarmed fix wakeUptimeMs wr
      unreported := fun _ h => h
      ledTold := fun b => unarmed_keeps _ (statusLedReport_paced cfg b) (by simp)
      keepIf := (unarmed_keeps _ (keepReporting_paced cfg _ _)
        (by simp)).post fun _ _ h => by split <;> exact h
      logLine := unarmed_keeps _ (powerVbusPresent_paced _) (by simp)
      keepWhile := (unarmed_keeps _ (keepReporting_paced cfg _ _)
        (by simp)).post fun _ _ h => by split <;> exact h
      holdOff := unarmed_keeps _ (holdOffMotion_paced cfg) (by simp) }

/-- Armed around the cycle's `cloud_resume` only. -/
abbrev hangAt (cfg : Config) : Place → Tracker → Prop
  | .during _ _ .guarded => Between cfg
  | .during _ _ .resumed => Between cfg
  | _ => Unarmed cfg

theorem hang_walk : Walk cfg Free (Leashed cfg) (hangAt cfg) where
  gives := unarmed_frame.gives
  phase pl p := by
    have hwrites : ∀ w, Between cfg w →
        Between cfg (w.wrote fun s => { s with phaseCurrent := p.code }) :=
      fun w h => ⟨⟨h.record, h.window, h.left⟩, h.between⟩
    have hbetween : Triple (device cfg) Free (Leashed cfg) (Between cfg)
        (watchdogPhase p) fun _ => Between cfg :=
      Triple.modify fun w h => ⟨(hwrites w h).toLeashed, hwrites w h⟩
    have hunarmed := @unarmed_keeps cfg _ _ _ (watchdogPhase_paced p) (by simp)
    cases pl with
    | during u wr st => cases st <;> first | exact hunarmed | exact hbetween
    | _ => exact hunarmed
  setUp := (unarmed_keeps _ (setUp_paced cfg) (by simp)).post fun _ _ h _ => h
  topOfCycle wr := unarmed_keeps _ (topOfCycle_paced wr) (by simp)
  network u wr := by
    refine Triple.ite (fun _ => Triple.ret fun w h => h) fun _ => ?_
    refine (unarmed_keeps _ (recoverIfSilent_paced cfg) (by simp)).bind fun _ =>
      (unarmed_keeps _ (watchdogPhase_paced _) (by simp)).bind fun _ =>
      (unarmed_keeps _ (lteEnsureConnected_paced cfg) (by simp)).bind fun r =>
      Triple.ret fun w h => by split <;> exact h
  ledCut := unarmed_keeps _ (statusLedSet_paced cfg _) (by simp)
  guardStart _ _ := guardStart_unarmed
  resume _ _ := cloudResume_between
  guardStop _ _ := guardStop_between
  ledOn _ _ := unarmed_keeps _ (statusLedReport_paced cfg _) (by simp)
  start _ _ := (unarmed_keeps _ (gnssStart_paced cfg) (by simp)).post
    fun _ _ h => by split <;> exact h
  acquire u wr := (hang_receiving u wr).acquire
  firstReport u wr fix := (hang_receiving u wr).firstReport fix
  keepIf u wr := (hang_receiving u wr).keepIf
  logLine u wr := (hang_receiving u wr).logLine
  keepWhile u wr := (hang_receiving u wr).keepWhile
  frequentPass u wr := (hang_receiving u wr).frequentPass
  stop _ _ := unarmed_keeps _ (gnssStop_paced cfg) (by simp)
  pause _ := unarmed_keeps _ (cloudPause_paced cfg) (by simp)
  sleep site := unarmed_keeps _ (batterySleep_paced cfg site) (by simp)

-- ===================================================================== the law

/-- The feeds that an armed guard has left. -/
def feedsAhead (d : Dev) : Nat := if d.guardArmed then d.guardFeedsLeft else 0

/-- A move spends a feed where it feeds. -/
theorem move_spends (a : Move) {w : Tracker} (hcan : can a w.dev = true) :
    (feedAt (.env w.st w.dev a)).toList.length + feedsAhead (move cfg a w.dev)
      ≤ feedsAhead w.dev := by
  by_cases ha : a = .guardTick
  · subst ha
    have harmed : w.dev.guardArmed = true := hcan
    by_cases hleft : w.dev.guardFeedsLeft = 0
    · simp [feedAt, feedsAhead, move, hleft]
    · have hspent : feedsAhead (move cfg .guardTick w.dev)
          = w.dev.guardFeedsLeft - 1 := by
        simp [feedsAhead, move, hleft, harmed]
      have hahead : feedsAhead w.dev = w.dev.guardFeedsLeft := by
        simp [feedsAhead, harmed]
      have hone : (feedAt (.env w.st w.dev .guardTick)).toList.length ≤ 1 := by
        unfold feedAt
        split <;> simp
      rw [hspent, hahead]
      omega
  · obtain ⟨hfeed, -⟩ := move_silent ha w.st w.dev []
    obtain ⟨harm, hleft⟩ := @move_guard cfg _ ha w.dev
    unfold feedsAhead
    rw [hfeed, harm, hleft]
    simp

/-- However long the thread stands still, only the feeds ahead are made. -/
theorem moves_spend {w w' : Tracker} (hm : Moves (device cfg) w w') :
    ∃ l, w'.log = l ++ w.log ∧
      (fed l).length + feedsAhead w'.dev ≤ feedsAhead w.dev := by
  induction hm with
  | refl => exact ⟨[], rfl, Nat.le_of_eq (Nat.zero_add _)⟩
  | @step w' a _ hcan ih =>
      obtain ⟨l, hl, hspent⟩ := ih
      have hmove := @move_spends cfg a _ hcan
      refine ⟨.env w'.st w'.dev a :: l, congrArg (List.cons _) hl, ?_⟩
      have hlength : (fed (.env w'.st w'.dev a :: l)).length
          = (feedAt (.env w'.st w'.dev a)).toList.length + (fed l).length := by
        unfold fed
        rw [List.filterMap_cons]
        cases feedAt (.env w'.st w'.dev a) with
        | none => simp
        | some τ => exact Nat.add_comm _ 1
      rw [hlength]
      show _ + feedsAhead (move cfg a w'.dev) ≤ _
      omega

/-- A hang is caught: from no state of any run, the thread taking no further
step, is the watchdog fed more often than one budget allows. And the guard
is armed in its windows only, and never started while it is armed. -/
theorem hang_caught {w : Tracker} (hw : Booted cfg w)
    (hidle : w.dev.guardArmed = false) {n fuel : Nat} {c : P Int × Tracker}
    (hr : Reach (device cfg) (main cfg n fuel) w c) :
    (∀ w' l, Moves (device cfg) c.2 w' → w'.log = l ++ c.2.log →
      (fed l).length ≤ guardCeiling cfg) ∧
    Always GuardedWell c.2.log ∧
    (c.2.dev.guardArmed = true → windowed c.2.log = true) := by
  have harmed : w.dev.guardArmed ≠ true := by
    rw [hidle]
    exact nofun
  have hrecord : Always GuardedWell w.log := by
    rw [hw.log]
    trivial
  have hboot : Unarmed cfg w :=
    ⟨⟨hrecord, fun h => absurd h harmed, fun h => absurd h harmed⟩, hidle⟩
  have hkept := hang_walk.reach hboot hr (always_free _)
  refine ⟨fun w' l hm hl => ?_, hkept.record, hkept.window⟩
  obtain ⟨l', hl', hspent⟩ := moves_spend hm
  rw [List.append_cancel_right (hl.symm.trans hl')]
  have hahead : feedsAhead c.2.dev ≤ guardCeiling cfg := by
    unfold feedsAhead
    split
    next h => exact hkept.left h
    next => exact Nat.zero_le _
  omega

/-- A hang in the assistance fetch of a first cycle. -/
theorem hang_caught_fetching :
    ((playMain {} calm 1 0 190).2.dev.guardArmed = true ∧
      0 ≤ (playMain {} calm 1 0 190).2.st.wdtChannel) ∧
    (∀ w' l, Moves (device {}) (playMain {} calm 1 0 190).2 w' →
      w'.log = l ++ (playMain {} calm 1 0 190).2.log →
      (fed l).length ≤ guardCeiling {}) ∧
    Always GuardedWell (playMain {} calm 1 0 190).2.log ∧
    ((playMain {} calm 1 0 190).2.dev.guardArmed = true →
      windowed (playMain {} calm 1 0 190).2.log = true) :=
  ⟨by decide +kernel, hang_caught (start_booted {}) rfl
    (playMain_reach {} calm 1 0 190)⟩

/-- At the default timings, eight feeds. -/
example : guardCeiling {} = 8 := by decide

end GpsTracker
