/-
Silence is noticed before the next report (main.c).

`recover_if_silent` restarts the modem, and later reboots, once nothing
was accepted for long enough. It runs at the top of every cycle, but the
frequent loop reports for as long as power or jolts keep it going and
never asks. And it clears `modem_bounced` only where it finds the
silence short, so a restart made before the last accepted report can
pass for one made since. The law below holds of the runs in which
neither of the two happens.

# The invariant

What counts of an attempt is the silence it found. An attempt that was
not accepted left `last_send_uptime` alone, so the silence measured later
is at least that, and the check at the top of the next cycle covers it.
-/
import GpsTracker.Run.Script

namespace GpsTracker

open Proc

variable {cfg : Config}

/-- What an event says about report attempts: one is made, with the
silence before it, or the last one was accepted. -/
def attemptWord : Ev → Option (Option Int)
  | .call s d (.enter (.reportFix _)) _ =>
      some (some ((d.now : Int) - s.lastSendUptime))
  | .call _ _ (.leave (.reportFix _) r) _ =>
      if r = 0 then some none else none
  | _ => none

/-- The silence before the last attempt, unless that was accepted. -/
def attempt (l : Trace) : Option Int :=
  (l.findSome? attemptWord).getD none

/-- What an event says about the modem: restarted, or not since the
report just accepted. -/
def restartWord : Ev → Option Bool
  | .call _ _ (.funcModeSet .normal) _ => some true
  | .call _ _ (.leave (.reportFix _) r) _ =>
      if r = 0 then some false else none
  | _ => none

/-- The modem was restarted since the last accepted report. -/
def restarted (l : Trace) : Bool :=
  (l.findSome? restartWord).getD false

/-- The last attempt was accepted or found less than `minutes` of
silence. -/
def quietUnder (minutes : Nat) (l : Trace) : Bool :=
  match attempt l with
  | none => true
  | some q => decide (q < ((minutes * 60000 : Nat) : Int))

/-- The last attempt calls for nothing that was not done. -/
def tended (cfg : Config) (l : Trace) : Bool :=
  quietUnder cfg.rebootMinutes l &&
    (quietUnder cfg.modemRecoveryMinutes l || restarted l)

/-- Whoever attempts a report has tended to the attempt before it. -/
def attemptsTended (cfg : Config) : Ev → Trace → Bool
  | .call _ _ (.enter (.reportFix _)) _, l => tended cfg l
  | _, _ => true

abbrev AttemptsTended (cfg : Config) (e : Ev) (l : Trace) : Prop :=
  attemptsTended cfg e l

/-- The frequent loop does not go on over an attempt that calls for a
restart or a reboot, and `modem_bounced` is not left over from before the
last accepted report where an attempt calls for a restart. -/
def turnsTended (cfg : Config) : Ev → Trace → Bool
  | .call _ _ (.enter (.powerVbusPresent .body)) _, l => tended cfg l
  | .call s _ (.enter .recoverIfSilent) _, l =>
      !s.modemBounced || quietUnder cfg.modemRecoveryMinutes l
        || restarted l
  | _, _ => true

/-- `turnsTended` as a proviso on the steps of a run. -/
abbrev TurnsTended (cfg : Config) (e : Ev) (l : Trace) : Prop :=
  turnsTended cfg e l

-- ============================================================== assertions

/-- The marks of report attempts. -/
abbrev silenceGroups : List Group :=
  [.mark (.reportFix true), .mark (.reportFix false)]

/-- The promise at every step. -/
abbrev TendedSoFar (cfg : Config) (w : Tracker) : Prop :=
  Always (AttemptsTended cfg) w.log

/-- The silence of an attempt that was not accepted is still running. -/
structure Running (cfg : Config) (w : Tracker) : Prop where
  kept : TendedSoFar cfg w
  past : w.st.lastSendUptime ≤ w.dev.now
  runs : ∀ q, attempt w.log = some q → q ≤ w.dev.now - w.st.lastSendUptime

/-- Running, and the next attempt may be made. -/
def Tended (cfg : Config) (w : Tracker) : Prop :=
  Running cfg w ∧ tended cfg w.log = true

/-- Only reports begin or end an attempt, -/
private theorem attempt_call {o : Op} (h : Off silenceGroups o)
    (s : Statics) (d : Dev) (r : o.Ret) (l : Trace) :
    attempt (.call s d o r :: l) = attempt l := by
  have hword : attemptWord (.call s d o r : Ev) = none := by
    cases o with
    | enter f =>
        cases f with
        | reportFix b => cases b <;> exact absurd h (by simp [Off])
        | _ => rfl
    | leave f r =>
        cases f with
        | reportFix b => cases b <;> exact absurd h (by simp [Off])
        | _ => rfl
    | _ => rfl
  simp only [attempt, List.findSome?_cons, hword]

/-- Away from reports a restart stays on record. -/
private theorem restarted_call {o : Op} (h : Off silenceGroups o)
    (s : Statics) (d : Dev) (r : o.Ret) {l : Trace}
    (hl : restarted l = true) : restarted (.call s d o r :: l) = true := by
  have hword : restartWord (.call s d o r : Ev) = none
      ∨ restartWord (.call s d o r : Ev) = some true := by
    cases o with
    | leave f r =>
        cases f with
        | reportFix b => cases b <;> exact absurd h (by simp [Off])
        | _ => exact .inl rfl
    | funcModeSet m =>
        cases m with
        | normal => exact .inr rfl
        | _ => exact .inl rfl
    | _ => exact .inl rfl
  rcases hword with hword | hword
  · simpa only [restarted, List.findSome?_cons, hword] using hl
  · simp only [restarted, List.findSome?_cons, hword, Option.getD_some]

/-- so off the groups the silence at its beginning stays known, -/
private theorem quietUnder_call {o : Op} (h : Off silenceGroups o)
    (s : Statics) (d : Dev) (r : o.Ret) (l : Trace) (minutes : Nat) :
    quietUnder minutes (.call s d o r :: l) = quietUnder minutes l := by
  simp only [quietUnder, attempt_call h]

/-- short of the limit or restarted, it stays one of the two, -/
private theorem restart_call {o : Op} (h : Off silenceGroups o)
    (s : Statics) (d : Dev) (r : o.Ret) {l : Trace} {minutes : Nat}
    (hl : (quietUnder minutes l || restarted l) = true) :
    (quietUnder minutes (.call s d o r :: l)
      || restarted (.call s d o r :: l)) = true := by
  rw [quietUnder_call h]
  rcases Bool.or_eq_true_iff.mp hl with hq | hr
  · rw [hq, Bool.true_or]
  · rw [restarted_call h s d r hr, Bool.or_true]

/-- so it stays tended to, -/
private theorem tended_call {o : Op} (h : Off silenceGroups o)
    (s : Statics) (d : Dev) (r : o.Ret) {l : Trace}
    (hl : tended cfg l = true) : tended cfg (.call s d o r :: l) = true := by
  obtain ⟨hq, hr⟩ := Bool.and_eq_true_iff.mp hl
  exact Bool.and_eq_true_iff.mpr
    ⟨(quietUnder_call h s d r l _).trans hq, restart_call h s d r hr⟩

/-- and no new one is made. -/
private theorem attemptsTended_call {o : Op} (h : Off silenceGroups o)
    (s : Statics) (d : Dev) (r : o.Ret) (l : Trace) :
    AttemptsTended cfg (.call s d o r : Ev) l := by
  cases o with
  | enter f =>
      cases f with
      | reportFix b => cases b <;> exact absurd h (by simp [Off])
      | _ => rfl
  | _ => rfl

/-- A bound on every running attempt is a bound on the last one. -/
private theorem quietUnder_of_lt {l : Trace} {minutes : Nat}
    (h : ∀ q, attempt l = some q → q < ((minutes * 60000 : Nat) : Int)) :
    quietUnder minutes l = true := by
  unfold quietUnder
  split
  · rfl
  next q hq => exact decide_eq_true (h q hq)

/-- A running attempt outlasts the clock and everything off the groups. -/
theorem running_frame (cfg : Config) :
    Frame (device cfg) (TurnsTended cfg) (TendedSoFar cfg) (Running cfg)
      (Off silenceGroups) (Keep [.lastSendUptime]) where
  stable := by
    intro w a h _ _
    -- the silence grows with the clock, the attempt does not
    have hnow : w.dev.now ≤ (w.moved (device cfg) a).dev.now :=
      (move_drifts cfg a w.dev).now
    refine ⟨⟨rfl, h.kept⟩, ?_, fun q hq => ?_⟩
    · have := h.past
      show w.st.lastSendUptime ≤ _
      omega
    · have := h.runs q hq
      show q ≤ _ - w.st.lastSendUptime
      omega
  calls := by
    intro w o r ho h _ _
    have hnow : (w.called (device cfg) o r).dev.now = w.dev.now :=
      effect_now o r w.dev
    refine ⟨⟨attemptsTended_call ho .., h.kept⟩, ?_, ?_⟩
    · rw [hnow]
      exact h.past
    · intro q hq
      rw [hnow]
      exact h.runs q ((attempt_call ho ..).symm.trans hq)
  writes := by
    intro w f hf h
    have hs : (f w.st).lastSendUptime = w.st.lastSendUptime :=
      hf .lastSendUptime (by simp)
    refine ⟨h.kept, ?_, ?_⟩
    · show (f w.st).lastSendUptime ≤ _
      rw [hs]
      exact h.past
    · intro q hq
      show q ≤ _ - (f w.st).lastSendUptime
      rw [hs]
      exact h.runs q hq
  gives := fun w h => h.kept

/-- What the record alone says survives with it. -/
theorem keeps_record {p : Trace → Prop}
    (hmove : ∀ s d a l, p l → p (.env s d a :: l))
    (hcall : ∀ s d o r l, Off silenceGroups o → p l →
      p (.call s d o r :: l)) :
    Frame (device cfg) (TurnsTended cfg) (TendedSoFar cfg)
      (fun w => Running cfg w ∧ p w.log) (Off silenceGroups)
      (Keep [.lastSendUptime]) where
  stable := fun w a h hcan hG =>
    ⟨(running_frame cfg).stable w a h.1 hcan hG, hmove _ _ _ _ h.2⟩
  calls := fun w o r ho h hok hG =>
    ⟨(running_frame cfg).calls w o r ho h.1 hok hG, hcall _ _ _ _ _ ho h.2⟩
  writes := fun w f hf h => ⟨(running_frame cfg).writes w f hf h.1, h.2⟩
  gives := fun _ h => h.1.kept

/-- And so does one that was tended to, -/
theorem tended_frame (cfg : Config) :
    Frame (device cfg) (TurnsTended cfg) (TendedSoFar cfg) (Tended cfg)
      (Off silenceGroups) (Keep [.lastSendUptime]) :=
  keeps_record (p := fun l => tended cfg l = true) (fun _ _ _ _ h => h)
    fun s d _ r _ ho h => tended_call ho s d r h

/-- No reboot is due, as far as the record goes. -/
def Bearable (cfg : Config) (w : Tracker) : Prop :=
  Running cfg w ∧ quietUnder cfg.rebootMinutes w.log = true

/-- or that is still short of both limits, -/
theorem bearable_frame (cfg : Config) :
    Frame (device cfg) (TurnsTended cfg) (TendedSoFar cfg) (Bearable cfg)
      (Off silenceGroups) (Keep [.lastSendUptime]) :=
  keeps_record (p := fun l => quietUnder cfg.rebootMinutes l = true)
    (fun _ _ _ _ h => h) fun s d _ r l ho h =>
      (quietUnder_call ho s d r l _).trans h

-- ============================================================ the recovery

/-- A restart of the modem, or its first half. -/
theorem funcMode_bearable (m : FuncMode) :
    Triple (device cfg) (TurnsTended cfg) (TendedSoFar cfg) (Bearable cfg)
      (call (.funcModeSet m)) fun _ w =>
        Bearable cfg w ∧ (m = .normal → restarted w.log = true) := by
  refine (bearable_frame cfg).ask (by cases m <;> simp [Off])
    fun w r _ _ hm => ?_
  rw [hm]
  rfl

/-- A modem marked as restarted was, where the record calls for that. -/
def Due (cfg : Config) (s : Statics) (l : Trace) : Prop :=
  s.modemBounced = true →
    (quietUnder cfg.modemRecoveryMinutes l || restarted l) = true

/-- What the check knows once it has read the clock. -/
structure Compared (cfg : Config) (s : Statics) (now : Int) (w : Tracker) :
    Prop where
  running : Running cfg w
  due : Due cfg s w.log
  past : s.lastSendUptime ≤ now
  quiet : ∀ q, attempt w.log = some q → q ≤ now - s.lastSendUptime

/-- A silence below a limit bounds the one of the attempt on record. -/
theorem Compared.below {s : Statics} {now : Int} {w : Tracker}
    (h : Compared cfg s now w) {minutes : Nat}
    (hshort : ¬(minutes : Int) ≤ (now - s.lastSendUptime).tdiv 60000) :
    quietUnder minutes w.log = true := by
  refine quietUnder_of_lt fun q ha => ?_
  have := h.quiet q ha
  have := (not_congr (units_le (n := minutes) (k := 60000)
    (Int.sub_nonneg.mpr h.past) (by decide))).mp hshort
  omega

/-- The look at the clock. -/
theorem check_compares (s : Statics) :
    Triple (device cfg) (TurnsTended cfg) (TendedSoFar cfg)
      (fun w => (Running cfg w ∧ Due cfg s w.log) ∧ w.st = s)
      (call .kUptimeGet) fun now => Compared cfg s now := by
  have F : Frame (device cfg) (TurnsTended cfg) (TendedSoFar cfg)
      (fun w => (Running cfg w ∧ Due cfg s w.log) ∧ w.st = s) _ _ :=
    (keeps_record (p := Due cfg s) (fun _ _ _ _ h => h)
      fun s' d _ r _ ho h hb => restart_call ho s' d r (h hb)).static
        (· = s)
  refine (F.ask (o := .kUptimeGet) (by simp [Off])
    (R := fun (now : Int) w => s.lastSendUptime ≤ now ∧
      ∀ q, attempt w.log = some q → q ≤ now - s.lastSendUptime)
    fun w r hw hok => ?_).post fun now w h =>
      ⟨h.1.1.1, h.1.1.2, h.2.1, h.2.2⟩
  obtain ⟨⟨hrun, -⟩, rfl⟩ := hw
  have hr : r = (w.dev.now : Int) := by simpa [device, ok] using hok
  rw [hr]
  exact ⟨hrun.past, hrun.runs⟩

/-- The restart, in two halves. -/
theorem restart_tends {s : Statics} {now : Int}
    (hsoon : ¬(cfg.rebootMinutes : Int)
      ≤ (now - s.lastSendUptime).tdiv 60000) :
    Triple (device cfg) (TurnsTended cfg) (TendedSoFar cfg)
      (Compared cfg s now) (do
        Prog.modify fun s => { s with modemBounced := true }
        let _ ← call (.funcModeSet .offline)
        call (.kSleep 1000)
        let _ ← call (.funcModeSet .normal)
        pure () : P Unit) fun _ => Tended cfg := by
  refine Triple.bind (R := fun _ => Bearable cfg) (Triple.modify fun w h =>
    ⟨h.running.kept, ⟨h.running.kept, h.running.past, h.running.runs⟩,
      h.below hsoon⟩) fun _ => ?_
  refine Triple.bind (R := fun _ => Bearable cfg)
    ((funcMode_bearable .offline).post fun _ w h => h.1) fun _ => ?_
  refine (plain_keeps (bearable_frame cfg) (by rfl) (by simp)).bind
    fun _ => (funcMode_bearable .normal).bind
    fun _ => Triple.ret fun w h => ?_
  refine ⟨h.1.1, ?_⟩
  unfold tended
  rw [h.1.2, h.2 rfl, Bool.or_true, Bool.and_true]

/-- `recover_if_silent` tends to the attempt on record, or reboots. -/
theorem recoverIfSilent_tended
    (hle : cfg.modemRecoveryMinutes ≤ cfg.rebootMinutes) :
    Triple (device cfg) (TurnsTended cfg) (TendedSoFar cfg) (Running cfg)
      (recoverIfSilent cfg) fun _ => Tended cfg := by
  -- the condition on the run, put where the check begins
  have henter : Triple (device cfg) (TurnsTended cfg) (TendedSoFar cfg)
      (Running cfg) (call (.enter .recoverIfSilent))
      fun _ w => Running cfg w ∧ Due cfg w.st w.log := by
    refine Triple.op (running_frame cfg).stable fun w r h hok hG => ?_
    have h' := (running_frame cfg).calls w (.enter .recoverIfSilent) r
      (by simp [Off]) h hok hG
    refine ⟨h'.kept, h', fun hb => ?_⟩
    have hstep := hG.1
    have hb' : w.st.modemBounced = true := hb
    show (quietUnder _ w.log || restarted w.log) = true
    simpa [TurnsTended, turnsTended, hb'] using hstep
  refine triple_scope henter (R := fun _ => Tended cfg) ?_
    fun r => leave_keeps (tended_frame cfg) (by simp)
  refine Triple.get fun s => Triple.bind (R := fun now => Compared cfg s now)
    ((check_compares s).pre fun w h => ?_) fun now => ?_
  · obtain ⟨⟨hrun, hdue⟩, rfl⟩ := h
    exact ⟨⟨hrun, hdue⟩, rfl⟩
  refine Triple.ite (fun hshort => ?_) fun hlong => Triple.ite
    (fun _ => ?_) fun hsoon => Triple.ite (fun hb => ?_)
    fun _ => restart_tends hsoon
  · -- a short silence bounds every attempt below both limits
    refine Triple.modify fun w h => ?_
    have hrun : Running cfg (w.wrote fun s =>
        { s with modemBounced := false }) :=
      ⟨h.running.kept, h.running.past, h.running.runs⟩
    have hrec : quietUnder cfg.modemRecoveryMinutes w.log = true :=
      h.below (Int.not_le.mpr hshort)
    have hreb : quietUnder cfg.rebootMinutes w.log = true :=
      h.below (by omega)
    refine ⟨h.running.kept, hrun, ?_⟩
    show tended cfg w.log = true
    simp [tended, hrec, hreb]
  · refine Triple.pre (P := Running cfg) ?_ fun w h => h.running
    have R := running_frame cfg
    exact (part R (watchdogPhase_foot _) (by simp) (by simp)).bind fun _ =>
      (plain_keeps R (by rfl) (by simp)).bind fun _ =>
      (part R (p := call .sysReboot) (g := [.reboot]) (v := [])
        (by simp) (by simp) (by simp)).bind fun _ => Triple.halt
  -- restarted before, and short of a reboot
  · refine Triple.ret fun w h => ⟨h.running, ?_⟩
    unfold tended
    rw [h.below hsoon, Bool.true_and]
    exact h.due hb

-- ============================================================= the reports

/-- A pass of the frequent loop begins only over a tended attempt. -/
theorem holdOffMotion_tended :
    Triple (device cfg) (TurnsTended cfg) (TendedSoFar cfg) (Running cfg)
      (holdOffMotion cfg) fun _ => Tended cfg := by
  have T := tended_frame cfg
  have henter : Triple (device cfg) (TurnsTended cfg) (TendedSoFar cfg)
      (Running cfg) (call (.enter (.powerVbusPresent .body)))
      fun _ => Tended cfg := by
    refine Triple.op (running_frame cfg).stable fun w r h hok hG => ?_
    have h' := (running_frame cfg).calls w
      (.enter (.powerVbusPresent .body)) r (by simp [Off]) h hok hG
    exact ⟨h'.kept, h', hG.1⟩
  have hlook : Triple (device cfg) (TurnsTended cfg) (TendedSoFar cfg)
      (Running cfg) (powerVbusPresent .body) fun _ => Tended cfg :=
    triple_scope henter
      (part T (foot_scope.mp (powerVbusPresent_foot .body)).2 (by simp)
        (by simp)) fun r => leave_keeps T (by simp)
  refine hlook.bind fun b => Triple.ite (fun _ => ?_)
    fun _ => Triple.ret fun w h => h
  refine (part T (motionSetArmed_foot cfg false) (by simp) (by simp)).bind
    fun _ => Triple.modify fun w h => ?_
  exact ⟨h.1.kept, ⟨h.1.kept, h.1.past, h.1.runs⟩, h.2⟩

/-- After a report was accepted its attempt no longer counts. -/
def Accepted (cfg : Config) (w : Tracker) : Prop :=
  TendedSoFar cfg w ∧ w.st.lastSendUptime ≤ w.dev.now

/-- or the state right after an accepted report. -/
theorem accepted_frame (cfg : Config) :
    Frame (device cfg) (TurnsTended cfg) (TendedSoFar cfg) (Accepted cfg)
      (Off silenceGroups) (Keep [.lastSendUptime]) where
  stable := by
    intro w a h _ _
    have hnow : w.dev.now ≤ (w.moved (device cfg) a).dev.now :=
      (move_drifts cfg a w.dev).now
    have := h.2
    refine ⟨⟨rfl, h.1⟩, ?_⟩
    show w.st.lastSendUptime ≤ _
    omega
  calls := by
    intro w o r ho h _ _
    have hnow : (w.called (device cfg) o r).dev.now = w.dev.now :=
      effect_now o r w.dev
    refine ⟨⟨attemptsTended_call ho .., h.1⟩, ?_⟩
    rw [hnow]
    exact h.2
  writes := by
    intro w f hf h
    have hs : (f w.st).lastSendUptime = w.st.lastSendUptime :=
      hf .lastSendUptime (by simp)
    refine ⟨h.1, ?_⟩
    show (f w.st).lastSendUptime ≤ _
    rw [hs]
    exact h.2
  gives := fun w h => h.1

/-- `report_fix`: an attempt, made when the one before it was tended to;
only an accepted report moves `last_send_uptime`. -/
theorem reportFix_running (fix : Option TrackerFix) (wakeUptimeMs : Nat)
    (wr : WakeReason) :
    Triple (device cfg) (TurnsTended cfg) (TendedSoFar cfg) (Tended cfg)
      (reportFix cfg fix wakeUptimeMs wr) fun _ => Running cfg := by
  have R : Frame (device cfg) (TurnsTended cfg) (TendedSoFar cfg)
    (Running cfg) (Off silenceGroups) (Keep [.lastSendUptime]) :=
    running_frame cfg
  have A : Frame (device cfg) (TurnsTended cfg) (TendedSoFar cfg)
    (Accepted cfg) (Off silenceGroups) (Keep [.lastSendUptime]) :=
    accepted_frame cfg
  refine report_body R (by simp) (by simp) (by simp)
    (Q := fun r w => if r = 0 then Accepted cfg w else Running cfg w)
    ?_ ?_ ?_ ?_
  · refine Triple.op (tended_frame cfg).stable fun w r h _ _ => ?_
    have hk : TendedSoFar cfg
        (w.called (device cfg) (.enter (.reportFix fix.isSome)) r) :=
      ⟨h.2, h.1.kept⟩
    refine ⟨hk, hk, h.1.past, fun q hq => ?_⟩
    -- the attempt is the silence at its beginning
    have hthis : (w.dev.now : Int) - w.st.lastSendUptime = q :=
      Option.some.inj hq
    show q ≤ w.dev.now - w.st.lastSendUptime
    omega
  · intro w h
    rw [if_neg (by decide)]
    exact h
  · intro payload
    refine deliver_stamps (R := Running cfg) (Y := fun now w =>
      Running cfg w ∧ now ≤ (w.dev.now : Int)) R A (by simp) (by simp)
      (by simp) ?_ ?_ ?_
    · refine (part R (sendReport_foot cfg payload) (by simp)
        (by simp)).post fun err w h => ?_
      split <;> exact h
    · refine R.ask (by simp [Off]) fun w r _ hok => ?_
      have hr : r = (w.dev.now : Int) := by simpa [device, ok] using hok
      rw [hr]
      exact Int.le_refl _
    · exact fun now w h => ⟨h.1.kept, h.1.kept, h.2⟩
  · intro r
    by_cases hr : r = 0
    · simp only [if_pos hr]
      refine Triple.op A.stable fun w u h _ _ => ?_
      have hk : TendedSoFar cfg
          (w.called (device cfg) (.leave (.reportFix fix.isSome) r) u) :=
        ⟨rfl, h.1⟩
      refine ⟨hk, hk, h.2, fun q hq => ?_⟩
      -- accepted: no attempt is running any more
      have hnone : attempt (w.called (device cfg)
          (.leave (.reportFix fix.isSome) r) u).log = none := by
        simp [attempt, World.called, attemptWord, hr]
      rw [hnone] at hq
      cases hq
    · simp only [if_neg hr]
      refine Triple.op R.stable fun w u h _ _ => ?_
      have hk : TendedSoFar cfg
          (w.called (device cfg) (.leave (.reportFix fix.isSome) r) u) :=
        ⟨rfl, h.kept⟩
      refine ⟨hk, hk, h.past, fun q hq => h.runs q ?_⟩
      have hsame : attempt (w.called (device cfg)
          (.leave (.reportFix fix.isSome) r) u).log = attempt w.log := by
        simp [attempt, World.called, attemptWord, hr]
      exact hsame.symm.trans hq

-- ================================================================= the law

/-- Tended from the check on to the report, running in between. -/
theorem silence_outline (hlte : cfg.skipLte = false)
    (hle : cfg.modemRecoveryMinutes ≤ cfg.rebootMinutes) :
    Outline cfg (TurnsTended cfg) (TendedSoFar cfg) fun pt => match pt with
      | .awake => Tended cfg
      | .on => Tended cfg
      | .run => Tended cfg
      | _ => Running cfg := by
  have T := tended_frame cfg
  have R := running_frame cfg
  exact
    { quiet := fun pt => by
        cases pt <;> first
          | exact quiet T (by simp) (by simp)
          | exact quiet R (by simp) (by simp)
      setUp := (part R setUp_foot (by simp) (by simp)).post fun _ _ h _ => h
      topOfCycle := fun wr => part R (topOfCycle_foot wr) (by simp) (by simp)
      recover := recoverIfSilent_tended hle
      noLte := fun h => absurd (hlte.symm.trans h) (by decide)
      lte := part T (lteEnsureConnected_foot cfg) (by simp) (by simp)
      offline := fun _ h => h.1
      resume := part T (cloudResume_foot cfg) (by simp) (by simp)
      ledOn := part T (statusLedReport_foot cfg false) (by simp) (by simp)
      start := (part T (gnssStart_foot cfg) (by simp) (by simp)).post
        fun _ _ h => by
          split
          · exact h
          · exact h.1
      fetch := (part T (agnssFetchAndInject_foot cfg) (by simp)
        (by simp)).pre fun _ h => h.1
      wait := fun t => part T (gnssWaitFix_foot cfg t) (by simp) (by simp)
      fallback := part T (gnssFallback_foot cfg) (by simp) (by simp)
      report := reportFix_running
      unreported := fun _ h => h.1
      ledTold := fun b => part R (statusLedReport_foot cfg b) (by simp)
        (by simp)
      keepIf := fun mc => (part R (keepReporting_foot cfg _ mc) (by simp)
        (by simp)).post fun _ _ h => by split <;> exact h
      logLine := part R (powerVbusPresent_foot _) (by simp) (by simp)
      keepWhile := fun mc => (part R (keepReporting_foot cfg _ mc)
        (by simp) (by simp)).post fun _ _ h => by split <;> exact h
      holdOff := holdOffMotion_tended
      stop := part R (gnssStop_foot cfg) (by simp) (by simp)
      pause := fun _ => part R (cloudPause_foot cfg) (by simp) (by simp)
      sleep := fun site => part R (batterySleep_foot cfg site) (by simp)
        (by simp) }

/-- No report is attempted over an earlier attempt that called for a
reboot, or for a restart of the modem not made since, in every run in
which the frequent loop does not go on over such an attempt and no
restart is taken for a later one. -/
theorem attempts_tended (hlte : cfg.skipLte = false)
    (hle : cfg.modemRecoveryMinutes ≤ cfg.rebootMinutes) {n fuel : Nat}
    {w : Tracker} (hw : Booted cfg w) {c : P Int × Tracker}
    (hr : Reach (device cfg) (main cfg n fuel) w c)
    (hG : Always (TurnsTended cfg) c.2.log) :
    Always (AttemptsTended cfg) c.2.log := by
  obtain ⟨magic, phase, hst⟩ := hw.st
  refine (silence_outline hlte hle).reach (J := TendedSoFar cfg) ?_ hr hG
  refine ⟨?_, ?_, ?_⟩
  · rw [TendedSoFar, hw.log]
    trivial
  · rw [hst]
    exact Int.natCast_nonneg _
  · intro q hq
    rw [hw.log] at hq
    cases hq

/-- A cloud out of reach on battery: the second cycle restarts the modem
before it attempts a report. -/
theorem attempts_tended_unreachable :
    (playMain { fixless with modemRecoveryMinutes := 1 }
      (unreachable false) 2 0 650).2.log.any
        (fun e => restartWord e == some true) = true ∧
    Always (AttemptsTended { fixless with modemRecoveryMinutes := 1 })
      (playMain { fixless with modemRecoveryMinutes := 1 }
        (unreachable false) 2 0 650).2.log :=
  ⟨by decide +kernel, attempts_tended rfl (by decide) (start_booted _)
    (playMain_reach _ (unreachable false) 2 0 650) (by decide +kernel)⟩

/-- A cloud out of reach on external power: one attempt after the other,
past both limits, and neither a restart nor a reboot. -/
theorem attempts_untended :
    ∃ cfg w c, cfg.skipLte = false ∧
      cfg.modemRecoveryMinutes ≤ cfg.rebootMinutes ∧ Booted cfg w ∧
      Reach (device cfg) (main cfg 1 9) w c ∧
      ¬Always (AttemptsTended cfg) c.2.log :=
  ⟨{ fixless with chargingIntervalSeconds := 1000 }, _, _, rfl, by decide,
    start_booted _, playMain_reach _ (unreachable true) 1 9 800,
    by decide +kernel⟩

end GpsTracker
