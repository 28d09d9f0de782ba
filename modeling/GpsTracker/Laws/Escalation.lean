/-
The order of the remedies for silence (main.c).

`recover_if_silent` restarts the modem once the silence passes one limit
and reboots once it passes a longer one. It remembers the restart in
`modem_bounced`, which it clears by the clock: where a check finds the
silence short. So a second restart always has an accepted report before
it, but a reboot need not have a restart. The silence may pass both
limits between two checks, or a check between the two limits may find
`modem_bounced` left over from before the last accepted report.

# The invariant

A restart with nothing accepted since is remembered in `modem_bounced`,
and the silence is still past the first limit: only a stamp could shorten
it. A check that clears `modem_bounced` has therefore a report behind it.
-/
import GpsTracker.Laws.Silence

namespace GpsTracker

open Proc

variable {cfg : Config}

/-- A restart has an accepted report between it and the last one, and a
reboot has a restart between it and the last accepted report. -/
def escalates : Ev → Trace → Bool
  | .call _ _ (.funcModeSet .normal) _, l => !restarted l
  | .call _ _ .sysReboot _, l => restarted l
  | _, _ => true

abbrev Escalates (e : Ev) (l : Trace) : Prop := escalates e l

/-- What an event says about where the thread is: in the check of the
silence or out of it. -/
def checkWord : Ev → Option Bool
  | .call _ _ (.enter .recoverIfSilent) _ => some true
  | .call _ _ (.leave .recoverIfSilent _) _ => some false
  | _ => none

/-- The thread is in `recover_if_silent`. -/
def inCheck (l : Trace) : Bool := latest checkWord false l

/-- The silence in minutes, as the check computes it. -/
def quietMin (s : Statics) (now : Int) : Int :=
  (now - s.lastSendUptime).tdiv 60000

/-- A check at uptime `now` finds the silence between the two limits, and
`modem_bounced` clear. -/
def betweenLimits (cfg : Config) (s : Statics) (now : Int) : Bool :=
  decide (cfg.modemRecoveryMinutes ≤ quietMin s now)
    && decide (quietMin s now < cfg.rebootMinutes) && !s.modemBounced

/-- What an event says of the silence: a report was accepted, or a check
found it between the limits. -/
def noticeWord (cfg : Config) (e : Ev) (l : Trace) : Option Bool :=
  match e with
  | .call _ _ (.leave (.reportFix _) r) _ => if r = 0 then some false else none
  | .call s _ .kUptimeGet now =>
      if inCheck l && betweenLimits cfg s now then some true else none
  | _ => none

/-- Since the last accepted report, or boot, a check found the silence
between the limits, and `modem_bounced` clear. -/
def noticed (cfg : Config) : Trace → Bool
  | [] => false
  | e :: l => (noticeWord cfg e l).getD (noticed cfg l)

/-- A reboot comes after such a check. -/
def rebootNoticed (cfg : Config) : Ev → Trace → Bool
  | .call _ _ .sysReboot _, l => noticed cfg l
  | _, _ => true

abbrev RebootNoticed (cfg : Config) (e : Ev) (l : Trace) : Prop :=
  rebootNoticed cfg e l

-- =============================================================== assertions

/-- The promise at every step: the two agree. -/
abbrev Escalating (cfg : Config) (w : Tracker) : Prop :=
  Always (fun e l => Escalates e l ↔ RebootNoticed cfg e l) w.log

/-- The record and `modem_bounced` agree, and a restart not yet followed
by an accepted report keeps the silence past the first limit. -/
structure Steady (cfg : Config) (w : Tracker) : Prop where
  kept : Escalating cfg w
  past : w.st.lastSendUptime ≤ w.dev.now
  same : restarted w.log = noticed cfg w.log
  since : restarted w.log = true → w.st.modemBounced = true ∧
    ((cfg.modemRecoveryMinutes * 60000 : Nat) : Int)
      ≤ w.dev.now - w.st.lastSendUptime

/-- Steady, outside the check. -/
def SteadyOut (cfg : Config) (w : Tracker) : Prop :=
  Steady cfg w ∧ inCheck w.log = false

/-- Steady, inside the check. -/
def SteadyIn (cfg : Config) (w : Tracker) : Prop :=
  Steady cfg w ∧ inCheck w.log = true

/-- From the stamp of an accepted report to its return. -/
structure Heard (cfg : Config) (w : Tracker) : Prop where
  kept : Escalating cfg w
  past : w.st.lastSendUptime ≤ w.dev.now
  out : inCheck w.log = false

/-- The groups the record reads. -/
abbrev escalationGroups : List Group :=
  [.funcMode, .reboot, .mark (.reportFix true), .mark (.reportFix false)]

/-- Off the groups of the record no call restarts or accepts, -/
private theorem restarted_same {o : Op} (h : Off escalationGroups o)
    (s : Statics) (d : Dev) (r : o.Ret) (l : Trace) :
    restarted (.call s d o r :: l) = restarted l := by
  have hword : restartWord (.call s d o r) = none := by
    cases o with
    | leave f r =>
        cases f with
        | reportFix b => cases b <;> exact absurd h (by simp [Off])
        | _ => rfl
    | funcModeSet m =>
        cases m with
        | activateGnss => rfl
        | offline | normal => exact absurd h (by simp [Off])
    | _ => rfl
  exact latest_none hword

/-- none notices, the reading of the clock in the check apart, -/
private theorem noticed_same {o : Op} (h : Off escalationGroups o)
    (s : Statics) (d : Dev) (r : o.Ret) (l : Trace)
    (hk : inCheck l = true → o ≠ .kUptimeGet) :
    noticed cfg (.call s d o r :: l) = noticed cfg l := by
  have hword : noticeWord cfg (.call s d o r) l = none := by
    cases o with
    | leave f r =>
        cases f with
        | reportFix b => cases b <;> exact absurd h (by simp [Off])
        | _ => rfl
    | kUptimeGet =>
        have hout : inCheck l = false := by
          cases hc : inCheck l with
          | false => rfl
          | true => exact absurd rfl (hk hc)
        simp [noticeWord, hout]
    | _ => rfl
  rw [noticed, hword]
  rfl

/-- and only its mark opens the check. -/
private theorem inCheck_same {o : Op} (h : group o ≠ .mark .recoverIfSilent)
    (s : Statics) (d : Dev) (r : o.Ret) (l : Trace) :
    inCheck (.call s d o r :: l) = inCheck l := by
  have hword : checkWord (.call s d o r) = none := by
    cases o with
    | enter f => cases f <;> first | rfl | exact absurd rfl h
    | leave f r => cases f <;> first | rfl | exact absurd rfl h
    | _ => rfl
  exact latest_none hword

private theorem escalates_same {o : Op} (h : Off escalationGroups o)
    (s : Statics) (d : Dev) (r : o.Ret) (l : Trace) :
    Escalates (.call s d o r) l ↔ RebootNoticed cfg (.call s d o r) l := by
  cases o with
  | funcModeSet m =>
      cases m with
      | activateGnss => exact Iff.rfl
      | offline | normal => exact absurd h (by simp [Off])
  | sysReboot => exact absurd h (by simp [Off])
  | _ => exact Iff.rfl

/-- Away from restarts, reboots and reports, and from the check's look at
the clock, everything stays. -/
private theorem Steady.called {w : Tracker} (h : Steady cfg w) {o : Op}
    (ho : Off escalationGroups o) (r : o.Ret)
    (hk : inCheck w.log = true → o ≠ .kUptimeGet) :
    Steady cfg (w.called (device cfg) o r) := by
  have hnow : (w.called (device cfg) o r).dev.now = w.dev.now :=
    effect_now o r w.dev
  have hr : restarted (w.called (device cfg) o r).log = restarted w.log :=
    restarted_same ho ..
  have hn : noticed cfg (w.called (device cfg) o r).log = noticed cfg w.log :=
    noticed_same ho _ _ _ _ hk
  refine ⟨⟨escalates_same ho .., h.kept⟩, ?_, ?_, ?_⟩
  · rw [hnow]
    exact h.past
  · rw [hr, hn]
    exact h.same
  · rw [hr, hnow]
    exact h.since

private theorem Steady.moved {w : Tracker} (h : Steady cfg w) (a : Move) :
    Steady cfg (w.moved (device cfg) a) := by
  have hnow : w.dev.now ≤ (w.moved (device cfg) a).dev.now :=
    (move_drifts cfg a w.dev).now
  refine ⟨⟨Iff.rfl, h.kept⟩, ?_, h.same, fun hr => ?_⟩
  · have := h.past
    show w.st.lastSendUptime ≤ _
    omega
  · obtain ⟨hb, hq⟩ := h.since hr
    refine ⟨hb, ?_⟩
    show _ ≤ _ - w.st.lastSendUptime
    omega

private theorem Steady.wrote {w : Tracker} (h : Steady cfg w)
    {f : Statics → Statics}
    (hf : Keep [.lastSendUptime, .modemBounced] w.st (f w.st)) :
    Steady cfg (w.wrote f) := by
  have hs : (f w.st).lastSendUptime = w.st.lastSendUptime :=
    hf .lastSendUptime (by simp)
  have hb : (f w.st).modemBounced = w.st.modemBounced :=
    hf .modemBounced (by simp)
  refine ⟨h.kept, ?_, h.same, fun hr => ?_⟩
  · show (f w.st).lastSendUptime ≤ _
    rw [hs]
    exact h.past
  · show (f w.st).modemBounced = true ∧ _ ≤ _ - (f w.st).lastSendUptime
    rw [hs, hb]
    exact h.since hr

/-- Outside the check the record of restarts outlasts all but the calls on it.
-/
theorem steadyOut_frame (cfg : Config) :
    Frame (device cfg) Free (Escalating cfg) (SteadyOut cfg)
      (Off (.mark .recoverIfSilent :: escalationGroups))
      (Keep [.lastSendUptime, .modemBounced]) where
  stable := fun _ a h _ _ => ⟨h.1.moved a, h.2⟩
  calls := by
    intro w o r ho h _ _
    refine ⟨h.1.called (ho.mono (by simp)) r fun hc => ?_, ?_⟩
    · rw [h.2] at hc
      cases hc
    · exact (inCheck_same (ho.ne (by simp)) ..).trans h.2
  writes := fun _ _ hf h => ⟨h.1.wrote hf, h.2⟩
  gives := fun _ h => h.1.kept

/-- Inside the check the clock is read once; what follows is away from
it. -/
theorem steadyIn_frame (cfg : Config) :
    Frame (device cfg) Free (Escalating cfg) (SteadyIn cfg)
      (fun o => Off (.mark .recoverIfSilent :: escalationGroups) o
        ∧ o ≠ .kUptimeGet)
      (Keep [.lastSendUptime, .modemBounced]) where
  stable := fun _ a h _ _ => ⟨h.1.moved a, h.2⟩
  calls := by
    intro w o r ho h _ _
    refine ⟨h.1.called (ho.1.mono (by simp)) r fun _ => ho.2, ?_⟩
    exact (inCheck_same (ho.1.ne (by simp)) ..).trans h.2
  writes := fun _ _ hf h => ⟨h.1.wrote hf, h.2⟩
  gives := fun _ h => h.1.kept

/-- Right after an accepted report it does so even while the flag is cleared.
-/
theorem heard_frame (cfg : Config) :
    Frame (device cfg) Free (Escalating cfg) (Heard cfg)
      (Off (.mark .recoverIfSilent :: escalationGroups))
      (Keep [.lastSendUptime]) where
  stable := by
    intro w a h _ _
    have hnow : w.dev.now ≤ (w.moved (device cfg) a).dev.now :=
      (move_drifts cfg a w.dev).now
    have := h.past
    refine ⟨⟨Iff.rfl, h.kept⟩, ?_, h.out⟩
    show w.st.lastSendUptime ≤ _
    omega
  calls := by
    intro w o r ho h _ _
    have hnow : (w.called (device cfg) o r).dev.now = w.dev.now :=
      effect_now o r w.dev
    refine ⟨⟨escalates_same (ho.mono (by simp)) .., h.kept⟩, ?_, ?_⟩
    · rw [hnow]
      exact h.past
    · exact (inCheck_same (ho.ne (by simp)) ..).trans h.out
  writes := by
    intro w f hf h
    have hs : (f w.st).lastSendUptime = w.st.lastSendUptime :=
      hf .lastSendUptime (by simp)
    refine ⟨h.kept, ?_, h.out⟩
    show (f w.st).lastSendUptime ≤ _
    rw [hs]
    exact h.past
  gives := fun _ h => h.kept

-- =============================================================== the report

/-- `report_fix`: an accepted report starts the record afresh. -/
theorem reportFix_steady (fix : Option TrackerFix) (wakeUptimeMs : Nat)
    (wr : WakeReason) :
    Triple (device cfg) Free (Escalating cfg) (SteadyOut cfg)
      (reportFix cfg fix wakeUptimeMs wr) fun _ => SteadyOut cfg := by
  have F : Frame (device cfg) Free (Escalating cfg) (SteadyOut cfg)
    (Off (.mark .recoverIfSilent :: escalationGroups))
    (Keep [.lastSendUptime, .modemBounced]) := steadyOut_frame cfg
  have A : Frame (device cfg) Free (Escalating cfg) (Heard cfg)
    (Off (.mark .recoverIfSilent :: escalationGroups))
    (Keep [.lastSendUptime]) := heard_frame cfg
  refine report_body F (by simp) (by simp) (by simp)
    (Q := fun r w => if r = 0 then Heard cfg w else SteadyOut cfg w)
    ?_ ?_ ?_ ?_
  · refine Triple.op F.stable fun w r h _ _ => ?_
    have h' : SteadyOut cfg
        (w.called (device cfg) (.enter (.reportFix fix.isSome)) r) := by
      refine ⟨⟨⟨Iff.rfl, h.1.kept⟩, h.1.past, ?_, ?_⟩, ?_⟩
      · have hword : restartWord (.call w.st w.dev
            (.enter (.reportFix fix.isSome)) r) = none := rfl
        exact (latest_none hword).trans h.1.same
      · intro hr
        have hword : restartWord (.call w.st w.dev
            (.enter (.reportFix fix.isSome)) r) = none := rfl
        exact h.1.since ((latest_none hword).symm.trans hr)
      · exact (latest_none rfl).trans h.2
    exact ⟨h'.1.kept, h'⟩
  -- a payload that does not fit changes nothing
  · intro w h
    rw [if_neg (by decide)]
    exact h
  · intro payload
    refine deliver_stamps (R := SteadyOut cfg) (Y := fun now w =>
      SteadyOut cfg w ∧ now = (w.dev.now : Int)) F A (by simp) (by simp)
      (by simp) ?_ ?_ ?_
    · refine (part F (sendReport_foot cfg payload) (by simp)
        (by simp)).post fun err w h => ?_
      split <;> exact h
    · refine F.ask (by simp [Off]) fun w r _ hok => ?_
      show r = ((effect .kUptimeGet r w.dev).now : Int)
      rw [effect_now]
      simpa [device, ok] using hok
    · intro now w h
      obtain ⟨h, rfl⟩ := h
      exact ⟨h.1.kept, h.1.kept, Int.le_refl _, h.2⟩
  · intro r
    by_cases hr : r = 0
    · simp only [if_pos hr]
      refine Triple.op A.stable fun w u h _ _ => ?_
      -- accepted: neither a restart nor a notice is on record any more
      have hnot : restarted (w.called (device cfg)
          (.leave (.reportFix fix.isSome) r) u).log = false :=
        latest_some (by simp [restartWord, hr])
      have hfresh : noticed cfg (w.called (device cfg)
          (.leave (.reportFix fix.isSome) r) u).log = false := by
        simp [World.called, noticed, noticeWord, hr]
      have hk : Escalating cfg (w.called (device cfg)
          (.leave (.reportFix fix.isSome) r) u) := ⟨Iff.rfl, h.kept⟩
      refine ⟨hk, ⟨hk, h.past, hnot.trans hfresh.symm, fun hn => ?_⟩, ?_⟩
      · rw [hnot] at hn
        cases hn
      · exact (latest_none rfl).trans h.out
    · simp only [if_neg hr]
      refine Triple.op F.stable fun w u h _ _ => ?_
      -- not accepted: the record stays
      have hsame : restarted (w.called (device cfg)
          (.leave (.reportFix fix.isSome) r) u).log = restarted w.log :=
        latest_none (by simp [restartWord, hr])
      have hn : noticed cfg (w.called (device cfg)
          (.leave (.reportFix fix.isSome) r) u).log = noticed cfg w.log := by
        simp [World.called, noticed, noticeWord, hr]
      have hk : Escalating cfg (w.called (device cfg)
          (.leave (.reportFix fix.isSome) r) u) := ⟨Iff.rfl, h.1.kept⟩
      refine ⟨hk, ⟨hk, h.1.past, ?_, ?_⟩, (latest_none rfl).trans h.2⟩
      · rw [hsame, hn]
        exact h.1.same
      · rw [hsame]
        exact h.1.since

-- ================================================================ the check

/-- The check has read the clock: it noticed the silence, or the record is
as it was. -/
structure Checked (cfg : Config) (s : Statics) (now : Int) (w : Tracker) :
    Prop where
  kept : Escalating cfg w
  st : w.st = s
  past : s.lastSendUptime ≤ now
  upto : now ≤ w.dev.now
  within : inCheck w.log = true
  same : if betweenLimits cfg s now then noticed cfg w.log = true
    else restarted w.log = noticed cfg w.log
  since : restarted w.log = true → s.modemBounced = true ∧
    ((cfg.modemRecoveryMinutes * 60000 : Nat) : Int)
      ≤ now - s.lastSendUptime

/-- Outside the restart, a check leaves things steady. -/
theorem Checked.steady {s : Statics} {now : Int} {w : Tracker}
    (h : Checked cfg s now w) (hb : betweenLimits cfg s now = false) :
    SteadyIn cfg w := by
  obtain ⟨kept, st, past, upto, within, same, since⟩ := h
  rw [hb, if_neg (by simp)] at same
  refine ⟨⟨kept, ?_, same, fun hr => ?_⟩, within⟩
  · rw [st]
    omega
  · obtain ⟨hm, hq⟩ := since hr
    rw [st]
    refine ⟨hm, ?_⟩
    omega

/-- The look at the clock. -/
theorem check_reads (s : Statics) :
    Triple (device cfg) Free (Escalating cfg)
      (fun w => SteadyIn cfg w ∧ w.st = s) (call .kUptimeGet)
      fun now => Checked cfg s now := by
  have hstable : Stable (device cfg) Free
      fun w => SteadyIn cfg w ∧ w.st = s :=
    (steadyIn_frame cfg).stable.and (Stable.static (· = s))
  refine Triple.op hstable fun w now h hok _ => ?_
  obtain ⟨⟨h, hin⟩, rfl⟩ := h
  have hnow : now = (w.dev.now : Int) := by simpa [device, ok] using hok
  have hdev : (w.called (device cfg) .kUptimeGet now).dev.now = w.dev.now :=
    effect_now _ _ _
  have hr : restarted (w.called (device cfg) .kUptimeGet now).log
      = restarted w.log := latest_none rfl
  have hk : Escalating cfg (w.called (device cfg) .kUptimeGet now) :=
    ⟨Iff.rfl, h.kept⟩
  refine ⟨hk, hk, rfl, ?_, ?_, (latest_none rfl).trans hin, ?_, ?_⟩
  · rw [hnow]
    exact h.past
  · have hle : (w.dev.now : Int)
        ≤ ((w.called (device cfg) .kUptimeGet now).dev.now : Nat) := by
      omega
    rwa [hnow]
  · have hword : noticeWord cfg (.call w.st w.dev .kUptimeGet now) w.log
        = if betweenLimits cfg w.st now then some true else none := by
      show (if inCheck w.log && _ then some true else none) = _
      rw [hin, Bool.true_and]
    -- the reading is the notice: from here on code and record see the same
    -- clock
    have hnoticed : noticed cfg (w.called (device cfg) .kUptimeGet now).log
        = (betweenLimits cfg w.st now || noticed cfg w.log) := by
      show (noticeWord cfg _ w.log).getD (noticed cfg w.log) = _
      rw [hword]
      cases betweenLimits cfg w.st now <;> rfl
    rw [hnoticed, hr, h.same]
    by_cases hb : betweenLimits cfg w.st now = true
    · rw [if_pos hb, hb]
      exact Bool.true_or _
    · rw [if_neg hb, Bool.eq_false_iff.mpr hb]
      exact (Bool.false_or _).symm
  · rw [hr, hnow]
    exact h.since

/-- Between the two halves of a restart. -/
structure Bouncing (cfg : Config) (w : Tracker) : Prop where
  kept : Escalating cfg w
  past : w.st.lastSendUptime ≤ w.dev.now
  within : inCheck w.log = true
  bounced : w.st.modemBounced = true
  silent : ((cfg.modemRecoveryMinutes * 60000 : Nat) : Int)
    ≤ w.dev.now - w.st.lastSendUptime
  noticed : noticed cfg w.log = true
  fresh : restarted w.log = false

/-- Between its two halves a restart makes two calls, and writes nothing. -/
theorem bouncing_frame (cfg : Config) :
    Frame (device cfg) Free (Escalating cfg) (Bouncing cfg)
      (fun o => o = .funcModeSet .offline ∨ o = .kSleep 1000)
      fun _ _ => False where
  stable := by
    intro w a h _ _
    have hnow : w.dev.now ≤ (w.moved (device cfg) a).dev.now :=
      (move_drifts cfg a w.dev).now
    have := h.past
    have := h.silent
    refine ⟨⟨Iff.rfl, h.kept⟩, ?_, h.within, h.bounced, ?_, h.noticed,
      h.fresh⟩
    · show w.st.lastSendUptime ≤ _
      omega
    · show _ ≤ _ - w.st.lastSendUptime
      omega
  calls := by
    intro w o r ho h _ _
    rcases ho with rfl | rfl
    · exact ⟨⟨Iff.rfl, h.kept⟩, h.past, (latest_none rfl).trans h.within,
        h.bounced, h.silent, h.noticed, (latest_none rfl).trans h.fresh⟩
    · exact ⟨⟨Iff.rfl, h.kept⟩, h.past, (latest_none rfl).trans h.within,
        h.bounced, h.silent, h.noticed, (latest_none rfl).trans h.fresh⟩
  writes := fun _ _ h => h.elim
  gives := fun _ h => h.kept

/-- The second half of the restart: the first one since the last accepted
report. -/
theorem bounce_steady :
    Triple (device cfg) Free (Escalating cfg) (Bouncing cfg)
      (call (.funcModeSet .normal)) fun _ => SteadyIn cfg := by
  refine Triple.op (bouncing_frame cfg).stable fun w r h _ _ => ?_
  have hr : restarted (w.called (device cfg) (.funcModeSet .normal) r).log
      = true := latest_some rfl
  have hk : Escalating cfg
      (w.called (device cfg) (.funcModeSet .normal) r) := by
    refine ⟨?_, h.kept⟩
    simp [Escalates, escalates, RebootNoticed, rebootNoticed, h.fresh]
  refine ⟨hk, ⟨hk, h.past, hr.trans h.noticed.symm, fun _ => ?_⟩,
    (latest_none rfl).trans h.within⟩
  exact ⟨h.bounced, h.silent⟩

/-- A short silence: nothing was restarted since the last report. -/
theorem spoken_steady {s : Statics} {now : Int}
    (hshort : quietMin s now < cfg.modemRecoveryMinutes) :
    Triple (device cfg) Free (Escalating cfg) (Checked cfg s now)
      (Prog.modify fun s => { s with modemBounced := false })
      fun _ => SteadyIn cfg := by
  refine Triple.modify fun w h => ?_
  have hnone : betweenLimits cfg s now = false := by
    simp [betweenLimits, Int.not_le.mpr hshort]
  have hrest : restarted w.log = false := by
    cases hr : restarted w.log with
    | false => rfl
    | true =>
        have hq := (h.since hr).2
        have hlong := (units_le (n := cfg.modemRecoveryMinutes)
          (k := 60000) (Int.sub_nonneg.mpr h.past) (by decide)).mpr hq
        exact absurd hlong (Int.not_le.mpr hshort)
  have hs := h.steady hnone
  refine ⟨hs.1.kept, ⟨hs.1.kept, hs.1.past, hs.1.same, fun hr => ?_⟩,
    hs.2⟩
  have hr' : restarted w.log = true := hr
  rw [hrest] at hr'
  cases hr'

/-- The reboot: noticed exactly where the modem was restarted. -/
theorem reboot_steady {s : Statics} {now : Int}
    (hreboot : quietMin s now ≥ cfg.rebootMinutes) :
    Triple (device cfg) Free (Escalating cfg) (Checked cfg s now) (do
      watchdogPhase .noNetwork
      call (.kSleep 200)
      call .sysReboot
      Prog.halt : P Unit) fun _ => SteadyIn cfg := by
  have I : Frame (device cfg) Free (Escalating cfg) (SteadyIn cfg)
    (fun o => Off (.mark .recoverIfSilent :: escalationGroups) o
      ∧ o ≠ .kUptimeGet) (Keep [.lastSendUptime, .modemBounced]) :=
    steadyIn_frame cfg
  have hnone : betweenLimits cfg s now = false := by
    simp [betweenLimits, Int.not_lt.mpr hreboot]
  refine Triple.pre (P := SteadyIn cfg) ?_ fun w h => h.steady hnone
  refine (I.keeps (Within.modify fun s' v hv => ?_)).bind fun _ =>
    (I.keeps (Within.op ⟨by simp [Off], by simp⟩)).bind fun _ => ?_
  · rcases List.mem_cons.mp hv with rfl | hv
    · rfl
    · rw [List.mem_singleton.mp hv]
      rfl
  refine Triple.bind (R := fun _ _ => True) (Triple.op I.stable
    fun w r h _ _ => ⟨⟨?_, h.1.kept⟩, trivial⟩) fun _ => Triple.halt
  show restarted w.log = true ↔ noticed cfg w.log = true
  rw [h.1.same]

/-- The restart: the first since the last accepted report. -/
theorem restart_steady {s : Statics} {now : Int}
    (hlong : ¬quietMin s now < cfg.modemRecoveryMinutes)
    (hsoon : ¬quietMin s now ≥ cfg.rebootMinutes)
    (hb : s.modemBounced = false) :
    Triple (device cfg) Free (Escalating cfg) (Checked cfg s now) (do
      Prog.modify fun s => { s with modemBounced := true }
      let _ ← call (.funcModeSet .offline)
      call (.kSleep 1000)
      let _ ← call (.funcModeSet .normal)
      pure () : P Unit) fun _ => SteadyIn cfg := by
  -- the code restarts on the very condition that is noticed
  have hbetween : betweenLimits cfg s now = true := by
    have hlo : (cfg.modemRecoveryMinutes : Int) ≤ quietMin s now :=
      Int.not_lt.mp hlong
    have hhi : quietMin s now < cfg.rebootMinutes := Int.not_le.mp hsoon
    rw [betweenLimits, decide_eq_true hlo, decide_eq_true hhi, hb]
    rfl
  have B : Frame (device cfg) Free (Escalating cfg) (Bouncing cfg)
    (fun o => o = .funcModeSet .offline ∨ o = .kSleep 1000)
    (fun _ _ => False) := bouncing_frame cfg
  refine Triple.bind (R := fun _ => Bouncing cfg)
    (Triple.modify fun w h => ?_) fun _ => ?_
  · have hq := (units_le (n := cfg.modemRecoveryMinutes) (k := 60000)
      (Int.sub_nonneg.mpr h.past) (by decide)).mp (Int.not_lt.mp hlong)
    have hsame := h.same
    rw [hbetween, if_pos rfl] at hsame
    have := h.past
    have := h.upto
    refine ⟨h.kept, h.kept, ?_, h.within, rfl, ?_, hsame, ?_⟩
    · show w.st.lastSendUptime ≤ _
      rw [h.st]
      show _ ≤ (w.dev.now : Int)
      omega
    · show _ ≤ _ - w.st.lastSendUptime
      rw [h.st]
      show _ ≤ (w.dev.now : Int) - _
      omega
    · show restarted w.log = false
      -- a restart on record would have set `modem_bounced`
      cases hr : restarted w.log with
      | false => rfl
      | true =>
          have hm := (h.since hr).1
          rw [hb] at hm
          cases hm
  exact (B.keeps (Within.op (.inl rfl))).bind fun _ =>
    (B.keeps (Within.op (.inr rfl))).bind fun _ =>
    bounce_steady.bind fun _ => Triple.ret fun w h => h

/-- `recover_if_silent`. -/
theorem recoverIfSilent_steady :
    Triple (device cfg) Free (Escalating cfg) (SteadyOut cfg)
      (recoverIfSilent cfg) fun _ => SteadyOut cfg := by
  refine triple_scope (Y := SteadyIn cfg) (R := fun _ => SteadyIn cfg)
    ?_ ?_ fun r => ?_
  · refine Triple.op (steadyOut_frame cfg).stable fun w r h _ _ => ?_
    have h' : Steady cfg (w.called (device cfg) (.enter .recoverIfSilent) r) :=
      h.1.called (o := .enter .recoverIfSilent) (by simp [Off]) r
        fun _ => by simp
    exact ⟨h'.kept, h', latest_some rfl⟩
  · refine Triple.get fun s => (check_reads s).bind fun now =>
      Triple.ite (fun hshort => spoken_steady hshort) fun hlong => Triple.ite
      (fun hreboot => reboot_steady hreboot) fun hsoon => Triple.ite
      (fun hb => ?_) fun hb => ?_
    · have hnone : betweenLimits cfg s now = false := by
        simp [betweenLimits, hb]
      exact Triple.ret fun w h => h.steady hnone
    · exact restart_steady hlong hsoon (Bool.eq_false_iff.mpr hb)
  · refine Triple.op (steadyIn_frame cfg).stable fun w u h _ _ => ?_
    have h' : Steady cfg
        (w.called (device cfg) (.leave .recoverIfSilent (Code.code r)) u) :=
      h.1.called (o := .leave .recoverIfSilent (Code.code r)) (by simp [Off]) u
        fun _ => by simp
    exact ⟨h'.kept, h', latest_some rfl⟩

-- ================================================================= the law

/-- The steady record along main. -/
theorem escalation_outline :
    Outline cfg Free (Escalating cfg)
      (looping (SteadyOut cfg) (SteadyOut cfg)) := by
  have F : Frame (device cfg) Free (Escalating cfg) (SteadyOut cfg)
    (Off (.mark .recoverIfSilent :: escalationGroups))
    (Keep [.lastSendUptime, .modemBounced]) := steadyOut_frame cfg
  refine outline_looping F (by simp) (by simp) (quiet F (by simp) (by simp))
    ?_ recoverIfSilent_steady ?_ ?_ reportFix_steady ?_
  · exact part F setUp_foot (by simp) (by simp)
  · exact part F (cloudResume_foot cfg) (by simp) (by simp)
  · exact part F (agnssFetchAndInject_foot cfg) (by simp) (by simp)
  · exact part F (cloudPause_foot cfg) (by simp) (by simp)

/-- A run of `main` restarts the modem once between accepted reports, and
reboots only after a restart since the last of them, exactly where every
reboot comes after a check that found the silence between the two limits,
and `modem_bounced` clear, since then. -/
theorem escalates_iff {n fuel : Nat} {w : Tracker} (hw : Booted cfg w)
    {c : P Int × Tracker} (hr : Reach (device cfg) (main cfg n fuel) w c) :
    Always Escalates c.2.log ↔ Always (RebootNoticed cfg) c.2.log := by
  obtain ⟨magic, phase, hst⟩ := hw.st
  have O : Outline cfg Free (Escalating cfg)
    (looping (SteadyOut cfg) (SteadyOut cfg)) := escalation_outline
  refine always_congr (O.reach (J := Escalating cfg) ?_ hr (always_free _))
  refine ⟨⟨?_, ?_, ?_, fun hr => ?_⟩, ?_⟩
  · rw [Escalating, hw.log]
    trivial
  · rw [hst]
    exact Int.natCast_nonneg _
  · rw [hw.log]
    rfl
  · rw [hw.log] at hr
    cases hr
  · rw [hw.log]
    rfl

/-- A cloud out of reach on battery: a restart in the second cycle, a
reboot in the third. -/
theorem escalates_unreachable :
    let cfg := { hasty with rebootMinutes := 15 }
    let c := playMain cfg (unreachable false) 3 0 700
    c.2.log.any (fun
      | .call _ _ .sysReboot _ => true
      | _ => false) = true ∧
    Always Escalates c.2.log :=
  ⟨by decide +kernel, (escalates_iff (start_booted _)
    (playMain_reach _ (unreachable false) 3 0 700)).mpr (by decide +kernel)⟩

/-- A cloud out of reach, and power from the first cycle to the first
pause. -/
def marooned : Script Statics Dev Move Calls := fun w o =>
  match o with
  | .coapConnect => ([], -ETIMEDOUT)
  | .enter (.cycle .boot) => ([.vbusIn], ())
  | .kSleep ms => (if w.dev.vbus then [.tick ms, .vbusOut] else [.tick ms], ())
  | o => calm w o

/-- Two hours under power between two checks: the second one reboots, and
nothing was restarted. -/
theorem reboot_unescalated :
    ∃ cfg w c, cfg.modemRecoveryMinutes < cfg.rebootMinutes ∧
      cfg.skipLte = false ∧ Booted cfg w ∧
      Reach (device cfg) (main cfg 2 9) w c ∧ ¬Always Escalates c.2.log :=
  ⟨{ fixless with chargingIntervalSeconds := 7200 }, _, _, by decide, rfl,
    start_booted _, playMain_reach _ marooned 2 9 600, by decide +kernel⟩

end GpsTracker
