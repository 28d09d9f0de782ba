/-
The remedies for silence keep their distance (main.c).

A restart of the modem costs a registration and a reboot all that is in
memory, so neither may come in quick succession or while reports get
through. `recover_if_silent` compares one time stamp with two limits, and
that is enough: a restart comes no earlier than its limit after the boot,
after every accepted report and after every other restart, a reboot no
earlier than its own after the boot and every accepted report.

# The invariant

A restart on record is not later than the last stamp, or it waited for its
limit after that stamp and `modem_bounced` remembers it. What clears the
flag is a short silence, and then the restart is the older of the two
(`short_patient`).
-/
import GpsTracker.Laws.Escalation
import GpsTracker.Laws.Margin

namespace GpsTracker

open Proc

-- ================================================================= statements

/-- The modem is taken offline, to be restarted. -/
def restartsModem : Ev → Bool
  | .call _ _ (.funcModeSet .offline) _ => true
  | _ => false

/-- The tracker reboots itself. -/
def reboots : Ev → Bool
  | .call _ _ .sysReboot _ => true
  | _ => false

/-- A report is accepted. -/
def acceptsSend : Ev → Bool
  | .call _ _ (.leave .firstSend c) _ => c == 0
  | .call _ _ (.leave .retrySend c) _ => c == 0
  | _ => false

/-- `ms` have passed since the boot and since each event of `p`. -/
def Overdue (ms : Nat) (p : Ev → Bool) (e : Ev) (l : Trace) : Prop :=
  ms ≤ e.dev.now ∧ ∀ e' ∈ l, p e' = true → e'.dev.now + ms ≤ e.dev.now

/-- The silence after which the modem is restarted. -/
def Config.restartMs (cfg : Config) : Nat := cfg.modemRecoveryMinutes * 60000

/-- The silence after which the tracker reboots. -/
def Config.rebootMs (cfg : Config) : Nat := cfg.rebootMinutes * 60000

/-- A remedy waits for its limit. -/
def Patient (cfg : Config) : Ev → Trace → Prop
  | .call s d (.funcModeSet .offline) r, l =>
      Overdue cfg.restartMs (fun e => restartsModem e || acceptsSend e)
        (.call s d (.funcModeSet .offline) r) l
  | .call s d (.funcModeSet .normal) r, l =>
      Overdue cfg.restartMs acceptsSend
        (.call s d (.funcModeSet .normal) r) l
  | .call s d .sysReboot r, l =>
      Overdue cfg.rebootMs acceptsSend (.call s d .sysReboot r) l
  | _, _ => True

-- =============================================================== assertions

variable {cfg : Config}

/-- The promise at every step. -/
def AllPatient (cfg : Config) (w : Tracker) : Prop :=
  Always (Patient cfg) w.log

/-- Every restart is older than the last stamp, or remembered. -/
structure Distant (cfg : Config) (w : Tracker) : Prop where
  record : AllPatient cfg w
  origin : 0 ≤ w.st.lastSendUptime
  past : w.st.lastSendUptime ≤ w.dev.now
  dated : Chrono w
  apart : ∀ e ∈ w.log, restartsModem e = true →
    (e.dev.now : Int) ≤ w.st.lastSendUptime ∨
      w.st.modemBounced = true ∧
        w.st.lastSendUptime + cfg.restartMs ≤ e.dev.now

/-- And the stamp is no older than any accepted report. -/
structure Heeded (cfg : Config) (w : Tracker) : Prop
    extends Distant cfg w where
  heeded : ∀ e ∈ w.log, acceptsSend e = true →
    (e.dev.now : Int) ≤ w.st.lastSendUptime

/-- The calls the record reads. -/
abbrev patienceGroups : List Group := [.funcMode, .reboot]

/-- Those and the sends. -/
abbrev stampGroups : List Group :=
  .mark .firstSend :: .mark .retrySend :: patienceGroups

/-- Off its groups no call is a restart. -/
theorem patient_off (cfg : Config) {o : Op} (h : Off patienceGroups o) (s : Statics)
    (d : Dev) (r : o.Ret) (l : Trace) : Patient cfg (.call s d o r) l ∧
      restartsModem (.call s d o r) = false := by
  cases o with
  | funcModeSet m =>
      cases m with
      | activateGnss => exact ⟨trivial, rfl⟩
      | offline | normal => exact absurd h (by simp [Off])
  | sysReboot => exact absurd h (by simp [Off])
  | _ => exact ⟨trivial, rfl⟩

/-- Nor does one accept. -/
theorem accepts_off {o : Op} (h : Off stampGroups o) (s : Statics)
    (d : Dev) (r : o.Ret) : acceptsSend (.call s d o r) = false := by
  cases o with
  | leave f c => cases f <;> first | rfl | exact absurd h (by simp [Off])
  | _ => rfl

-- =================================================================== frames

/-- One more event that is neither a restart nor a reboot. -/
theorem Distant.cons {w w' : Tracker} (h : Distant cfg w) {e : Ev}
    (hlog : w'.log = e :: w.log) (hst : w'.st = w.st)
    (hnow : w.dev.now ≤ w'.dev.now) (hchrono : Chrono w')
    (hpatient : Patient cfg e w.log) (he : restartsModem e = false) :
    Distant cfg w' := by
  refine ⟨?_, ?_, ?_, hchrono, fun e' he' hr => ?_⟩
  · rw [AllPatient, hlog]
    exact ⟨hpatient, h.record⟩
  · rw [hst]
    exact h.origin
  · have := h.past
    rw [hst]
    omega
  · rw [hlog] at he'
    rw [hst]
    rcases List.mem_cons.mp he' with rfl | hmem
    · rw [he] at hr
      cases hr
    · exact h.apart e' hmem hr

/-- What the device does by itself is no restart, -/
theorem Distant.moved {w : Tracker} (h : Distant cfg w) (a : Move) :
    Distant cfg (w.moved (device cfg) a) :=
  h.cons rfl rfl (move_drifts cfg a w.dev).now (h.dated.moved a) trivial rfl

/-- nor is a call off the groups of the record, -/
theorem Distant.called {w : Tracker} (h : Distant cfg w) {o : Op}
    (ho : Off patienceGroups o) (r : o.Ret) :
    Distant cfg (w.called (device cfg) o r) := by
  obtain ⟨hpatient, hrests⟩ := patient_off cfg ho w.st w.dev r w.log
  exact h.cons rfl rfl (Nat.le_of_eq (effect_now o r w.dev).symm)
    (h.dated.called o r) hpatient hrests

/-- and only the two variables that remember restarts matter. -/
theorem Distant.wrote {w : Tracker} (h : Distant cfg w)
    {f : Statics → Statics} (hs : (f w.st).lastSendUptime
      = w.st.lastSendUptime)
    (hb : (f w.st).modemBounced = w.st.modemBounced) :
    Distant cfg (w.wrote f) := by
  refine ⟨h.record, ?_, ?_, h.dated, fun e he hr => ?_⟩
  · show 0 ≤ (f w.st).lastSendUptime
    rw [hs]
    exact h.origin
  · show (f w.st).lastSendUptime ≤ _
    rw [hs]
    exact h.past
  · show _ ≤ (f w.st).lastSendUptime ∨ (f w.st).modemBounced = true ∧
      (f w.st).lastSendUptime + _ ≤ _
    rw [hs, hb]
    exact h.apart e he hr

/-- So everything else keeps the restarts accounted for. -/
theorem distant_frame (cfg : Config) :
    Frame (device cfg) Free (AllPatient cfg) (Distant cfg)
      (Off patienceGroups) (Keep [.lastSendUptime, .modemBounced]) where
  stable := fun _ a h _ _ => h.moved a
  calls := fun _ _ r ho h _ _ => h.called ho r
  writes := fun _ _ hf h => h.wrote (hf .lastSendUptime (by simp))
    (hf .modemBounced (by simp))
  gives := fun _ h => h.record

/-- One more call that is no restart, no reboot and no accepted report. -/
theorem Heeded.called {w : Tracker} (h : Heeded cfg w) {o : Op} (r : o.Ret)
    (hpatient : Patient cfg (.call w.st w.dev o r) w.log)
    (hrests : restartsModem (.call w.st w.dev o r) = false)
    (haccepts : acceptsSend (.call w.st w.dev o r) = false) :
    Heeded cfg (w.called (device cfg) o r) := by
  refine ⟨h.toDistant.cons rfl rfl
    (Nat.le_of_eq (effect_now o r w.dev).symm) (h.dated.called o r) hpatient
    hrests, fun e he ha => ?_⟩
  rcases List.mem_cons.mp he with rfl | hmem
  · rw [haccepts] at ha
    cases ha
  · exact h.heeded e hmem ha

/-- The sends apart, the stamp stays up to date. -/
theorem heeded_frame (cfg : Config) :
    Frame (device cfg) Free (AllPatient cfg) (Heeded cfg)
      (Off stampGroups) (Keep [.lastSendUptime, .modemBounced]) where
  stable := fun w a h _ _ => by
    refine ⟨h.toDistant.moved a, fun e he ha => ?_⟩
    rcases List.mem_cons.mp he with rfl | hmem
    · cases ha
    · exact h.heeded e hmem ha
  calls := fun w o r ho h _ _ => by
    obtain ⟨hpatient, hrests⟩ :=
      patient_off cfg (ho.mono (by simp)) w.st w.dev r w.log
    exact h.called r hpatient hrests (accepts_off ho w.st w.dev r)
  writes := fun w f hf h => by
    have hs : (f w.st).lastSendUptime = w.st.lastSendUptime :=
      hf .lastSendUptime (by simp)
    refine ⟨h.toDistant.wrote hs (hf .modemBounced (by simp)),
      fun e he ha => ?_⟩
    show _ ≤ (f w.st).lastSendUptime
    rw [hs]
    exact h.heeded e he ha
  gives := fun _ h => h.record

/-- A call that is none of these. -/
theorem call_heeded {o : Op} (h : ∀ s d (r : o.Ret) l,
    Patient cfg (.call s d o r) l ∧ restartsModem (.call s d o r) = false ∧
      acceptsSend (.call s d o r) = false) :
    Triple (device cfg) Free (AllPatient cfg) (Heeded cfg) (call o)
      fun _ => Heeded cfg := by
  refine Triple.op (heeded_frame cfg).stable fun w r hw _ _ => ?_
  obtain ⟨hpatient, hrests, haccepts⟩ := h w.st w.dev r w.log
  have hw' := hw.called r hpatient hrests haccepts
  exact ⟨hw'.record, hw'⟩

-- ================================================================ the report

/-- A send; where it is accepted the stamp is still to come. -/
theorem send_heeded {f : Fn} (hf : f = .firstSend ∨ f = .retrySend)
    (payload : Text) :
    Triple (device cfg) Free (AllPatient cfg) (Heeded cfg)
      (scope f (cloudSendTelemetry cfg payload)) fun err w =>
        if err = 0 then Distant cfg w else Heeded cfg w := by
  have F : Frame (device cfg) Free (AllPatient cfg) (Heeded cfg)
    (Off stampGroups) (Keep [.lastSendUptime, .modemBounced]) :=
    heeded_frame cfg
  refine triple_scope (Y := Heeded cfg) (R := fun _ => Heeded cfg)
    (call_heeded ?_) (part F (cloudSendTelemetry_foot cfg payload) (by simp)
      (by simp)) fun err => ?_
  · rcases hf with rfl | rfl <;> exact fun _ _ _ _ => ⟨trivial, rfl, rfl⟩
  · by_cases herr : err = 0
    · refine Triple.op F.stable fun w r h _ _ => ?_
      have hoff : Off patienceGroups (.leave f err) := by simp [Off]
      have h' : Distant cfg (w.called (device cfg) (.leave f err) r) :=
        h.toDistant.called hoff r
      rw [if_pos herr]
      exact ⟨h'.record, h'⟩
    · refine (call_heeded (o := .leave f err)
        fun s d r l => ⟨trivial, rfl, ?_⟩).post fun _ w h => ?_
      · rcases hf with rfl | rfl <;> exact beq_false_of_ne herr
      · rw [if_neg herr]
        exact h

/-- The first send and the retry alike: accepted, the report is still to be
stamped. -/
theorem sendReport_heeded (payload : Text) :
    Triple (device cfg) Free (AllPatient cfg) (Heeded cfg)
      (sendReport cfg payload) fun err w =>
        if err = 0 then Distant cfg w else Heeded cfg w := by
  have F : Frame (device cfg) Free (AllPatient cfg) (Heeded cfg)
    (Off stampGroups) (Keep [.lastSendUptime, .modemBounced]) :=
    heeded_frame cfg
  refine (send_heeded (.inl rfl) payload).bind fun err => Triple.ite
    (fun herr => ?_) fun _ => Triple.ret fun w h => h
  have hrefused : err ≠ 0 := by
    rcases herr with rfl | rfl <;> decide
  simp only [if_neg hrefused]
  refine (part F (watchdogGuardStart_foot _) (by simp) (by simp)).bind
    fun _ => (part F (cloudResume_foot cfg) (by simp) (by simp)).bind
    fun err => (part F watchdogGuardStop_foot (by simp) (by simp)).bind
    fun _ => Triple.ite (fun _ => send_heeded (.inr rfl) payload)
      fun herr => Triple.ret fun w h => ?_
  rw [if_neg herr]
  exact h

/-- A report: an accepted one is stamped, after every event on record. -/
theorem reportFix_heeded (fix : Option TrackerFix) (u : Nat)
    (wr : WakeReason) :
    Triple (device cfg) Free (AllPatient cfg) (Heeded cfg)
      (reportFix cfg fix u wr) fun _ => Heeded cfg := by
  have F : Frame (device cfg) Free (AllPatient cfg) (Heeded cfg)
    (Off stampGroups) (Keep [.lastSendUptime, .modemBounced]) :=
    heeded_frame cfg
  refine report_keeps F (by simp) (by simp) ?_ (by simp) fun payload => ?_
  · cases fix.isSome <;> simp
  · refine (deliver_stamps (R := Distant cfg) (Z := Heeded cfg)
      (Y := fun now w => Distant cfg w ∧ now = (w.dev.now : Int)) F F
      (by simp) (by simp) (by simp) (sendReport_heeded payload) ?_ ?_).post
      fun r w h => by split at h <;> exact h
    · refine (distant_frame cfg).ask (by simp [Off]) fun w r _ hok => ?_
      show r = ((effect .kUptimeGet r w.dev).now : Int)
      rw [effect_now]
      simpa [device, ok] using hok
    · intro now w h
      obtain ⟨h, rfl⟩ := h
      have hupto : ∀ e ∈ w.log, (e.dev.now : Int) ≤ w.dev.now :=
        fun e he => Int.ofNat_le.mpr (h.dated e he)
      exact ⟨h.record, ⟨⟨h.record, Int.natCast_nonneg _, Int.le_refl _,
        h.dated, fun e he _ => .inl (hupto e he)⟩, fun e he _ => hupto e he⟩⟩

-- ================================================================= the check

/-- The silence has lasted `ms`. -/
structure Silent (cfg : Config) (ms : Nat) (w : Tracker) : Prop
    extends Heeded cfg w where
  silent : w.st.lastSendUptime + ms ≤ w.dev.now

/-- A silence of so many milliseconds only gets longer. -/
theorem silent_frame (cfg : Config) (ms : Nat) :
    Frame (device cfg) Free (AllPatient cfg) (Silent cfg ms)
      (Off stampGroups) (Keep [.lastSendUptime, .modemBounced]) where
  stable := fun w a h hcan hG => by
    have hnow : w.dev.now ≤ (move cfg a w.dev).now :=
      (move_drifts cfg a w.dev).now
    refine ⟨(heeded_frame cfg).stable w a h.toHeeded hcan hG, ?_⟩
    have := h.silent
    show w.st.lastSendUptime + ms ≤ ((move cfg a w.dev).now : Int)
    omega
  calls := fun w o r ho h hok hG => by
    refine ⟨(heeded_frame cfg).calls w o r ho h.toHeeded hok hG, ?_⟩
    show w.st.lastSendUptime + ms ≤ ((effect o r w.dev).now : Int)
    rw [effect_now]
    exact h.silent
  writes := fun w f hf h => by
    refine ⟨(heeded_frame cfg).writes w f hf h.toHeeded, ?_⟩
    show (f w.st).lastSendUptime + ms ≤ (w.dev.now : Int)
    rw [show (f w.st).lastSendUptime = w.st.lastSendUptime from
      hf .lastSendUptime (by simp)]
    exact h.silent
  gives := fun _ h => h.record

/-- After a silence everything up to the last stamp lies as far back. -/
theorem Silent.overdue {ms : Nat} {w : Tracker} (h : Silent cfg ms w)
    {e : Ev} (he : e.dev = w.dev) {p : Ev → Bool}
    (hp : ∀ e' ∈ w.log, p e' = true →
      (e'.dev.now : Int) ≤ w.st.lastSendUptime) : Overdue ms p e w.log := by
  have hsilent := h.silent
  have horigin := h.origin
  unfold Overdue
  rw [he]
  refine ⟨by omega, fun e' he' hpe => ?_⟩
  have := hp e' he' hpe
  omega

/-- The flag is set and every restart is older than the last stamp: time
for another one. -/
structure Ripe (cfg : Config) (w : Tracker) : Prop
    extends Silent cfg cfg.restartMs w where
  bounced : w.st.modemBounced = true
  older : ∀ e ∈ w.log, restartsModem e = true →
    (e.dev.now : Int) ≤ w.st.lastSendUptime

/-- Waiting takes nothing from it. -/
theorem ripe_stable : Stable (device cfg) Free (Ripe cfg) := by
  intro w a h hcan hG
  refine ⟨(silent_frame cfg _).stable w a h.toSilent hcan hG, h.bounced,
    fun e he hr => ?_⟩
  rcases List.mem_cons.mp he with rfl | hmem
  · cases hr
  · exact h.older e hmem hr

/-- The restart itself; the silence lasts. -/
theorem offline_patient :
    Triple (device cfg) Free (AllPatient cfg) (Ripe cfg)
      (call (.funcModeSet .offline)) fun _ => Silent cfg cfg.restartMs := by
  refine Triple.op ripe_stable fun w r h _ _ => ?_
  have hpatient : Patient cfg (.call w.st w.dev (.funcModeSet .offline) r)
      w.log := h.toSilent.overdue rfl fun e he hp => by
    rcases Bool.or_eq_true_iff.mp hp with hr | ha
    · exact h.older e he hr
    · exact h.heeded e he ha
  have hrecord : AllPatient cfg
      (w.called (device cfg) (.funcModeSet .offline) r) := ⟨hpatient, h.record⟩
  have hnow : (w.called (device cfg) (.funcModeSet .offline) r).dev.now
      = w.dev.now := effect_now _ _ _
  refine ⟨hrecord, ⟨⟨hrecord, h.origin, ?_,
    h.dated.called (.funcModeSet .offline) r,
    fun e he hr => ?_⟩, fun e he ha => ?_⟩, ?_⟩
  · rw [hnow]
    exact h.past
  · rcases List.mem_cons.mp he with rfl | hmem
    · exact .inr ⟨h.bounced, h.silent⟩
    · exact .inl (h.older e hmem hr)
  · rcases List.mem_cons.mp he with rfl | hmem
    · cases ha
    · exact h.heeded e hmem ha
  · rw [hnow]
    exact h.silent

/-- And its end. -/
theorem normal_patient :
    Triple (device cfg) Free (AllPatient cfg) (Silent cfg cfg.restartMs)
      (call (.funcModeSet .normal)) fun _ => Heeded cfg := by
  refine Triple.op (silent_frame cfg cfg.restartMs).stable
    fun w r h _ _ => ?_
  have hpatient : Patient cfg (.call w.st w.dev (.funcModeSet .normal) r)
      w.log := h.overdue rfl h.heeded
  have h' : Heeded cfg (w.called (device cfg) (.funcModeSet .normal) r) :=
    h.toHeeded.called (o := .funcModeSet .normal) r hpatient rfl rfl
  exact ⟨h'.record, h'⟩

/-- The clock has just been read. -/
structure Timed (cfg : Config) (s : Statics) (now : Int) (w : Tracker) :
    Prop extends Heeded cfg w where
  st : w.st = s
  clock : now = w.dev.now

/-- The silence of the check is the time since the stamp. -/
theorem Timed.silent {s : Statics} {now : Int} {w : Tracker}
    (h : Timed cfg s now w) {minutes : Nat}
    (hlong : (minutes : Int) ≤ (now - s.lastSendUptime).tdiv 60000) :
    Silent cfg (minutes * 60000) w := by
  have hpast := h.past
  have hclock := h.clock
  rw [h.st] at hpast
  have hsilent := (units_le (a := now - s.lastSendUptime) (n := minutes)
    (k := 60000) (by omega) (by decide)).mp hlong
  refine ⟨h.toHeeded, ?_⟩
  rw [h.st]
  omega

/-- A short silence: every restart is older than the stamp. -/
theorem short_patient {s : Statics} {now : Int}
    (hshort : (now - s.lastSendUptime).tdiv 60000 < cfg.modemRecoveryMinutes) :
    Triple (device cfg) Free (AllPatient cfg) (Timed cfg s now)
      (Prog.modify fun s => { s with modemBounced := false })
      fun _ => Heeded cfg := by
  refine Triple.modify fun w h => ⟨h.record, ?_⟩
  have hpast := h.past
  have hclock := h.clock
  rw [h.st] at hpast
  have hless := mt (units_le (a := now - s.lastSendUptime)
    (n := cfg.modemRecoveryMinutes) (k := 60000) (by omega) (by decide)).mpr
    (Int.not_le.mpr hshort)
  refine ⟨⟨h.record, h.origin, h.past, h.dated, fun e he hr => ?_⟩, h.heeded⟩
  rcases h.apart e he hr with hold | ⟨-, hwaited⟩
  · exact .inl hold
  · have hdated := h.dated e he
    rw [h.st] at hwaited
    unfold Config.restartMs at hwaited
    omega

/-- The reboot. -/
theorem reboot_patient {s : Statics} {now : Int}
    (hlong : (now - s.lastSendUptime).tdiv 60000 ≥ cfg.rebootMinutes) :
    Triple (device cfg) Free (AllPatient cfg) (Timed cfg s now) (do
      watchdogPhase .noNetwork
      call (.kSleep 200)
      call .sysReboot
      Prog.halt : P Unit) fun _ => Heeded cfg := by
  have S : Frame (device cfg) Free (AllPatient cfg)
    (Silent cfg cfg.rebootMs) (Off stampGroups)
    (Keep [.lastSendUptime, .modemBounced]) := silent_frame cfg cfg.rebootMs
  refine Triple.pre (P := Silent cfg cfg.rebootMs) ?_ fun w h =>
    h.silent hlong
  refine (part S (watchdogPhase_foot _) (by simp) (by simp)).bind fun _ =>
    (plain_keeps S rfl (by simp)).bind fun _ => ?_
  refine Triple.bind (R := fun _ _ => True) (Triple.op S.stable
    fun w r h _ _ => ⟨⟨?_, h.record⟩, trivial⟩) fun _ => Triple.halt
  exact h.overdue rfl h.heeded

/-- The restart. -/
theorem restart_patient {s : Statics} {now : Int}
    (hlong : ¬(now - s.lastSendUptime).tdiv 60000 < cfg.modemRecoveryMinutes)
    (hb : ¬s.modemBounced = true) :
    Triple (device cfg) Free (AllPatient cfg) (Timed cfg s now) (do
      Prog.modify fun s => { s with modemBounced := true }
      let _ ← call (.funcModeSet .offline)
      call (.kSleep 1000)
      let _ ← call (.funcModeSet .normal)
      pure () : P Unit) fun _ => Heeded cfg := by
  refine Triple.bind (R := fun _ => Ripe cfg) (Triple.modify fun w h => ?_)
    fun _ => offline_patient.bind fun _ =>
      (plain_keeps (silent_frame cfg cfg.restartMs) rfl (by simp)).bind
      fun _ => normal_patient.bind fun _ => Triple.ret fun w h => h
  have hsilent := (h.silent (Int.not_lt.mp hlong)).silent
  have holder : ∀ e ∈ w.log, restartsModem e = true →
      (e.dev.now : Int) ≤ w.st.lastSendUptime := fun e he hr => by
    rcases h.apart e he hr with hold | ⟨hbounced, -⟩
    · exact hold
    · rw [h.st] at hbounced
      exact absurd hbounced hb
  exact ⟨h.record, ⟨⟨⟨⟨h.record, h.origin, h.past, h.dated,
    fun e he hr => .inl (holder e he hr)⟩, h.heeded⟩, hsilent⟩, rfl, holder⟩⟩

/-- `recover_if_silent`. -/
theorem recoverIfSilent_patient :
    Triple (device cfg) Free (AllPatient cfg) (Heeded cfg)
      (recoverIfSilent cfg) fun _ => Heeded cfg := by
  have F : Frame (device cfg) Free (AllPatient cfg) (Heeded cfg)
    (Off stampGroups) (Keep [.lastSendUptime, .modemBounced]) :=
    heeded_frame cfg
  refine triple_scope (Y := Heeded cfg) (R := fun _ => Heeded cfg)
    (enter_keeps F (by simp)) ?_ fun r => leave_keeps F (by simp)
  have hread : ∀ s, Triple (device cfg) Free (AllPatient cfg)
      (fun w => Heeded cfg w ∧ w.st = s) (call .kUptimeGet)
      fun now => Timed cfg s now := fun s => by
    refine Triple.op (F.stable.and (Stable.static (· = s)))
      fun w now h hok _ => ?_
    obtain ⟨h, hst⟩ := h
    have h' := h.called (o := .kUptimeGet) now trivial rfl rfl
    refine ⟨h'.record, h', hst, ?_⟩
    show now = ((effect .kUptimeGet now w.dev).now : Int)
    rw [effect_now]
    simpa [device, ok] using hok
  refine Triple.get fun s => (hread s).bind fun now =>
    Triple.ite (fun hshort => short_patient hshort) fun hlong => Triple.ite
    (fun hreboot => reboot_patient hreboot) fun _ => Triple.ite
    (fun _ => Triple.ret fun w h => h.toHeeded)
    fun hb => restart_patient hlong hb

-- =================================================================== the law

/-- The stamp is up to date at every place of main. -/
theorem patience_outline :
    Outline cfg Free (AllPatient cfg)
      (looping (Heeded cfg) (Heeded cfg)) := by
  have F : Frame (device cfg) Free (AllPatient cfg) (Heeded cfg)
    (Off stampGroups) (Keep [.lastSendUptime, .modemBounced]) :=
    heeded_frame cfg
  refine outline_looping F (by simp) (by simp) (quiet F (by simp) (by simp))
    ?_ recoverIfSilent_patient ?_ ?_ reportFix_heeded ?_
  · exact part F setUp_foot (by simp) (by simp)
  · exact part F (cloudResume_foot cfg) (by simp) (by simp)
  · exact part F (agnssFetchAndInject_foot cfg) (by simp) (by simp)
  · exact part F (cloudPause_foot cfg) (by simp) (by simp)

/-- A patient restart comes long after the last one, and after the last
accepted report. -/
theorem Patient.overdue {e : Ev} {l : Trace} (h : Patient cfg e l)
    (he : restartsModem e = true) :
    Overdue cfg.restartMs (fun e => restartsModem e || acceptsSend e) e l := by
  cases e with
  | env s d a => cases he
  | call s d o r =>
      cases o with
      | funcModeSet m => cases m <;> first | exact h | cases he
      | _ => cases he

/-- Restarts that are so far apart have taken so long. -/
theorem restarts_count {l : Trace} (h : Always (Patient cfg) l) :
    ∀ now, (∀ e ∈ l, restartsModem e = true → e.dev.now ≤ now) →
      l.countP restartsModem * cfg.restartMs ≤ now := by
  induction l with
  | nil =>
      intro now _
      rw [List.countP_nil, Nat.zero_mul]
      exact Nat.zero_le now
  | cons e l ih =>
      intro now hnow
      by_cases he : restartsModem e = true
      · obtain ⟨hboot, hothers⟩ := h.1.overdue he
        have hcount := ih h.2 (e.dev.now - cfg.restartMs) fun e' he' hr => by
          have := hothers e' he' (by simp [hr])
          omega
        have hlast := hnow e List.mem_cons_self he
        rw [List.countP_cons_of_pos he, Nat.succ_mul]
        omega
      · rw [List.countP_cons_of_neg he]
        exact ih h.2 now fun e' he' => hnow e' (List.mem_cons_of_mem e he')

/-- At the boot nothing is on record and nothing stamped. -/
theorem heeded_boot {w : Tracker} (hw : Booted cfg w) : Heeded cfg w := by
  obtain ⟨magic, phase, hst⟩ := hw.st
  have hstamp : w.st.lastSendUptime = 0 := by
    rw [hst]
    rfl
  refine ⟨⟨?_, ?_, ?_, ?_, ?_⟩, ?_⟩
  · rw [AllPatient, hw.log]
    trivial
  · exact Int.le_of_eq hstamp.symm
  · rw [hstamp]
    exact Int.natCast_nonneg _
  · intro e he
    rw [hw.log] at he
    cases he
  · intro e he
    rw [hw.log] at he
    cases he
  · intro e he
    rw [hw.log] at he
    cases he

/-- So every remedy of a run waits for its limit. -/
theorem all_patient {n fuel : Nat} {w : Tracker} (hw : Booted cfg w)
    {c : P Int × Tracker} (hr : Reach (device cfg) (main cfg n fuel) w c) :
    AllPatient cfg c.2 := by
  have O : Outline cfg Free (AllPatient cfg)
    (looping (Heeded cfg) (Heeded cfg)) := patience_outline
  exact O.reach (heeded_boot hw) hr (always_free _)

/-- In every run no restart of the modem comes within its limit of the
boot, an accepted report or another restart, and no reboot within its own of
the boot or an accepted report; so there is time for every restart. -/
theorem remedies_patient {n fuel : Nat} {w : Tracker} (hw : Booted cfg w)
    {c : P Int × Tracker} (hr : Reach (device cfg) (main cfg n fuel) w c) :
    Always (Patient cfg) c.2.log ∧
      c.2.log.countP restartsModem * cfg.restartMs ≤ c.2.dev.now := by
  have hpatient : AllPatient cfg c.2 := all_patient hw hr
  obtain ⟨hdated, -⟩ := reach_dated hw.log hr
  exact ⟨hpatient, restarts_count hpatient c.2.dev.now
    fun e he _ => hdated.chrono e he⟩

/-- A cloud out of reach on battery: a restart and a reboot. -/
theorem remedies_patient_unreachable :
    let cfg := { hasty with rebootMinutes := 15 }
    let c := playMain cfg (unreachable false) 3 0 700
    (c.2.log.countP restartsModem = 1 ∧ c.2.log.any reboots = true) ∧
    Always (Patient cfg) c.2.log ∧
      c.2.log.countP restartsModem * cfg.restartMs ≤ c.2.dev.now :=
  ⟨by decide +kernel, remedies_patient (start_booted _)
    (playMain_reach _ (unreachable false) 3 0 700)⟩

end GpsTracker
