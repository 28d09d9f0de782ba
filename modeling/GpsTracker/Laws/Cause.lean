/-
What a silence is made of (main.c).

`recover_if_silent` counts from the last accepted report and asks for no
reason. A cycle may end without one because the network failed, and it
may end without one because it had nothing to send: no fix and no report
without one, no receiver, a payload that does not fit. So a restart or a
reboot has a failed network operation behind it, or a silence of its whole
limit in which not a single telemetry send was begun.

# The invariant

Whoever began a send and got nothing accepted has seen an operation fail:
the send itself, or the `cloud_resume` between it and its retry.
-/
import GpsTracker.Laws.Patience

namespace GpsTracker

open Proc

variable {cfg : Config}

/-- What an event says of the network: one of its operations failed, or a
report was accepted. -/
def failureWord : Ev → Option Bool
  | .call _ _ (.leave .lteEnsureConnected r) _
  | .call _ _ (.leave .cloudResume r) _
  | .call _ _ (.leave .firstSend r) _
  | .call _ _ (.leave .retrySend r) _ => if r = 0 then none else some true
  | .call _ _ (.leave (.reportFix _) r) _ => if r = 0 then some false else none
  | _ => none

/-- Registration, `cloud_resume` or a telemetry send failed since the last
accepted report, or boot. -/
def netFailed (l : Trace) : Bool := latest failureWord false l

/-- What an event says of the sends: one was begun, or a report was
accepted. -/
def sendWord : Ev → Option Bool
  | .call _ _ (.enter .firstSend) _ => some true
  | .call _ _ (.leave (.reportFix _) r) _ => if r = 0 then some false else none
  | _ => none

/-- A telemetry send was begun since the last accepted report, or boot. -/
def sendBegun (l : Trace) : Bool := latest sendWord false l

/-- A restart of the modem and a reboot. -/
def remedies : Op → Bool
  | .funcModeSet .offline => true
  | .funcModeSet .normal => true
  | .sysReboot => true
  | _ => false

/-- A remedy comes after a failed operation of the network. -/
def netCaused : Ev → Trace → Bool
  | .call _ _ o _, l => !remedies o || netFailed l
  | .env .., _ => true

abbrev NetCaused (e : Ev) (l : Trace) : Prop := netCaused e l

/-- A remedy comes after a failed operation of the network, or a silence
in which no send was begun. -/
def silenceCaused : Ev → Trace → Bool
  | .call _ _ o _, l => !remedies o || netFailed l || !sendBegun l
  | .env .., _ => true

abbrev SilenceCaused (e : Ev) (l : Trace) : Prop := silenceCaused e l

/-- The silence that a remedy waits for. -/
def remedyMs (cfg : Config) : Op → Nat
  | .sysReboot => cfg.rebootMs
  | _ => cfg.restartMs

/-- That long ago was the boot, and every accepted report. -/
def SilenceLasted (cfg : Config) : Ev → Trace → Prop
  | .call s d o r, l => remedies o = true →
      Overdue (remedyMs cfg o) acceptsSend (.call s d o r) l
  | .env .., _ => True

-- =============================================================== assertions

/-- The promise at every step. -/
abbrev Grounded (w : Tracker) : Prop := Always SilenceCaused w.log

/-- A send that was begun has failed since. -/
def Accounted (w : Tracker) : Prop :=
  Grounded w ∧ (sendBegun w.log = true → netFailed w.log = true)

/-- An operation of the network failed. -/
def Failing (w : Tracker) : Prop :=
  Grounded w ∧ netFailed w.log = true

theorem Failing.accounted {w : Tracker} (h : Failing w) : Accounted w :=
  ⟨h.1, fun _ => h.2⟩

/-- The marks of reports and their sends. -/
abbrev reportMarks : List Group :=
  [.mark (.reportFix true), .mark (.reportFix false)]

/-- And of the first send. -/
abbrev sendMarks : List Group := .mark .firstSend :: reportMarks

/-- Between reports a failure stays on record. -/
private theorem netFailed_call {o : Op} (h : Off reportMarks o)
    (s : Statics) (d : Dev) (r : o.Ret) {l : Trace}
    (hl : netFailed l = true) : netFailed (.call s d o r :: l) = true := by
  have hword : failureWord (.call s d o r) = none
      ∨ failureWord (.call s d o r) = some true := by
    cases o with
    | leave f code =>
        cases f with
        | reportFix b => cases b <;> exact absurd h (by simp [Off])
        | lteEnsureConnected | cloudResume | firstSend | retrySend =>
            by_cases hr : code = 0
            · exact .inl (if_pos hr)
            · exact .inr (if_neg hr)
        | _ => exact .inl rfl
    | _ => exact .inl rfl
  rcases hword with hword | hword
  · exact (latest_none hword).trans hl
  · exact latest_some hword

private theorem sendBegun_call {o : Op} (h : Off sendMarks o)
    (s : Statics) (d : Dev) (r : o.Ret) (l : Trace) :
    sendBegun (.call s d o r :: l) = sendBegun l := by
  have hword : sendWord (.call s d o r) = none := by
    cases o with
    | enter f =>
        cases f with
        | firstSend => exact absurd h (by simp [Off])
        | _ => rfl
    | leave f r =>
        cases f with
        | reportFix b => cases b <;> exact absurd h (by simp [Off])
        | _ => rfl
    | _ => rfl
  exact latest_none hword

/-- With every send accounted for, every call is. -/
private theorem silenceCaused_of {l : Trace}
    (h : sendBegun l = true → netFailed l = true) (s : Statics) (d : Dev)
    (o : Op) (r : o.Ret) : SilenceCaused (.call s d o r) l := by
  show (!remedies o || netFailed l || !sendBegun l) = true
  cases hb : sendBegun l with
  | false => rw [Bool.not_false, Bool.or_true]
  | true => rw [h hb, Bool.or_true, Bool.true_or]

theorem accounted_frame :
    Frame (device cfg) Free Grounded Accounted (Off sendMarks) (Keep []) where
  stable := fun _ _ h _ _ => ⟨⟨rfl, h.1⟩, h.2⟩
  calls := by
    intro w o r ho h _ _
    refine ⟨⟨silenceCaused_of h.2 .., h.1⟩, fun hb => ?_⟩
    have hb' : sendBegun w.log = true :=
      (sendBegun_call ho ..).symm.trans hb
    exact netFailed_call (ho.mono (by simp)) _ _ _ (h.2 hb')
  writes := fun _ _ _ h => h
  gives := fun _ h => h.1

theorem failing_frame :
    Frame (device cfg) Free Grounded Failing (Off reportMarks) (Keep []) where
  stable := fun _ _ h _ _ => ⟨⟨rfl, h.1⟩, h.2⟩
  calls := by
    intro w o r ho h _ _
    exact ⟨⟨silenceCaused_of (fun _ => h.2) .., h.1⟩,
      netFailed_call ho _ _ _ h.2⟩
  writes := fun _ _ _ h => h
  gives := fun _ h => h.1

/-- Away from the remedies nothing is owed. -/
theorem grounded_frame :
    Frame (device cfg) Free Grounded Grounded (Off [.funcMode, .reboot])
      (Keep []) where
  stable := fun _ _ h _ _ => ⟨rfl, h⟩
  calls := by
    intro w o r ho h _ _
    have hr : remedies o = false := by
      cases o with
      | funcModeSet m =>
          cases m with
          | offline | normal => exact absurd ho (by simp [Off])
          | activateGnss => rfl
      | sysReboot => exact absurd ho (by simp [Off])
      | _ => rfl
    refine ⟨?_, h⟩
    show (!remedies o || netFailed w.log || !sendBegun w.log) = true
    rw [hr]
    rfl
  writes := fun _ _ _ h => h
  gives := fun _ h => h

-- =============================================================== the report

/-- The first send: whatever it answers but zero is a failure. -/
theorem firstSend_accounted (payload : Text) :
    Triple (device cfg) Free Grounded Accounted
      (scope .firstSend (cloudSendTelemetry cfg payload))
      fun err w => if err = 0 then Grounded w else Failing w := by
  refine triple_scope (Y := Grounded) (R := fun _ => Grounded) ?_
    (part grounded_frame (cloudSendTelemetry_foot cfg payload) (by simp)
      (by simp)) fun err => ?_
  · refine Triple.op accounted_frame.stable fun w r h _ _ => ?_
    have hk : Grounded (w.called (device cfg) (.enter .firstSend) r) :=
      ⟨silenceCaused_of h.2 .., h.1⟩
    exact ⟨hk, hk⟩
  · refine Triple.op grounded_frame.stable fun w r h _ _ => ?_
    have hk : Grounded (w.called (device cfg) (.leave .firstSend err) r) :=
      ⟨rfl, h⟩
    refine ⟨hk, ?_⟩
    show if err = 0 then _ else _
    by_cases herr : err = 0
    · rw [if_pos herr]
      exact hk
    · rw [if_neg herr]
      exact ⟨hk, latest_some (if_neg herr)⟩

/-- `report_fix`'s send and its retry. -/
theorem sendReport_accounted (payload : Text) :
    Triple (device cfg) Free Grounded Accounted (sendReport cfg payload)
      fun err w => if err = 0 then Grounded w else Accounted w := by
  have F : Frame (device cfg) Free Grounded Failing (Off reportMarks)
    (Keep []) := failing_frame
  -- a failure is on record by its errno, so nothing else has to be known
  have hrest : ∀ err : Int, ∀ w, Failing w →
      if err = 0 then Grounded w else Accounted w := by
    intro err w h
    split
    · exact h.1
    · exact h.accounted
  refine (firstSend_accounted payload).bind fun err =>
    Triple.ite (fun herr => ?_) fun _ => ?_
  -- the session was not there: connect once more and retry
  · have hne : err ≠ 0 := by
      rintro rfl
      revert herr
      decide
    simp only [if_neg hne]
    refine (part F (watchdogGuardStart_foot _) (by simp) (by simp)).bind
      fun _ => (part F (cloudResume_foot cfg) (by simp) (by simp)).bind
      fun err' => (part F watchdogGuardStop_foot (by simp) (by simp)).bind
      fun _ => Triple.ite (fun _ => ?_) fun _ => Triple.ret (hrest err')
    refine (triple_scope (enter_keeps F (by simp))
      (part F (cloudSendTelemetry_foot cfg payload) (by simp) (by simp))
      fun r => leave_keeps F (by simp)).post hrest
  · refine Triple.ret fun w h => ?_
    by_cases hz : err = 0
    · rw [if_pos hz] at h ⊢
      exact h
    · rw [if_neg hz] at h ⊢
      exact h.accounted

/-- `report_fix`: what it sent was accepted, or failed. -/
theorem reportFix_accounted (fix : Option TrackerFix) (wakeUptimeMs : Nat)
    (wr : WakeReason) :
    Triple (device cfg) Free Grounded Accounted
      (reportFix cfg fix wakeUptimeMs wr) fun _ => Accounted := by
  have F : Frame (device cfg) Free Grounded Accounted (Off sendMarks)
    (Keep []) := accounted_frame
  have A : Frame (device cfg) Free Grounded Grounded
    (Off [.funcMode, .reboot]) (Keep []) := grounded_frame
  refine report_body F (by simp) (by simp) (by simp)
    (Q := fun r w => if r = 0 then Grounded w else Accounted w)
    ?_ ?_ ?_ ?_
  · refine Triple.op F.stable fun w r h _ _ => ?_
    have hk : Grounded
        (w.called (device cfg) (.enter (.reportFix fix.isSome)) r) :=
      ⟨silenceCaused_of h.2 .., h.1⟩
    refine ⟨hk, hk, fun hb => ?_⟩
    exact (latest_none rfl).trans (h.2 ((latest_none rfl).symm.trans hb))
  -- a payload that does not fit is an error, and no send was begun
  · intro w h
    rw [if_neg (by decide)]
    exact h
  · intro payload
    exact deliver_stamps (Y := fun _ => Grounded) F A (by simp) (by simp)
      (by simp) (sendReport_accounted payload)
      (plain_keeps A (by rfl) (by simp)) fun _ _ h => ⟨h, h⟩
  · intro r
    by_cases hr : r = 0
    · simp only [if_pos hr]
      refine Triple.op A.stable fun w u h _ _ => ?_
      have hk : Grounded (w.called (device cfg)
          (.leave (.reportFix fix.isSome) r) u) := ⟨rfl, h⟩
      -- accepted: the record starts afresh
      have hnone : sendBegun (w.called (device cfg)
          (.leave (.reportFix fix.isSome) r) u).log = false :=
        latest_some (if_pos hr)
      refine ⟨hk, hk, fun hb => ?_⟩
      rw [hnone] at hb
      cases hb
    · simp only [if_neg hr]
      refine Triple.op F.stable fun w u h _ _ => ?_
      have hk : Grounded (w.called (device cfg)
          (.leave (.reportFix fix.isSome) r) u) :=
        ⟨silenceCaused_of h.2 .., h.1⟩
      refine ⟨hk, hk, fun hb => ?_⟩
      have hb' : sendBegun w.log = true :=
        (latest_none (if_neg hr)).symm.trans hb
      exact (latest_none (if_neg hr)).trans (h.2 hb')

-- ================================================================= the law

theorem cause_outline :
    Outline cfg Free Grounded (looping Accounted Accounted) := by
  have F : Frame (device cfg) Free Grounded Accounted (Off sendMarks)
    (Keep []) := accounted_frame
  refine outline_looping F (by simp) (by simp) (quiet F (by simp) (by simp))
    ?_ ?_ ?_ ?_ reportFix_accounted ?_
  · exact part F setUp_foot (by simp) (by simp)
  · exact part F (recoverIfSilent_foot cfg) (by simp) (by simp)
  · exact part F (cloudResume_foot cfg) (by simp) (by simp)
  · exact part F (agnssFetchAndInject_foot cfg) (by simp) (by simp)
  · exact part F (cloudPause_foot cfg) (by simp) (by simp)

/-- A remedy that waits for its limit comes after a silence of it. -/
theorem Patient.lasted {e : Ev} {l : Trace} (h : Patient cfg e l) :
    SilenceLasted cfg e l := by
  cases e with
  | env s d a => trivial
  | call s d o r =>
      intro hremedy
      cases o with
      | funcModeSet m =>
          cases m with
          | offline =>
              have hboth : Overdue cfg.restartMs
                  (fun e => restartsModem e || acceptsSend e)
                  (.call s d (.funcModeSet .offline) r) l := h
              refine ⟨hboth.1, fun e he ha => hboth.2 e he ?_⟩
              show (restartsModem e || acceptsSend e) = true
              rw [ha, Bool.or_true]
          | normal => exact h
          | activateGnss => cases hremedy
      | sysReboot => exact h
      | _ => cases hremedy

/-- Whoever restarts the modem or reboots does so after a silence of the
limit since the last accepted report, or boot, and has seen an operation of
the network fail in it, or has begun no telemetry send in it. -/
theorem silence_has_cause {n fuel : Nat} {w : Tracker} (hw : Booted cfg w)
    {c : P Int × Tracker} (hr : Reach (device cfg) (main cfg n fuel) w c) :
    Always (fun e l => SilenceCaused e l ∧ SilenceLasted cfg e l)
      c.2.log := by
  have O : Outline cfg Free Grounded (looping Accounted Accounted) :=
    cause_outline
  have hcaused : Grounded c.2 := by
    refine O.reach (J := Grounded) ⟨?_, fun hb => ?_⟩ hr (always_free _)
    · rw [Grounded, hw.log]
      trivial
    · rw [hw.log] at hb
      cases hb
  have hpatient : AllPatient cfg c.2 := all_patient hw hr
  exact hcaused.and (hpatient.mono fun _ _ => Patient.lasted)

/-- A cloud out of reach: a restart, and a failed connect before it. -/
theorem silence_has_cause_unreachable :
    let c := playMain hasty (unreachable false) 2 0 650
    c.2.log.any (fun
      | .call _ _ o _ => remedies o
      | .env .. => false) = true ∧
    Always (fun e l => SilenceCaused e l ∧ SilenceLasted hasty e l)
      c.2.log :=
  ⟨by decide +kernel, silence_has_cause (start_booted hasty)
    (playMain_reach hasty (unreachable false) 2 0 650)⟩

/-- Everything works and no fix arrives: a restart in the second cycle and
a reboot in the third, over a network that never failed. -/
theorem reboot_without_cause :
    ∃ cfg w c, cfg.skipLte = false ∧ Booted cfg w ∧
      Reach (device cfg) (main cfg 3 0) w c ∧
      c.2.log.any (fun
        | .call _ _ .sysReboot _ => true
        | _ => false) = true ∧
      netFailed c.2.log = false ∧ ¬Always NetCaused c.2.log :=
  ⟨{ hasty with forcePublishWithoutFix := false, rebootMinutes := 15 },
    _, _, rfl, start_booted _, playMain_reach _ calm 3 0 700,
    by decide +kernel, by decide +kernel, by decide +kernel⟩

end GpsTracker
