/-
The breadcrumb names the operation in progress (watchdog.c, main.c).

`watchdog_phase` is called by hand before each operation. Three places
miss it: the assistance fetches after the first fix wait run under the
wait's phase, the pause after a failed `gnss_start` under that start's,
and a report reads its clock, supply and signal before it sets its own.
Everywhere else the phase is the one watchdog.h lists.

# The record

The log shows which operations are in progress, innermost first, and what
the cycle has come to. Both the promise and the condition read nothing
else, so at each point of main's text their agreement is a computation.
-/
import GpsTracker.Run.Script

namespace GpsTracker

open Proc

variable {cfg : Config}

-- =============================================================== the record

/-- The functions whose entry the breadcrumb is about, and
`battery_sleep`, which calls some of them. -/
def traced : Fn → Bool
  | .lteEnsureConnected | .cloudResume | .gnssStart | .agnssFetchAndInject
  | .gnssWaitFix | .reportFix _ | .gnssStop | .cloudPause
  | .statusLedSleep | .motionSetArmed _ | .wakeWait
  | .batterySleep _ => true
  | _ => false

/-- The calls in progress after `f` is entered on top of `fs`. -/
def push (f : Fn) (fs : List Fn) : List Fn :=
  if traced f then f :: fs else fs

/-- The traced calls in progress, innermost first. -/
def inside : Trace → List Fn
  | [] => []
  | .call _ _ (.enter f) _ :: l => push f (inside l)
  | .call _ _ (.leave f _) _ :: l =>
      if traced f then (inside l).tail else inside l
  | _ :: l => inside l

/-- What a cycle has come to: a fix wait was entered, `gnss_start` failed,
the frequent section was reached; and whether the report in progress, if
any, has read the signal. -/
structure Course where
  waited : Bool := false
  failed : Bool := false
  frequent : Bool := false
  read : Bool := false
deriving DecidableEq, Repr

/-- A function is entered. -/
def Course.enter (m : Course) : Fn → Course
  | .cycle _ => {}
  | .gnssWaitFix => { m with waited := true }
  | .powerVbusPresent .ifCond => { m with frequent := true }
  | .reportFix _ => { m with read := false }
  | _ => m

/-- A function returns. -/
def Course.leave (m : Course) : Fn → Int → Course
  | .gnssStart, r => { m with failed := r != 0 }
  | .reportFix _, _ => { m with read := false }
  | _, _ => m

def course : Trace → Course
  | [] => {}
  | .call _ _ (.enter f) _ :: l => (course l).enter f
  | .call _ _ (.leave f r) _ :: l => (course l).leave f r
  | .call _ _ .rsrpGet _ :: l => { course l with read := true }
  | _ :: l => course l

-- ========================================================== what is promised

/-- The phase watchdog.h lists for `f`, called from `callers`: a
`cloud_resume` counts where the cycle calls it, `motion_set_armed` where
`battery_sleep` does, and a fix wait before the frequent section. -/
def duePhase (frequent : Bool) (f : Fn) (callers : List Fn) :
    Option Phase :=
  match f, callers with
  | .lteEnsureConnected, _ => some .lte
  | .cloudResume, [] => some .cloudResume
  | .gnssStart, _ => some .gnssStart
  | .agnssFetchAndInject, _ => some .agnss
  | .gnssWaitFix, _ => if frequent then none else some .fix
  | .reportFix _, _ => some .report
  | .gnssStop, _ => some .gnssStop
  | .cloudPause, _ => some .cloudPause
  | .statusLedSleep, _ => some .ledSleep
  | .motionSetArmed _, .batterySleep _ :: _ => some .motionArm
  | .wakeWait, _ => some .sleep
  | _, _ => none

/-- `phase` is the one due for every operation in progress. -/
def names (frequent : Bool) (phase : Nat) : List Fn → Bool
  | [] => true
  | f :: fs =>
      (match duePhase frequent f fs with
        | some p => phase == p.code
        | none => true) && names frequent phase fs

/-- An assistance fetch in progress began before the cycle's first fix
wait, a pause in progress is not that of a failed `gnss_start`, and a
report in progress has read the signal. -/
def marked (m : Course) : List Fn → Bool
  | [] => true
  | f :: fs =>
      (match f with
        | .agnssFetchAndInject => !m.waited
        | .cloudPause => !m.failed
        | .reportFix _ => m.read
        | _ => true) && marked m fs

/-- `phase_current` names every operation in progress. -/
abbrev Names (e : Ev) (l : Trace) : Prop :=
  names (course l).frequent e.st.phaseCurrent (inside l)

/-- None of the three places is in progress. -/
abbrev Marked (_ : Ev) (l : Trace) : Prop := marked (course l) (inside l)

-- =============================================================== assertions

/-- The promise at every step: the two agree. -/
abbrev Named (w : Tracker) : Prop :=
  Always (fun e l => Names e l ↔ Marked e l) w.log

/-- The two agree at a point with `fs` in progress under `phase`. -/
abbrev Agree (fs : List Fn) (phase : Nat) (m : Course) : Prop :=
  names m.frequent phase fs = marked m fs

/-- With `fs` in progress and the phase at `p`. -/
structure Crumb (fs : List Fn) (p : Phase) (m : Course) (w : Tracker) :
    Prop where
  named : Named w
  inside : inside w.log = fs
  course : course w.log = m
  phase : w.st.phaseCurrent = p.code

/-- With `fs` in progress and the phase anywhere. -/
structure Roaming (fs : List Fn) (m : Course) (w : Tracker) : Prop where
  named : Named w
  inside : inside w.log = fs
  course : course w.log = m

/-- Between two cycles. -/
structure Homeward (w : Tracker) : Prop where
  named : Named w
  inside : inside w.log = []

/-- The calls the record takes notice of. -/
abbrev crumbGroups : List Group :=
  [.rsrp, .mark .lteEnsureConnected, .mark .cloudResume, .mark .gnssStart,
    .mark .agnssFetchAndInject, .mark .gnssWaitFix, .mark (.reportFix true),
    .mark (.reportFix false), .mark .gnssStop, .mark .cloudPause,
    .mark .statusLedSleep, .mark (.motionSetArmed true),
    .mark (.motionSetArmed false), .mark .wakeWait,
    .mark (.batterySleep .noNetwork), .mark (.batterySleep .gnssStart),
    .mark (.batterySleep .endOfCycle), .mark (.powerVbusPresent .ifCond),
    .mark (.cycle .boot), .mark (.cycle .timer), .mark (.cycle .vbus),
    .mark (.cycle .motion)]

/-- A function off the record. -/
private theorem off_record {f : Fn} (h : Group.mark f ∉ crumbGroups) :
    traced f = false ∧ (∀ m : Course, m.enter f = m)
      ∧ ∀ (m : Course) r, m.leave f r = m := by
  cases f with
  | cycle wr => cases wr <;> exact absurd h (by simp)
  | reportFix b => cases b <;> exact absurd h (by simp)
  | motionSetArmed b => cases b <;> exact absurd h (by simp)
  | batterySleep site => cases site <;> exact absurd h (by simp)
  | powerVbusPresent site =>
      cases site with
      | ifCond => exact absurd h (by simp)
      | _ => exact ⟨rfl, fun _ => rfl, fun _ _ => rfl⟩
  | lteEnsureConnected | cloudResume | gnssStart | agnssFetchAndInject
  | gnssWaitFix | gnssStop | cloudPause | statusLedSleep | wakeWait =>
      exact absurd h (by simp)
  | _ => exact ⟨rfl, fun _ => rfl, fun _ _ => rfl⟩

/-- So a call off the record changes neither what is in progress nor the
course. -/
private theorem record_call {o : Op} (h : Off crumbGroups o)
    (s : Statics) (d : Dev) (r : o.Ret) (l : Trace) :
    inside (.call s d o r :: l) = inside l
      ∧ course (.call s d o r :: l) = course l := by
  cases o with
  | enter f =>
      obtain ⟨ht, he, -⟩ := off_record h
      exact ⟨if_neg (by rw [ht]; decide), he _⟩
  | leave f code =>
      obtain ⟨ht, -, hl⟩ := off_record h
      exact ⟨if_neg (by rw [ht]; decide), hl _ _⟩
  | rsrpGet => exact absurd h (by simp [Off])
  | _ => exact ⟨rfl, rfl⟩

/-- One more event on a record that agrees. -/
private theorem named_cons {e : Ev} {l : Trace} {fs : List Fn} {m : Course}
    (hl : Always (fun e l => Names e l ↔ Marked e l) l)
    (hfs : inside l = fs) (hm : course l = m)
    (h : Agree fs e.st.phaseCurrent m) :
    Always (fun e l => Names e l ↔ Marked e l) (e :: l) := by
  refine ⟨?_, hl⟩
  show names _ _ _ = true ↔ marked _ _ = true
  rw [hfs, hm, h]

variable {fs : List Fn} {p : Phase} {m : Course}

/-- `Crumb` as an assertion the frame of a part keeps. -/
theorem crumb_frame (h : Agree fs p.code m) :
    Frame (device cfg) Free Named (Crumb fs p m) (Off crumbGroups)
      (Keep [.phase]) where
  stable := fun _ _ hc _ _ =>
    ⟨named_cons hc.named hc.inside hc.course (hc.phase ▸ h), hc.inside,
      hc.course, hc.phase⟩
  calls := by
    intro w o r ho hc _ _
    obtain ⟨hin, hco⟩ := record_call ho w.st w.dev r w.log
    exact ⟨named_cons hc.named hc.inside hc.course (hc.phase ▸ h),
      hin.trans hc.inside, hco.trans hc.course, hc.phase⟩
  writes := by
    intro w f hf hc
    have hsame : Var.Same w.st (f w.st) .phase := hf .phase (by simp)
    exact ⟨hc.named, hc.inside, hc.course, hsame.trans hc.phase⟩
  gives := fun _ hc => hc.named

/-- Without the phase, where the two agree under every phase. -/
theorem roaming_frame (h : ∀ phase, Agree fs phase m) :
    Frame (device cfg) Free Named (Roaming fs m) (Off crumbGroups)
      (Keep []) where
  stable := fun _ _ hc _ _ =>
    ⟨named_cons hc.named hc.inside hc.course (h _), hc.inside, hc.course⟩
  calls := by
    intro w o r ho hc _ _
    obtain ⟨hin, hco⟩ := record_call ho w.st w.dev r w.log
    exact ⟨named_cons hc.named hc.inside hc.course (h _),
      hin.trans hc.inside, hco.trans hc.course⟩
  writes := fun _ _ _ hc => ⟨hc.named, hc.inside, hc.course⟩
  gives := fun _ hc => hc.named

/-- With nothing in progress there is nothing to name. -/
theorem homeward_frame :
    Frame (device cfg) Free Named Homeward (Off crumbGroups) (Keep []) where
  stable := fun _ _ hc _ _ =>
    ⟨named_cons hc.named hc.inside rfl rfl, hc.inside⟩
  calls := by
    intro w o r ho hc _ _
    obtain ⟨hin, -⟩ := record_call ho w.st w.dev r w.log
    exact ⟨named_cons hc.named hc.inside rfl rfl, hin.trans hc.inside⟩
  writes := fun _ _ _ hc => ⟨hc.named, hc.inside⟩
  gives := fun _ hc => hc.named

/-- The phase may be forgotten. -/
theorem Crumb.roaming {w : Tracker} (h : Crumb fs p m w) :
    Roaming fs m w := ⟨h.named, h.inside, h.course⟩

-- ============================================================ one operation

/-- Setting the phase. -/
theorem watchdogPhase_crumb (p : Phase) :
    Triple (device cfg) Free Named (Roaming fs m) (watchdogPhase p)
      fun _ => Crumb fs p m :=
  Triple.modify fun _ h => ⟨h.named, h.named, h.inside, h.course, rfl⟩

/-- Entering a function puts it in progress under the phase as it stands, -/
theorem enter_crumb {f : Fn} (h : Agree fs p.code m) :
    Triple (device cfg) Free Named (Crumb fs p m) (call (.enter f))
      fun _ => Crumb (push f fs) p (m.enter f) := by
  refine Triple.op (crumb_frame h).stable fun w r hc _ _ => ?_
  have hnamed : Named (w.called (device cfg) (.enter f) r) :=
    named_cons hc.named hc.inside hc.course (hc.phase ▸ h)
  refine ⟨hnamed, hnamed, ?_, ?_, hc.phase⟩
  · exact congrArg (push f) hc.inside
  · exact congrArg (Course.enter · f) hc.course

/-- and leaving it takes it off again. -/
theorem leave_crumb {f : Fn} {r : Int} (h : Agree (push f fs) p.code m) :
    Triple (device cfg) Free Named (Crumb (push f fs) p m)
      (call (.leave f r)) fun _ => Crumb fs p (m.leave f r) := by
  refine Triple.op (crumb_frame h).stable fun w u hc _ _ => ?_
  have hnamed : Named (w.called (device cfg) (.leave f r) u) :=
    named_cons hc.named hc.inside hc.course (hc.phase ▸ h)
  have hpop : (if traced f then (push f fs).tail else push f fs) = fs := by
    unfold push
    cases traced f <;> rfl
  refine ⟨hnamed, hnamed, ?_, ?_, hc.phase⟩
  · show (if traced f then (inside w.log).tail else inside w.log) = fs
    rw [hc.inside, hpop]
  · exact congrArg (Course.leave · f r) hc.course

/-- A logged function under one phase. -/
theorem op_crumb {α : Type} [Code α] {f : Fn} {gs : List Group}
    {vs : List Var} {q : P α} (hq : Scoped f gs vs q)
    (hg : ∀ x ∈ gs, x ∉ crumbGroups) (hv : Var.phase ∉ vs)
    (hout : Agree fs p.code m)
    (hin : Agree (push f fs) p.code (m.enter f)) :
    Triple (device cfg) Free Named (Crumb fs p m) q
      fun r => Crumb fs p ((m.enter f).leave f (Code.code r)) :=
  triple_scoped hq (crumb_frame hin) hg (by simpa using hv)
    (enter_crumb hout) fun _ => leave_crumb hin

-- ============================================================ the network

/-- Bringing up the network names the registration that it asks for. -/
theorem bringUpNetwork_crumb :
    Triple (device cfg) Free Named (Roaming [] {}) (bringUpNetwork cfg)
      fun _ => Roaming [] {} := by
  have F : Frame (device cfg) Free Named (Roaming [] {}) (Off crumbGroups)
    (Keep []) := roaming_frame fun _ => rfl
  refine Triple.ite (fun _ => Triple.ret fun w h => h) fun _ => ?_
  refine (part F (recoverIfSilent_foot cfg) (by simp) (by simp)).bind
    fun _ => (watchdogPhase_crumb .lte).bind fun _ =>
    (op_crumb (lteEnsureConnected_scoped cfg) (by simp) (by simp) rfl
      rfl).bind fun r => Triple.ret fun w h => h.roaming

-- =============================================================== the ladder

/-- The course of a cycle from its first fix wait on. -/
abbrev Course.ladder : Course := { waited := true }

/-- And from its frequent section on. -/
abbrev Course.looping : Course := { waited := true, frequent := true }

/-- At the first of its three places the fetch is named. -/
theorem assistFirst_crumb :
    Triple (device cfg) Free Named (Crumb [] .gnssStart {})
      (assistIfAsked cfg (watchdogPhase .agnss))
      fun _ => Roaming [] {} := by
  have F : Frame (device cfg) Free Named (Crumb [] .gnssStart {})
    (Off crumbGroups) (Keep [.phase]) := crumb_frame rfl
  refine (part F (agnssWanted_foot cfg) (by simp) (by simp)).bind fun b =>
    Triple.ite (fun _ => Triple.ret fun w h => h.roaming) fun _ => ?_
  refine (part F (gnssAgnssRequestWait_foot _) (by simp) (by simp)).bind
    fun r => Triple.ite (fun _ => Triple.ret fun w h => h.roaming)
    fun _ => ?_
  refine ((watchdogPhase_crumb .agnss).pre fun w h => h.roaming).bind
    fun _ => ?_
  exact (op_crumb (agnssFetchAndInject_scoped cfg) (by simp) (by simp) rfl
    rfl).bind fun r => Triple.ret fun w h => h.roaming

/-- On the ladder, under the fix wait's phase. -/
abbrev Climbing (w : Tracker) : Prop := Crumb [] .fix Course.ladder w

/-- A fix wait is named by its phase, the first one as well as those further
up the ladder. -/
theorem gnssWaitFix_crumb {m : Course} (hm : m = {} ∨ m = Course.ladder)
    (timeoutS : Nat) :
    Triple (device cfg) Free Named (Crumb [] .fix m)
      (gnssWaitFix cfg timeoutS) fun _ => Climbing := by
  rcases hm with rfl | rfl
  all_goals
    exact op_crumb (gnssWaitFix_scoped cfg timeoutS) (by simp) (by simp) rfl
      rfl

/-- At the other two it runs under the wait's phase. -/
theorem fetch_climbing :
    Triple (device cfg) Free Named Climbing (agnssFetchAndInject cfg)
      fun _ => Climbing :=
  op_crumb (agnssFetchAndInject_scoped cfg) (by simp) (by simp) rfl rfl

/-- On the second receiver the fetch and the wait both stay under the phase of
the fix wait, -/
theorem acquireFallback_climbing (assisted : Bool) :
    Triple (device cfg) Free Named Climbing (acquireFallback cfg assisted)
      fun _ => Climbing := by
  have F : Frame (device cfg) Free Named Climbing (Off crumbGroups)
    (Keep [.phase]) := crumb_frame rfl
  have hassist : Triple (device cfg) Free Named Climbing
      (assistIfAsked cfg (pure ())) fun _ => Climbing := by
    refine (part F (agnssWanted_foot cfg) (by simp) (by simp)).bind
      fun b => Triple.ite (fun _ => Triple.ret fun w h => h) fun _ => ?_
    refine (part F (gnssAgnssRequestWait_foot _) (by simp) (by simp)).bind
      fun r => Triple.ite (fun _ => Triple.ret fun w h => h) fun _ => ?_
    exact fetch_climbing.bind fun r => Triple.ret fun w h => h
  refine (part F (gnssFallback_foot cfg) (by simp) (by simp)).bind
    fun r => Triple.ite (fun _ => Triple.ret fun w h => h) fun _ => ?_
  refine hassist.bind fun asked => ?_
  refine (part F (g := []) (v := []) (by simp [gnssFixTimeoutSeconds])
    (by simp) (by simp)).bind fun t => ?_
  exact (gnssWaitFix_crumb (.inr rfl) t).bind
    fun fix => Triple.ret fun w h => h

/-- and so do those of the last resort. -/
theorem acquireAssisted_climbing :
    Triple (device cfg) Free Named Climbing (acquireAssisted cfg)
      fun _ => Climbing :=
  fetch_climbing.bind fun _ => Triple.ite
    (fun _ => Triple.ret fun _ h => h) fun _ =>
    (gnssWaitFix_crumb (.inr rfl) _).bind fun _ => Triple.ret fun _ h => h

/-- The whole ladder ends under the phase of the fix wait, with a fix or
without. -/
theorem acquire_climbing :
    Triple (device cfg) Free Named (Crumb [] .gnssStart {}) (acquire cfg)
      fun _ => Climbing := by
  have F : Frame (device cfg) Free Named Climbing (Off crumbGroups)
    (Keep [.phase]) := crumb_frame rfl
  have S : Frame (device cfg) Free Named (Crumb [] .fix {})
    (Off crumbGroups) (Keep [.phase]) := crumb_frame rfl
  refine acquire_ladder (fun _ => Climbing) (fun _ => Climbing)
    assistFirst_crumb (watchdogPhase_crumb .fix) ?_
    (gnssWaitFix_crumb (.inl rfl)) ?_ acquireFallback_climbing
    (fun _ _ h => h) ?_ fun _ _ h => h
  · exact part S (g := []) (v := []) (by simp [gnssFixTimeoutSeconds])
      (by simp) (by simp)
  · exact part F (g := []) (v := []) (by simp [gnssFallbackAvailable])
      (by simp) (by simp)
  · exact (part F (agnssWanted_foot cfg) (by simp) (by simp)).bind fun b =>
      Triple.ite (fun _ => acquireAssisted_climbing)
        fun _ => Triple.ret fun w h => h

-- ============================================================== the report

/-- Where `report_fix` is called from: after the ladder, and in the
frequent loop. -/
def ReportsFrom (p : Phase) (m : Course) : Prop :=
  (p = .fix ∧ m = Course.ladder) ∨ (p = .frequent ∧ m = Course.looping)

section report

variable {b : Bool}

/-- In a report, before and after it has read the signal. -/
abbrev Reading (b : Bool) (p : Phase) (m : Course) (w : Tracker) : Prop :=
  Crumb [.reportFix b] p m w

abbrev Telling (b : Bool) (m : Course) (w : Tracker) : Prop :=
  Crumb [.reportFix b] .report { m with read := true } w

/-- Once the signal is read the report is named. -/
theorem telling_frame :
    Frame (device cfg) Free Named (Telling b m) (Off crumbGroups)
      (Keep [.phase]) := crumb_frame rfl

/-- Sending, and bringing the link up again in between. -/
theorem deliver_telling (fix : Option TrackerFix) (payload : Text) :
    Triple (device cfg) Free Named (Telling b m)
      (deliver cfg fix payload) fun _ => Telling b m := by
  have F : Frame (device cfg) Free Named (Telling b m) (Off crumbGroups)
    (Keep [.phase]) := telling_frame
  have hresume : Triple (device cfg) Free Named (Telling b m)
      (cloudResume cfg) fun _ => Telling b m :=
    op_crumb (cloudResume_scoped cfg) (by simp) (by simp) rfl rfl
  have hsend : Triple (device cfg) Free Named (Telling b m)
      (sendReport cfg payload) fun _ => Telling b m := by
    refine sendReport_keeps F (by simp) (by simp) ?_ hresume
    rintro f (rfl | rfl) <;> simp
  exact deliver_keeps F (by simp) (by simp) hsend fun fix =>
    part F (cloudSendLocation_foot cfg fix) (by simp) (by simp)

end report

/-- `report_fix`: unnamed up to its own phase, named from there on. -/
theorem reportFix_crumb (h : ReportsFrom p m) (fix : Option TrackerFix)
    (wakeUptimeMs : Nat) (wr : WakeReason) :
    Triple (device cfg) Free Named (Crumb [] p m)
      (reportFix cfg fix wakeUptimeMs wr) fun _ => Crumb [] .report m := by
  generalize hb : fix.isSome = b
  have hagree : Agree [.reportFix b] p.code m := by
    rcases h with ⟨rfl, rfl⟩ | ⟨rfl, rfl⟩ <;> rfl
  have hread : m.enter (.reportFix b) = m := by
    rcases h with ⟨rfl, rfl⟩ | ⟨rfl, rfl⟩ <;> rfl
  have F : Frame (device cfg) Free Named (Reading b p m)
    (Off crumbGroups) (Keep [.phase]) := crumb_frame hagree
  refine triple_scope (Y := Reading b p m) (R := fun _ => Telling b m)
    ?_ ?_ fun r => ?_
  · rw [hb]
    refine (enter_crumb rfl).post fun _ w hw => ?_
    rwa [hread] at hw
  · refine (plain_keeps F (by rfl) (by simp)).bind fun now =>
      (part F powerRead_foot (by simp) (by simp)).bind fun power => ?_
    -- the report is marked from the reading of the signal on, and named from
    -- the next line on
    have hrsrp : Triple (device cfg) Free Named (Reading b p m)
        (call .rsrpGet)
        fun _ => Roaming [.reportFix b] { m with read := true } := by
      refine Triple.op F.stable fun w r hw _ _ => ?_
      have hnamed : Named (w.called (device cfg) .rsrpGet r) :=
        named_cons hw.named hw.inside hw.course (hw.phase ▸ hagree)
      refine ⟨hnamed, hnamed, hw.inside, ?_⟩
      exact congrArg (fun m : Course => { m with read := true }) hw.course
    refine hrsrp.bind fun rsrp => (watchdogPhase_crumb .report).bind
      fun _ => Triple.get fun s => Triple.pre (P := Telling b m) ?_
        fun w hw => hw.1
    generalize telemetryBuildJson _ _ _ _ = built
    cases built with
    | error err => exact Triple.ret fun w hw => hw
    | ok payload => exact deliver_telling fix payload
  · rw [hb]
    have hleave : Triple (device cfg) Free Named (Telling b m)
        (call (.leave (.reportFix b) (Code.code r)))
        fun _ => Crumb [] .report (({ m with read := true } : Course).leave
          (.reportFix b) (Code.code r)) := by
      show Triple _ _ _ (Crumb (push (.reportFix b) []) _ _) _ _
      exact leave_crumb rfl
    refine hleave.post fun _ w hw => ?_
    have hback : ({ m with read := true } : Course).leave (.reportFix b)
        (Code.code r) = m := by
      rcases h with ⟨rfl, rfl⟩ | ⟨rfl, rfl⟩ <;> rfl
    rwa [hback] at hw

/-- A report made or left out comes back on the course it was called on; what
is no longer known is the phase. -/
theorem reportOrSkip_crumb (h : ReportsFrom p m) (fix : Option TrackerFix)
    (wakeUptimeMs : Nat) (wr : WakeReason) :
    Triple (device cfg) Free Named (Crumb [] p m)
      (reportOrSkip cfg fix wakeUptimeMs wr) fun _ => Roaming [] m := by
  have hled : ∀ p b, Triple (device cfg) Free Named (Crumb [] p m)
      (statusLedReport cfg b) fun _ => Roaming [] m := fun p b =>
    (part (crumb_frame rfl) (statusLedReport_foot cfg b) (by simp)
      (by simp)).post fun _ w hw => hw.roaming
  cases fix with
  | some fix =>
      exact (reportFix_crumb h (some fix) wakeUptimeMs wr).bind
        fun _ => hled .report true
  | none =>
      refine Triple.ite (fun _ => ?_) fun _ => hled p false
      exact (reportFix_crumb h none wakeUptimeMs wr).bind
        fun _ => hled .report false

/-- The report at the end of the ladder. -/
theorem firstReport_crumb (fix : Option TrackerFix) (wakeUptimeMs : Nat)
    (wr : WakeReason) :
    Triple (device cfg) Free Named Climbing
      (firstReport cfg fix wakeUptimeMs wr)
      fun _ => Roaming [] Course.ladder := by
  have F : Frame (device cfg) Free Named Climbing (Off crumbGroups)
    (Keep [.phase]) := crumb_frame rfl
  have hrest : ∀ fix, Triple (device cfg) Free Named Climbing (do
      reportOrSkip cfg fix wakeUptimeMs wr
      watchdogFeed) fun _ => Roaming [] Course.ladder := fun fix =>
    (reportOrSkip_crumb (.inl ⟨rfl, rfl⟩) fix wakeUptimeMs wr).bind
      fun _ => part (roaming_frame fun _ => rfl) watchdogFeed_foot (by simp)
        (by simp)
  refine (part F watchdogFeed_foot (by simp) (by simp)).bind fun _ => ?_
  cases fix with
  | none => exact hrest none
  | some fix =>
      have hsettle : Triple (device cfg) Free Named Climbing
          (settleFix cfg fix) fun _ => Climbing := by
        refine Triple.ite (fun _ => ?_) fun _ => Triple.ret fun w h => h
        exact (plain_keeps F (by rfl) (by simp)).bind fun _ =>
          (gnssWaitFix_crumb (.inr rfl) 5).bind
          fun better => Triple.ret fun w h => h
      exact hsettle.bind fun fix' => hrest (some fix')

-- ======================================================== the frequent loop

/-- A pass: the jolt watch is switched off and fixes are awaited under
the loop's own phase. -/
theorem frequentPass_crumb (wakeUptimeMs : Nat) (wr : WakeReason) :
    Triple (device cfg) Free Named (Roaming [] Course.looping)
      (frequentPass cfg wakeUptimeMs wr)
      fun _ => Roaming [] Course.looping := by
  have F : Frame (device cfg) Free Named (Crumb [] .frequent Course.looping)
    (Off crumbGroups) (Keep [.phase]) := crumb_frame rfl
  have hhold : Triple (device cfg) Free Named
      (Crumb [] .frequent Course.looping) (holdOffMotion cfg)
      fun _ => Crumb [] .frequent Course.looping := by
    refine (part F (powerVbusPresent_foot .body) (by simp) (by simp)).bind
      fun b => Triple.ite (fun _ => ?_) fun _ => Triple.ret fun w h => h
    refine (op_crumb (motionSetArmed_scoped cfg false) (by simp) (by simp)
      rfl rfl).bind fun _ => ?_
    exact part F (g := []) (v := [.batterySleeps]) (by simp [Var.forall])
      (by simp) (by simp)
  refine (watchdogPhase_crumb .frequent).bind fun _ => hhold.bind fun _ =>
    (plain_keeps F (by rfl) (by simp)).bind fun _ =>
    (part F watchdogFeed_foot (by simp) (by simp)).bind fun _ => ?_
  refine Triple.bind (R := fun _ => Crumb [] .frequent Course.looping)
    (op_crumb (gnssWaitFix_scoped cfg 10) (by simp) (by simp) rfl rfl)
    fun fix => ?_
  exact reportOrSkip_crumb (.inr ⟨rfl, rfl⟩) _ wakeUptimeMs wr

/-- The loop, by induction on the passes left. -/
theorem frequentLoop_crumb (wakeUptimeMs : Nat) (wr : WakeReason)
    (mc : Bool) :
    ∀ fuel, Triple (device cfg) Free Named (Roaming [] Course.looping)
      (frequentLoop cfg wakeUptimeMs wr mc fuel)
      fun _ => Roaming [] Course.looping := by
  have F : Frame (device cfg) Free Named (Roaming [] Course.looping)
    (Off crumbGroups) (Keep []) := roaming_frame fun _ => rfl
  intro fuel
  induction fuel with
  | zero => exact Triple.halt
  | succ fuel ih =>
      refine (part F (keepReporting_foot cfg .whileCond mc) ?_
        (by simp)).bind fun b => Triple.ite (fun _ => ?_)
        fun _ => Triple.ret fun w h => h
      · simp
      · exact (frequentPass_crumb wakeUptimeMs wr).bind fun _ => ih

/-- The check at the head of the section puts it on record. -/
theorem frequentReports_crumb (fuel wakeUptimeMs : Nat) (wr : WakeReason)
    (mc : Bool) :
    Triple (device cfg) Free Named (Roaming [] Course.ladder)
      (frequentReports cfg fuel wakeUptimeMs wr mc)
      fun _ => Roaming [] Course.looping := by
  have F : Frame (device cfg) Free Named (Roaming [] Course.looping)
    (Off crumbGroups) (Keep []) := roaming_frame fun _ => rfl
  -- the entry of the check is what opens the section
  have hif : Triple (device cfg) Free Named (Roaming [] Course.ladder)
      (powerVbusPresent .ifCond) fun _ => Roaming [] Course.looping := by
    refine triple_scoped (powerVbusPresent_scoped .ifCond) F (by simp)
      (by simp) ?_ fun r => ?_
    · refine Triple.op (roaming_frame fun _ => rfl).stable
        fun w u h _ _ => ?_
      have hnamed : Named (w.called (device cfg)
          (.enter (.powerVbusPresent .ifCond)) u) :=
        named_cons h.named h.inside h.course rfl
      exact ⟨hnamed, hnamed, h.inside,
        congrArg (Course.enter · (.powerVbusPresent .ifCond)) h.course⟩
    · refine Triple.op F.stable fun w u h _ _ => ?_
      have hnamed : Named (w.called (device cfg)
          (.leave (.powerVbusPresent .ifCond) (Code.code r)) u) :=
        named_cons h.named h.inside h.course rfl
      exact ⟨hnamed, hnamed, h.inside, h.course⟩
  have hkeep : Triple (device cfg) Free Named (Roaming [] Course.ladder)
      (keepReporting cfg .ifCond mc)
      fun _ => Roaming [] Course.looping := by
    refine hif.bind fun b => Triple.ite (fun _ => Triple.ret fun w h => h)
      fun _ => part F (surgeActive_foot cfg mc) (by simp) (by simp)
  refine hkeep.bind fun b => Triple.ite (fun _ => ?_)
    fun _ => Triple.ret fun w h => h
  exact (part F (powerVbusPresent_foot .logLine) (by simp) (by simp)).bind
    fun _ => frequentLoop_crumb wakeUptimeMs wr mc fuel

-- ================================================================ the sleep

/-- `battery_sleep`, with a phase before each of its three operations. -/
theorem batterySleep_crumb (site : SleepSite) :
    Triple (device cfg) Free Named (Roaming [] m) (batterySleep cfg site)
      fun _ => Homeward := by
  have F : Frame (device cfg) Free Named (Roaming [.batterySleep site] m)
    (Off crumbGroups) (Keep []) := roaming_frame fun _ => rfl
  -- the sleep itself is named by no phase of its own
  have henter : Triple (device cfg) Free Named (Roaming [] m)
      (call (.enter (.batterySleep site)))
      fun _ => Roaming [.batterySleep site] m := by
    refine Triple.op (roaming_frame fun _ => rfl).stable fun w u h _ _ => ?_
    have hnamed : Named
        (w.called (device cfg) (.enter (.batterySleep site)) u) :=
      named_cons h.named h.inside h.course rfl
    exact ⟨hnamed, hnamed,
      congrArg (push (.batterySleep site)) h.inside, h.course⟩
  have hwait : Triple (device cfg) Free Named
      (Roaming [.batterySleep site] m) (do
        watchdogPhase .sleep
        wakeWait cfg.sleepSeconds)
      fun _ => Roaming [.batterySleep site] m := by
    refine (watchdogPhase_crumb .sleep).bind fun _ => ?_
    exact (op_crumb (wakeWait_scoped _) (by simp) (by simp) rfl rfl).post
      fun _ w h => h.roaming
  refine triple_scope henter (R := fun _ => Roaming [.batterySleep site] m)
    (Triple.get fun s => ?_) fun r => ?_
  · refine Triple.pre (P := Roaming [.batterySleep site] m) ?_
      fun w h => h.1
    generalize decide (cfg.motionSettleCycles ≤ s.batterySleeps) = arm
    refine (watchdogPhase_crumb .ledSleep).bind fun _ =>
      (op_crumb (statusLedSleep_scoped cfg) (by simp) (by simp) rfl
        rfl).bind fun _ => ?_
    refine ((watchdogPhase_crumb .motionArm).pre
      fun w h => h.roaming).bind fun _ => ?_
    refine Triple.bind (R := fun _ => Roaming [.batterySleep site] m)
      ((op_crumb (motionSetArmed_scoped cfg arm) (by simp) (by simp) rfl
        rfl).post fun _ w h => h.roaming) fun _ => ?_
    refine Triple.ite (fun _ => ?_) fun _ => hwait
    exact (part F (g := []) (v := [.batterySleeps]) (by simp [Var.forall])
      (by simp) (by simp)).bind fun _ => hwait
  · refine Triple.op F.stable fun w u h _ _ => ?_
    have hnamed : Named (w.called (device cfg)
        (.leave (.batterySleep site) (Code.code r)) u) :=
      named_cons h.named h.inside h.course rfl
    refine ⟨hnamed, hnamed, ?_⟩
    show (inside w.log).tail = []
    rw [h.inside]
    rfl

-- ================================================================ the cycle

/-- The end of a cycle, up to its sleep, -/
theorem endOfCycle_crumb :
    Triple (device cfg) Free Named (Roaming [] Course.looping)
      (endOfCycle cfg) fun _ => Homeward := by
  refine (watchdogPhase_crumb .gnssStop).bind fun _ =>
    (op_crumb (gnssStop_scoped cfg) (by simp) (by simp) rfl rfl).bind
    fun _ => ?_
  refine ((watchdogPhase_crumb .cloudPause).pre
    fun w h => h.roaming).bind fun _ => ?_
  refine (op_crumb (cloudPause_scoped cfg) (by simp) (by simp) rfl
    rfl).bind fun _ => ?_
  exact (batterySleep_crumb .endOfCycle).pre fun w h => h.roaming

/-- a cycle with the network up, -/
theorem onlineCycle_crumb (fuel wakeUptimeMs : Nat) (wr : WakeReason) :
    Triple (device cfg) Free Named (Roaming [] {})
      (onlineCycle cfg fuel wakeUptimeMs wr) fun _ => Homeward := by
  have R : Frame (device cfg) Free Named (Crumb [] .cloudResume {})
    (Off crumbGroups) (Keep [.phase]) := crumb_frame rfl
  refine (watchdogPhase_crumb .cloudResume).bind fun _ =>
    (part R (watchdogGuardStart_foot _) (by simp) (by simp)).bind fun _ =>
    (op_crumb (cloudResume_scoped cfg) (by simp) (by simp) rfl rfl).bind
    fun _ => ?_
  refine (part R watchdogGuardStop_foot (by simp) (by simp)).bind fun _ =>
    (part R (statusLedReport_foot cfg false) (by simp) (by simp)).bind
    fun _ => ((watchdogPhase_crumb .gnssStart).pre
      fun w h => h.roaming).bind fun _ => ?_
  refine (op_crumb (gnssStart_scoped cfg) (by simp) (by simp) rfl
    rfl).bind fun r => Triple.ite (fun hr => ?_) fun hr => ?_
  · -- no receiver: the pause runs under the start's phase
    have hfailed : ((({} : Course).enter .gnssStart).leave .gnssStart
        (Code.code r)) = { failed := true } := by
      show ({ failed := r != 0 } : Course) = _
      rw [bne_iff_ne.mpr hr]
    rw [hfailed]
    refine (op_crumb (cloudPause_scoped cfg) (by simp) (by simp) rfl
      rfl).bind fun _ => ?_
    exact (batterySleep_crumb .gnssStart).pre fun w h => h.roaming
  -- the receiver runs: the ladder, the report and the frequent section
  · have hstarted : ((({} : Course).enter .gnssStart).leave .gnssStart
        (Code.code r)) = {} := by
      rw [Decidable.not_not.mp hr]
      rfl
    rw [hstarted]
    exact acquire_climbing.bind fun fix =>
      (firstReport_crumb fix wakeUptimeMs wr).bind fun _ =>
      (frequentReports_crumb fuel wakeUptimeMs wr _).bind
      fun _ => endOfCycle_crumb

/-- A cycle's course starts over. -/
theorem topOfCycle_crumb (wr : WakeReason) :
    Triple (device cfg) Free Named Homeward (topOfCycle wr)
      fun _ => Roaming [] {} := by
  have F : Frame (device cfg) Free Named (Roaming [] {}) (Off crumbGroups)
    (Keep []) := roaming_frame fun _ => rfl
  have hrest : ∀ now : Int, Foot [.plain] [.phase, .batterySleeps] (do
      if wr = .vbus then
        Prog.modify fun s => { s with batterySleeps := 0 }
      watchdogPhase .wake
      watchdogFeed
      pure (u32 now)) := fun now => by
    simp [watchdogPhase, watchdogFeed, Var.forall]
  refine Triple.bind (R := fun _ => Roaming [] {})
    (Triple.op homeward_frame.stable fun w u h _ _ => ?_) fun _ => ?_
  · have hnamed : Named (w.called (device cfg) (.enter (.cycle wr)) u) :=
      named_cons h.named h.inside rfl rfl
    exact ⟨hnamed, hnamed, h.inside, rfl⟩
  · exact (plain_keeps F (by rfl) (by simp)).bind fun now =>
      part F (hrest now) (by simp) (by simp)

/-- and any cycle: it ends as it began, with nothing in progress. -/
theorem cycle_crumb (fuel : Nat) (wr : WakeReason) :
    Triple (device cfg) Free Named Homeward (cycle cfg fuel wr)
      fun _ => Homeward := by
  refine (topOfCycle_crumb wr).bind fun wakeUptimeMs =>
    bringUpNetwork_crumb.bind fun b => Triple.ite
    (fun _ => onlineCycle_crumb fuel wakeUptimeMs wr) fun _ => ?_
  exact (part (roaming_frame fun _ => rfl) (statusLedSet_foot cfg .noLte)
    (by simp) (by simp)).bind fun _ => batterySleep_crumb .noNetwork

/-- `while (1)`, by induction on the cycles left. -/
theorem mainLoop_crumb (fuel : Nat) :
    ∀ n wr, Triple (device cfg) Free Named Homeward
      (mainLoop cfg fuel n wr) fun _ _ => True := by
  intro n
  induction n with
  | zero => exact fun wr => Triple.halt
  | succ n ih =>
      intro wr
      exact (cycle_crumb fuel wr).bind fun wr' => ih wr'

-- ================================================================= the law

/-- At every point of every run, `phase_current` names every operation in
progress if and only if none of them is an assistance fetch begun after
the cycle's first fix wait, the pause of a failed `gnss_start`, or a
report that has not read the signal yet. -/
theorem breadcrumb_iff {n fuel : Nat} {w : Tracker} (hw : Booted cfg w)
    {c : P Int × Tracker}
    (hr : Reach (device cfg) (main cfg n fuel) w c) :
    Always (fun e l => Names e l ↔ Marked e l) c.2.log := by
  have hk : Homeward w := by
    constructor
    · rw [Named, hw.log]
      trivial
    · rw [hw.log]
      rfl
  have hmain : Triple (device cfg) Free Named Homeward (main cfg n fuel)
      fun _ _ => True := by
    refine (part homeward_frame setUp_foot (by simp) (by simp)).bind
      fun err => Triple.ite (fun _ => Triple.ret fun _ _ => trivial)
      fun _ => mainLoop_crumb fuel n .boot
  exact hmain.reach hk hk.named hr (always_free _)

/-- A calm cycle, up to the sends of its report. -/
theorem breadcrumb_iff_calm :
    let c := playMain fixless calm 1 0 155
    inside c.2.log = [.reportFix false] ∧
    c.2.st.phaseCurrent = Phase.report.code ∧
    Always (fun e l => Names e l ↔ Marked e l) c.2.log :=
  ⟨by decide +kernel, by decide +kernel, breadcrumb_iff (start_booted fixless)
    (playMain_reach fixless calm 1 0 155)⟩

/-- No fix arrives, and the last resort fetches assistance: the fetch is
in progress while the phase says that a fix is awaited. -/
theorem fetch_named_fix :
    ∃ cfg w c, Booted cfg w ∧ Reach (device cfg) (main cfg 1 0) w c ∧
      inside c.2.log = [.agnssFetchAndInject] ∧
      c.2.st.phaseCurrent = Phase.fix.code ∧ ¬Always Names c.2.log :=
  ⟨{ fixless with agnss := true }, _, _, start_booted _,
    playMain_reach _ calm 1 0 160, by decide +kernel, by decide +kernel,
    by decide +kernel⟩

end GpsTracker
