/-
`link_state` is the session the library's answers leave (cloud_nrf.c).

The transport keeps one word about its CoAP session and never asks the
library for it. The session as the library's answers tell it is the last
word of the log: a connect or a resume leaves it connected or gone, a
pause that succeeds leaves it paused, a disconnect gone. `link_state`
follows every answer before the next call, so whatever sequence of
resumes, pauses, sends and reports is made, the two agree at every call.

# The invariant

Between the transport's functions `link_state` is the session, no failed
connect waits for its disconnect, and without credentials there is no
session. Inside `cloud_resume` and `cloud_pause` an answer is `Owed` to
`link_state` until the write that follows it.
-/
import GpsTracker.Run.Script

namespace GpsTracker

open Proc

variable {cfg : Config}

/-- What an answer of the library says of the session. -/
def sessionAnswer : Ev → Option LinkState
  | .call _ _ .coapConnect r =>
      some (if r = (0 : Int) then .connected else .disconnected)
  | .call _ _ .coapResume r =>
      some (if r = (0 : Int) then .connected else .disconnected)
  | .call _ _ .coapPause r => if r = (0 : Int) then some .paused else none
  | .call _ _ .coapDisconnect _ => some .disconnected
  | _ => none

/-- The session, from the library's answers alone. -/
def session (l : Trace) : LinkState := latest sessionAnswer .disconnected l

/-- What an answer says of a failed connect: it waits for its disconnect,
or no longer. -/
def halfOpenWord : Ev → Option Bool
  | .call _ _ .coapConnect r => some (r != (0 : Int))
  | .call _ _ .coapDisconnect _ => some false
  | _ => none

/-- A connect failed and no disconnect was made since. -/
def halfOpen (l : Trace) : Bool := latest halfOpenWord false l

/-- The library is called in turn: paused when connected, resumed when
paused, connected when disconnected, with credentials, and after the last
failed connect was closed; and `cloud_resume` answers zero exactly where
it leaves a session connected. -/
def inTurn : Ev → Trace → Bool
  | .call _ _ .coapPause _, l => session l == .connected
  | .call _ _ .coapResume _, l => session l == .paused
  | .call s _ .coapConnect _, l =>
      session l == .disconnected && s.credsOk && !halfOpen l
  | .call _ _ (.leave .cloudResume r) _, l =>
      (r == 0) == (session l == .connected)
  | _, _ => true

/-- At an event `link_state` is the session, and the event is in turn. -/
def tracksSession (e : Ev) (l : Trace) : Bool :=
  e.st.linkState == session l && inTurn e l

abbrev TracksSession (e : Ev) (l : Trace) : Prop := tracksSession e l

-- ============================================================ the sequences

/-- One use of the transport. -/
inductive Use
  | resume
  | pause
  | send (innerJson : Text)
  | report (fix : Option TrackerFix) (wakeUptimeMs : Nat)
      (wakeReason : WakeReason)

/-- What a use runs. -/
def Use.run (cfg : Config) : Use → P Unit
  | .resume => do let _ ← cloudResume cfg
  | .pause => cloudPause cfg
  | .send innerJson => do let _ ← cloudSendTelemetry cfg innerJson
  | .report fix wakeUptimeMs wakeReason => do
      let _ ← reportFix cfg fix wakeUptimeMs wakeReason

/-- Uses one after the other. -/
def useAll (cfg : Config) : List Use → P Unit
  | [] => pure ()
  | u :: us => do
      u.run cfg
      useAll cfg us

-- =============================================================== assertions

/-- The promise at every step. -/
abbrev Tracking (w : Tracker) : Prop := Always TracksSession w.log

/-- Between the transport's functions. -/
structure InStep (w : Tracker) : Prop where
  kept : Tracking w
  link : w.st.linkState = session w.log
  closed : halfOpen w.log = false
  creds : w.st.credsOk = false → w.st.linkState = .disconnected

/-- The session is `l`, and `link_state` is still to be written. -/
structure Owed (l : LinkState) (w : Tracker) : Prop where
  kept : Tracking w
  session : session w.log = l
  closed : halfOpen w.log = false
  creds : w.st.credsOk = false → l = .disconnected

/-- The groups the record reads. -/
abbrev sessionGroups : List Group := [.session, .mark .cloudResume]

/-- A call outside the session groups leaves the ghost session alone, -/
private theorem session_call {o : Op} (h : Off sessionGroups o)
    (s : Statics) (d : Dev) (r : o.Ret) (l : Trace) :
    session (.call s d o r :: l) = session l
      ∧ halfOpen (.call s d o r :: l) = halfOpen l := by
  have hsession : group o ≠ .session := h.ne (by simp)
  cases o <;> first
    | exact ⟨latest_none rfl, latest_none rfl⟩
    | exact absurd rfl hsession

/-- and is in turn whatever the session. -/
private theorem inTurn_call {o : Op} (h : Off sessionGroups o)
    (s : Statics) (d : Dev) (r : o.Ret) (l : Trace) :
    inTurn (.call s d o r) l = true := by
  have hsession : group o ≠ .session := h.ne (by simp)
  have hmark : group o ≠ .mark .cloudResume := h.ne (by simp)
  cases o with
  | leave f r => cases f <;> first | rfl | exact absurd rfl hmark
  | coapConnect | coapPause | coapResume => exact absurd rfl hsession
  | _ => rfl

/-- An event in turn, where `link_state` is the session. -/
private theorem tracks {e : Ev} {l : Trace} (hl : e.st.linkState = session l)
    (ht : inTurn e l = true) : TracksSession e l := by
  simp [TracksSession, tracksSession, hl, ht]

/-- So link state and session stay in step over all of them. -/
theorem inStep_frame :
    Frame (device cfg) Free Tracking InStep (Off sessionGroups)
      (Keep [.linkState, .credsOk]) where
  stable := by
    intro w a h _ _
    exact ⟨⟨tracks h.link rfl, h.kept⟩, h.link, h.closed, h.creds⟩
  calls := by
    intro w o r ho h _ _
    obtain ⟨hs, hc⟩ := session_call ho w.st w.dev r w.log
    have ht : TracksSession (.call w.st w.dev o r) w.log :=
      tracks h.link (inTurn_call ho ..)
    exact ⟨⟨ht, h.kept⟩, h.link.trans hs.symm, hc.trans h.closed, h.creds⟩
  writes := by
    intro w f hf h
    have hl : (f w.st).linkState = w.st.linkState :=
      hf .linkState (by simp)
    have hc : (f w.st).credsOk = w.st.credsOk := hf .credsOk (by simp)
    exact ⟨h.kept, hl.trans h.link, h.closed, fun hn =>
      hl.trans (h.creds (hc.symm.trans hn))⟩
  gives := fun w h => h.kept

/-- In step, with `q` of `link_state` and the credentials. -/
theorem inStep_static (q : LinkState → Bool → Prop) :
    Frame (device cfg) Free Tracking
      (fun w => InStep w ∧ q w.st.linkState w.st.credsOk)
      (Off sessionGroups) (Keep [.linkState, .credsOk]) := by
  refine keeps_static inStep_frame
    (q := fun s => q s.linkState s.credsOk) fun s s' hk hq => ?_
  have hl : s'.linkState = s.linkState := hk .linkState (by simp)
  have hc : s'.credsOk = s.credsOk := hk .credsOk (by simp)
  rw [hl, hc]
  exact hq

/-- Writing what is owed. -/
theorem setLink_owed (l : LinkState) :
    Triple (device cfg) Free Tracking (Owed l) (Nrf.setLink l)
      fun _ w => InStep w ∧ w.st.linkState = l := by
  refine Triple.modify fun w h => ⟨h.kept, ?_, rfl⟩
  exact ⟨h.kept, h.session.symm, h.closed, h.creds⟩

-- ================================================================ the calls

/-- Before a handshake: the session is gone and there are
credentials. -/
abbrev Ready (w : Tracker) : Prop :=
  InStep w ∧ (w.st.linkState = .disconnected ∧ w.st.credsOk = true)

/-- After a failed handshake: its disconnect is to come. -/
structure HalfOpen (w : Tracker) : Prop where
  kept : Tracking w
  session : session w.log = .disconnected
  link : w.st.linkState = .disconnected

/-- A connect that succeeds owes main a store to `link_state`; one that fails
leaves a session half open. -/
theorem coapConnect_owed :
    Triple (device cfg) Free Tracking Ready (call .coapConnect)
      fun r w => if r = 0 then Owed .connected w else HalfOpen w := by
  refine Triple.op (inStep_static fun l c =>
    l = .disconnected ∧ c = true).stable fun w r h _ _ => ?_
  obtain ⟨h, hl, hc⟩ := h
  have hgone : session w.log = .disconnected := h.link.symm.trans hl
  have hk : Tracking (w.called (device cfg) .coapConnect r) :=
    ⟨tracks h.link (by simp [inTurn, hgone, hc, h.closed]), h.kept⟩
  refine ⟨hk, ?_⟩
  split
  case isTrue hr =>
    refine ⟨hk, ?_, ?_, fun hn => ?_⟩
    · exact latest_some (by simp [sessionAnswer, hr])
    · exact latest_some (by simp [halfOpenWord, hr])
    · rw [show (w.called (device cfg) .coapConnect r).st.credsOk = true
        from hc] at hn
      cases hn
  case isFalse hr =>
    exact ⟨hk, latest_some (by simp [sessionAnswer, hr]), hl⟩

/-- A disconnect closes what was half open. -/
theorem coapDisconnect_owed :
    Triple (device cfg) Free Tracking HalfOpen (call .coapDisconnect)
      fun _ => Owed .disconnected := by
  have hstable : Stable (device cfg) Free HalfOpen := by
    intro w a h _ _
    have hl : w.st.linkState = session w.log := h.link.trans h.session.symm
    exact ⟨⟨tracks hl rfl, h.kept⟩, h.session, h.link⟩
  refine Triple.op hstable fun w r h _ _ => ?_
  have hk : Tracking (w.called (device cfg) .coapDisconnect r) :=
    ⟨tracks (h.link.trans h.session.symm) rfl, h.kept⟩
  exact ⟨hk, hk, latest_some rfl, latest_some rfl, fun _ => rfl⟩

/-- A resume or a pause, made where `link_state` is `now`: what its answer
leaves is owed. -/
theorem coapResume_owed :
    Triple (device cfg) Free Tracking
      (fun w => InStep w ∧ (w.st.linkState = .paused ∧ w.st.credsOk = true))
      (call .coapResume) fun r w =>
        (if r = 0 then Owed .connected w else Owed .disconnected w)
          ∧ w.st.credsOk = true := by
  refine Triple.op (inStep_static fun l c =>
    l = .paused ∧ c = true).stable fun w r h _ _ => ?_
  obtain ⟨h, hl, hc⟩ := h
  have hparked : session w.log = .paused := h.link.symm.trans hl
  have hk : Tracking (w.called (device cfg) .coapResume r) :=
    ⟨tracks h.link (by simp [inTurn, hparked]), h.kept⟩
  have hopen : halfOpen (w.called (device cfg) .coapResume r).log = false :=
    (latest_none rfl).trans h.closed
  have hcreds : ∀ l, (w.called (device cfg) .coapResume r).st.credsOk
      = false → l = LinkState.disconnected := by
    intro l hn
    rw [show (w.called (device cfg) .coapResume r).st.credsOk = true
      from hc] at hn
    cases hn
  refine ⟨hk, ?_, hc⟩
  split
  case isTrue hr =>
    exact ⟨hk, latest_some (by simp [sessionAnswer, hr]), hopen, hcreds _⟩
  case isFalse hr =>
    exact ⟨hk, latest_some (by simp [sessionAnswer, hr]), hopen, hcreds _⟩

/-- A pause that succeeds owes main the store, one that fails changes nothing.
-/
theorem coapPause_owed :
    Triple (device cfg) Free Tracking
      (fun w => InStep w ∧ w.st.linkState = .connected) (call .coapPause)
      fun r w => if r = 0 then Owed .paused w else InStep w := by
  refine Triple.op (inStep_static fun l _ => l = .connected).stable
    fun w r h _ _ => ?_
  obtain ⟨h, hl⟩ := h
  have hup : session w.log = .connected := h.link.symm.trans hl
  have hk : Tracking (w.called (device cfg) .coapPause r) :=
    ⟨tracks h.link (by simp [inTurn, hup]), h.kept⟩
  have hopen : halfOpen (w.called (device cfg) .coapPause r).log = false :=
    (latest_none rfl).trans h.closed
  refine ⟨hk, ?_⟩
  split
  case isTrue hr =>
    refine ⟨hk, latest_some (by simp [sessionAnswer, hr]), hopen, fun hn => ?_⟩
    rw [h.creds hn] at hl
    cases hl
  case isFalse hr =>
    have hs : session (w.called (device cfg) .coapPause r).log
        = session w.log := latest_none (by simp [sessionAnswer, hr])
    exact ⟨hk, h.link.trans hs.symm, hopen, h.creds⟩

-- ============================================================ the functions

/-- In step, and the result is zero exactly where `link_state` is
connected. -/
abbrev Settles (r : Int) (w : Tracker) : Prop :=
  InStep w ∧ (r = 0 ↔ w.st.linkState = .connected)

/-- The handshake at the end of `cloud_resume`. -/
theorem connect_inStep :
    Triple (device cfg) Free Tracking Ready (Nrf.connect cfg) Settles := by
  refine (part (inStep_static fun l c => l = .disconnected ∧ c = true)
    (modemTimeWait_foot cfg) (by simp) (by simp)).bind fun _ =>
    coapConnect_owed.bind fun err => Triple.ite (fun herr => ?_)
    fun herr => ?_
  · simp only [if_neg herr]
    refine coapDisconnect_owed.bind fun _ =>
      (setLink_owed .disconnected).bind fun _ => Triple.ret fun w h => ?_
    exact ⟨h.1, by simp [h.2, herr]⟩
  · rw [Decidable.not_not] at herr
    simp only [if_pos herr]
    refine (setLink_owed .connected).bind fun _ => Triple.ret fun w h => ?_
    exact ⟨h.1, by simp [h.2]⟩

variable (hprov : cfg.cloudProvider = .nrfcloud)
variable (hlte : cfg.skipLte = false) (hoff : cfg.offlineDebug = false)

include hprov

/-- `cloud_pause`. -/
theorem cloudPause_inStep :
    Triple (device cfg) Free Tracking InStep (cloudPause cfg)
      fun _ => InStep := by
  have hbody : Triple (device cfg) Free Tracking InStep (Nrf.cloudPause cfg)
      fun _ => InStep := by
    refine Triple.get fun s => Triple.ite
      (fun _ => Triple.ret fun w h => h.1) fun hs => ?_
    have hup : s.linkState = .connected := by simp_all
    refine Triple.pre (P := fun w => InStep w ∧ w.st.linkState = .connected)
      ?_ fun w h => ⟨h.1, h.2 ▸ hup⟩
    refine (plain_keeps (inStep_static fun l _ => l = .connected) (by rfl)
      (by simp)).bind fun b => Triple.ite
      (fun _ => Triple.ret fun w h => h.1) fun _ => ?_
    refine coapPause_owed.bind fun err => Triple.ite (fun herr => ?_)
      fun herr => ?_
    · simp only [if_neg herr]
      exact Triple.ret fun w h => h
    · rw [Decidable.not_not] at herr
      simp only [if_pos herr]
      exact (setLink_owed .paused).post fun _ w h => h.1
  have hnrf : cloudPause cfg = scope .cloudPause (Nrf.cloudPause cfg) := by
    unfold cloudPause
    rw [hprov]
  rw [hnrf]
  exact triple_scope (enter_keeps inStep_frame (by simp)) hbody
    fun r => leave_keeps inStep_frame (by simp)

include hlte hoff

/-- `cloud_resume`. -/
theorem cloudResume_inStep :
    Triple (device cfg) Free Tracking InStep (cloudResume cfg)
      fun _ => InStep := by
  have hbody : Triple (device cfg) Free Tracking InStep
      (Nrf.cloudResume cfg) Settles := by
    unfold Nrf.cloudResume
    rw [hlte, hoff]
    refine Triple.get fun s => Triple.ite (fun hc => ?_) fun hc =>
      Triple.ite (fun hup => ?_) fun hup => Triple.ite (fun hparked => ?_)
      fun hparked => ?_
    · -- without credentials there is no session
      refine Triple.ret fun w h => ?_
      obtain ⟨h, rfl⟩ := h
      have hl := h.creds (by simpa using hc)
      exact ⟨h, by simp [hl, EACCES]⟩
    · refine Triple.ret fun w h => ?_
      obtain ⟨h, rfl⟩ := h
      exact ⟨h, by simp [hup]⟩
    -- paused: resumed, or disconnected and a handshake
    · refine Triple.pre (P := fun w => InStep w ∧
        (w.st.linkState = .paused ∧ w.st.credsOk = true)) ?_ fun w h => ?_
      · refine coapResume_owed.bind fun err => Triple.ite (fun herr => ?_)
          fun herr => ?_
        · simp only [if_pos herr]
          refine ((setLink_owed .connected).pre fun w h => h.1).bind
            fun _ => Triple.ret fun w h => ?_
          exact ⟨h.1, by simp [h.2]⟩
        · simp only [if_neg herr]
          refine Triple.bind (R := fun _ => Ready)
            (Triple.modify fun w h => ?_) fun _ => connect_inStep
          obtain ⟨h, hcreds⟩ := h
          exact ⟨h.kept, ⟨h.kept, h.session.symm, h.closed, h.creds⟩, rfl,
            hcreds⟩
      · obtain ⟨h, rfl⟩ := h
        exact ⟨h, hparked, by simpa using hc⟩
    · refine connect_inStep.pre fun w h => ?_
      obtain ⟨h, rfl⟩ := h
      refine ⟨h, ?_, by simpa using hc⟩
      cases hl : w.st.linkState <;> simp_all
  have hnrf : cloudResume cfg = scope .cloudResume (Nrf.cloudResume cfg) := by
    unfold cloudResume
    rw [hprov]
  rw [hnrf]
  refine triple_scope (Y := InStep) ?_ hbody fun r => ?_
  · refine Triple.op inStep_frame.stable fun w r h _ _ => ?_
    have hk : Tracking (w.called (device cfg) (.enter .cloudResume) r) :=
      ⟨tracks h.link rfl, h.kept⟩
    exact ⟨hk, hk, h.link, h.closed, h.creds⟩
  -- the return is in turn: 0 if and only if there is a session
  · refine Triple.op (inStep_static fun l _ => r = 0 ↔ l = .connected).stable
      fun w u h _ _ => ?_
    obtain ⟨h, hr⟩ := h
    rw [h.link] at hr
    have hk : Tracking (w.called (device cfg) (.leave .cloudResume r) u) :=
      ⟨tracks h.link (by simp [inTurn, Bool.beq_eq_decide_eq, hr]), h.kept⟩
    exact ⟨hk, hk, h.link, h.closed, h.creds⟩

/-- `report_fix`. -/
theorem reportFix_inStep (fix : Option TrackerFix) (wakeUptimeMs : Nat)
    (wr : WakeReason) :
    Triple (device cfg) Free Tracking InStep
      (reportFix cfg fix wakeUptimeMs wr) fun _ => InStep := by
  have F : Frame (device cfg) Free Tracking InStep (Off sessionGroups)
      (Keep [.linkState, .credsOk]) := inStep_frame
  refine report_keeps F (by simp) (by simp) (by simp) (by simp) fun payload => ?_
  exact deliver_keeps F (by simp) (by simp)
    (sendReport_keeps F (by simp) (by simp) (by simp)
      (cloudResume_inStep hprov hlte hoff)) fun fix =>
    part F (cloudSendLocation_foot cfg fix) (by simp) (by simp)

/-- Every use leaves the transport in step. -/
theorem use_inStep (u : Use) :
    Triple (device cfg) Free Tracking InStep (u.run cfg)
      fun _ => InStep := by
  have F : Frame (device cfg) Free Tracking InStep (Off sessionGroups)
      (Keep [.linkState, .credsOk]) := inStep_frame
  cases u with
  | resume =>
      exact (cloudResume_inStep hprov hlte hoff).bind fun _ =>
        Triple.ret fun w h => h
  | pause => exact cloudPause_inStep hprov
  | send innerJson =>
      exact (part F (cloudSendTelemetry_foot cfg innerJson) (by simp)
        (by simp)).bind fun _ => Triple.ret fun w h => h
  | report fix wakeUptimeMs wr =>
      exact (reportFix_inStep hprov hlte hoff fix wakeUptimeMs wr).bind
        fun _ => Triple.ret fun w h => h

/-- So does a sequence of uses. -/
theorem useAll_inStep (us : List Use) :
    Triple (device cfg) Free Tracking InStep (useAll cfg us)
      fun _ => InStep := by
  induction us with
  | nil => exact Triple.ret fun w h => h
  | cons u us ih => exact (use_inStep hprov hlte hoff u).bind fun _ => ih

-- ================================================================= the law

/-- For every sequence of uses of the transport and every answer of the
library: at every call `link_state` is the session, every call is made in
turn, and at the end `link_state` is the session. -/
theorem link_refines_session {us : List Use} {w : Tracker}
    (hlink : w.st.linkState = .disconnected) (hlog : w.log = [])
    {c : P Unit × Tracker} (hr : Reach (device cfg) (useAll cfg us) w c) :
    Always TracksSession c.2.log ∧
      (c.1 = pure () → c.2.st.linkState = session c.2.log) := by
  have T := useAll_inStep hprov hlte hoff us
  have hk : Tracking w := by
    rw [Tracking, hlog]
    trivial
  have hw : InStep w := by
    refine ⟨hk, ?_, ?_, fun _ => hlink⟩
    · rw [hlog, hlink]
      rfl
    · rw [hlog]
      rfl
  refine ⟨T.reach hw hk hr (always_free _), fun hend => ?_⟩
  obtain ⟨p, w'⟩ := c
  cases hend
  exact (T.result hw hk hr (always_free _)).link

omit hprov hlte hoff

/-- The uses of a transport for at most `steps` steps of a scripted
run. -/
@[irreducible] def playUses (cfg : Config)
    (scr : Script Statics Dev Move Calls) (us : List Use) (steps : Nat)
    (w : Tracker) : P Unit × Tracker :=
  play (device cfg) scr steps (useAll cfg us) w

/-- A scripted sequence of uses is a run of them. -/
theorem playUses_reach (cfg : Config)
    (scr : Script Statics Dev Move Calls) (us : List Use) (steps : Nat)
    (w : Tracker) :
    Reach (device cfg) (useAll cfg us) w (playUses cfg scr us steps w) := by
  unfold playUses
  exact play_reach .init

/-- A connect that fails, a report that connects, a pause and a resume. -/
def shuttle : List Use :=
  [.resume, .report none 0 .boot, .pause, .resume, .send []]

/-- The law at a run with failures in it: connect, pause, resume and a pause
that fails. -/
theorem link_refines_session_shuttle :
    let c := playUses fixless (unsteady true) shuttle 400 (ready fixless)
    session c.2.log = .connected ∧
      c.2.log.any (fun e => sessionAnswer e == some .paused) = true ∧
      Always TracksSession c.2.log ∧
      (c.1 = pure () → c.2.st.linkState = session c.2.log) :=
  ⟨by decide +kernel, by decide +kernel, link_refines_session rfl rfl rfl
    rfl rfl (playUses_reach fixless (unsteady true) shuttle 400 _)⟩

-- ===================================================================== main

/-- Before `main`'s loop: in step whatever the credentials, since no
session was made. -/
structure Unconnected (w : Tracker) : Prop where
  kept : Tracking w
  link : w.st.linkState = .disconnected
  session : session w.log = .disconnected
  closed : halfOpen w.log = false

/-- Before the loop nothing off the session groups makes a session. -/
theorem unconnected_frame :
    Frame (device cfg) Free Tracking Unconnected (Off sessionGroups)
      (Keep [.linkState]) where
  stable := by
    intro w a h _ _
    have hl : w.st.linkState = session w.log := h.link.trans h.session.symm
    exact ⟨⟨tracks hl rfl, h.kept⟩, h.link, h.session, h.closed⟩
  calls := by
    intro w o r ho h _ _
    obtain ⟨hs, hc⟩ := session_call ho w.st w.dev r w.log
    have ht : TracksSession (.call w.st w.dev o r) w.log :=
      tracks (h.link.trans h.session.symm) (inTurn_call ho ..)
    exact ⟨⟨ht, h.kept⟩, h.link, hs.trans h.session, hc.trans h.closed⟩
  writes := by
    intro w f hf h
    have hl : (f w.st).linkState = w.st.linkState :=
      hf .linkState (by simp)
    exact ⟨h.kept, hl.trans h.link, h.session, h.closed⟩
  gives := fun w h => h.kept

include hprov hlte hoff

/-- Main is unconnected up to its loop and in step from there on. -/
theorem session_outline :
    Outline cfg Free Tracking (looping InStep Unconnected) := by
  have F : Frame (device cfg) Free Tracking InStep (Off sessionGroups)
      (Keep [.linkState, .credsOk]) := inStep_frame
  have B : Frame (device cfg) Free Tracking Unconnected (Off sessionGroups)
      (Keep [.linkState]) := unconnected_frame
  refine outline_looping F (by simp) (by simp) (quiet B (by simp) (by simp))
    ?_ ?_ (cloudResume_inStep hprov hlte hoff) ?_
    (reportFix_inStep hprov hlte hoff) (cloudPause_inStep hprov)
  · refine (part B setUp_foot (by simp) (by simp)).post fun _ w h => ?_
    exact ⟨h.kept, h.link.trans h.session.symm, h.closed, fun _ => h.link⟩
  · exact part F (recoverIfSilent_foot cfg) (by simp) (by simp)
  · exact part F (agnssFetchAndInject_foot cfg) (by simp) (by simp)

/-- `main` uses the transport in turn, and `link_state` is the session at
every call it makes. -/
theorem main_tracks_session {n fuel : Nat} {w : Tracker}
    (hw : Booted cfg w) {c : P Int × Tracker}
    (hr : Reach (device cfg) (main cfg n fuel) w c) :
    Always TracksSession c.2.log := by
  obtain ⟨magic, phase, hst⟩ := hw.st
  have O : Outline cfg Free Tracking (looping InStep Unconnected) :=
    session_outline hprov hlte hoff
  refine O.reach (J := Tracking) ⟨?_, ?_, ?_, ?_⟩ hr (always_free _)
  · rw [Tracking, hw.log]
    trivial
  · rw [hst]
    rfl
  · rw [hw.log]
    rfl
  · rw [hw.log]
    rfl

end GpsTracker
