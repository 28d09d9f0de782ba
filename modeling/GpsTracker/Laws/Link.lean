/-
No report is sent over a session that refused one (main.c,
cloud_nrf.c).

`link_state` is what the transport last did about its session, not what
became of it: `cloud_resume` acts on a link it believes paused or gone
and does nothing for one it believes connected. `report_fix` answers a
refused send with a `cloud_resume` and one more send. Where the session
died under a connected link the resume is that no-op, so the retry goes
over the dead session. The law below holds of the runs where a report's
first send finds a connected link alive.

# The invariant

Awake, a refused send that nothing reconnected since leaves the link
believed connected over a dead session; asleep, believed paused as well.
Either belief, once resumed for real, is a call to the library.
-/
import GpsTracker.Run.Script

namespace GpsTracker

open Proc

variable {cfg : Config}

/-- The two answers that mean that the session is gone. -/
def refused (r : Int) : Bool := r == -EACCES || r == -ENOTCONN

/-- What an event says about the session: a send tells whether it was
refused, and a call that reconnects clears the record. -/
def sessionWord : Ev → Option Bool
  | .call _ _ (.jsonMessageSend _) r => some (refused r)
  | .call _ _ .coapConnect _ => some false
  | .call _ _ .coapResume _ => some false
  | _ => none

/-- The last send was refused, and nothing reconnected since. -/
def stale (l : Trace) : Bool := (l.findSome? sessionWord).getD false

/-- A refused send and the next send have a connect or a resume between
them. -/
def reconnects : Ev → Trace → Bool
  | .call _ _ (.jsonMessageSend _) _, l => !stale l
  | _, _ => true

abbrev Reconnects (e : Ev) (l : Trace) : Prop := reconnects e l

/-- What an event says about where the thread is: in the first send of a
report or out of it. -/
def firstSendWord : Ev → Option Bool
  | .call _ _ (.enter .firstSend) _ => some true
  | .call _ _ (.leave .firstSend _) _ => some false
  | _ => none

/-- The thread is in the first send of a report. -/
def inFirstSend (l : Trace) : Bool := (l.findSome? firstSendWord).getD false

/-- A report's first send, made on a link believed connected, finds its
session alive. -/
def firstSendLive : Ev → Trace → Bool
  | .call s d (.jsonMessageSend _) _, l =>
      !inFirstSend l || s.linkState != .connected || d.live
  | _, _ => true

/-- `firstSendLive` as a proviso on the steps of a run. -/
abbrev FirstSendLive (e : Ev) (l : Trace) : Prop := firstSendLive e l

-- ============================================================== assertions

/-- The promise at every step. -/
abbrev Reconnected (w : Tracker) : Prop := Always Reconnects w.log

/-- A stale session is dead, and the link is believed as `p` says. -/
structure Believed (p : LinkState → Prop) (w : Tracker) : Prop where
  kept : Reconnected w
  creds : w.st.credsOk = true
  belief : stale w.log = true → p w.st.linkState
  dead : stale w.log = true → w.dev.live = false

/-- Awake: a stale session is believed connected. -/
abbrev AwakeLink : Tracker → Prop := Believed (· = .connected)

/-- Asleep, or on the way up: believed connected or paused. -/
abbrev AsleepLink : Tracker → Prop := Believed (· ≠ .disconnected)

/-- No stale session at all. -/
abbrev FreshLink : Tracker → Prop := Believed fun _ => False

theorem Believed.weaken {p q : LinkState → Prop} {w : Tracker}
    (h : Believed p w) (hpq : ∀ s, p s → q s) : Believed q w :=
  ⟨h.kept, h.creds, fun hs => hpq _ (h.belief hs), h.dead⟩

theorem FreshLink.not_stale {w : Tracker} (h : FreshLink w) :
    stale w.log = false := by
  cases hs : stale w.log with
  | false => rfl
  | true => exact (h.belief hs).elim

/-- With nothing stale, nothing is promised of the belief. -/
theorem Believed.of_not_stale {p : LinkState → Prop} {w : Tracker}
    (hk : Reconnected w) (hc : w.st.credsOk = true)
    (hs : stale w.log = false) : Believed p w := by
  refine ⟨hk, hc, ?_, ?_⟩ <;> intro h <;> rw [hs] at h <;> cases h

private theorem sessionWord_call {o : Op} (h : Off [.send, .session] o)
    (s : Statics) (d : Dev) (r : o.Ret) :
    sessionWord (.call s d o r : Ev) = none := by
  cases o <;> first | rfl | exact absurd h (by simp [Off])

private theorem stale_call {o : Op} (h : Off [.send, .session] o)
    (s : Statics) (d : Dev) (r : o.Ret) (l : Trace) :
    stale (.call s d o r :: l) = stale l := by
  simp only [stale, List.findSome?_cons, sessionWord_call h]

private theorem reconnects_call {o : Op} (h : group o ≠ .send)
    (s : Statics) (d : Dev) (r : o.Ret) (l : Trace) :
    Reconnects (.call s d o r : Ev) l := by
  cases o <;> first | rfl | exact absurd rfl h

/-- Own moves only let sessions die. -/
theorem believed_stable (p : LinkState → Prop) :
    Stable (device cfg) FirstSendLive (Believed p) := by
  intro w a h _ _
  refine ⟨⟨rfl, h.kept⟩, h.creds, h.belief, fun hs => ?_⟩
  cases hl : (w.moved (device cfg) a).dev.live with
  | false => rfl
  | true =>
      have hlive : w.dev.live = true := (move_drifts cfg a w.dev).live hl
      rw [h.dead hs] at hlive
      cases hlive

theorem believed_frame (p : LinkState → Prop) :
    Frame (device cfg) FirstSendLive Reconnected (Believed p)
      (Off [.send, .session]) (Keep [.linkState, .credsOk]) where
  stable := believed_stable p
  calls := by
    intro w o r ho h _ _
    have hlog : stale (w.called (device cfg) o r).log = stale w.log :=
      stale_call ho ..
    have hlive : (effect o r w.dev).live = w.dev.live :=
      (effect_spares o r w.dev).live (ho.ne (by simp))
    refine ⟨⟨reconnects_call (ho.ne (by simp)) .., h.kept⟩,
      h.creds, ?_, ?_⟩
    · rw [hlog]
      exact h.belief
    · rw [hlog]
      intro hs
      exact hlive.trans (h.dead hs)
  writes := by
    intro w f hf h
    have hl : (f w.st).linkState = w.st.linkState :=
      hf .linkState (by simp)
    have hc : (f w.st).credsOk = w.st.credsOk := hf .credsOk (by simp)
    refine ⟨h.kept, hc.trans h.creds, ?_, h.dead⟩
    intro hs
    show p (f w.st).linkState
    rw [hl]
    exact h.belief hs
  gives := fun w h => h.kept

/-- The belief as such survives with it. -/
theorem believed_connected_frame (p : LinkState → Prop) (r : Int) :
    Frame (device cfg) FirstSendLive Reconnected
      (fun w => Believed p w ∧ (r = 0 → w.st.linkState = .connected))
      (Off [.send, .session]) (Keep [.linkState, .credsOk]) := by
  refine keeps_static (believed_frame p) (q := fun s =>
    r = 0 → s.linkState = .connected) fun s s' hk h hr => ?_
  have hl : s'.linkState = s.linkState := hk .linkState (by simp)
  exact hl.trans (h hr)

/-- While nothing is stale only a send can make it so. -/
theorem fresh_frame :
    Frame (device cfg) FirstSendLive Reconnected FreshLink
      (Off [.send]) (Keep [.credsOk]) where
  stable := believed_stable _
  calls := by
    intro w o r ho h _ _
    have hn : group o ≠ .send := by simpa [Off] using ho
    have hlog : stale (w.called (device cfg) o r).log = false := by
      have hold := h.not_stale
      cases o <;> first | exact hold | rfl | exact absurd rfl hn
    exact .of_not_stale ⟨reconnects_call hn .., h.kept⟩ h.creds hlog
  writes := by
    intro w f hf h
    have hc : (f w.st).credsOk = w.st.credsOk := hf .credsOk (by simp)
    exact .of_not_stale h.kept (hc.trans h.creds) h.not_stale
  gives := fun w h => h.kept

-- ================================================================ the link

/-- A call that reconnects leaves nothing stale. -/
private theorem reconnect_fresh {p : LinkState → Prop} {o : Op}
    (ho : o = .coapConnect ∨ o = .coapResume) :
    Triple (device cfg) FirstSendLive Reconnected (Believed p) (call o)
      fun _ => FreshLink := by
  refine Triple.op (believed_stable p) fun w r h _ _ => ?_
  have hfresh : FreshLink (w.called (device cfg) o r) := by
    rcases ho with rfl | rfl <;>
      exact .of_not_stale ⟨rfl, h.kept⟩ h.creds rfl
  exact ⟨hfresh.kept, hfresh⟩

/-- Where nothing is stale the belief may be written. -/
private theorem setLink_fresh (l : LinkState) :
    Triple (device cfg) FirstSendLive Reconnected FreshLink (Nrf.setLink l)
      fun _ w => FreshLink w ∧ w.st.linkState = l := by
  refine Triple.modify fun w h => ?_
  have hfresh : FreshLink (w.wrote fun s => { s with linkState := l }) :=
    .of_not_stale h.kept h.creds h.not_stale
  exact ⟨h.kept, hfresh, rfl⟩

/-- The handshake: nothing stale is left, and a zero result means
connected. -/
theorem connect_fresh (p : LinkState → Prop) :
    Triple (device cfg) FirstSendLive Reconnected (Believed p)
      (Nrf.connect cfg) fun r w => FreshLink w ∧
        (r = 0 → w.st.linkState = .connected) := by
  have hwait : Foot [.plain] [.modemTimeReady] (Nrf.modemTimeWait cfg) :=
    modemTimeWait_foot cfg
  refine (part (believed_frame p) hwait (by simp) (by simp)).bind
    fun _ => (reconnect_fresh (.inl rfl)).bind fun err => ?_
  refine Triple.ite (fun herr => ?_) fun _ => ?_
  · refine (part fresh_frame (p := call .coapDisconnect) (g := [.session])
      (v := []) (by simp) (by simp) (by simp)).bind fun _ =>
      (setLink_fresh .disconnected).bind fun _ => Triple.ret fun w h => ?_
    exact ⟨h.1, fun hz => absurd hz herr⟩
  · refine (setLink_fresh .connected).bind fun _ => Triple.ret fun w h => ?_
    exact ⟨h.1, fun _ => h.2⟩

variable (hprov : cfg.cloudProvider = .nrfcloud) (hlte : cfg.skipLte = false)
variable (hoff : cfg.offlineDebug = false)

include hprov hlte hoff

/-- `cloud_resume`: what was believed connected stays so, and everything
else is reconnected for real. -/
theorem cloudResume_believed (p : LinkState → Prop) :
    Triple (device cfg) FirstSendLive Reconnected (Believed p)
      (cloudResume cfg) fun r w =>
        Believed (fun l => p .connected ∧ l = .connected) w ∧
          (r = 0 → w.st.linkState = .connected) := by
  let Q : LinkState → Prop := fun l => p .connected ∧ l = .connected
  have hfresh : ∀ w, FreshLink w → Believed Q w := fun w h =>
    h.weaken fun _ hf => hf.elim
  have hconnect : ∀ q, Triple (device cfg) FirstSendLive Reconnected
      (Believed q) (Nrf.connect cfg) fun r w => Believed Q w ∧
        (r = 0 → w.st.linkState = .connected) := fun q =>
    (connect_fresh q).post fun r w h => ⟨hfresh w h.1, h.2⟩
  have hbody : Triple (device cfg) FirstSendLive Reconnected (Believed p)
      (Nrf.cloudResume cfg) fun r w => Believed Q w ∧
        (r = 0 → w.st.linkState = .connected) := by
    unfold Nrf.cloudResume
    rw [hlte, hoff]
    refine Triple.get fun s => Triple.ite (fun hc => ?_) fun _ =>
      Triple.ite (fun hl => ?_) fun _ => Triple.ite (fun _ => ?_) fun _ => ?_
    -- no credentials: excluded, the link was believed to have them
    · intro w h
      have hcreds := h.1.creds
      rw [h.2] at hcreds
      simp [hcreds] at hc
    · -- believed connected: nothing is done
      refine Triple.ret fun w h => ?_
      obtain ⟨h, rfl⟩ := h
      refine ⟨⟨h.kept, h.creds, fun hs => ⟨?_, hl⟩, h.dead⟩, fun _ => hl⟩
      have hp := h.belief hs
      rwa [hl] at hp
    · refine Triple.pre (P := Believed p) ?_ fun w h => h.1
      refine (reconnect_fresh (.inr rfl)).bind fun err =>
        Triple.ite (fun _ => ?_) fun herr => ?_
      · refine (setLink_fresh .connected).bind fun _ =>
          Triple.ret fun w h => ?_
        exact ⟨hfresh w h.1, fun _ => h.2⟩
      · exact (setLink_fresh .disconnected).bind fun _ =>
          (hconnect _).pre fun w h => h.1
    -- not connected: a handshake of its own
    · exact (hconnect p).pre fun w h => h.1
  have hnrf : cloudResume cfg = scope .cloudResume (Nrf.cloudResume cfg) := by
    unfold cloudResume
    rw [hprov]
  rw [hnrf]
  refine triple_scope (enter_keeps (believed_frame p) (by simp)) hbody
    fun r => ?_
  exact leave_keeps (believed_connected_frame Q r) (by simp)

omit hlte hoff in
/-- `cloud_pause` parks a link believed connected, or leaves it. -/
theorem cloudPause_believed :
    Triple (device cfg) FirstSendLive Reconnected AwakeLink
      (cloudPause cfg) fun _ => AsleepLink := by
  have hleft : ∀ w, AwakeLink w → AsleepLink w := fun w h =>
    h.weaken fun l hl => by rw [hl]; simp
  have hbody : Triple (device cfg) FirstSendLive Reconnected AwakeLink
      (Nrf.cloudPause cfg) fun _ => AsleepLink := by
    refine Triple.get fun s => Triple.ite
      (fun _ => Triple.ret fun w h => hleft w h.1) fun _ => ?_
    refine Triple.pre (P := AwakeLink) ?_ fun w h => h.1
    refine (plain_keeps (believed_frame _) (by rfl) (by simp)).bind
      fun b => Triple.ite (fun _ => Triple.ret hleft) fun _ => ?_
    have hpause : Triple (device cfg) FirstSendLive Reconnected AwakeLink
        (call .coapPause) fun _ => AwakeLink := by
      refine Triple.op (believed_stable _) fun w r h _ _ => ?_
      have hk : Reconnected (w.called (device cfg) .coapPause r) :=
        ⟨rfl, h.kept⟩
      exact ⟨hk, hk, h.creds, h.belief, h.dead⟩
    refine hpause.bind fun err => Triple.ite
      (fun _ => Triple.ret hleft) fun _ => ?_
    refine Triple.modify fun w h => ⟨h.kept, h.kept, h.creds, ?_, h.dead⟩
    intro _
    show LinkState.paused ≠ .disconnected
    simp
  have hnrf : cloudPause cfg = scope .cloudPause (Nrf.cloudPause cfg) := by
    unfold cloudPause
    rw [hprov]
  rw [hnrf]
  exact triple_scope (enter_keeps (believed_frame _) (by simp)) hbody
    fun r => leave_keeps (believed_frame _) (by simp)

-- =============================================================== the sends

omit hlte in
/-- A telemetry send: `Y` where it was refused and `Z` where it was not,
or was not made. -/
theorem cloudSendTelemetry_cases {payload : Text} {X Y Z : Tracker → Prop}
    (hdate : Triple (device cfg) FirstSendLive Reconnected X
      (call .dateTimeNow) fun _ => X)
    (hsend : ∀ text, Triple (device cfg) FirstSendLive Reconnected X
      (call (.jsonMessageSend text)) fun r w =>
        if refused r then Y w else Z w)
    (hnone : ∀ w, X w → Z w) :
    Triple (device cfg) FirstSendLive Reconnected X
      (cloudSendTelemetry cfg payload) fun err w =>
        if err = -EACCES ∨ err = -ENOTCONN then Y w else Z w := by
  have hnrf : cloudSendTelemetry cfg payload
      = Nrf.cloudSendTelemetry cfg payload := by
    unfold cloudSendTelemetry
    rw [hprov]
  rw [hnrf]
  unfold Nrf.cloudSendTelemetry
  rw [hoff]
  refine hdate.bind fun r => Triple.ite (fun _ => ?_) fun _ => ?_
  · refine Triple.ret fun w h => ?_
    rw [if_neg (by decide)]
    exact hnone w h
  refine (hsend _).bind fun err => Triple.ret fun w h => ?_
  have hcode : (Nrf.normalize err = -EACCES
      ∨ Nrf.normalize err = -ENOTCONN) ↔ refused err = true := by
    unfold Nrf.normalize refused EACCES ENOTCONN EIO
    simp only [Bool.or_eq_true, beq_iff_eq]
    split <;> omega
  simp only [hcode]
  exact h

/-- In the first send of a report, with the belief of an awake link. -/
def Sending (w : Tracker) : Prop :=
  AwakeLink w ∧ inFirstSend w.log = true

omit hprov hlte hoff

theorem sending_frame :
    Frame (device cfg) FirstSendLive Reconnected Sending
      (Off [.mark .firstSend, .send, .session])
      (Keep [.linkState, .credsOk]) where
  stable := fun w a h hcan hG => ⟨believed_stable _ w a h.1 hcan hG, h.2⟩
  calls := by
    intro w o r ho h hok hG
    refine ⟨(believed_frame _).calls w o r (ho.mono (by simp)) h.1 hok hG,
      ?_⟩
    have hword : firstSendWord (.call w.st w.dev o r : Ev) = none := by
      cases o with
      | enter f =>
          cases f <;> first | rfl | exact absurd ho (by simp [Off])
      | leave f r =>
          cases f <;> first | rfl | exact absurd ho (by simp [Off])
      | _ => rfl
    show inFirstSend (_ :: w.log) = true
    simp only [inFirstSend, List.findSome?_cons, hword]
    exact h.2
  writes := by
    intro w f hf h
    have F : Frame (device cfg) FirstSendLive Reconnected AwakeLink _ _ :=
      believed_frame _
    exact ⟨F.writes w f hf h.1, h.2⟩
  gives := fun w h => h.1.kept

/-- The first send: whoever was refused was not believed connected, and
nothing was stale. -/
theorem firstSend_believed (text : Text) :
    Triple (device cfg) FirstSendLive Reconnected Sending
      (call (.jsonMessageSend text)) fun r w =>
        if refused r then Believed (· ≠ .connected) w else AwakeLink w := by
  refine Triple.op sending_frame.stable fun w r h hok hG => ?_
  obtain ⟨h, hin⟩ := h
  have hlive : w.st.linkState = .connected → w.dev.live = true := by
    intro hl
    have hstep := hG.1
    simpa [FirstSendLive, firstSendLive, hin, hl] using hstep
  have hfresh : stale w.log = false := by
    cases hs : stale w.log with
    | false => rfl
    | true =>
        have hdead := h.dead hs
        rw [hlive (h.belief hs)] at hdead
        cases hdead
  have hk : Reconnected (w.called (device cfg) (.jsonMessageSend text) r) :=
    ⟨by simp [Reconnects, reconnects, hfresh], h.kept⟩
  have hdead : refused r = !w.dev.live := by
    simpa [device, ok, refused] using hok
  refine ⟨hk, ?_⟩
  split
  case isTrue hr =>
    rw [hr] at hdead
    have hgone : w.dev.live = false := by simpa using hdead.symm
    refine ⟨hk, h.creds, fun _ hl => ?_, fun _ => hgone⟩
    rw [hlive hl] at hgone
    cases hgone
  case isFalse hr =>
    have hn : refused r = false := by simpa using hr
    exact .of_not_stale hk h.creds hn

/-- The retry: over a link just reconnected, whatever it answers. -/
theorem retrySend_believed (text : Text) :
    Triple (device cfg) FirstSendLive Reconnected
      (fun w => FreshLink w ∧ w.st.linkState = .connected)
      (call (.jsonMessageSend text)) fun _ => AwakeLink := by
  refine Triple.op (Stable.and (believed_stable _) (Stable.static fun s :
    Statics => s.linkState = .connected)) fun w r h hok _ => ?_
  obtain ⟨h, hl⟩ := h
  have hk : Reconnected (w.called (device cfg) (.jsonMessageSend text) r) :=
    ⟨by simp [Reconnects, reconnects, h.not_stale], h.kept⟩
  have hdead : refused r = !w.dev.live := by
    simpa [device, ok, refused] using hok
  refine ⟨hk, hk, h.creds, fun _ => hl, fun hs => ?_⟩
  have hr : refused r = true := hs
  rw [hr] at hdead
  show w.dev.live = false
  simpa using hdead.symm

include hprov hlte hoff

/-- `report_fix`'s send and its retry. -/
theorem sendReport_believed (payload : Text) :
    Triple (device cfg) FirstSendLive Reconnected AwakeLink
      (sendReport cfg payload) fun _ => AwakeLink := by
  -- a send over a session that is gone says so by its errno
  have hfirst : Triple (device cfg) FirstSendLive Reconnected AwakeLink
      (scope .firstSend (cloudSendTelemetry cfg payload)) fun err w =>
        if err = -EACCES ∨ err = -ENOTCONN then
          Believed (· ≠ .connected) w
        else AwakeLink w := by
    have henter : Triple (device cfg) FirstSendLive Reconnected AwakeLink
        (call (.enter .firstSend)) fun _ => Sending := by
      refine Triple.op (believed_stable _) fun w r h hok hG => ?_
      have h' := (believed_frame _).calls w (.enter .firstSend) r
        (by simp [Off]) h hok hG
      exact ⟨h'.kept, h', rfl⟩
    refine triple_scope henter (cloudSendTelemetry_cases hprov hoff
      (plain_keeps sending_frame (by rfl) (by simp))
      firstSend_believed fun w h => h.1) fun err => ?_
    by_cases herr : err = -EACCES ∨ err = -ENOTCONN
    · simp only [if_pos herr]
      exact leave_keeps (believed_frame _) (by simp)
    · simp only [if_neg herr]
      exact leave_keeps (believed_frame _) (by simp)
  -- and the retry goes over the link that the resume left
  have hretry : Triple (device cfg) FirstSendLive Reconnected
      (fun w => FreshLink w ∧ w.st.linkState = .connected)
      (scope .retrySend (cloudSendTelemetry cfg payload))
      fun _ => AwakeLink := by
    have F : Frame (device cfg) FirstSendLive Reconnected (fun w =>
        FreshLink w ∧ w.st.linkState = .connected)
        (Off [.send, .session]) (Keep [.linkState, .credsOk]) := by
      refine keeps_static (believed_frame _)
        (q := fun s => s.linkState = .connected) fun s s' hk hl => ?_
      have hsame : s'.linkState = s.linkState := hk .linkState (by simp)
      exact hsame.trans hl
    refine triple_scope (enter_keeps F (by simp))
      (R := fun _ => AwakeLink) ?_
      fun r => leave_keeps (believed_frame _) (by simp)
    refine (cloudSendTelemetry_cases hprov hoff (Y := AwakeLink)
      (Z := AwakeLink) (plain_keeps F (by rfl) (by simp))
      (fun text => (retrySend_believed text).post fun r w h => by
        split <;> exact h)
      fun w h => h.1.weaken fun _ hf => hf.elim).post fun r w h => ?_
    split at h <;> exact h
  refine hfirst.bind fun err => Triple.ite (fun herr => ?_) fun herr => ?_
  · simp only [if_pos herr]
    refine (part (believed_frame _) (watchdogGuardStart_foot _) (by simp)
      (by simp)).bind fun _ => (cloudResume_believed hprov hlte hoff
      _).bind fun err => ?_
    -- nothing was believed connected, so nothing is stale any more
    refine Triple.pre (P := fun w => FreshLink w ∧
      (err = 0 → w.st.linkState = .connected)) ?_ fun w h =>
        ⟨h.1.weaken fun l hl => hl.1 rfl, h.2⟩
    refine (part (believed_connected_frame _ err) watchdogGuardStop_foot
      (by simp) (by simp)).bind fun _ => Triple.ite (fun hz => ?_)
      fun _ => Triple.ret fun w h => h.1.weaken fun _ hf => hf.elim
    exact hretry.pre fun w h => ⟨h.1, h.2 hz⟩
  · simp only [if_neg herr]
    exact Triple.ret fun w h => h

/-- `report_fix`. -/
theorem reportFix_believed (fix : Option TrackerFix) (wakeUptimeMs : Nat)
    (wr : WakeReason) :
    Triple (device cfg) FirstSendLive Reconnected AwakeLink
      (reportFix cfg fix wakeUptimeMs wr) fun _ => AwakeLink := by
  have F : Frame (device cfg) FirstSendLive Reconnected AwakeLink
    (Off [.send, .session]) (Keep [.linkState, .credsOk]) :=
    believed_frame _
  refine report_keeps F (by simp) (by simp) (by simp) (by simp) fun payload => ?_
  exact deliver_keeps F (by simp) (by simp)
    (sendReport_believed hprov hlte hoff payload) fun fix =>
      part F (cloudSendLocation_foot cfg fix) (by simp) (by simp)

-- ================================================================= the law

/-- The belief at every point of the loop. -/
theorem link_outline :
    Outline cfg FirstSendLive Reconnected fun pt => match pt with
      | .boot => fun _ => False
      | .top _ => AsleepLink
      | .woken => AsleepLink
      | .awake => AsleepLink
      | .bed _ => AsleepLink
      | _ => AwakeLink := by
  have A : Frame (device cfg) FirstSendLive Reconnected AwakeLink
    (Off [.send, .session]) (Keep [.linkState, .credsOk]) :=
    believed_frame _
  have S : Frame (device cfg) FirstSendLive Reconnected AsleepLink
    (Off [.send, .session]) (Keep [.linkState, .credsOk]) :=
    believed_frame _
  have N : Frame (device cfg) FirstSendLive Reconnected (fun _ => False)
    (Off []) (Keep []) := Frame.never
  exact
    { quiet := fun pt => by
        cases pt <;> first
          | exact quiet A (by simp) (by simp)
          | exact quiet S (by simp) (by simp)
          | exact quiet N (by simp) (by simp)
      setUp := Triple.never
      topOfCycle := fun wr => part S (topOfCycle_foot wr) (by simp) (by simp)
      recover := part S (recoverIfSilent_foot cfg) (by simp) (by simp)
      lte := part S (lteEnsureConnected_foot cfg) (by simp) (by simp)
      noLte := fun _ _ h => h
      offline := fun _ h => h
      resume := (cloudResume_believed hprov hlte hoff _).post
        fun _ _ h => h.1.weaken fun l hl => hl.2
      ledOn := part A (statusLedReport_foot cfg false) (by simp) (by simp)
      start := (part A (gnssStart_foot cfg) (by simp) (by simp)).post
        fun _ _ h => by split <;> exact h
      fetch := (part A (agnssFetchAndInject_foot cfg) (by simp)
        (by simp)).pre fun _ h => h.1
      wait := fun t => part A (gnssWaitFix_foot cfg t) (by simp) (by simp)
      fallback := part A (gnssFallback_foot cfg) (by simp) (by simp)
      report := reportFix_believed hprov hlte hoff
      unreported := fun _ h => h
      ledTold := fun b => part A (statusLedReport_foot cfg b) (by simp)
        (by simp)
      keepIf := fun mc => (part A (keepReporting_foot cfg _ mc) (by simp)
        (by simp)).post fun _ _ h => by split <;> exact h
      logLine := part A (powerVbusPresent_foot _) (by simp) (by simp)
      keepWhile := fun mc => (part A (keepReporting_foot cfg _ mc)
        (by simp) (by simp)).post fun _ _ h => by split <;> exact h
      holdOff := part A (holdOffMotion_foot cfg) (by simp) (by simp)
      stop := part A (gnssStop_foot cfg) (by simp) (by simp)
      pause := fun _ => cloudPause_believed hprov
      sleep := fun site => part S (batterySleep_foot cfg site) (by simp)
        (by simp) }

/-- No two sends of which the first was refused stand without a connect
or a resume between them, in every run of `main`'s loop in which no
report's first send is made over a dead session that is believed
connected. -/
theorem sends_reconnected {n fuel : Nat} {wr : WakeReason} {w : Tracker}
    (hcreds : w.st.credsOk = true) (hlog : w.log = [])
    {c : P Int × Tracker}
    (hr : Reach (device cfg) (mainLoop cfg fuel n wr) w c)
    (hG : Always FirstSendLive c.2.log) : Always Reconnects c.2.log := by
  have O := link_outline hprov hlte hoff
  have hk : Reconnected w := by
    rw [Reconnected, hlog]
    trivial
  have hs : stale w.log = false := by rw [hlog]; rfl
  exact (O.mainLoop fuel n wr).reach (.of_not_stale hk hcreds hs) hk hr hG

omit hprov hlte hoff

/-- A refused send, a connect and a retry that is accepted. -/
theorem sends_reconnected_unsteady :
    (playLoop fixless (unsteady true) 1 0 300 (ready fixless)).2.log.any
      (fun e => sessionWord e == some true) = true ∧
    Always Reconnects
      (playLoop fixless (unsteady true) 1 0 300 (ready fixless)).2.log :=
  ⟨by decide +kernel, sends_reconnected rfl rfl rfl rfl rfl
    (playLoop_reach fixless (unsteady true) 1 0 300 (ready fixless))
    (by decide +kernel)⟩

/-- The session dies under a connected link, and the retry is made over
it. -/
theorem retry_over_dead_session :
    ∃ w c, w.st.credsOk = true ∧ w.log = [] ∧
      Reach (device fixless) (mainLoop fixless 0 1 .boot) w c ∧
      ¬Always Reconnects c.2.log :=
  ⟨ready fixless, _, rfl, rfl,
    playLoop_reach fixless (unsteady false) 1 0 300 (ready fixless),
    by decide +kernel⟩

end GpsTracker
