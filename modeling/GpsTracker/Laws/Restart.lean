/-
A modem restart and the link over it (main.c, cloud_nrf.c).

`recover_if_silent` takes the modem offline and back and tells nobody.
What happens to the next report depends on what `link_state` held then:
a link gone or paused is connected or resumed again by the next
`cloud_resume`, while one still believed connected is left as it is, and
the report goes out over the session from before the restart.
`cloud_pause` leaves a link open where the library cannot keep it or the
pause fails, and it is the cycles of such links that go silent.

# The invariant

A restart left behind by no connect or resume is carried along exactly
while `link_state` is connected; awake, after `cloud_resume`, there is no
other.
-/
import GpsTracker.Run.Script

namespace GpsTracker

open Proc

variable {cfg : Config}

/-- What an event says of the link: the modem was restarted under it, or
a connect or a resume was made. -/
def relinkWord : Ev → Option Bool
  | .call _ _ (.funcModeSet .normal) _ => some false
  | .call _ _ .coapConnect _ => some true
  | .call _ _ .coapResume _ => some true
  | _ => none

/-- A connect or a resume was made since the last restart of the modem. -/
def relinked (l : Trace) : Bool := latest relinkWord true l

/-- A send has a connect or a resume between it and the last restart. -/
def overNewLink : Ev → Trace → Bool
  | .call _ _ (.jsonMessageSend _) _, l => relinked l
  | _, _ => true

abbrev OverNewLink (e : Ev) (l : Trace) : Prop := overNewLink e l

/-- What an event says of a restart under a connected link: it was one or
it was not, or the link was paused since. -/
def carriedWord : Ev → Option Bool
  | .call s _ (.funcModeSet .normal) _ => some (s.linkState == .connected)
  | .call _ _ .coapPause r => if r = (0 : Int) then some false else none
  | _ => none

/-- The last restart found `link_state` connected, and no pause succeeded
since. -/
def carried (l : Trace) : Bool := latest carriedWord false l

/-- No send is made over a link carried over a restart. -/
def linkNotCarried : Ev → Trace → Bool
  | .call _ _ (.jsonMessageSend _) _, l => !carried l
  | _, _ => true

abbrev LinkNotCarried (e : Ev) (l : Trace) : Prop := linkNotCarried e l

-- =============================================================== assertions

/-- The promise at every step: the two say the same of every send. -/
abbrev Agreeing (w : Tracker) : Prop :=
  Always (fun e l => OverNewLink e l ↔ LinkNotCarried e l) w.log

/-- A restart under an old link is carried while the link is connected. -/
structure Carrying (w : Tracker) : Prop where
  kept : Agreeing w
  creds : w.st.credsOk = true
  carries : carried w.log = (!relinked w.log && w.st.linkState == .connected)

/-- Awake: a link that is not connected is a new one. -/
def CarryingAwake (w : Tracker) : Prop :=
  Carrying w ∧ (relinked w.log = false → w.st.linkState = .connected)

/-- Awake, the two say the same of a send. -/
theorem CarryingAwake.agree {w : Tracker} (h : CarryingAwake w) :
    relinked w.log = !carried w.log := by
  rw [h.1.carries]
  cases hr : relinked w.log with
  | true => rfl
  | false => simp [h.2 hr]

/-- The groups that decide. -/
abbrev relinkGroups : List Group := [.session, .funcMode]

private theorem relink_call {o : Op} (h : Off relinkGroups o)
    (s : Statics) (d : Dev) (r : o.Ret) (l : Trace) :
    relinked (.call s d o r :: l) = relinked l
      ∧ carried (.call s d o r :: l) = carried l := by
  have hsession : group o ≠ .session := h.ne (by simp)
  have hmode : group o ≠ .funcMode := h.ne (by simp)
  cases o with
  | funcModeSet m =>
      cases m with
      | activateGnss => exact ⟨latest_none rfl, latest_none rfl⟩
      | offline | normal => exact absurd rfl hmode
  | coapConnect | coapDisconnect | coapPause | coapResume =>
      exact absurd rfl hsession
  | _ => exact ⟨latest_none rfl, latest_none rfl⟩

/-- A call other than a send says nothing. -/
private theorem agree_call {o : Op} (h : group o ≠ .send) (s : Statics)
    (d : Dev) (r : o.Ret) (l : Trace) :
    OverNewLink (.call s d o r) l ↔ LinkNotCarried (.call s d o r) l := by
  cases o <;> first
    | exact Iff.rfl
    | exact absurd rfl h

/-- Where the two records agree, they agree on every event. -/
private theorem agree_of {l : Trace} (h : relinked l = !carried l)
    (e : Ev) : OverNewLink e l ↔ LinkNotCarried e l := by
  cases e with
  | env s d a => exact Iff.rfl
  | call s d o r =>
      cases o with
      | jsonMessageSend envelope =>
          show relinked l = true ↔ (!carried l) = true
          rw [h]
      | _ => exact Iff.rfl

theorem carrying_frame :
    Frame (device cfg) Free Agreeing Carrying (Off (.send :: relinkGroups))
      (Keep [.linkState, .credsOk]) where
  stable := fun _ _ h _ _ => ⟨⟨Iff.rfl, h.kept⟩, h.creds, h.carries⟩
  calls := by
    intro w o r ho h _ _
    obtain ⟨hr, hc⟩ := relink_call (ho.mono (by simp)) w.st w.dev r w.log
    refine ⟨⟨agree_call (ho.ne (by simp)) .., h.kept⟩, h.creds, ?_⟩
    show carried (_ :: w.log) = (!relinked (_ :: w.log) && _)
    rw [hr, hc]
    exact h.carries
  writes := by
    intro w f hf h
    have hl : (f w.st).linkState = w.st.linkState :=
      hf .linkState (by simp)
    have hc : (f w.st).credsOk = w.st.credsOk := hf .credsOk (by simp)
    refine ⟨h.kept, hc.trans h.creds, ?_⟩
    show carried w.log = (!relinked w.log && (f w.st).linkState == _)
    rw [hl]
    exact h.carries
  gives := fun _ h => h.kept

/-- Carrying, with `q` of `link_state`. -/
theorem carrying_static (q : LinkState → Prop) :
    Frame (device cfg) Free Agreeing
      (fun w => Carrying w ∧ q w.st.linkState)
      (Off (.send :: relinkGroups)) (Keep [.linkState, .credsOk]) := by
  refine keeps_static carrying_frame (q := fun s => q s.linkState)
    fun s s' hk hq => ?_
  have hl : s'.linkState = s.linkState := hk .linkState (by simp)
  rw [hl]
  exact hq

/-- Awake a send may be made, too. -/
theorem carryingAwake_frame :
    Frame (device cfg) Free Agreeing CarryingAwake (Off relinkGroups)
      (Keep [.linkState, .credsOk]) where
  stable := fun _ _ h _ _ =>
    ⟨⟨⟨Iff.rfl, h.1.kept⟩, h.1.creds, h.1.carries⟩, h.2⟩
  calls := by
    intro w o r ho h _ _
    obtain ⟨hr, hc⟩ := relink_call ho w.st w.dev r w.log
    refine ⟨⟨⟨agree_of h.agree _, h.1.kept⟩, h.1.creds, ?_⟩,
      fun hn => h.2 (hr ▸ hn)⟩
    show carried (_ :: w.log) = (!relinked (_ :: w.log) && _)
    rw [hr, hc]
    exact h.1.carries
  writes := by
    intro w f hf h
    have hl : (f w.st).linkState = w.st.linkState :=
      hf .linkState (by simp)
    have hc : (f w.st).credsOk = w.st.credsOk := hf .credsOk (by simp)
    refine ⟨⟨h.1.kept, hc.trans h.1.creds, ?_⟩, fun hn => hl.trans (h.2 hn)⟩
    show carried w.log = (!relinked w.log && (f w.st).linkState == _)
    rw [hl]
    exact h.1.carries
  gives := fun _ h => h.1.kept

-- ================================================================= the link

/-- A connect or a resume has been made, and nothing is carried. -/
structure Relinked (w : Tracker) : Prop where
  kept : Agreeing w
  creds : w.st.credsOk = true
  relinked : relinked w.log = true
  carried : carried w.log = false

theorem Relinked.awake {w : Tracker} (h : Relinked w) : CarryingAwake w := by
  refine ⟨⟨h.kept, h.creds, ?_⟩, fun hn => ?_⟩
  · rw [h.relinked, h.carried]
    rfl
  · rw [h.relinked] at hn
    cases hn

theorem relinked_frame :
    Frame (device cfg) Free Agreeing Relinked
      (fun o => Off relinkGroups o ∨ o = .coapDisconnect)
      (Keep [.credsOk]) where
  stable := fun _ _ h _ _ => ⟨⟨Iff.rfl, h.kept⟩, h.creds, h.relinked, h.carried⟩
  calls := by
    intro w o r ho h _ _
    have hword : relinked (.call w.st w.dev o r :: w.log) = relinked w.log
        ∧ carried (.call w.st w.dev o r :: w.log) = carried w.log := by
      rcases ho with ho | rfl
      · exact relink_call ho ..
      · exact ⟨latest_none rfl, latest_none rfl⟩
    have hagree : relinked w.log = !carried w.log := by
      rw [h.relinked, h.carried]
      rfl
    exact ⟨⟨agree_of hagree _, h.kept⟩, h.creds, hword.1.trans h.relinked,
      hword.2.trans h.carried⟩
  writes := by
    intro w f hf h
    have hc : (f w.st).credsOk = w.st.credsOk := hf .credsOk (by simp)
    exact ⟨h.kept, hc.trans h.creds, h.relinked, h.carried⟩
  gives := fun _ h => h.kept

/-- A connect or a resume under a link that is not connected. -/
private theorem relink {o : Op} (ho : o = .coapConnect ∨ o = .coapResume) :
    Triple (device cfg) Free Agreeing
      (fun w => Carrying w ∧ w.st.linkState ≠ .connected) (call o)
      fun _ => Relinked := by
  refine Triple.op (carrying_static (· ≠ .connected)).stable
    fun w r h _ _ => ?_
  obtain ⟨h, hl⟩ := h
  have hnone : carried w.log = false := by
    rw [h.carries]
    simp [hl]
  have hnew : Relinked (w.called (device cfg) o r) := by
    rcases ho with rfl | rfl
    · exact ⟨⟨Iff.rfl, h.kept⟩, h.creds, latest_some rfl,
        (latest_none rfl).trans hnone⟩
    · exact ⟨⟨Iff.rfl, h.kept⟩, h.creds, latest_some rfl,
        (latest_none rfl).trans hnone⟩
  exact ⟨hnew.kept, hnew⟩

private theorem setLink_relinked (l : LinkState) :
    Triple (device cfg) Free Agreeing Relinked (Nrf.setLink l)
      fun _ => Relinked :=
  Triple.modify fun _ h =>
    ⟨h.kept, h.kept, h.creds, h.relinked, h.carried⟩

/-- The handshake at the end of `cloud_resume`. -/
theorem connect_relinked :
    Triple (device cfg) Free Agreeing
      (fun w => Carrying w ∧ w.st.linkState ≠ .connected) (Nrf.connect cfg)
      fun _ => Relinked := by
  refine (part (carrying_static (· ≠ .connected)) (modemTimeWait_foot cfg)
    (by simp) (by simp)).bind fun _ => (relink (.inl rfl)).bind fun err =>
    Triple.ite (fun _ => ?_) fun _ => ?_
  · refine (relinked_frame.ask (R := fun _ _ => True) (.inr rfl)
      fun _ _ _ _ => trivial).bind fun _ => ?_
    refine ((setLink_relinked .disconnected).pre fun w h => h.1).bind
      fun _ => Triple.ret fun w h => h
  · exact (setLink_relinked .connected).bind
      fun _ => Triple.ret fun w h => h

variable (hprov : cfg.cloudProvider = .nrfcloud)
variable (hlte : cfg.skipLte = false) (hoff : cfg.offlineDebug = false)

include hprov

/-- `cloud_pause`. -/
theorem cloudPause_carrying :
    Triple (device cfg) Free Agreeing Carrying (cloudPause cfg)
      fun _ => Carrying := by
  have F : Frame (device cfg) Free Agreeing Carrying
    (Off (.send :: relinkGroups)) (Keep [.linkState, .credsOk]) :=
    carrying_frame
  have hbody : Triple (device cfg) Free Agreeing Carrying
      (Nrf.cloudPause cfg) fun _ => Carrying := by
    refine Triple.get fun s => Triple.ite
      (fun _ => Triple.ret fun w h => h.1) fun _ => ?_
    refine ((plain_keeps F (by rfl) (by simp)).pre fun w h => h.1).bind
      fun b => Triple.ite (fun _ => Triple.ret fun w h => h) fun _ => ?_
    refine Triple.bind (R := fun (r : Int) w => Agreeing w ∧
      w.st.credsOk = true ∧
        if r = 0 then carried w.log = false else Carrying w) ?_ fun r => ?_
    · refine Triple.op F.stable fun w r h _ _ => ?_
      have hk : Agreeing (w.called (device cfg) .coapPause r) :=
        ⟨Iff.rfl, h.kept⟩
      refine ⟨hk, hk, h.creds, ?_⟩
      split
      -- paused: nothing is carried any more, and the write says so
      case isTrue hr => exact latest_some (by simp [carriedWord, hr])
      case isFalse hr =>
        have hsame : carried (w.called (device cfg) .coapPause r).log
            = carried w.log := latest_none (by simp [carriedWord, hr])
        exact ⟨hk, h.creds, hsame.trans h.carries⟩
    · refine Triple.ite (fun hr => Triple.ret fun w h => ?_) fun hr => ?_
      · have h' := h.2.2
        rwa [if_neg hr] at h'
      · rw [Decidable.not_not] at hr
        refine Triple.modify fun w h => ?_
        have h' := h.2.2
        rw [if_pos hr] at h'
        refine ⟨h.1, h.1, h.2.1, h'.trans ?_⟩
        simp [World.wrote]
  have hnrf : cloudPause cfg = scope .cloudPause (Nrf.cloudPause cfg) := by
    unfold cloudPause
    rw [hprov]
  rw [hnrf]
  exact triple_scope (enter_keeps F (by simp)) hbody
    fun r => leave_keeps F (by simp)

include hlte hoff

/-- `cloud_resume`: the link stays connected or is a new one. -/
theorem cloudResume_carrying :
    Triple (device cfg) Free Agreeing Carrying (cloudResume cfg)
      fun _ => CarryingAwake := by
  have hbody : Triple (device cfg) Free Agreeing Carrying
      (Nrf.cloudResume cfg) fun _ => CarryingAwake := by
    unfold Nrf.cloudResume
    rw [hlte, hoff]
    refine Triple.get fun s => Triple.ite (fun hc => ?_) fun _ =>
      Triple.ite (fun hup => ?_) fun hup => Triple.ite (fun hparked => ?_)
      fun hparked => ?_
    · intro w h
      obtain ⟨h, rfl⟩ := h
      simp [h.creds] at hc
    · refine Triple.ret fun w h => ?_
      obtain ⟨h, rfl⟩ := h
      exact ⟨h, fun _ => hup⟩
    · refine ((relink (.inr rfl)).pre fun w h => ?_).bind fun err =>
        Triple.ite (fun _ => ?_) fun _ => ?_
      · obtain ⟨h, rfl⟩ := h
        exact ⟨h, hup⟩
      · exact (setLink_relinked .connected).bind fun _ =>
          Triple.ret fun w h => h.awake
      -- a resume that fails leaves the link down, and a connect is tried
      · refine Triple.bind (R := fun _ w => Carrying w ∧
          w.st.linkState ≠ .connected) ?_ fun _ =>
          connect_relinked.post fun _ w h => h.awake
        refine Triple.modify fun w h => ⟨h.kept, ⟨h.kept, h.creds, ?_⟩, nofun⟩
        show carried w.log = _
        rw [h.carried]
        simp [World.wrote]
    · refine (connect_relinked.pre fun w h => ?_).post
        fun _ w h => h.awake
      obtain ⟨h, rfl⟩ := h
      exact ⟨h, hup⟩
  have hnrf : cloudResume cfg = scope .cloudResume (Nrf.cloudResume cfg) := by
    unfold cloudResume
    rw [hprov]
  rw [hnrf]
  exact triple_scope (enter_keeps carrying_frame (by simp)) hbody
    fun r => leave_keeps carryingAwake_frame (by simp)

/-- `report_fix`. -/
theorem reportFix_carrying (fix : Option TrackerFix) (wakeUptimeMs : Nat)
    (wr : WakeReason) :
    Triple (device cfg) Free Agreeing CarryingAwake
      (reportFix cfg fix wakeUptimeMs wr) fun _ => CarryingAwake := by
  have A : Frame (device cfg) Free Agreeing CarryingAwake
    (Off relinkGroups) (Keep [.linkState, .credsOk]) := carryingAwake_frame
  refine report_keeps A (by simp) (by simp) (by simp) (by simp) fun payload => ?_
  exact deliver_keeps A (by simp) (by simp)
    (sendReport_keeps A (by simp) (by simp) (by simp)
      ((cloudResume_carrying hprov hlte hoff).pre fun _ h => h.1)) fun fix =>
    part A (cloudSendLocation_foot cfg fix) (by simp) (by simp)

omit hprov hlte hoff

/-- `recover_if_silent`: a restart is carried by a connected link. -/
theorem recoverIfSilent_carrying :
    Triple (device cfg) Free Agreeing Carrying (recoverIfSilent cfg)
      fun _ => Carrying := by
  have F : Frame (device cfg) Free Agreeing Carrying
    (Off (.send :: relinkGroups)) (Keep [.linkState, .credsOk]) :=
    carrying_frame
  have hmode : ∀ m, Triple (device cfg) Free Agreeing Carrying
      (call (.funcModeSet m)) fun _ => Carrying := by
    intro m
    refine Triple.op F.stable fun w r h _ _ => ?_
    have hk : Agreeing (w.called (device cfg) (.funcModeSet m) r) :=
      ⟨Iff.rfl, h.kept⟩
    refine ⟨hk, hk, h.creds, ?_⟩
    -- `normal` registers anew: from here on a connected link is one across a
    -- restart
    cases m with
    | normal => rfl
    | offline | activateGnss =>
        show carried (_ :: w.log) = (!relinked (_ :: w.log) && _)
        rw [carried, relinked, latest_none rfl, latest_none rfl]
        exact h.carries
  refine triple_scope (enter_keeps F (by simp)) ?_
    fun r => leave_keeps F (by simp)
  refine Triple.get fun s => ((plain_keeps F (by rfl) (by simp)).pre
    fun w h => h.1).bind fun now => Triple.ite (fun _ => ?_) fun _ =>
    Triple.ite (fun _ => ?_) fun _ => Triple.ite
    (fun _ => Triple.ret fun w h => h) fun _ => ?_
  · exact Triple.modify fun _ h => ⟨h.kept, h.kept, h.creds, h.carries⟩
  -- the reboot does not return
  · exact (part F (watchdogPhase_foot _) (by simp) (by simp)).bind fun _ =>
      (plain_keeps F (by rfl) (by simp)).bind fun _ =>
      (part F (p := call .sysReboot) (g := [.reboot]) (v := [])
        (by simp) (by simp) (by simp)).bind fun _ => Triple.halt
  · refine Triple.bind (R := fun _ => Carrying) (Triple.modify fun _ h =>
      ⟨h.kept, h.kept, h.creds, h.carries⟩) fun _ => ?_
    exact (hmode .offline).bind fun _ => (plain_keeps F (by rfl)
      (by simp)).bind fun _ => (hmode .normal).bind fun _ =>
      Triple.ret fun w h => h

-- ================================================================= the law

include hprov hlte hoff

theorem restart_outline :
    Outline cfg Free Agreeing fun pt => match pt with
      | .boot => fun _ => False
      | .top _ => Carrying
      | .woken => Carrying
      | .awake => Carrying
      | .bed _ => Carrying
      | _ => CarryingAwake := by
  have A : Frame (device cfg) Free Agreeing CarryingAwake
    (Off relinkGroups) (Keep [.linkState, .credsOk]) := carryingAwake_frame
  have S : Frame (device cfg) Free Agreeing Carrying
    (Off (.send :: relinkGroups)) (Keep [.linkState, .credsOk]) :=
    carrying_frame
  have N : Frame (device cfg) Free Agreeing (fun _ => False)
    (Off []) (Keep []) := Frame.never
  exact
    { quiet := fun pt => by
        cases pt <;> first
          | exact quiet A (by simp) (by simp)
          | exact quiet S (by simp) (by simp)
          | exact quiet N (by simp) (by simp)
      setUp := Triple.never
      topOfCycle := fun wr => part S (topOfCycle_foot wr) (by simp) (by simp)
      recover := recoverIfSilent_carrying
      lte := part S (lteEnsureConnected_foot cfg) (by simp) (by simp)
      noLte := fun _ _ h => h
      offline := fun _ h => h
      resume := cloudResume_carrying hprov hlte hoff
      ledOn := part A (statusLedReport_foot cfg false) (by simp) (by simp)
      start := (part A (gnssStart_foot cfg) (by simp) (by simp)).post
        fun _ _ h => by split <;> exact h
      fetch := (part A (agnssFetchAndInject_foot cfg) (by simp)
        (by simp)).pre fun _ h => h.1
      wait := fun t => part A (gnssWaitFix_foot cfg t) (by simp) (by simp)
      fallback := part A (gnssFallback_foot cfg) (by simp) (by simp)
      report := reportFix_carrying hprov hlte hoff
      unreported := fun _ h => h
      ledTold := fun b => part A (statusLedReport_foot cfg b) (by simp)
        (by simp)
      keepIf := fun mc => (part A (keepReporting_foot cfg _ mc) (by simp)
        (by simp)).post fun _ _ h => by split <;> exact h
      logLine := part A (powerVbusPresent_foot _) (by simp) (by simp)
      keepWhile := fun mc => (part A (keepReporting_foot cfg _ mc)
        (by simp) (by simp)).post fun _ _ h => by split <;> exact h
      holdOff := part A (holdOffMotion_foot cfg) (by simp) (by simp)
      stop := part A (gnssStop_foot cfg) (by simp) (by simp)
      pause := fun _ => (cloudPause_carrying hprov).pre fun _ h => h.1
      sleep := fun site => part S (batterySleep_foot cfg site) (by simp)
        (by simp) }

/-- A run of `main`'s loop has a connect or a resume between every restart
of the modem and the next send exactly where it sends nothing over a link
that a restart found connected and that was not paused since. -/
theorem restart_relinks_iff {n fuel : Nat} {wr : WakeReason} {w : Tracker}
    (hcreds : w.st.credsOk = true) (hlog : w.log = [])
    {c : P Int × Tracker}
    (hr : Reach (device cfg) (mainLoop cfg fuel n wr) w c) :
    Always OverNewLink c.2.log ↔ Always LinkNotCarried c.2.log := by
  have O := restart_outline hprov hlte hoff
  have hk : Agreeing w := by
    rw [Agreeing, hlog]
    trivial
  have hw : Carrying w := by
    refine ⟨hk, hcreds, ?_⟩
    rw [hlog]
    rfl
  exact always_congr
    ((O.mainLoop fuel n wr).reach (J := Agreeing) hw hk hr (always_free _))

omit hprov hlte hoff

/-- A cloud out of reach: the restart finds no link, and the second
cycle's send comes after its connect. -/
theorem restart_relinks_unreachable :
    let c := playLoop hasty (unreachable false) 2 0 650 (ready hasty)
    relinked c.2.log = true ∧
      c.2.log.any (fun e => relinkWord e == some false) = true ∧
      Always OverNewLink c.2.log :=
  ⟨by decide +kernel, by decide +kernel,
    (restart_relinks_iff rfl rfl rfl rfl rfl
      (playLoop_reach hasty (unreachable false) 2 0 650 _)).mpr
      (by decide +kernel)⟩

/-- A session that cannot be kept open and whose sends all fail. -/
def stuck : Script Statics Dev Move Calls := fun w o =>
  match o with
  | .keepopenIsSupported => ([], false)
  | .jsonMessageSend _ => ([], - EIO)
  | o => calm w o

/-- A restart under a connected link: the next report goes out over it. -/
theorem send_over_old_link :
    ∃ cfg w c, cfg.cloudProvider = .nrfcloud ∧ cfg.skipLte = false ∧
      cfg.offlineDebug = false ∧ w.st.credsOk = true ∧ w.log = [] ∧
      Reach (device cfg) (mainLoop cfg 0 2 .boot) w c ∧
      ¬Always OverNewLink c.2.log :=
  ⟨hasty, ready hasty, _, rfl, rfl, rfl, rfl, rfl,
    playLoop_reach hasty stuck 2 0 650 _, by decide +kernel⟩

end GpsTracker
