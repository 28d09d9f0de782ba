/-
No traffic on an uninitialised transport (cloud_nrf.c, agnss.c, main.c).

`nrf_cloud_coap_init` may fail, or may never be called: `cloud_init`
returns before it in GNSS-only mode, in an offline build and without
credentials, and `main` goes on after every one of its failures. What
holds later calls back is `creds_ok` in `cloud_resume` and the offline
build's own tests. Nothing holds back a telemetry send made without
credentials, a connect after a failed initialisation, or the assistance
fetch of an offline build, whose link counts as connected. The law below
holds of the runs in which none of the three comes up.

# The invariant

Until the transport is initialised, `link_state` is disconnected or the
build is offline, and either is enough for `cloud_pause`.
-/
import GpsTracker.Run.Script

namespace GpsTracker

open Proc

variable {cfg : Config}

/-- The library's calls that need an initialised transport. -/
def overTransport : Op → Bool
  | .coapConnect | .coapResume | .coapPause => true
  | .jsonMessageSend _ | .locationSend _ | .agnssDataGet _ => true
  | _ => false

/-- A successful `nrf_cloud_coap_init`. -/
def initialises : Ev → Bool
  | .call _ _ (.lib .nrfCloudCoapInit) r => r == (0 : Int)
  | _ => false

/-- The transport was initialised. -/
def coapReady (l : Trace) : Bool := l.any initialises

/-- A call over the transport comes after its initialisation. -/
def onInitialised : Ev → Trace → Bool
  | .call _ _ o _, l => !overTransport o || coapReady l
  | .env .., _ => true

abbrev OnInitialised (e : Ev) (l : Trace) : Prop := onInitialised e l

/-- Until the transport is initialised, no `cloud_resume` finds
credentials and no report is sent, unless the build keeps them off the
network, and no assistance fetch has a request to make. -/
def heldBack (cfg : Config) : Ev → Trace → Bool
  | .call s _ (.enter .cloudResume) _, l =>
      coapReady l || cfg.skipLte || cfg.offlineDebug || !s.credsOk
  | .call _ _ (.enter .firstSend) _, l =>
      coapReady l || cfg.offlineDebug
  | .call _ _ .agnssRequestGet asked, l =>
      coapReady l || (agnssFrame cfg asked).isNone
  | _, _ => true

/-- `heldBack` as a proviso on the steps of a run. -/
abbrev HeldBack (cfg : Config) (e : Ev) (l : Trace) : Prop := heldBack cfg e l

-- =============================================================== assertions

/-- The promise at every step. -/
abbrev Quiet (w : Tracker) : Prop := Always OnInitialised w.log

/-- An initialised transport. -/
def Initialised (w : Tracker) : Prop :=
  Quiet w ∧ coapReady w.log = true

/-- The transport is initialised, or nothing counts on it. -/
def Guarded (cfg : Config) (w : Tracker) : Prop :=
  Quiet w ∧ (coapReady w.log = true ∨ cfg.offlineDebug = true
    ∨ w.st.linkState = .disconnected)

/-- The transport is initialised, or the build is offline. -/
def Sendable (cfg : Config) (w : Tracker) : Prop :=
  Quiet w ∧ (coapReady w.log = true ∨ cfg.offlineDebug = true)

/-- Reports may go over an initialised transport, -/
theorem Initialised.sendable {w : Tracker} (h : Initialised w) :
    Sendable cfg w := ⟨h.1, .inl h.2⟩

/-- and where they may go nothing counts on one that is missing. -/
theorem Sendable.guarded {w : Tracker} (h : Sendable cfg w) :
    Guarded cfg w := ⟨h.1, h.2.imp_right .inl⟩

/-- The groups of the calls that need the transport. -/
abbrev transportGroups : List Group :=
  [.session, .send, .location, .download]

/-- Once initialised, the transport stays so. -/
private theorem coapReady_cons {l : Trace} (e : Ev)
    (h : coapReady l = true) : coapReady (e :: l) = true := by
  rw [coapReady, List.any_cons]
  exact Bool.or_eq_true_iff.mpr (.inr h)

private theorem onInitialised_call {o : Op} (h : Off transportGroups o)
    (s : Statics) (d : Dev) (r : o.Ret) (l : Trace) :
    OnInitialised (.call s d o r) l := by
  have hover : overTransport o = false := by
    cases o <;> first | rfl | exact absurd h (by simp [Off])
  simp [OnInitialised, onInitialised, hover]

/-- Nothing undoes the initialisation. -/
theorem initialised_frame :
    Frame (device cfg) (HeldBack cfg) Quiet Initialised (fun _ => True)
      fun _ _ => True where
  stable := fun _ _ h _ _ => ⟨⟨rfl, h.1⟩, coapReady_cons _ h.2⟩
  calls := by
    intro w o r _ h _ _
    have he : OnInitialised (.call w.st w.dev o r) w.log := by
      simp [OnInitialised, onInitialised, h.2]
    exact ⟨⟨he, h.1⟩, coapReady_cons _ h.2⟩
  writes := fun _ _ _ h => h
  gives := fun _ h => h.1

/-- Over an initialised transport everything is allowed. -/
theorem initialised_keeps {α : Type} (p : P α) :
    Triple (device cfg) (HeldBack cfg) Quiet Initialised p
      fun _ => Initialised := initialised_frame.invariant p

/-- Neither reason to send is taken away, -/
theorem sendable_frame (cfg : Config) :
    Frame (device cfg) (HeldBack cfg) Quiet (Sendable cfg)
      (Off transportGroups) (Keep []) where
  stable := fun _ _ h _ _ =>
    ⟨⟨rfl, h.1⟩, h.2.imp_left (coapReady_cons _)⟩
  calls := fun _ _ _ ho h _ _ =>
    ⟨⟨onInitialised_call ho .., h.1⟩, h.2.imp_left (coapReady_cons _)⟩
  writes := fun _ _ _ h => h
  gives := fun _ h => h.1

/-- and a guard lasts while the link state is not written. -/
theorem guarded_frame (cfg : Config) :
    Frame (device cfg) (HeldBack cfg) Quiet (Guarded cfg)
      (Off transportGroups) (Keep [.linkState]) where
  stable := fun _ _ h _ _ =>
    ⟨⟨rfl, h.1⟩, h.2.imp_left (coapReady_cons _)⟩
  calls := fun _ _ _ ho h _ _ =>
    ⟨⟨onInitialised_call ho .., h.1⟩, h.2.imp_left (coapReady_cons _)⟩
  writes := by
    intro w f hf h
    have hl : (f w.st).linkState = w.st.linkState :=
      hf .linkState (by simp)
    refine ⟨h.1, h.2.imp_right fun h => h.imp_right fun h => ?_⟩
    exact hl.trans h
  gives := fun _ h => h.1

/-- A guarded link that counts as connected is an initialised one, unless
the build is offline. -/
theorem Guarded.ready {w : Tracker} (h : Guarded cfg w)
    (hoff : cfg.offlineDebug = false) (hl : w.st.linkState ≠ .disconnected) :
    Initialised w := by
  refine ⟨h.1, ?_⟩
  rcases h.2 with hi | ho | hd
  · exact hi
  · rw [hoff] at ho
    cases ho
  · exact absurd hd hl

-- ================================================================= the link

variable (hprov : cfg.cloudProvider = .nrfcloud)

include hprov

/-- `cloud_resume`, entered with the transport initialised or for a
reason not to use it. -/
theorem cloudResume_guarded :
    Triple (device cfg) (HeldBack cfg) Quiet (Guarded cfg) (cloudResume cfg)
      fun _ => Guarded cfg := by
  have F : Frame (device cfg) (HeldBack cfg) Quiet (Guarded cfg)
    (Off transportGroups) (Keep [.linkState]) := guarded_frame cfg
  let Idle : Tracker → Prop := fun w => Guarded cfg w ∧
    (cfg.skipLte = true ∨ cfg.offlineDebug = true ∨ w.st.credsOk = false)
  have henter : Triple (device cfg) (HeldBack cfg) Quiet (Guarded cfg)
      (call (.enter .cloudResume)) fun _ w => Initialised w ∨ Idle w := by
    refine Triple.op F.stable fun w r h hok hG => ?_
    have h' := F.calls w (.enter .cloudResume) r (by simp [Off]) h hok hG
    refine ⟨h'.1, ?_⟩
    have hstep : heldBack cfg (.call w.st w.dev (.enter .cloudResume) r)
        w.log = true := hG.1
    simp only [heldBack, Bool.or_eq_true, Bool.not_eq_true'] at hstep
    -- initialised, or held back by one of the three
    rcases hstep with ((hi | hs) | ho) | hc
    · exact .inl ⟨h'.1, coapReady_cons _ hi⟩
    · exact .inr ⟨h', .inl hs⟩
    · exact .inr ⟨h', .inr (.inl ho)⟩
    · exact .inr ⟨h', .inr (.inr hc)⟩
  -- held back, the source returns before any call of the transport
  have hidle : Triple (device cfg) (HeldBack cfg) Quiet Idle
      (Nrf.cloudResume cfg) fun _ => Guarded cfg := by
    refine Triple.ite (fun _ => Triple.ret fun w h => h.1) fun hlte =>
      Triple.ite (fun ho => ?_) fun ho => Triple.get fun s =>
      Triple.ite (fun _ => Triple.ret fun w h => h.1.1) fun hc => ?_
    · refine Triple.bind (R := fun _ => Guarded cfg)
        (Triple.modify fun w h => ?_) fun _ => Triple.ret fun w h => h
      exact ⟨h.1.1, h.1.1, .inr (.inl ho)⟩
    · intro w h
      obtain ⟨⟨-, hwhy⟩, rfl⟩ := h
      simp only [Bool.not_eq_true] at hlte ho
      simp_all
  have hbody : Triple (device cfg) (HeldBack cfg) Quiet
      (fun w => Initialised w ∨ Idle w) (Nrf.cloudResume cfg)
      fun _ => Guarded cfg :=
    .or ((initialised_keeps _).post fun _ w h => h.sendable.guarded) hidle
  have hrun : Triple (device cfg) (HeldBack cfg) Quiet (Guarded cfg)
      (scope .cloudResume (Nrf.cloudResume cfg)) fun _ => Guarded cfg :=
    triple_scope henter hbody fun r => leave_keeps F (by simp)
  have hnrf : cloudResume cfg = scope .cloudResume (Nrf.cloudResume cfg) := by
    unfold cloudResume
    rw [hprov]
  rw [hnrf]
  exact hrun

/-- `cloud_pause` acts on a connected link only. -/
theorem cloudPause_guarded :
    Triple (device cfg) (HeldBack cfg) Quiet (Guarded cfg) (cloudPause cfg)
      fun _ => Guarded cfg := by
  have F : Frame (device cfg) (HeldBack cfg) Quiet (Guarded cfg)
    (Off transportGroups) (Keep [.linkState]) := guarded_frame cfg
  have hbody : Triple (device cfg) (HeldBack cfg) Quiet (Guarded cfg)
      (Nrf.cloudPause cfg) fun _ => Guarded cfg := by
    refine Triple.get fun s => Triple.ite
      (fun _ => Triple.ret fun w h => h.1) fun hs => ?_
    have hup : s.linkState = .connected ∧ cfg.offlineDebug = false := by
      simpa using hs
    refine ((initialised_keeps _).pre fun w h => ?_).post
      fun _ w h => h.sendable.guarded
    obtain ⟨h, rfl⟩ := h
    exact h.ready hup.2 (by simp [hup.1])
  have hnrf : cloudPause cfg = scope .cloudPause (Nrf.cloudPause cfg) := by
    unfold cloudPause
    rw [hprov]
  rw [hnrf]
  exact triple_scope (enter_keeps F (by simp)) hbody
    fun r => leave_keeps F (by simp)

-- ================================================================ the fetch

omit hprov

/-- The fetch downloads only with a frame to ask for. -/
theorem fetchAndInject_guarded :
    Triple (device cfg) (HeldBack cfg) Quiet (Guarded cfg)
      (fetchAndInject cfg) fun _ => Guarded cfg := by
  have F : Frame (device cfg) (HeldBack cfg) Quiet (Guarded cfg)
    (Off transportGroups) (Keep [.linkState]) := guarded_frame cfg
  refine Triple.bind (R := fun asked w => Guarded cfg w ∧
    ((agnssFrame cfg asked).isSome = true → Initialised w)) ?_ fun asked => ?_
  · refine Triple.op F.stable fun w asked h hok hG => ?_
    have h' := F.calls w .agnssRequestGet asked (by simp [Off]) h hok hG
    refine ⟨h'.1, h', fun hsome => ⟨h'.1, coapReady_cons _ ?_⟩⟩
    have hstep : heldBack cfg (.call w.st w.dev .agnssRequestGet asked)
        w.log = true := hG.1
    simp only [heldBack, Bool.or_eq_true] at hstep
    rcases hstep with hi | hn
    · exact hi
    · rw [Option.isNone_iff_eq_none] at hn
      rw [hn] at hsome
      cases hsome
  · cases hf : agnssFrame cfg asked with
    | none => exact Triple.ret fun w h => h.1
    | some req =>
        refine ((initialised_keeps _).pre fun w h => ?_).post
          fun _ w h => h.sendable.guarded
        exact h.2 rfl

/-- The fetch around it: nothing else of it needs the transport. -/
theorem agnssFetchAndInject_guarded :
    Triple (device cfg) (HeldBack cfg) Quiet (Guarded cfg)
      (agnssFetchAndInject cfg) fun _ => Guarded cfg := by
  have F : Frame (device cfg) (HeldBack cfg) Quiet (Guarded cfg)
    (Off transportGroups) (Keep [.linkState]) := guarded_frame cfg
  refine triple_scope (enter_keeps F (by simp)) ?_
    fun r => leave_keeps F (by simp)
  refine Triple.ite (fun _ => Triple.ret fun w h => h) fun _ =>
    (part F (rateLimited_foot cfg) (by simp) (by simp)).bind fun b =>
    Triple.ite (fun _ => Triple.ret fun w h => h) fun _ => ?_
  have hfetch : Triple (device cfg) (HeldBack cfg) Quiet (Guarded cfg) (do
      watchdogGuardStart cfg.agnssBudgetSeconds
      let err ← fetchAndInject cfg
      watchdogGuardStop
      if cfg.agnssStopGnssDuringFetch then
        if (← gnssModemStart cfg .assistance) ≠ 0 then
          pure (- EIO)
        else
          pure err
      else
        pure err : P Int) fun _ => Guarded cfg := by
    refine (part F (watchdogGuardStart_foot _) (by simp) (by simp)).bind
      fun _ => fetchAndInject_guarded.bind fun err =>
      (part F watchdogGuardStop_foot (by simp) (by simp)).bind fun _ =>
      Triple.ite (fun _ => ?_) fun _ => Triple.ret fun w h => h
    refine (part F (gnssModemStart_foot cfg .assistance) (by simp)
      (by simp)).bind fun r => ?_
    exact Triple.ite (fun _ => Triple.ret fun w h => h)
      fun _ => Triple.ret fun w h => h
  refine Triple.ite (fun _ => ?_) fun _ => hfetch
  exact (part F gnssModemStop_foot (by simp) (by simp)).bind fun _ => hfetch

-- =============================================================== the report

include hprov

/-- A telemetry send: an offline build makes none. -/
theorem cloudSendTelemetry_sendable (payload : Text) :
    Triple (device cfg) (HeldBack cfg) Quiet (Sendable cfg)
      (cloudSendTelemetry cfg payload) fun err w => Sendable cfg w ∧
        (err = -EACCES ∨ err = -ENOTCONN → Initialised w) := by
  have hsend : cloudSendTelemetry cfg payload
      = Nrf.cloudSendTelemetry cfg payload := by
    unfold cloudSendTelemetry
    rw [hprov]
  have hoffline : cfg.offlineDebug = true →
      Triple (device cfg) (HeldBack cfg) Quiet (Sendable cfg)
        (Nrf.cloudSendTelemetry cfg payload) fun err w =>
          Sendable cfg w ∧
            (err = -EACCES ∨ err = -ENOTCONN → Initialised w) := by
    intro ho
    refine (plain_keeps (sendable_frame cfg) (by rfl) (by simp)).bind
      fun r => Triple.ite (fun _ => ?_) fun _ =>
        Triple.ite (fun _ => ?_) fun hn => absurd ho hn
    · exact Triple.ret fun w h => ⟨h, fun he => absurd he (by decide)⟩
    · exact Triple.ret fun w h => ⟨h, fun he => absurd he (by decide)⟩
  rw [hsend]
  intro w h
  obtain ⟨hk, hi | ho⟩ := h
  · exact ((initialised_keeps _).post fun _ w h =>
      ⟨h.sendable, fun _ => h⟩) w ⟨hk, hi⟩
  · exact hoffline ho w ⟨hk, .inr ho⟩

/-- `report_fix`'s send and its retry: once the first send is entered,
the transport is initialised or the build offline. -/
theorem sendReport_guarded (payload : Text) :
    Triple (device cfg) (HeldBack cfg) Quiet (Guarded cfg)
      (sendReport cfg payload) fun _ => Sendable cfg := by
  have F : Frame (device cfg) (HeldBack cfg) Quiet (Guarded cfg)
    (Off transportGroups) (Keep [.linkState]) := guarded_frame cfg
  have S : Frame (device cfg) (HeldBack cfg) Quiet (Sendable cfg)
    (Off transportGroups) (Keep []) := sendable_frame cfg
  have hfirst : Triple (device cfg) (HeldBack cfg) Quiet (Guarded cfg)
      (scope .firstSend (cloudSendTelemetry cfg payload)) fun err w =>
        Sendable cfg w ∧
          (err = -EACCES ∨ err = -ENOTCONN → Initialised w) := by
    refine triple_scope (Y := Sendable cfg) ?_
      (cloudSendTelemetry_sendable hprov payload) fun err => ?_
    · refine Triple.op F.stable fun w r h hok hG => ?_
      have h' := F.calls w (.enter .firstSend) r (by simp [Off]) h hok hG
      have hstep : heldBack cfg (.call w.st w.dev (.enter .firstSend) r)
          w.log = true := hG.1
      simp only [heldBack, Bool.or_eq_true] at hstep
      exact ⟨h'.1, h'.1, hstep.imp_left (coapReady_cons _)⟩
    · by_cases herr : err = -EACCES ∨ err = -ENOTCONN
      · refine ((initialised_keeps _).pre fun w h => h.2 herr).post
          fun _ w h => ⟨h.sendable, fun _ => h⟩
      · refine (leave_keeps S (by simp)).conseq (fun w h => h.1)
          fun _ w h => ⟨h, fun he => absurd he herr⟩
  refine hfirst.bind fun err => Triple.ite (fun herr => ?_)
    fun _ => Triple.ret fun w h => h.1
  exact ((initialised_keeps _).pre fun w h => h.2 herr).post
    fun _ w h => h.sendable

/-- `cloud_send_location`. -/
theorem cloudSendLocation_sendable (fix : TrackerFix) :
    Triple (device cfg) (HeldBack cfg) Quiet (Sendable cfg)
      (cloudSendLocation cfg fix) fun _ => Sendable cfg := by
  have hloc : cloudSendLocation cfg fix = Nrf.cloudSendLocation cfg fix := by
    unfold cloudSendLocation
    rw [hprov]
  have hoffline : cfg.offlineDebug = true →
      Triple (device cfg) (HeldBack cfg) Quiet (Sendable cfg)
        (Nrf.cloudSendLocation cfg fix) fun _ => Sendable cfg := fun ho =>
    Triple.ite (fun _ => Triple.ret fun w h => h) fun _ =>
      Triple.ite (fun _ => Triple.ret fun w h => h) fun hn => absurd ho hn
  rw [hloc]
  intro w h
  obtain ⟨hk, hi | ho⟩ := h
  · exact ((initialised_keeps _).post fun _ w h => h.sendable) w ⟨hk, hi⟩
  · exact hoffline ho w ⟨hk, .inr ho⟩

/-- The send leaves the transport initialised or the build offline, and so the
location may go as well. -/
theorem deliver_guarded (fix : Option TrackerFix) (payload : Text) :
    Triple (device cfg) (HeldBack cfg) Quiet (Guarded cfg)
      (deliver cfg fix payload) fun _ => Guarded cfg := by
  have S : Frame (device cfg) (HeldBack cfg) Quiet (Sendable cfg)
    (Off transportGroups) (Keep []) := sendable_frame cfg
  have htail : ∀ err : Int, Triple (device cfg) (HeldBack cfg) Quiet
      (Sendable cfg) (do
        watchdogFeed
        pure err : P Int) fun _ => Guarded cfg := fun err =>
    (part S watchdogFeed_foot (by simp) (by simp)).bind
      fun _ => Triple.ret fun w h => h.guarded
  refine (sendReport_guarded hprov payload).bind fun err =>
    Triple.ite (fun _ => ?_) fun _ => htail err
  refine (plain_keeps S (by rfl) (by simp)).bind fun now => ?_
  refine Triple.bind (R := fun _ => Sendable cfg)
    (Triple.modify fun w h => ⟨h.1, h⟩) fun _ => ?_
  cases fix with
  | none => exact htail err
  | some fix =>
      exact (cloudSendLocation_sendable hprov fix).bind fun _ => htail err

-- ================================================================= the law

/-- Main is guarded throughout: it starts disconnected. -/
theorem transport_outline :
    Outline cfg (HeldBack cfg) Quiet (looping (Guarded cfg) (Guarded cfg)) := by
  have F : Frame (device cfg) (HeldBack cfg) Quiet (Guarded cfg)
    (Off transportGroups) (Keep [.linkState]) := guarded_frame cfg
  refine outline_looping F (by simp) (by simp) (quiet F (by simp) (by simp))
    ?_ ?_ (cloudResume_guarded hprov) agnssFetchAndInject_guarded ?_
    (cloudPause_guarded hprov)
  · exact part F setUp_foot (by simp) (by simp)
  · exact part F (recoverIfSilent_foot cfg) (by simp) (by simp)
  · exact fun fix wakeUptimeMs wr => report_keeps F (by simp) (by simp) (by simp)
      (by simp) (deliver_guarded hprov fix)

/-- Nothing goes over a transport that was not initialised, in every run in
which, until then, `cloud_resume` finds no credentials, no report is sent
and no assistance is asked for, save where the build keeps them off the
network. -/
theorem transport_initialised {n fuel : Nat} {w : Tracker}
    (hw : Booted cfg w) {c : P Int × Tracker}
    (hr : Reach (device cfg) (main cfg n fuel) w c)
    (hG : Always (HeldBack cfg) c.2.log) :
    Always OnInitialised c.2.log := by
  obtain ⟨magic, phase, hst⟩ := hw.st
  have O : Outline cfg (HeldBack cfg) Quiet
    (looping (Guarded cfg) (Guarded cfg)) := transport_outline hprov
  refine O.reach (J := Quiet) ⟨?_, .inr (.inr ?_)⟩ hr hG
  · rw [Quiet, hw.log]
    trivial
  · rw [hst]
    rfl

omit hprov

/-- An initialised transport, a connect and a report. -/
theorem transport_initialised_calm :
    (playMain fixless calm 1 0 300).2.log.any (fun
      | .call _ _ (.jsonMessageSend _) _ => true
      | _ => false) = true ∧
    Always OnInitialised (playMain fixless calm 1 0 300).2.log :=
  ⟨by decide +kernel, transport_initialised rfl (start_booted _)
    (playMain_reach fixless calm 1 0 300) (by decide +kernel)⟩

/-- `nrf_cloud_coap_init` fails and everything else works. -/
def uninitialised : Script Statics Dev Move Calls := fun w o =>
  match o with
  | .lib .nrfCloudCoapInit => ([], - EIO)
  | o => calm w o

/-- After a failed initialisation the first cycle connects. -/
theorem connect_uninitialised :
    ∃ w c, Booted fixless w ∧ Reach (device fixless) (main fixless 1 0) w c ∧
      ¬Always OnInitialised c.2.log :=
  ⟨_, _, start_booted _, playMain_reach fixless uninitialised 1 0 300,
    by decide +kernel⟩

end GpsTracker
