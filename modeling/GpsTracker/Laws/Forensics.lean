/-
What the `wdt` member of a report says of the last reset (watchdog.c,
main.c, telemetry.c).

`phase_init` tells a reset from a power-on by a word of retained memory,
and takes whatever phase stands beside it. Neither says what caused the
reset: one that is nobody's fault leaves the same words behind, and a
watchdog reset during initialisation, before any phase is set, leaves
none.

# A life

Boots follow one another, each ended by a reset that strikes anywhere in
`main`; the two words are all that a boot inherits. Within one boot the
latch is set once, and every message carries the payload made of it.
-/
import GpsTracker.Laws.Envelope

namespace GpsTracker

open Proc

variable {cfg : Config}

-- ================================================================= messages

/-- The message an event hands to the network. -/
def messageOf : Ev → Option Text
  | .call _ _ (.jsonMessageSend text) _ => some text
  | .call _ _ (.sendSocket text) _ => some text
  | _ => none

/-- `text` is either provider's message around `payload`. -/
def Around (cfg : Config) (text payload : Text) : Prop :=
  (∃ ts, text = Nrf.envelope cfg ts payload) ∨ ∃ topic list,
    text = Hologram.envelope cfg payload topic list ++ "\n\n".toList

/-- `text` is the message of the provider compiled in. -/
def Wraps (cfg : Config) (payload text : Text) : Prop :=
  match cfg.cloudProvider with
  | .nrfcloud => ∃ ts, text = Nrf.envelope cfg ts payload
  | .hologram => ∃ topic list,
      text = Hologram.envelope cfg payload topic list ++ "\n\n".toList

/-- A message around the payload. -/
theorem Wraps.around {payload text : Text} (h : Wraps cfg payload text) :
    Around cfg text payload := by
  unfold Wraps at h
  cases hp : cfg.cloudProvider with
  | nrfcloud =>
      rw [hp] at h
      exact .inl h
  | hologram =>
      rw [hp] at h
      exact .inr h

/-- A message of the event is a report made of the latched phase, which is
`phase`. -/
def ReportsOf (cfg : Config) (phase : Nat) (e : Ev) (_ : Trace) : Prop :=
  ∀ text, messageOf e = some text → e.st.phaseAtReset = phase ∧
    ∃ t, Around cfg text (telemetryText cfg phase t)

/-- The last thing on record is a `sys_reboot`. -/
def rebooting : Trace → Bool
  | .call _ _ .sysReboot _ :: _ => true
  | _ => false

-- ==================================================================== lives

/-- What ends a boot. -/
inductive Reset | watchdog | selfReboot | pin | bootloader | powerLoss
deriving DecidableEq, Repr

/-- The resets that a `wdt` member is to tell of. -/
def Reset.unclean : Reset → Bool
  | .watchdog | .selfReboot => true
  | _ => false

/-- A self-reboot is `sys_reboot`; the other resets strike anywhere. -/
def Reset.Strikes (cause : Reset) (c : P Int × Tracker) : Prop :=
  cause = .selfReboot → rebooting c.2.log = true

/-- What the next boot finds in the two retained words: what was there, or
after a power loss anything but the magic. -/
def Reset.Leaves (cause : Reset) (s s' : Statics) : Prop :=
  if cause = .powerLoss then s'.phaseMagic ≠ PHASE_MAGIC
  else s'.phaseMagic = s.phaseMagic ∧ s'.phaseCurrent = s.phaseCurrent

/-- A boot in the life of a device: what caused it, the phase recorded last
before that, and the world it starts in. -/
inductive Life (cfg : Config) : Reset → Nat → Tracker → Prop
  | first {last : Nat} {w : Tracker} : Booted cfg w →
      w.st.phaseMagic ≠ PHASE_MAGIC → Life cfg .powerLoss last w
  | next {cause cause' : Reset} {last n fuel : Nat} {w w' : Tracker}
      {c : P Int × Tracker} : Life cfg cause last w →
      Reach (device cfg) (main cfg n fuel) w c → cause'.Strikes c →
      Booted cfg w' → cause'.Leaves c.2.st w'.st →
      Life cfg cause' c.2.st.phaseCurrent w'

/-- The `wdt` member that a report is to carry. -/
def Reset.dueMember (cause : Reset) (last : Nat) : Text :=
  if cause.unclean then "\"wdt\": ".toList ++ fmtD last ++ ", ".toList
  else []

/-- A phase other than NONE stands beside the magic. -/
def Statics.Traced (s : Statics) : Prop :=
  s.phaseMagic = PHASE_MAGIC ∧ s.phaseCurrent ≠ Phase.none.code

/-- A watchdog reset struck with a phase on record, a reset by pin or
bootloader with none. -/
def Reset.Legible (cause : Reset) (s : Statics) : Prop :=
  match cause with
  | .watchdog => s.Traced
  | .pin | .bootloader => ¬s.Traced
  | .selfReboot | .powerLoss => True

-- =============================================================== assertions

/-- What `phase_init` latches. -/
def latchOf (s : Statics) : Nat :=
  if s.phaseMagic = PHASE_MAGIC then s.phaseCurrent else Phase.none.code

/-- The promise at every step: each message reports the latched phase, a
phase stands beside the magic, and a `sys_reboot` has left its own. -/
structure Reporting (cfg : Config) (phase : Nat) (w : Tracker) : Prop where
  reports : Always (ReportsOf cfg phase) w.log
  coded : w.st.phaseMagic = PHASE_MAGIC →
    w.st.phaseCurrent ≤ Phase.noNetwork.code
  rebooted : rebooting w.log = true → w.st.phaseMagic = PHASE_MAGIC ∧
    w.st.phaseCurrent = Phase.noNetwork.code

/-- Before `phase_init`. -/
structure Inheriting (cfg : Config) (phase : Nat) (w : Tracker) : Prop where
  reports : Always (ReportsOf cfg phase) w.log
  coded : w.st.phaseMagic = PHASE_MAGIC →
    w.st.phaseCurrent ≤ Phase.noNetwork.code
  latch : latchOf w.st = phase
  running : rebooting w.log = false

/-- After it. -/
structure Latching (cfg : Config) (phase : Nat) (w : Tracker) : Prop where
  reports : Always (ReportsOf cfg phase) w.log
  magic : w.st.phaseMagic = PHASE_MAGIC
  coded : w.st.phaseCurrent ≤ Phase.noNetwork.code
  latch : w.st.phaseAtReset = phase
  running : rebooting w.log = false

variable {phase : Nat}

/-- With the latch filled, -/
theorem Latching.gives {w : Tracker} (h : Latching cfg phase w) :
    Reporting cfg phase w :=
  ⟨h.reports, fun _ => h.coded, fun hr => by
    rw [h.running] at hr
    cases hr⟩

/-- as with it still to be filled, the messages so far tell the right phase.
-/
theorem Inheriting.gives {w : Tracker} (h : Inheriting cfg phase w) :
    Reporting cfg phase w :=
  ⟨h.reports, h.coded, fun hr => by
    rw [h.running] at hr
    cases hr⟩

/-- The calls that send or reboot. -/
abbrev messageGroups : List Group := [.send, .reboot]

/-- Off the message groups nothing is sent and nothing reboots. -/
private theorem silent_call {o : Op} (h : Off messageGroups o) (s : Statics)
    (d : Dev) (r : o.Ret) (l : Trace) :
    ReportsOf cfg phase (.call s d o r) l
      ∧ rebooting (.call s d o r :: l) = false := by
  have hsend : group o ≠ .send := h.ne (by simp)
  have hboot : group o ≠ .reboot := h.ne (by simp)
  cases o with
  | jsonMessageSend text => exact absurd rfl hsend
  | sendSocket text => exact absurd rfl hsend
  | sysReboot => exact absurd rfl hboot
  | _ => exact ⟨nofun, rfl⟩

/-- Once latched the phase stays. -/
theorem latching_frame :
    Frame (device cfg) Free (Reporting cfg phase) (Latching cfg phase)
      (Off messageGroups) (Keep [.latch]) where
  stable := fun _ _ h _ _ =>
    ⟨⟨nofun, h.reports⟩, h.magic, h.coded, h.latch, rfl⟩
  calls := by
    intro w o r ho h _ _
    obtain ⟨hs, hb⟩ := silent_call ho w.st w.dev r w.log
    exact ⟨⟨hs, h.reports⟩, h.magic, h.coded, h.latch, hb⟩
  writes := by
    intro w f hf h
    obtain ⟨hm, ha, hc⟩ : Var.Same w.st (f w.st) .latch := hf .latch (by simp)
    exact ⟨h.reports, hm.trans h.magic, hc h.coded, ha.trans h.latch,
      h.running⟩
  gives := fun _ h => h.gives

/-- The same with the phase of a reboot set. -/
theorem leaving_frame :
    Frame (device cfg) Free (Reporting cfg phase)
      (fun w => Latching cfg phase w ∧
        w.st.phaseCurrent = Phase.noNetwork.code)
      (Off messageGroups) (Keep [.latch, .phase]) := by
  have F : Frame (device cfg) Free (Reporting cfg phase)
      (Latching cfg phase) (Off messageGroups) (Keep [.latch, .phase]) :=
    latching_frame.mono (fun _ h => h) fun _ _ h v hv => h v (by simp_all)
  have hq : ∀ s s', Keep [.latch, .phase] s s' →
      s.phaseCurrent = Phase.noNetwork.code →
      s'.phaseCurrent = Phase.noNetwork.code := by
    intro s s' hs hp
    have hsame : Var.Same s s' .phase := hs .phase (by simp)
    exact hsame.trans hp
  exact keeps_static F hq

-- ================================================================ one message

/-- `hologram_send` hands over the print of its payload and nothing else:
what the library calls around it and such a message keep, it keeps. -/
theorem hologram_sends {G : Ev → Trace → Prop} {J X : Tracker → Prop}
    {payload : Text}
    (hlib : ∀ f, Triple (device cfg) G J X (call (.lib f)) fun _ => X)
    (hrecv : ∀ n, Triple (device cfg) G J X (call (.recv n)) fun _ => X)
    (hsocket : ∀ topic list, Triple (device cfg) G J X
      (call (.sendSocket (Hologram.envelope cfg payload topic list
        ++ "\n\n".toList))) fun _ => X) :
    Triple (device cfg) G J X (Hologram.hologramSend cfg payload)
      fun _ => X := by
  have hdone : ∀ r : Int, Triple (device cfg) G J X (pure r : P Int)
      fun _ => X := fun r => Triple.ret fun _ h => h
  have hclose : ∀ err : Int, Triple (device cfg) G J X (do
      let _ ← call (.lib .close)
      pure err : P Int) fun _ => X := fun err =>
    (hlib _).bind fun _ => hdone _
  refine (hologram_prints cfg _ hlib).bind fun built => ?_
  -- nothing was built, nothing is sent
  cases built with
  | error err => exact Triple.ret fun _ h => h.1
  | ok text =>
      refine Triple.pre (P := fun w => X w ∧ ∃ topic list, text
        = Hologram.envelope cfg payload topic list ++ "\n\n".toList) ?_
        fun w hw => ⟨hw.1, hw.2 text rfl⟩
      refine Triple.pure_pre fun htext => ?_
      obtain ⟨topic, list, rfl⟩ := htext
      refine Triple.ite (fun _ => hdone _) fun _ => ?_
      refine Triple.ite (fun _ => hdone _) fun _ => ?_
      refine (hlib _).bind fun err => Triple.ite
        (fun _ => hdone _) fun _ => ?_
      refine (hlib _).bind fun fd => Triple.ite
        (fun _ => hdone _) fun _ => ?_
      refine (hlib _).bind fun err => ?_
      refine Triple.ite (fun _ => hclose _) fun _ => ?_
      refine (hlib _).bind fun _ => (hlib _).bind fun _ => Triple.bind
        (R := fun _ => X) ?_ hclose
      -- the one send; everything else on the way is the library's
      refine (hsocket topic list).bind fun sent => Triple.ite
        (fun _ => hdone _) fun _ => (hrecv _).bind fun reply => ?_
      exact Triple.ite (fun _ => hdone _) fun _ => hdone _

/-- `cloud_send_telemetry` hands over messages around its payload and
nothing else: what its plain calls and such messages keep, it keeps. -/
theorem telemetry_sends {G : Ev → Trace → Prop} {J X : Tracker → Prop}
    {payload : Text}
    (hplain : ∀ o, group o = .plain →
      Triple (device cfg) G J X (call o) fun _ => X)
    (hjson : ∀ text, Wraps cfg payload text →
      Triple (device cfg) G J X (call (.jsonMessageSend text)) fun _ => X)
    (hsocket : ∀ text, Wraps cfg payload text →
      Triple (device cfg) G J X (call (.sendSocket text)) fun _ => X) :
    Triple (device cfg) G J X (cloudSendTelemetry cfg payload)
      fun _ => X := by
  have hdone : ∀ r : Int, Triple (device cfg) G J X (pure r : P Int)
      fun _ => X := fun r => Triple.ret fun _ h => h
  cases h : cfg.cloudProvider with
  | nrfcloud =>
      simp only [cloudSendTelemetry, h]
      refine (hplain _ rfl).bind fun now => ?_
      refine Triple.ite (fun _ => hdone _) fun _ => ?_
      refine Triple.ite (fun _ => hdone _) fun _ => ?_
      refine (hjson _ ?_).bind fun err => hdone _
      rw [Wraps, h]
      exact ⟨_, rfl⟩
  | hologram =>
      simp only [cloudSendTelemetry, h]
      refine hologram_sends (fun f => hplain _ rfl) (fun n => hplain _ rfl)
        fun topic list => hsocket _ ?_
      rw [Wraps, h]
      exact ⟨topic, list, rfl⟩

/-- A call that hands over a report of the latched phase. -/
theorem message_sent {o : Op} {text : Text} {t : Telemetry}
    (ho : ∀ s d r, messageOf (.call s d o r) = some text)
    (hr : ∀ s d r l, rebooting (.call s d o r :: l) = false)
    (htext : Around cfg text (telemetryText cfg phase t)) :
    Triple (device cfg) Free (Reporting cfg phase) (Latching cfg phase)
      (call o) fun _ => Latching cfg phase := by
  refine Triple.op latching_frame.stable fun w r h _ _ => ?_
  have hreport : ReportsOf cfg phase (.call w.st w.dev o r) w.log := by
    intro text' he
    rw [ho] at he
    cases he
    exact ⟨h.latch, t, htext⟩
  have hw : Latching cfg phase (w.called (device cfg) o r) :=
    ⟨⟨hreport, h.reports⟩, h.magic, h.coded, h.latch, hr ..⟩
  exact ⟨hw.gives, hw⟩

/-- A message of it tells it, -/
theorem send_latching (t : Telemetry) :
    Triple (device cfg) Free (Reporting cfg phase) (Latching cfg phase)
      (cloudSendTelemetry cfg (telemetryText cfg phase t))
      fun _ => Latching cfg phase := by
  refine telemetry_sends (fun o ho => plain_keeps latching_frame ho (by simp))
    (fun text htext => ?_) fun text htext => ?_
  · exact message_sent (t := t) (fun _ _ _ => rfl) (fun _ _ _ _ => rfl)
      htext.around
  · exact message_sent (t := t) (fun _ _ _ => rfl) (fun _ _ _ _ => rfl)
      htext.around

-- ================================================================== the loop

/-- `report_fix` sends what it builds of the latched phase. -/
theorem reportFix_latching (fix : Option TrackerFix) (wakeUptimeMs : Nat)
    (wr : WakeReason) :
    Triple (device cfg) Free (Reporting cfg phase) (Latching cfg phase)
      (reportFix cfg fix wakeUptimeMs wr) fun _ => Latching cfg phase := by
  have F : Frame (device cfg) Free (Reporting cfg phase)
    (Latching cfg phase) (Off messageGroups) (Keep [.latch]) := latching_frame
  refine report_built F (by simp) (by simp) (by simp)
    (enter_keeps F (by simp)) (fun _ h => h) (fun s t payload hbuilt => ?_)
    fun r => leave_keeps F (by simp)
  obtain ⟨htext, -⟩ := telemetryBuildJson_ok hbuilt
  refine Triple.pre (P := fun w => Latching cfg phase w ∧
    payload = telemetryText cfg phase t) ?_ fun w h => ⟨h.1, ?_⟩
  · refine Triple.pure_pre fun hpayload => ?_
    rw [hpayload]
    have hresume : Triple (device cfg) Free (Reporting cfg phase)
        (Latching cfg phase) (cloudResume cfg) fun _ => Latching cfg phase :=
      part F (cloudResume_foot cfg) (by simp) (by simp)
    have hmark : ∀ f, f = .firstSend ∨ f = .retrySend →
        Group.mark f ∉ messageGroups := by
      rintro f (rfl | rfl) <;> simp
    exact deliver_keeps F (by simp) (by simp)
      (sendReport_sends F (by simp) hmark (send_latching t) hresume)
      fun fix => part F (cloudSendLocation_foot cfg fix) (by simp) (by simp)
  · have hlatch : s.phaseAtReset = phase := by
      rw [← h.2]
      exact h.1.latch
    rwa [hlatch] at htext

/-- A self-reboot sets its own phase first. -/
theorem recoverIfSilent_latching :
    Triple (device cfg) Free (Reporting cfg phase) (Latching cfg phase)
      (recoverIfSilent cfg) fun _ => Latching cfg phase := by
  have F : Frame (device cfg) Free (Reporting cfg phase)
    (Latching cfg phase) (Off messageGroups) (Keep [.latch]) := latching_frame
  refine triple_scope (Y := Latching cfg phase)
    (R := fun _ => Latching cfg phase) (enter_keeps F (by simp)) ?_
    fun _ => leave_keeps F (by simp)
  refine Triple.get fun s => Triple.pre (P := Latching cfg phase) ?_
    fun w h => h.1
  refine (plain_keeps F (by rfl) (by simp)).bind fun now => ?_
  refine Triple.ite (fun _ => part F (g := []) (v := [.modemBounced])
    (by simp [Var.forall]) (by simp) (by simp)) fun _ => ?_
  refine Triple.ite (fun _ => ?_) fun _ => ?_
  · have hset : Triple (device cfg) Free (Reporting cfg phase)
        (Latching cfg phase) (watchdogPhase .noNetwork) fun _ w =>
          Latching cfg phase w ∧ w.st.phaseCurrent = Phase.noNetwork.code := by
      refine Triple.modify fun w h => ?_
      have hw : Latching cfg phase (w.wrote fun s =>
          { s with phaseCurrent := Phase.noNetwork.code }) :=
        ⟨h.reports, h.magic, Nat.le_refl _, h.latch, h.running⟩
      exact ⟨hw.gives, hw, rfl⟩
    refine hset.bind fun _ => (plain_keeps leaving_frame (by rfl)
      (by simp)).bind fun _ => ?_
    refine Triple.bind (R := fun _ _ => True)
      (Triple.op leaving_frame.stable fun w r h _ _ => ?_)
      fun _ => Triple.halt
    exact ⟨⟨⟨fun _ h => (by cases h), h.1.reports⟩, fun _ => h.1.coded,
      fun _ => ⟨h.1.magic, h.2⟩⟩, trivial⟩
  · refine Triple.ite (fun _ => Triple.ret fun _ h => h) fun _ => ?_
    exact part F (g := [.funcMode, .plain]) (v := [.modemBounced])
      (by simp [Var.forall]) (by simp) (by simp)

/-- and it lasts along main. -/
theorem latching_outline :
    Outline cfg Free (Reporting cfg phase)
      (looping (Latching cfg phase) fun _ => False) := by
  have F : Frame (device cfg) Free (Reporting cfg phase)
    (Latching cfg phase) (Off messageGroups) (Keep [.latch]) := latching_frame
  refine outline_looping F (by simp) (by simp) Frame.never Triple.never
    recoverIfSilent_latching ?_ ?_ reportFix_latching ?_
  · exact part F (cloudResume_foot cfg) (by simp) (by simp)
  · exact part F (agnssFetchAndInject_foot cfg) (by simp) (by simp)
  · exact part F (cloudPause_foot cfg) (by simp) (by simp)

-- ==================================================================== a boot

/-- `phase_init` sets the latch. -/
theorem phaseInit_latching :
    Triple (device cfg) Free (Reporting cfg phase) (Inheriting cfg phase)
      phaseInit fun _ => Latching cfg phase := by
  refine Triple.modify fun w h => ?_
  have hlatch := h.latch
  unfold latchOf at hlatch
  have hw : Latching cfg phase (w.wrote fun s =>
      if s.phaseMagic = PHASE_MAGIC then
        { s with phaseAtReset := s.phaseCurrent
                 phaseCurrent := Phase.none.code }
      else
        { s with phaseMagic := PHASE_MAGIC
                 phaseAtReset := Phase.none.code
                 phaseCurrent := Phase.none.code }) := by
    by_cases hm : w.st.phaseMagic = PHASE_MAGIC
    · rw [if_pos hm] at hlatch
      constructor <;> simp [World.wrote, hm, h.reports, hlatch, h.running]
    · rw [if_neg hm] at hlatch
      simp only [World.wrote, if_neg hm]
      exact ⟨h.reports, rfl, Nat.zero_le _, hlatch, h.running⟩
  exact ⟨hw.gives, hw⟩

/-- Only a call of the modem library comes before it. -/
theorem setUp_latching :
    Triple (device cfg) Free (Reporting cfg phase) (Inheriting cfg phase)
      (setUp cfg) fun r w => r = 0 → Latching cfg phase w := by
  have F : Frame (device cfg) Free (Reporting cfg phase)
    (Latching cfg phase) (Off messageGroups) (Keep [.latch]) := latching_frame
  have hmodem : Triple (device cfg) Free (Reporting cfg phase)
      (Inheriting cfg phase) (call (.lib .nrfModemLibInit))
      fun _ => Inheriting cfg phase := by
    refine Triple.op (fun w a h _ _ =>
      ⟨⟨nofun, h.reports⟩, h.coded, h.latch, rfl⟩) fun w r h _ _ => ?_
    have hw : Inheriting cfg phase
        (w.called (device cfg) (.lib .nrfModemLibInit) r) :=
      ⟨⟨nofun, h.reports⟩, h.coded, h.latch, rfl⟩
    exact ⟨hw.gives, hw⟩
  exact setUp_latches F (by simp) hmodem phaseInit_latching

/-- What a boot promises at every point it can reach. -/
theorem boot_reporting {w : Tracker} (hw : Booted cfg w)
    (hcoded : w.st.phaseMagic = PHASE_MAGIC →
      w.st.phaseCurrent ≤ Phase.noNetwork.code) {n fuel : Nat}
    {c : P Int × Tracker} (hr : Reach (device cfg) (main cfg n fuel) w c) :
    Reporting cfg (latchOf w.st) c.2 := by
  have hstart : Inheriting cfg (latchOf w.st) w := by
    constructor
    · rw [hw.log]
      trivial
    · exact hcoded
    · rfl
    · rw [hw.log]
      rfl
  have hmain : Triple (device cfg) Free (Reporting cfg (latchOf w.st))
      (Inheriting cfg (latchOf w.st)) (main cfg n fuel) fun _ _ => True := by
    refine setUp_latching.bind fun r => Triple.ite
      (fun _ => Triple.ret fun _ _ => trivial) fun hr => ?_
    exact (latching_outline.mainLoop fuel n .boot).pre
      fun _ h => h (Decidable.not_not.mp hr)
  exact hmain.reach hstart hstart.gives hr (always_free _)

-- ==================================================================== a life

/-- What every boot of a life finds: a phase beside the magic, that of the
reboot after a self-reboot, the one recorded last, and no magic after a
power loss. -/
structure Inherits (cause : Reset) (last : Nat) (s : Statics) : Prop where
  coded : s.phaseMagic = PHASE_MAGIC → s.phaseCurrent ≤ Phase.noNetwork.code
  rebooted : cause = .selfReboot → s.Traced
  last : s.phaseMagic = PHASE_MAGIC → s.phaseCurrent = last
  lost : cause = .powerLoss → s.phaseMagic ≠ PHASE_MAGIC

/-- By induction on the boots. -/
theorem Life.inherits {cause : Reset} {last : Nat} {w : Tracker}
    (h : Life cfg cause last w) :
    Booted cfg w ∧ Inherits cause last w.st := by
  induction h with
  | first hb hm =>
      exact ⟨hb, fun h => absurd h hm, nofun, fun h => absurd h hm,
        fun _ => hm⟩
  | @next cause cause' last n fuel w w' c _ hr hstrike hb hleave ih =>
      obtain ⟨hbooted, hin⟩ := ih
      have hc := boot_reporting hbooted hin.coded hr
      refine ⟨hb, ?_⟩
      by_cases hp : cause' = .powerLoss
      · have hm : w'.st.phaseMagic ≠ PHASE_MAGIC := by
          rwa [Reset.Leaves, if_pos hp] at hleave
        refine ⟨fun h => absurd h hm, fun h => ?_, fun h => absurd h hm,
          fun _ => hm⟩
        rw [hp] at h
        cases h
      · rw [Reset.Leaves, if_neg hp] at hleave
        obtain ⟨hm, hcur⟩ := hleave
        refine ⟨fun h => ?_, fun h => ?_, fun _ => hcur,
          fun h => absurd h hp⟩
        · rw [hcur]
          exact hc.coded (hm.symm.trans h)
        · obtain ⟨hmagic, hphase⟩ := hc.rebooted (hstrike h)
          refine ⟨hm.trans hmagic, ?_⟩
          rw [hcur, hphase]
          decide

/-- Any number up to the last phase is one of them. -/
theorem code_of_le {n : Nat} (h : n ≤ Phase.noNetwork.code) :
    ∃ p : Phase, n = p.code := by
  have hall : ∀ m < 15, ∃ p ∈ [Phase.none, .wake, .lte, .cloudResume,
      .gnssStart, .agnss, .fix, .report, .frequent, .gnssStop, .cloudPause,
      .ledSleep, .motionArm, .sleep, .noNetwork], m = p.code := by decide
  obtain ⟨p, -, hp⟩ := hall n (Nat.lt_succ_of_le h)
  exact ⟨p, hp⟩

/-- The member spliced in is the one due if and only if the reset left its
trace where it should. -/
theorem member_due_iff {cause : Reset} {last : Nat} {s : Statics}
    (h : Inherits cause last s) :
    wdtMember (latchOf s) = cause.dueMember last ↔ cause.Legible s := by
  -- the latch takes over what is in the retained word, if the magic is right
  have hempty : ¬s.Traced → wdtMember (latchOf s) = [] := by
    intro ht
    have hl : latchOf s = Phase.none.code := by
      unfold latchOf
      split
      next hm => exact Decidable.not_not.mp fun hc => ht ⟨hm, hc⟩
      next => rfl
    rw [hl]
    rfl
  have hfull : s.Traced →
      wdtMember (latchOf s) = "\"wdt\": ".toList ++ fmtD last ++ ", ".toList := by
    rintro ⟨hm, hc⟩
    obtain ⟨p, hp⟩ := code_of_le (h.coded hm)
    have hl : latchOf s = p.code := by
      rw [latchOf, if_pos hm, hp]
    have hlast : last = p.code := (h.last hm).symm.trans hp
    have hne : p ≠ .none := by
      rintro rfl
      exact hc hp
    rw [hl, hlast, wdtMember_eq hne]
  have hnil : "\"wdt\": ".toList ++ fmtD last ++ ", ".toList ≠ [] := by
    intro he
    cases he
  have hlost : cause = .powerLoss → ¬s.Traced := fun hc ht =>
    h.lost hc ht.1
  -- a member is due after an unclean reset, and is there with a trace
  have hdue : wdtMember (latchOf s) = cause.dueMember last
      ↔ (cause.unclean = true ↔ s.Traced) := by
    unfold Reset.dueMember
    by_cases ht : s.Traced
    · rw [hfull ht]
      cases cause.unclean with
      | true => simp [ht]
      | false => simp [ht]
    · rw [hempty ht]
      cases cause.unclean with
      | true => simp [ht]
      | false => simp [ht]
  rw [hdue]
  -- cause by cause: which resets clear the word, and which are unclean
  cases cause with
  | watchdog => simp [Reset.unclean, Reset.Legible]
  | selfReboot => simp [Reset.unclean, Reset.Legible, h.rebooted rfl]
  | pin => simp [Reset.unclean, Reset.Legible]
  | bootloader => simp [Reset.unclean, Reset.Legible]
  | powerLoss => simp [Reset.unclean, Reset.Legible, hlost rfl]

-- ================================================================= the law

/-- In every life, every message is a report with the latched phase's
member, and that member is the one due if and only if the reset before
the boot was a power loss or a self-reboot, or one by the watchdog that
struck with a phase on record, or one by pin or bootloader that struck
with none. -/
theorem forensics_iff {cause : Reset} {last n fuel : Nat} {w : Tracker}
    {c : P Int × Tracker} (hl : Life cfg cause last w)
    (hr : Reach (device cfg) (main cfg n fuel) w c) {e : Ev} {text : Text}
    (he : e ∈ c.2.log) (ht : messageOf e = some text) :
    (∃ t, Around cfg text (telemetryText cfg e.st.phaseAtReset t)) ∧
      (wdtMember e.st.phaseAtReset = cause.dueMember last
        ↔ cause.Legible w.st) := by
  obtain ⟨hbooted, hin⟩ := hl.inherits
  have hreports := (boot_reporting hbooted hin.coded hr).reports
  obtain ⟨l₁, l₂, hsplit⟩ := List.append_of_mem he
  obtain ⟨hphase, hreport⟩ := always_iff.mp hreports l₁ e l₂ hsplit text ht
  rw [hphase]
  exact ⟨hreport, member_due_iff hin⟩

/-- A device whose RAM holds a phase from before its boot. -/
def resumed (cfg : Config) (magic phase : Nat) : Tracker :=
  { start cfg with st := Statics.boot cfg magic phase }

/-- The sample boots with these retained words, -/
theorem resumed_booted (cfg : Config) (magic phase : Nat) :
    Booted cfg (resumed cfg magic phase) :=
  ⟨⟨magic, phase, rfl⟩, rfl, rfl, rfl, rfl, rfl, rfl, rfl, rfl⟩

/-- A calm cycle of it, up to the send of its report. -/
@[irreducible] def playResumed (cfg : Config) (magic phase steps : Nat) :
    P Int × Tracker :=
  play (device cfg) calm steps (main cfg 1 0) (resumed cfg magic phase)

/-- runs, -/
theorem playResumed_reach (cfg : Config) (magic phase steps : Nat) :
    Reach (device cfg) (main cfg 1 0) (resumed cfg magic phase)
      (playResumed cfg magic phase steps) := by
  unfold playResumed
  exact play_reach .init

/-- A life whose second boot begins with a reset of the first in its
sleep. -/
theorem life_asleep (cause : Reset) (hs : cause ≠ .selfReboot)
    (hp : cause ≠ .powerLoss) :
    Life fixless cause (playMain fixless calm 1 0 300).2.st.phaseCurrent
      (resumed fixless PHASE_MAGIC Phase.sleep.code) := by
  have hlast : (playMain fixless calm 1 0 300).2.st.phaseMagic = PHASE_MAGIC ∧
      (playMain fixless calm 1 0 300).2.st.phaseCurrent = Phase.sleep.code := by
    decide +kernel
  have hfirst : Life fixless .powerLoss 0 (start fixless) :=
    .first (start_booted fixless) (by decide)
  refine hfirst.next
    (playMain_reach fixless calm 1 0 300) (fun h => absurd h hs)
    (resumed_booted ..) ?_
  rw [Reset.Leaves, if_neg hp]
  exact ⟨hlast.1.symm, hlast.2.symm⟩

/-- and reports the phase it slept in. -/
theorem resumed_reports :
    ∃ e ∈ (playResumed fixless PHASE_MAGIC Phase.sleep.code 155).2.log,
      ∃ text, messageOf e = some text ∧
        e.st.phaseAtReset = Phase.sleep.code := by
  have hfind : ((playResumed fixless PHASE_MAGIC Phase.sleep.code
      155).2.log.find? fun e => (messageOf e).isSome).map
        (fun e => e.st.phaseAtReset) = some Phase.sleep.code := by
    decide +kernel
  obtain ⟨e, he, hphase⟩ := Option.map_eq_some_iff.mp hfind
  have hsome : (messageOf e).isSome = true :=
    List.find?_some (p := fun e => (messageOf e).isSome) he
  obtain ⟨text, ht⟩ := Option.isSome_iff_exists.mp hsome
  exact ⟨e, List.mem_of_find?_eq_some he, text, ht, hphase⟩

/-- The watchdog resets a sleeping device, and the report of the next boot
says so. -/
theorem forensics_iff_asleep :
    ∃ e ∈ (playResumed fixless PHASE_MAGIC Phase.sleep.code 155).2.log,
      ∃ text, messageOf e = some text ∧
      (∃ t, Around fixless text
        (telemetryText fixless e.st.phaseAtReset t)) ∧
      wdtMember e.st.phaseAtReset = Reset.watchdog.dueMember
        (playMain fixless calm 1 0 300).2.st.phaseCurrent := by
  obtain ⟨e, he, text, ht, -⟩ := resumed_reports
  have hlaw := forensics_iff (life_asleep .watchdog nofun nofun)
    (playResumed_reach ..) he ht
  exact ⟨e, he, text, ht, hlaw.1, hlaw.2.mpr ⟨rfl, by decide⟩⟩

/-- So it does after the reset button was pressed. -/
theorem button_blamed :
    ∃ (last : Nat) (w : Tracker) (c : P Int × Tracker) (e : Ev) (text : Text),
      Life fixless .pin last w ∧
      Reach (device fixless) (main fixless 1 0) w c ∧
      e ∈ c.2.log ∧ messageOf e = some text ∧
      wdtMember e.st.phaseAtReset = "\"wdt\": 13, ".toList ∧
      wdtMember e.st.phaseAtReset ≠ Reset.pin.dueMember last := by
  obtain ⟨e, he, text, ht, hphase⟩ := resumed_reports
  refine ⟨_, _, _, e, text, life_asleep .pin nofun nofun, playResumed_reach ..,
    he, ht, ?_, ?_⟩
  · rw [hphase]
    decide
  · rw [hphase]
    decide

end GpsTracker
