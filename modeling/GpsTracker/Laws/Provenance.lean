/-
Every message says what was observed, and nothing else.

Between an observation and the message that tells it lie the whole of
acquire, settle, report and retry: a fix read from a receiver is handed
from wait to report, the start of the cycle and its wake reason wait for
every report of the cycle, and a report reads the clock, the battery and
the signal before it builds its text, perhaps to send it again over a
link brought up anew. `Notes` is a reader of the log that knows nothing
of the program: it keeps the last word on each subject. The law is that
whatever is handed to a transport is what these notes say at that moment:
the telemetry text is built of them, its envelope carries the last clock,
and a shared location is the fix of the report under way, field by field.

# The argument

`Midcycle` holds within a cycle: the notes know its start and its wake
reason. `Sheet` holds while a report is being delivered: the notes say
what its payload was built of. What is done in between reads nothing the
notes keep (`Unnoted`), or belongs to no cycle's beginning.
-/
import GpsTracker.Laws.Forensics
import GpsTracker.Run.Carry
import GpsTracker.Run.Script

namespace GpsTracker

open Proc

-- ================================================================= the notes

/-- The last word of a log on everything a report tells. -/
structure Notes where
  wake : WakeReason := .boot
  /-- the first uptime read in this cycle -/
  begun : Option Int := none
  uptime : Int := 0
  fix : Option TrackerFix := none
  /-- whether the report under way, or the last one, has a fix -/
  haveFix : Bool := false
  charger : Int := 0
  voltage : Int × Int × Int := (0, 0, 0)
  charge : Int × Nat := (0, 0)
  rsrp : Int × Int := (0, 0)
  clock : Int × Int := (0, 0)

namespace Notes

/-- What an answered call adds. -/
def read (n : Notes) : (o : Op) → o.Ret → Notes
  | .enter (.cycle wr), _ => { n with wake := wr, begun := none }
  | .enter (.reportFix b), _ => { n with haveFix := b }
  | .kUptimeGet, r => { n with uptime := r, begun := some (n.begun.getD r) }
  | .lastPvtGet, pvt => { n with fix := some (fixOfPvt pvt) }
  | .lastFixGet, fix => { n with fix := some fix }
  | .chargerFetch, r => { n with charger := r }
  | .gaugeVoltageGet, r => { n with voltage := r }
  | .chargerStatusGet, r => { n with charge := r }
  | .rsrpGet, r => { n with rsrp := r }
  | .dateTimeNow, r => { n with clock := r }
  | _, _ => n

/-- The fix a report tells. -/
def told (n : Notes) : Option TrackerFix := if n.haveFix then n.fix else none

/-- The battery, as the charger and its gauge last told it. -/
def power (n : Notes) : Except Int (Nat × ChargeState) :=
  if n.charger ≠ 0 then .error n.charger
  else if n.voltage.1 ≠ 0 then .error n.voltage.1
  else
    .ok (((n.voltage.2.1 * 1000 + n.voltage.2.2.tdiv 1000) % 65536).toNat,
      if n.charge.1 ≠ 0 then .discharging
      else chargeStateFromStatus n.charge.2)

/-- The telemetry record these notes make: the fix or zeros, the time since
the start of the cycle in whole seconds, the start kept in 32 bits, and the
readings or what stands for a failed one. -/
def telemetry (n : Notes) : Telemetry :=
  { longitude := match n.told with | some fix => fix.longitude | none => 0
    latitude := match n.told with | some fix => fix.latitude | none => 0
    hdop := match n.told with | some fix => fix.hdop | none => 0
    awakeS := u32 ((n.uptime - u32 (n.begun.getD 0)).tdiv 1000)
    wake := n.wake
    battMv := match n.power with | .ok (battMv, _) => battMv | .error _ => 0
    charge := match n.power with
      | .ok (_, charge) => charge
      | .error _ => .discharging
    signalDbm := if n.rsrp.1 = 0 then n.rsrp.2 else 0 }

/-- The timestamp, if the clock is set. -/
def stamp (n : Notes) : Option Int :=
  if n.clock.1 = 0 then some n.clock.2 else none

/-- The location message these notes make of a fix. -/
def location (n : Notes) (fix : TrackerFix) : GnssMessage :=
  { tsMs := n.stamp
    lat := fix.latitude
    lon := fix.longitude
    accuracy := fix.accuracy
    alt := fix.altitude
    speed := fix.speed
    heading := fix.heading }

end Notes

/-- The notes on a log. -/
def notes : Trace → Notes
  | [] => {}
  | .call _ _ o r :: l => (notes l).read o r
  | .env .. :: l => notes l

/-- What is handed over is what the notes say. -/
def Truthful (cfg : Config) (e : Ev) (l : Trace) : Prop :=
  match e with
  | .call s _ (.jsonMessageSend text) _ =>
      ∃ payload,
        telemetryBuildJson cfg s.phaseAtReset (notes l).telemetry 256
          = .ok payload
        ∧ text = Nrf.envelope cfg (notes l).stamp payload
  | .call s _ (.sendSocket text) _ =>
      ∃ payload topic list,
        telemetryBuildJson cfg s.phaseAtReset (notes l).telemetry 256
          = .ok payload
        ∧ text = Hologram.envelope cfg payload topic list ++ "\n\n".toList
  | .call _ _ (.locationSend msg) _ =>
      ∃ fix, (notes l).told = some fix ∧ msg = (notes l).location fix
  | _ => True

-- ============================================================ what is not read

/-- A call the notes read. -/
def Op.noted : Op → Bool
  | .enter (.cycle _) | .enter (.reportFix _) | .kUptimeGet | .lastPvtGet
  | .lastFixGet | .chargerFetch | .gaugeVoltageGet | .chargerStatusGet
  | .rsrpGet | .dateTimeNow => true
  | _ => false

/-- What is not noted leaves the notes. -/
theorem read_unnoted {o : Op} (h : o.noted = false) (n : Notes) (r : o.Ret) :
    n.read o r = n := by
  cases o with
  | enter f => cases f <;> first | rfl | cases h
  | _ => first | rfl | cases h

/-- A call that hands something over. -/
def Op.hands : Op → Bool
  | .jsonMessageSend _ | .sendSocket _ | .locationSend _ => true
  | _ => false

/-- What hands nothing over promises nothing. -/
theorem truthful_unhanded {cfg : Config} {o : Op} (h : o.hands = false)
    (s : Statics) (d : Dev) (r : o.Ret) (l : Trace) :
    Truthful cfg (.call s d o r) l := by
  cases o <;> trivial

-- ================================================================ assertions

section Main

variable {cfg : Config} {G : Ev → Trace → Prop}

/-- The promise at every step. -/
abbrev Honest (cfg : Config) (w : Tracker) : Prop :=
  Always (Truthful cfg) w.log

/-- The promise is kept and the notes say `n`. -/
structure Noted (cfg : Config) (n : Notes) (w : Tracker) : Prop where
  kept : Honest cfg w
  reads : notes w.log = n

/-- The notes know when and why the cycle began. -/
def Notes.Began (n : Notes) (wakeUptimeMs : Nat) (wr : WakeReason) : Prop :=
  n.wake = wr ∧ ∃ s, n.begun = some s ∧ wakeUptimeMs = u32 s

/-- The notes follow an answered call. -/
theorem Noted.called {n : Notes} {w : Tracker} (h : Noted cfg n w) {o : Op}
    (r : o.Ret) (ht : Truthful cfg (.call w.st w.dev o r) w.log) :
    Noted cfg (n.read o r) (w.called (device cfg) o r) :=
  ⟨⟨ht, h.kept⟩, congrArg (fun n => Notes.read n o r) h.reads⟩

theorem noted_stable (n : Notes) (q : Statics → Prop) :
    Stable (device cfg) G fun w => Noted cfg n w ∧ q w.st :=
  fun _ _ h _ _ => ⟨⟨⟨trivial, h.1.kept⟩, h.1.reads⟩, h.2⟩

/-- A call that hands nothing over is noted. -/
theorem call_noted {n : Notes} {o : Op} (ho : o.hands = false) :
    Triple (device cfg) G (Honest cfg) (Noted cfg n) (call o)
      fun r => Noted cfg (n.read o r) := by
  have hs : Stable (device cfg) G (Noted cfg n) :=
    fun _ _ h _ _ => ⟨⟨trivial, h.kept⟩, h.reads⟩
  refine Triple.op hs fun w r h _ _ => ?_
  have hw := h.called r (truthful_unhanded ho w.st w.dev r w.log)
  exact ⟨hw.kept, hw⟩

/-- Within a cycle, with something known of the notes. -/
def Noting (cfg : Config) (wakeUptimeMs : Nat) (wr : WakeReason)
    (q : Notes → Prop) (w : Tracker) : Prop :=
  ∃ n, Noted cfg n w ∧ n.Began wakeUptimeMs wr ∧ q n

/-- Within a cycle, with a fix in hand or none. -/
abbrev Bearing (cfg : Config) (wakeUptimeMs : Nat) (wr : WakeReason)
    (fix : Option TrackerFix) : Tracker → Prop :=
  Noting cfg wakeUptimeMs wr fun n => ∀ f, fix = some f → n.fix = some f

/-- Within a cycle. -/
abbrev Midcycle (cfg : Config) (wakeUptimeMs : Nat) (wr : WakeReason) :
    Tracker → Prop := Bearing cfg wakeUptimeMs wr none

variable {u : Nat} {wr : WakeReason} {fix : Option TrackerFix}

/-- To be within a cycle is the least that is known. -/
theorem Noting.midcycle {q : Notes → Prop} {w : Tracker}
    (h : Noting cfg u wr q w) : Midcycle cfg u wr w := by
  obtain ⟨n, hn, hb, -⟩ := h
  exact ⟨n, hn, hb, by simp⟩

theorem Noting.kept {q : Notes → Prop} {w : Tracker}
    (h : Noting cfg u wr q w) : Honest cfg w := by
  obtain ⟨n, hn, -⟩ := h
  exact hn.kept

/-- The start of a cycle is known until the next begins. -/
theorem began_read {n : Notes} (h : n.Began u wr) {o : Op} (r : o.Ret)
    (ho : ∀ wr, o ≠ .enter (.cycle wr)) : (n.read o r).Began u wr := by
  obtain ⟨hwake, s, hs, hu⟩ := h
  cases o with
  | enter f =>
      cases f with
      | cycle wr => exact absurd rfl (ho wr)
      | _ => exact ⟨hwake, s, hs, hu⟩
  | kUptimeGet => exact ⟨hwake, s, by simp [Notes.read, hs], hu⟩
  | _ => exact ⟨hwake, s, hs, hu⟩

private theorem conveyGroups_off {o : Op} (h : Off conveyGroups o) :
    o.hands = false ∧ ∀ wr, o ≠ .enter (.cycle wr) := by
  constructor
  · cases o <;> first | rfl | exact absurd h (by simp [Off])
  · intro wr ho
    subst ho
    cases wr <;> exact absurd h (by simp [Off])

/-- Calls that neither hand over nor begin a cycle keep the promise. -/
theorem honest_frame :
    Frame (device cfg) G (Honest cfg) (Honest cfg) (Off conveyGroups)
      (Keep []) where
  stable := fun _ _ h _ _ => ⟨trivial, h⟩
  calls := fun w _ r ho h _ _ =>
    ⟨truthful_unhanded (conveyGroups_off ho).1 w.st w.dev r w.log, h⟩
  writes := fun _ _ _ h => h
  gives := fun _ h => h

/-- And within a cycle they keep its start. -/
theorem midcycle_frame (u : Nat) (wr : WakeReason) :
    Frame (device cfg) G (Honest cfg) (Midcycle cfg u wr) (Off conveyGroups)
      (Keep []) where
  stable := fun w a h _ _ => by
    obtain ⟨n, hn, hb, -⟩ := h
    exact ⟨n, ⟨⟨trivial, hn.kept⟩, hn.reads⟩, hb, by simp⟩
  calls := fun w _ r ho h _ _ => by
    obtain ⟨n, hn, hb, -⟩ := h
    obtain ⟨hhands, hcycle⟩ := conveyGroups_off ho
    exact ⟨_, hn.called r (truthful_unhanded hhands w.st w.dev r w.log),
      began_read hb r hcycle, by simp⟩
  writes := fun w f _ h => by
    obtain ⟨n, hn, hb, -⟩ := h
    exact ⟨n, ⟨hn.kept, hn.reads⟩, hb, by simp⟩
  gives := fun w h => by
    obtain ⟨n, hn, -⟩ := h
    exact hn.kept

/-- A sleep and a feed leave the fix in hand. -/
theorem bearing_standby (fix : Option TrackerFix) :
    Frame (device cfg) G (Honest cfg) (Bearing cfg u wr fix) Standby
      (Touch [.phase]) where
  stable := fun w a h _ _ => by
    obtain ⟨n, hn, hb⟩ := h
    exact ⟨n, ⟨⟨trivial, hn.kept⟩, hn.reads⟩, hb⟩
  calls := fun w _ r ho h _ _ => by
    obtain ⟨n, hn, hb⟩ := h
    rcases ho with ⟨ms, rfl⟩ | rfl
    · exact ⟨n, hn.called (o := .kSleep ms) r trivial, hb⟩
    · exact ⟨n, hn.called (o := .wdtFeed) r trivial, hb⟩
  writes := fun w f _ h => by
    obtain ⟨n, hn, hb⟩ := h
    exact ⟨n, ⟨hn.kept, hn.reads⟩, hb⟩
  gives := fun w h => by
    obtain ⟨n, hn, -⟩ := h
    exact hn.kept

-- ==================================================================== a wait

/-- What a call adds to what is known of the notes. -/
theorem call_noting {o : Op} {q : Notes → Prop} {p : o.Ret → Notes → Prop}
    (ho : o.hands = false) (hc : ∀ wr, o ≠ .enter (.cycle wr))
    (hp : ∀ n r, q n → p r (n.read o r)) :
    Triple (device cfg) G (Honest cfg) (Noting cfg u wr q) (call o)
      fun r => Noting cfg u wr (p r) := by
  intro w hw
  obtain ⟨n, h, hb, hn⟩ := hw
  exact (call_noted ho).post (fun r w h =>
    ⟨_, h, began_read hb r hc, hp n r hn⟩) w h

/-- A call that is not read and hands nothing over adds nothing. -/
theorem call_aside {o : Op} {q : Notes → Prop} (hn : o.noted = false)
    (ho : o.hands = false) :
    Triple (device cfg) G (Honest cfg) (Noting cfg u wr q) (call o)
      fun _ => Noting cfg u wr q := by
  refine call_noting ho (fun wr h => ?_) fun n r h => ?_
  · rw [h] at hn
    cases hn
  · rwa [read_unnoted hn]

/-- A wait puts its fix in hand, or leaves the one that was there. -/
theorem gnssWaitFix_bearing (timeoutS : Nat) :
    Triple (device cfg) G (Honest cfg) (Bearing cfg u wr fix)
      (gnssWaitFix cfg timeoutS)
      fun r => Bearing cfg u wr (r.toOption.or fix) := by
  refine triple_scope (call_aside rfl rfl) (Triple.get fun s =>
    Triple.pre (P := Bearing cfg u wr fix) ?_ fun w h => h.1)
    fun r => call_aside rfl rfl
  refine Triple.ite (fun _ => ?_) fun _ => ?_
  · refine (call_aside rfl rfl).bind fun _ => (call_aside rfl rfl).bind
      fun r => Triple.ite (fun _ => Triple.ret fun w h => h) fun _ => ?_
    refine (call_noting (o := .lastFixGet)
      (p := fun r n => ∀ f, some r = some f → n.fix = some f) rfl (by simp)
      fun n r _ f hf => hf).bind fun fix => Triple.ret fun w h => h
  · refine (call_aside rfl rfl).bind fun _ => (call_aside rfl rfl).bind
      fun r => Triple.ite (fun _ => Triple.ret fun w h => h) fun _ => ?_
    refine (call_noting (o := .lastPvtGet)
      (p := fun r n => ∀ f, some (fixOfPvt r) = some f → n.fix = some f)
      rfl (by simp) fun n r _ f hf => hf).bind fun pvt =>
      Triple.ret fun w h => h

-- ================================================================== a report

/-- The notes say what a report was built of, in a cycle begun at `u` for
`wr`. -/
def Sheet (cfg : Config) (u : Nat) (wr : WakeReason) (phase : Nat)
    (t : Telemetry) (fix : Option TrackerFix) (w : Tracker) : Prop :=
  ∃ n, Noted cfg n w ∧ n.Began u wr ∧ n.telemetry = t ∧ n.told = fix
    ∧ w.st.phaseAtReset = phase

variable {phase : Nat} {t : Telemetry}

/-- Calls that are not read and hand nothing over. -/
def Aside (o : Op) : Prop := o.noted = false ∧ o.hands = false

/-- Nothing aside changes what a report was built of. -/
theorem sheet_frame :
    Frame (device cfg) G (Honest cfg) (Sheet cfg u wr phase t fix) Aside
      (Keep [.latch]) where
  stable := fun w a h _ _ => by
    obtain ⟨n, hn, hb⟩ := h
    exact ⟨n, ⟨⟨trivial, hn.kept⟩, hn.reads⟩, hb⟩
  calls := fun w o r ho h _ _ => by
    obtain ⟨n, hn, hb⟩ := h
    have hw := hn.called r (truthful_unhanded ho.2 w.st w.dev r w.log)
    rw [read_unnoted ho.1] at hw
    exact ⟨n, hw, hb⟩
  writes := fun w f hf h => by
    obtain ⟨n, hn, hb, ht, hfix, hphase⟩ := h
    have hlatch : Var.Same w.st (f w.st) .latch := hf .latch (by simp)
    exact ⟨n, ⟨hn.kept, hn.reads⟩, hb, ht, hfix, hlatch.2.1.trans hphase⟩
  gives := fun w h => by
    obtain ⟨n, hn, -⟩ := h
    exact hn.kept

/-- The clock is read for an envelope, not for the record in it. -/
theorem dateTimeNow_sheet :
    Triple (device cfg) G (Honest cfg) (Sheet cfg u wr phase t fix)
      (call .dateTimeNow) fun r w => ∃ n, Noted cfg n w ∧ n.Began u wr
        ∧ n.telemetry = t ∧ n.told = fix ∧ w.st.phaseAtReset = phase
        ∧ n.clock = r := by
  refine Triple.op sheet_frame.stable fun w r h _ _ => ?_
  obtain ⟨n, hn, hb, ht, hfix, hphase⟩ := h
  have hw := hn.called (o := .dateTimeNow) r trivial
  exact ⟨hw.kept, _, hw, hb, ht, hfix, hphase, rfl⟩

/-- A message is handed over that says what the notes say. -/
theorem message_sheet {o : Op} (ho : o.noted = false)
    {q : Notes → Prop}
    (ht : ∀ n s d r l, notes l = n → n.telemetry = t → n.told = fix →
      s.phaseAtReset = phase → q n → Truthful cfg (.call s d o r) l) :
    Triple (device cfg) G (Honest cfg)
      (fun w => ∃ n, Noted cfg n w ∧ n.Began u wr ∧ n.telemetry = t
        ∧ n.told = fix ∧ w.st.phaseAtReset = phase ∧ q n) (call o)
      fun _ => Sheet cfg u wr phase t fix := by
  intro w hw
  obtain ⟨n, hn, hb, htel, hfix, hphase, hq⟩ := hw
  have hs : Stable (device cfg) G fun w =>
      Noted cfg n w ∧ w.st.phaseAtReset = phase :=
    noted_stable n fun s => s.phaseAtReset = phase
  refine Triple.op (R := fun _ => Sheet cfg u wr phase t fix) hs
    (fun w r h _ _ => ?_) w ⟨hn, hphase⟩
  obtain ⟨hn, hphase⟩ := h
  have hw := hn.called r (ht n w.st w.dev r w.log hn.reads htel hfix hphase hq)
  rw [read_unnoted ho] at hw
  exact ⟨hw.kept, n, hw, hb, htel, hfix, hphase⟩

/-- A part that is not read, hands nothing over and writes no latch. -/
theorem aside_keeps {α : Type} {p : P α}
    (h : Within (S := Calls) Aside (Touch [.linkState, .modemTimeReady]) p) :
    Triple (device cfg) G (Honest cfg) (Sheet cfg u wr phase t fix) p
      fun _ => Sheet cfg u wr phase t fix :=
  (sheet_frame.mono (fun _ h => h) fun _ _ h v hv => h v (by simp_all)).keeps h

/-- A device message: the clock for its envelope, then the text. -/
theorem nrfSend_sheet {payload : Text}
    (hbuilt : telemetryBuildJson cfg phase t 256 = .ok payload) :
    Triple (device cfg) G (Honest cfg) (Sheet cfg u wr phase t fix)
      (Nrf.cloudSendTelemetry cfg payload)
      fun _ => Sheet cfg u wr phase t fix := by
  refine dateTimeNow_sheet.bind fun clock => ?_
  have hdone : ∀ r : Int, Triple (device cfg) G (Honest cfg)
      (fun w => ∃ n, Noted cfg n w ∧ n.Began u wr ∧ n.telemetry = t
        ∧ n.told = fix ∧ w.st.phaseAtReset = phase ∧ n.clock = clock)
      (pure r : P Int) fun _ => Sheet cfg u wr phase t fix := by
    refine fun r => Triple.ret fun w h => ?_
    obtain ⟨n, hn, hb, ht, hfix, hphase, -⟩ := h
    exact ⟨n, hn, hb, ht, hfix, hphase⟩
  refine Triple.ite (fun _ => hdone _) fun _ => Triple.ite
    (fun _ => hdone _) fun _ => (message_sheet rfl ?_).bind
    fun err => Triple.ret fun w h => h
  intro n s d r l hl ht hfix hphase hclock
  refine ⟨payload, ?_, ?_⟩
  · rw [hl, ht, hphase]
    exact hbuilt
  · rw [hl, Notes.stamp, hclock]

/-- A Hologram envelope: built aside, then sent over the socket. -/
theorem hologramSend_sheet {payload : Text}
    (hbuilt : telemetryBuildJson cfg phase t 256 = .ok payload) :
    Triple (device cfg) G (Honest cfg) (Sheet cfg u wr phase t fix)
      (Hologram.hologramSend cfg payload)
      fun _ => Sheet cfg u wr phase t fix := by
  refine hologram_sends (fun f => aside_keeps (Within.op ⟨rfl, rfl⟩))
    (fun n => aside_keeps (Within.op ⟨rfl, rfl⟩)) fun topic list => ?_
  refine Triple.pre (P := fun w => ∃ n, Noted cfg n w ∧ n.Began u wr
    ∧ n.telemetry = t ∧ n.told = fix ∧ w.st.phaseAtReset = phase ∧ True)
    (message_sheet (q := fun _ => True) rfl ?_) fun w h => ?_
  · intro n s d r l hl ht hfix hphase _
    refine ⟨payload, topic, list, ?_, rfl⟩
    rw [hl, ht, hphase]
    exact hbuilt
  · obtain ⟨n, hn, hb, ht, hfix, hphase⟩ := h
    exact ⟨n, hn, hb, ht, hfix, hphase, trivial⟩

/-- A send, over whichever transport the build has. -/
theorem cloudSend_sheet {payload : Text}
    (hbuilt : telemetryBuildJson cfg phase t 256 = .ok payload) :
    Triple (device cfg) G (Honest cfg) (Sheet cfg u wr phase t fix)
      (cloudSendTelemetry cfg payload)
      fun _ => Sheet cfg u wr phase t fix := by
  unfold cloudSendTelemetry
  cases cfg.cloudProvider with
  | nrfcloud => exact nrfSend_sheet hbuilt
  | hologram => exact hologramSend_sheet hbuilt

-- ================================================================ the link

theorem watchdogFeed_aside :
    Within (S := Calls) Aside (Touch [.linkState, .modemTimeReady])
      watchdogFeed :=
  Within.get.bind fun _ => Within.ite (Within.op ⟨rfl, rfl⟩) (Within.ret ())

theorem guardStart_aside (budgetS : Nat) :
    Within (S := Calls) Aside (Touch [.linkState, .modemTimeReady])
      (watchdogGuardStart budgetS) :=
  (Within.op ⟨rfl, rfl⟩).bind fun _ => watchdogFeed_aside.bind fun _ =>
    Within.op ⟨rfl, rfl⟩

theorem guardStop_aside :
    Within (S := Calls) Aside (Touch [.linkState, .modemTimeReady])
      watchdogGuardStop :=
  (Within.op ⟨rfl, rfl⟩).bind fun _ => watchdogFeed_aside

/-- The polls for the modem's time are aside, however many. -/
theorem modemTimePoll_aside (n : Nat) :
    Within (S := Calls) Aside (Touch [.linkState, .modemTimeReady])
      (Nrf.modemTimePoll n) := by
  induction n with
  | zero => exact Within.ret ()
  | succ n ih =>
      refine (Within.op ⟨rfl, rfl⟩).bind fun err => Within.ite
        (Within.modify fun s => by simp [Var.forall]) ?_
      exact (Within.op ⟨rfl, rfl⟩).bind fun _ =>
        watchdogFeed_aside.bind fun _ => ih

theorem setLink_aside (l : LinkState) :
    Within (S := Calls) Aside (Touch [.linkState, .modemTimeReady])
      (Nrf.setLink l) :=
  Within.modify fun s => by simp [Var.forall]

/-- A connect in the middle of a report is aside too: the retry sends what the
first send did. -/
theorem connect_aside :
    Within (S := Calls) Aside (Touch [.linkState, .modemTimeReady])
      (Nrf.connect cfg) := by
  have hwait : Within (S := Calls) Aside
      (Touch [.linkState, .modemTimeReady]) (Nrf.modemTimeWait cfg) :=
    Within.get.bind fun _ => Within.ite (Within.ret ())
      (modemTimePoll_aside _)
  refine hwait.bind fun _ => (Within.op ⟨rfl, rfl⟩).bind fun err =>
    Within.ite ?_ ((setLink_aside _).bind fun _ => Within.ret _)
  exact (Within.op ⟨rfl, rfl⟩).bind fun _ => (setLink_aside _).bind
    fun _ => Within.ret _

theorem cloudResume_aside :
    Within (S := Calls) Aside (Touch [.linkState, .modemTimeReady])
      (cloudResume cfg) := by
  refine within_scope ⟨rfl, rfl⟩ ?_ fun c => ⟨rfl, rfl⟩
  cases cfg.cloudProvider with
  | hologram => exact Within.ret _
  | nrfcloud =>
      refine Within.ite (Within.ret _) (Within.ite
        ((setLink_aside _).bind fun _ => Within.ret _)
        (Within.get.bind fun s => Within.ite (Within.ret _) (Within.ite
          (Within.ret _) (Within.ite ?_ connect_aside))))
      refine (Within.op ⟨rfl, rfl⟩).bind fun err => Within.ite
        ((setLink_aside _).bind fun _ => Within.ret _)
        ((setLink_aside _).bind fun _ => connect_aside)

-- ============================================================ the whole of it

/-- Both sends of a report hand over the text it was built of. -/
theorem sendReport_sheet {payload : Text}
    (hbuilt : telemetryBuildJson cfg phase t 256 = .ok payload) :
    Triple (device cfg) G (Honest cfg) (Sheet cfg u wr phase t fix)
      (sendReport cfg payload) fun _ => Sheet cfg u wr phase t fix := by
  have hsend : ∀ f, (Op.enter f).noted = false →
      Triple (device cfg) G (Honest cfg) (Sheet cfg u wr phase t fix)
        (scope f (cloudSendTelemetry cfg payload))
        fun _ => Sheet cfg u wr phase t fix := fun f hf =>
    triple_scope (aside_keeps (Within.op ⟨hf, rfl⟩)) (cloudSend_sheet hbuilt)
      fun r => aside_keeps (Within.op ⟨rfl, rfl⟩)
  refine (hsend .firstSend rfl).bind fun err => Triple.ite (fun _ => ?_)
    fun _ => Triple.ret fun w h => h
  refine (aside_keeps (guardStart_aside _)).bind fun _ =>
    (aside_keeps cloudResume_aside).bind fun err =>
    (aside_keeps guardStop_aside).bind fun _ => Triple.ite
      (fun _ => hsend .retrySend rfl) fun _ => Triple.ret fun w h => h

/-- The location is shared as the fix of the report. -/
theorem cloudSendLocation_honest (fix : TrackerFix) :
    Triple (device cfg) G (Honest cfg)
      (Noting cfg u wr fun n => n.told = some fix)
      (cloudSendLocation cfg fix) fun _ => Midcycle cfg u wr := by
  unfold cloudSendLocation
  cases cfg.cloudProvider with
  | hologram => exact Triple.ret fun w h => h.midcycle
  | nrfcloud =>
      refine Triple.ite (fun _ => Triple.ret fun w h => h.midcycle) fun _ =>
        Triple.ite (fun _ => Triple.ret fun w h => h.midcycle) fun _ => ?_
      refine (call_noting (o := .dateTimeNow)
        (p := fun r n => n.told = some fix ∧ n.clock = r) rfl (by simp)
        fun n r h => ⟨h, rfl⟩).bind fun clock => Triple.bind
        (R := fun _ => Midcycle cfg u wr) (fun w hw => ?_)
        fun err => Triple.ret fun w h => h
      obtain ⟨n, hn, hb, hfix, hclock⟩ := hw
      have hs : Stable (device cfg) G (Noted cfg n) :=
        fun _ _ h _ _ => ⟨⟨trivial, h.kept⟩, h.reads⟩
      refine Triple.op (R := fun _ => Midcycle cfg u wr) hs
        (fun w r h _ _ => ?_) w hn
      have hmsg : Truthful cfg (.call w.st w.dev (.locationSend _) r) w.log :=
        ⟨fix, by rw [h.reads]; exact hfix, by
          rw [Notes.location, h.reads, Notes.stamp, hclock]⟩
      have hw := h.called (o := .locationSend _) r hmsg
      exact ⟨hw.kept, _, hw, hb, by simp⟩

/-- `report_fix` from its payload on. -/
theorem deliver_honest {payload : Text}
    (hbuilt : telemetryBuildJson cfg phase t 256 = .ok payload) :
    Triple (device cfg) G (Honest cfg) (Sheet cfg u wr phase t fix)
      (deliver cfg fix payload) fun _ => Midcycle cfg u wr := by
  have hfeed : ∀ err : Int, Triple (device cfg) G (Honest cfg)
      (Midcycle cfg u wr) (do
        watchdogFeed
        pure err) fun _ => Midcycle cfg u wr := fun err =>
    (part (midcycle_frame u wr) watchdogFeed_foot (by simp) (by simp)).bind
      fun _ => Triple.ret fun w h => h
  have hmid : ∀ w, Sheet cfg u wr phase t fix w → Midcycle cfg u wr w := by
    intro w h
    obtain ⟨n, hn, hb, -⟩ := h
    exact ⟨n, hn, hb, by simp⟩
  refine (sendReport_sheet hbuilt).bind fun err => Triple.ite (fun _ => ?_)
    fun _ => (hfeed err).pre hmid
  refine Triple.pre (P := Noting cfg u wr fun n => n.told = fix) ?_
    fun w h => ?_
  -- accepted: the stamp and the location have the fix still in hand
  · refine (call_noting (o := .kUptimeGet) (p := fun _ n => n.told = fix)
      rfl (by simp) fun n r h => h).bind fun now => Triple.bind
      (R := fun _ => Noting cfg u wr fun n => n.told = fix)
      (Triple.modify fun w h => ?_) fun _ => ?_
    · obtain ⟨n, hn, hb⟩ := h
      exact ⟨hn.kept, n, ⟨hn.kept, hn.reads⟩, hb⟩
    · cases fix with
      | none => exact (hfeed err).pre fun w h => h.midcycle
      | some fix =>
          exact (cloudSendLocation_honest fix).bind fun _ => hfeed err
  · obtain ⟨n, hn, hb, -, hfix, -⟩ := h
    exact ⟨n, hn, hb, hfix⟩

/-- `power_read` gives what the notes say of the battery. -/
theorem powerRead_noted {q : Notes → Prop}
    (hq : ∀ n o r, o = .chargerFetch ∨ o = .gaugeVoltageGet
      ∨ o = .chargerStatusGet → q n → q (n.read o r)) :
    Triple (device cfg) G (Honest cfg) (Noting cfg u wr q) powerRead
      fun p => Noting cfg u wr fun n => q n ∧ n.power = p := by
  refine (call_noting (o := .chargerFetch)
    (p := fun r n => q n ∧ n.charger = r) rfl (by simp)
    fun n r h => ⟨hq n _ r (.inl rfl) h, rfl⟩).bind fun err =>
    Triple.ite (fun herr => Triple.ret fun w h => ?_) fun herr => ?_
  · obtain ⟨n, hn, hb, h, rfl⟩ := h
    exact ⟨n, hn, hb, h, if_pos herr⟩
  -- each of the three answers is noted before the next one is asked for
  · rw [Decidable.not_not] at herr
    refine (call_noting (o := .gaugeVoltageGet)
      (p := fun r n => q n ∧ n.charger = err ∧ n.voltage = r) rfl (by simp)
      fun n r h => ⟨hq n _ r (.inr (.inl rfl)) h.1, h.2, rfl⟩).bind
      fun voltage => ?_
    obtain ⟨verr, val1, val2⟩ := voltage
    refine Triple.ite (fun hverr => Triple.ret fun w h => ?_) fun hverr => ?_
    · obtain ⟨n, hn, hb, h, hc, hv⟩ := h
      refine ⟨n, hn, hb, h, ?_⟩
      simp [Notes.power, hc, hv, herr, hverr]
    · refine (call_noting (o := .chargerStatusGet)
        (p := fun r n => q n ∧ n.charger = err
          ∧ n.voltage = (verr, val1, val2) ∧ n.charge = r) rfl (by simp)
        fun n r h => ⟨hq n _ r (.inr (.inr rfl)) h.1, h.2.1, h.2.2, rfl⟩).bind
        fun charge => ?_
      obtain ⟨cerr, status⟩ := charge
      refine Triple.ite (fun hcerr => Triple.ret fun w h => ?_)
        fun hcerr => Triple.ret fun w h => ?_
      all_goals
        obtain ⟨n, hn, hb, h, hc, hv, hs⟩ := h
        refine ⟨n, hn, hb, h, ?_⟩
        simp_all [Notes.power]

/-- What the notes say when a report has read all it tells. -/
def HasRead (n : Notes) (fix : Option TrackerFix) (now : Int)
    (power : Except Int (Nat × ChargeState)) (rsrp : Int × Int) : Prop :=
  n.told = fix ∧ n.uptime = now ∧ n.power = power ∧ n.rsrp = rsrp

/-- The record `report_fix` fills in is the one the notes make, field by
field; the start of the cycle is kept in 32 bits by both. -/
theorem HasRead.telemetry {n : Notes} {now : Int}
    {power : Except Int (Nat × ChargeState)} {rsrp : Int × Int}
    (h : HasRead n fix now power rsrp) (hb : n.Began u wr) :
    n.telemetry = telemetryOf fix now u wr power rsrp := by
  obtain ⟨hfix, hnow, hpower, hrsrp⟩ := h
  obtain ⟨hwake, s, hs, hu⟩ := hb
  unfold Notes.telemetry telemetryOf
  rw [hfix, hnow, hpower, hrsrp, hwake, hs, hu, Option.getD_some]
  cases fix <;> cases power <;> simp only [Option.map, Option.getD, ite_not]

/-- A report reads everything it tells, one reading a line, and then delivers
it. -/
theorem reportFix_honest (fix : Option TrackerFix) :
    Triple (device cfg) G (Honest cfg) (Bearing cfg u wr fix)
      (reportFix cfg fix u wr) fun _ => Midcycle cfg u wr := by
  refine triple_scope (R := fun _ => Midcycle cfg u wr)
    (call_noting (o := .enter (.reportFix fix.isSome))
      (p := fun _ n => n.told = fix) rfl (by simp) fun n r h => ?_) ?_
    fun r => call_aside rfl rfl
  · cases fix with
    | none => rfl
    | some fix => exact h fix rfl
  refine (call_noting (o := .kUptimeGet)
    (p := fun r n => n.told = fix ∧ n.uptime = r) rfl (by simp)
    fun n r h => ⟨h, rfl⟩).bind fun now => ?_
  refine (powerRead_noted (q := fun n => n.told = fix ∧ n.uptime = now)
    fun n o r ho h => ?_).bind fun power => ?_
  · rcases ho with rfl | rfl | rfl <;> exact h
  refine (call_noting (o := .rsrpGet)
    (p := fun r n => HasRead n fix now power r) rfl (by simp)
    fun n r h => ⟨h.1.1, h.1.2, h.2, rfl⟩).bind fun rsrp => ?_
  refine Triple.bind (R := fun _ => Noting cfg u wr fun n =>
    HasRead n fix now power rsrp) (Triple.modify fun w h => ?_) fun _ =>
    Triple.get fun s => ?_
  · obtain ⟨n, hn, hb⟩ := h
    exact ⟨hn.kept, n, ⟨hn.kept, hn.reads⟩, hb⟩
  -- everything is read: the record is the one of the notes
  cases hbuilt : telemetryBuildJson cfg s.phaseAtReset
      (telemetryOf fix now u wr power rsrp) 256 with
  | error err => exact Triple.ret fun w h => h.1.midcycle
  | ok payload =>
      refine (deliver_honest hbuilt).pre fun w h => ?_
      obtain ⟨⟨n, hn, hb, hread⟩, hs⟩ := h
      exact ⟨n, hn, hb, hread.telemetry hb, hread.1, by rw [hs]⟩

-- ==================================================================== the walk

/-- At the top of a cycle the notes begin anew: with its reason, then with the
first uptime. -/
theorem topOfCycle_honest (wr : WakeReason) :
    Triple (device cfg) G (Honest cfg) (Honest cfg) (topOfCycle wr)
      fun u => Midcycle cfg u wr := by
  have hnote : Triple (device cfg) G (Honest cfg) (Honest cfg)
      (call (.enter (.cycle wr))) fun _ w => ∃ n, Noted cfg n w
        ∧ n.wake = wr ∧ n.begun = none := by
    refine Triple.op honest_frame.stable fun w r h _ _ => ?_
    have hw := Noted.called (o := .enter (.cycle wr)) ⟨h, rfl⟩ r trivial
    exact ⟨hw.kept, _, hw, rfl, rfl⟩
  have hnow : Triple (device cfg) G (Honest cfg) (fun w => ∃ n,
      Noted cfg n w ∧ n.wake = wr ∧ n.begun = none) (call .kUptimeGet)
      fun now => Midcycle cfg (u32 now) wr := by
    intro w hw
    obtain ⟨n, h, hwake, hbegun⟩ := hw
    refine (call_noted rfl).post (fun now w h => ?_) w h
    exact ⟨_, h, ⟨hwake, now, by simp [Notes.read, hbegun], rfl⟩, by simp⟩
  have hrest : ∀ u, Triple (device cfg) G (Honest cfg) (Midcycle cfg u wr) (do
      watchdogPhase .wake
      watchdogFeed
      pure u) fun u => Midcycle cfg u wr := fun u =>
    (part (midcycle_frame u wr) (watchdogPhase_foot _) (by simp)
      (by simp)).bind fun _ => (part (midcycle_frame u wr) watchdogFeed_foot
      (by simp) (by simp)).bind fun _ => Triple.ret fun w h => h
  refine hnote.bind fun _ => hnow.bind fun now => Triple.ite (fun _ => ?_)
    fun _ => hrest _
  exact (part (midcycle_frame _ wr) (g := []) (v := [.batterySleeps])
    (by simp [Var.forall]) (by simp) (by simp)).bind fun _ => hrest _

/-- A fix goes from the wait that read it to the report that tells it. -/
theorem honest_conveying : Conveying cfg G (Honest cfg) (Midcycle cfg)
    fun u wr fix => Bearing cfg u wr (some fix) where
  rests := honest_frame
  mids := midcycle_frame
  helds u wr fix := bearing_standby (some fix)
  topOfCycle := topOfCycle_honest
  wait u wr t := (gnssWaitFix_bearing t).post fun r w h => by
    cases r with
    | ok fix => exact h
    | error err => exact h
  settle u wr fix := (gnssWaitFix_bearing 5).post fun r w h => by
    cases r with
    | ok fix => exact h
    | error err => exact h
  report u wr fix := reportFix_honest (some fix)
  reportNone u wr := reportFix_honest none

end Main

/-- The promise is kept wherever a run of `main` is. -/
theorem honest_reach {cfg : Config} {n fuel : Nat} {w : Tracker}
    (hboot : w.log = []) {c : P Int × Tracker}
    (hr : Reach (device cfg) (main cfg n fuel) w c) : Honest cfg c.2 := by
  have hw : Honest cfg w := by
    rw [Honest, hboot]
    trivial
  exact honest_conveying.walk.reach hw hr (always_free c.2.log)

/-- In every run each message tells exactly what was observed: its telemetry
is built of the last readings and of the fix the report was called with,
its envelope carries the last clock, and a shared location is that fix. -/
theorem messages_tell_observations {cfg : Config} {n fuel : Nat} {w : Tracker}
    (hboot : w.log = []) {c : P Int × Tracker}
    (hr : Reach (device cfg) (main cfg n fuel) w c) :
    Always (Truthful cfg) c.2.log :=
  honest_reach hboot hr

/-- The latitude of a shared location. -/
def latitudeOf : Ev → Option Rat
  | .call _ _ (.locationSend msg) _ => some msg.lat
  | _ => none

/-- `hurried`, with its locations shared. -/
def sharing : Config := { hurried with nrfCloudPortalLocation := true }

/-- A fix in the cycle and another in its first pass, both shared. -/
theorem messages_tell_observations_sighted :
    let c := playMain sharing sighted 1 2 400
    c.2.log.filterMap latitudeOf = [52, 52] ∧
    Always (Truthful sharing) c.2.log :=
  ⟨by decide +kernel,
    messages_tell_observations rfl (playMain_reach sharing sighted 1 2 400)⟩

end GpsTracker
