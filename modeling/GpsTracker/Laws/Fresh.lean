/-
Every position sent is fresh (gnss_modem.c, gnss_ext.c, gnss.c, main.c).

A receiver's handler stores frames whenever they come; the position in a
message has come from a handler over a snapshot, a wait, perhaps a second
wait to improve it, a report and its retry. With the handler of either
receiver spelled out, as in `Fixes`, but around all of `main`: what a
message tells is the newest frame of its receiver at the moment of the
copy, and that copy was made since the last report and the beginning of
the cycle, by a wait that a frame given in the meantime had ended.

# The argument

The two sides of the snapshot are followed apart. What `main` does needs no
handler: a fix in hand was copied after a reset and a take (`Hearing`), and
nothing is copied while a report is delivered (`Op.deaf`). What the handlers
do needs no `main`: whatever program owns the mailbox, what it heard goes
back to a give (`Attentive`). A run with handlers has a run of the tracker
for its shadow, and both sides hold of it.
-/
import GpsTracker.Lib.Shadow
import GpsTracker.Laws.Fixes
import GpsTracker.Laws.Provenance

namespace GpsTracker

open Proc

-- ================================================================== the waits

/-- The semaphore of a receiver. -/
def FixSource.sem : FixSource → Sem
  | .modem => .modemFix
  | .external => .extFix

/-- How far a wait for a fix is: its semaphore was reset, or taken since. -/
inductive Ear | idle | reset | woken
deriving DecidableEq, Repr

/-- What a record says of the waits on one receiver since the cycle began
or the last report ended; `fresh` that the fix copied last, if it is this
receiver's, was waited for. -/
structure Hearing where
  ear : Ear := .idle
  fresh : Bool := false

/-- What an answered call adds. -/
def Hearing.hear (src : FixSource) (h : Hearing) : (o : Op) → o.Ret → Hearing
  | .enter (.cycle _), _ | .leave (.reportFix _) _, _ => {}
  | .semReset s, _ => if s = src.sem then { h with ear := .reset } else h
  | .semTake s _, r =>
      if s = src.sem then
        { h with ear := if r = (0 : Int) ∧ h.ear = .reset then .woken
                        else .idle }
      else h
  | .lastPvtGet, _ =>
      { h with fresh := src == .external || h.ear == .woken }
  | .lastFixGet, _ =>
      { h with fresh := src == .modem || h.ear == .woken }
  | _, _ => h

/-- What was heard. -/
def heard (src : FixSource) : Trace → Hearing
  | [] => {}
  | .call _ _ o r :: l => (heard src l).hear src o r
  | .env .. :: l => heard src l

/-- A message with a fix tells one that was waited for. -/
def TellsWaited (src : FixSource) : Ev → Trace → Prop
  | .call _ _ o _, l => o.hands = true → (notes l).told.isSome = true →
      (heard src l).fresh = true
  | .env .., _ => True

/-- A call that copies no snapshot and begins neither a cycle nor a report,
nor ends one. -/
def Op.deaf : Op → Bool
  | .enter (.cycle _) | .enter (.reportFix _) | .leave (.reportFix _) _
  | .lastPvtGet | .lastFixGet => false
  | _ => true

variable {cfg : Config} {src : FixSource}

/-- A deaf call adds nothing to what was heard, -/
theorem hear_deaf {o : Op} (ho : o.deaf = true) (h : Hearing) (r : o.Ret) :
    (h.hear src o r).fresh = h.fresh := by
  cases o with
  | enter f => cases f <;> first | rfl | cases ho
  | leave f c => cases f <;> first | rfl | cases ho
  | semReset s =>
      simp only [Hearing.hear]
      split <;> rfl
  | semTake s ms =>
      simp only [Hearing.hear]
      split <;> rfl
  | _ => first | rfl | cases ho

/-- and reads no fix. -/
theorem read_deaf {o : Op} (ho : o.deaf = true) (n : Notes) (r : o.Ret) :
    (n.read o r).haveFix = n.haveFix := by
  cases o with
  | enter f => cases f <;> first | rfl | cases ho
  | lastPvtGet => cases ho
  | lastFixGet => cases ho
  | _ => rfl

-- ================================================================= assertions

section Main

variable {G : Ev → Trace → Prop}

/-- The promise so far. -/
abbrev AllWaited (src : FixSource) (w : Tracker) : Prop :=
  Always (TellsWaited src) w.log

/-- A fix in hand was waited for; without one none is told. -/
structure Bringing (src : FixSource) (fix : Option TrackerFix)
    (w : Tracker) : Prop where
  record : AllWaited src w
  fresh : fix.isSome = true → (heard src w.log).fresh = true
  none : fix = none → (notes w.log).haveFix = false

/-- With a fix in hand. -/
def HasWaited (src : FixSource) (w : Tracker) : Prop :=
  AllWaited src w ∧ (heard src w.log).fresh = true

/-- A call that hands nothing on tells of no position. -/
theorem waited_quiet {o : Op} (ho : o.hands = false) (s : Statics) (d : Dev)
    (r : o.Ret) (l : Trace) : TellsWaited src (.call s d o r) l := by
  intro h
  rw [ho] at h
  cases h

/-- Only sends and the location message hand on. -/
theorem hands_group {o : Op} (h : Off [.send, .location] o) :
    o.hands = false := by
  cases o <;> first | rfl | exact absurd h (by simp [Off])

/-- Between those the law lasts. -/
theorem allWaited_frame :
    Frame (device cfg) G (AllWaited src) (AllWaited src)
      (Off [.send, .location]) (Keep []) where
  stable := fun _ _ h _ _ => ⟨trivial, h⟩
  calls := fun w _ r ho h _ _ =>
    ⟨waited_quiet (hands_group ho) w.st w.dev r w.log, h⟩
  writes := fun _ _ _ h => h
  gives := fun _ h => h

/-- With a fix that was waited for a message may be sent. -/
theorem fetched_frame :
    Frame (device cfg) G (AllWaited src) (HasWaited src)
      (fun o => o.deaf = true) fun _ _ => True where
  stable := fun _ _ h _ _ => ⟨⟨trivial, h.1⟩, h.2⟩
  calls := fun _ _ r ho h _ _ =>
    ⟨⟨fun _ _ => h.2, h.1⟩, (hear_deaf ho _ r).trans h.2⟩
  writes := fun _ _ _ h => h
  gives := fun _ h => h.1

/-- Whether there is a fix to tell or none. -/
theorem bringing_frame (fix : Option TrackerFix) :
    Frame (device cfg) G (AllWaited src) (Bringing src fix)
      (fun o => o.deaf = true) fun _ _ => True where
  stable := fun _ _ h _ _ => ⟨⟨trivial, h.record⟩, h.fresh, h.none⟩
  calls := fun w o r ho h _ _ => by
    have hword : TellsWaited src (.call w.st w.dev o r) w.log := by
      intro _ htold
      cases fix with
      | some fix => exact h.fresh rfl
      | none =>
          rw [Notes.told, h.none rfl] at htold
          cases htold
    exact ⟨⟨hword, h.record⟩,
      fun hf => (hear_deaf ho _ r).trans (h.fresh hf),
      fun hf => (read_deaf ho _ r).trans (h.none hf)⟩
  writes := fun _ _ _ h => ⟨h.record, h.fresh, h.none⟩
  gives := fun _ h => h.record

-- ==================================================================== a wait

/-- A call of a wait, by what it adds. -/
theorem call_heard {o : Op} (ho : o.hands = false) (h : Hearing) :
    Triple (device cfg) G (AllWaited src)
      (fun w => AllWaited src w ∧ heard src w.log = h) (call o)
      fun r w => AllWaited src w ∧ heard src w.log = h.hear src o r := by
  refine Triple.op (fun _ _ h _ _ => ⟨⟨trivial, h.1⟩, h.2⟩)
    fun w r hw _ _ => ?_
  have hrecord : AllWaited src (w.called (device cfg) o r) :=
    ⟨waited_quiet ho w.st w.dev r w.log, hw.1⟩
  exact ⟨hrecord, hrecord, congrArg (fun h => Hearing.hear src h o r) hw.2⟩

/-- The reset, the take and the copy of either receiver. -/
theorem receiver_heard {α : Type} (other : FixSource) (copy : Op)
    (hcopy : copy.hands = false)
    (hfresh : ∀ (h : Hearing) r, other = src → h.ear = .woken →
      (h.hear src copy r).fresh = true)
    (hother : ∀ (h : Hearing) r, other ≠ src → (h.hear src copy r).fresh = true)
    (h : Hearing) (ms : Nat) (f : copy.Ret → α) :
    Triple (device cfg) G (AllWaited src)
      (fun w => AllWaited src w ∧ heard src w.log = h) (do
        call (.semReset other.sem)
        if (← call (.semTake other.sem ms)) ≠ 0 then
          pure (.error (-EAGAIN))
        else
          let r ← call copy
          pure (.ok (f r)) : P (Except Int α))
      fun res w => AllWaited src w ∧ (heard src w.log).fresh
        = (res.toOption.isSome || h.fresh) := by
  -- either receiver has its own semaphore
  have hsem : ∀ s : FixSource, s.sem = src.sem ↔ s = src := by
    intro s
    cases s <;> cases src <;> decide
  refine (call_heard rfl h).bind fun _ => (call_heard rfl _).bind
    fun taken => Triple.ite (fun _ => Triple.ret fun w hw => ?_) fun ht => ?_
  · refine ⟨hw.1, ?_⟩
    rw [hw.2, hear_deaf rfl, hear_deaf rfl]
    rfl
  · refine (call_heard hcopy _).bind fun r => Triple.ret fun w hw => ?_
    refine ⟨hw.1, ?_⟩
    rw [hw.2]
    have hzero : taken = (0 : Int) := Decidable.not_not.mp ht
    -- the receiver heard, or the other one, whose copies are not our concern
    by_cases hs : other = src
    · refine hfresh _ _ hs ?_
      simp [Hearing.hear, (hsem other).mpr hs, hzero]
    · exact hother _ _ hs

/-- A wait that finds a fix has waited for it; one that finds none leaves
the fix in hand. -/
theorem gnssWaitFix_heard (timeoutS : Nat) (fresh : Bool) :
    Triple (device cfg) G (AllWaited src)
      (fun w => AllWaited src w ∧ (heard src w.log).fresh = fresh)
      (gnssWaitFix cfg timeoutS) fun res w => AllWaited src w ∧
        (heard src w.log).fresh = (res.toOption.isSome || fresh) := by
  have hmark : ∀ {o : Op} {b : Bool}, o.hands = false → o.deaf = true →
      Triple (device cfg) G (AllWaited src)
        (fun w => AllWaited src w ∧ (heard src w.log).fresh = b) (call o)
        fun _ w => AllWaited src w ∧ (heard src w.log).fresh = b := by
    intro o b hh hd w hw
    exact (call_heard hh _).post (fun r w h =>
      ⟨h.1, by rw [h.2, hear_deaf hd, hw.2]⟩) w ⟨hw.1, rfl⟩
  refine triple_scope (hmark rfl rfl) (Triple.get fun s => Triple.pre
    (P := fun w => AllWaited src w ∧ (heard src w.log).fresh = fresh) ?_
    fun w h => h.1) fun r => hmark rfl rfl
  refine Triple.ite (fun _ => fun w hw => ?_) fun _ => fun w hw => ?_
  · rw [← hw.2]
    exact receiver_heard .external .lastFixGet rfl
      (by rintro h r rfl hear; simp [Hearing.hear, hear])
      (by intro h r hne; cases src <;> simp_all [Hearing.hear])
      _ _ id w ⟨hw.1, rfl⟩
  · rw [← hw.2]
    exact receiver_heard .modem .lastPvtGet rfl
      (by rintro h r rfl hear; simp [Hearing.hear, hear])
      (by intro h r hne; cases src <;> simp_all [Hearing.hear])
      _ _ fixOfPvt w ⟨hw.1, rfl⟩

-- ================================================================== a report

/-- What the notes do not read is deaf, the marks of reports apart, -/
theorem aside_deaf {o : Op} (h : Aside o)
    (hreport : ∀ b, group o ≠ .mark (.reportFix b)) : o.deaf = true := by
  cases o with
  | enter f => cases f <;> first | rfl | cases h.1
  | leave f c => cases f <;> first | rfl | exact absurd rfl (hreport _)
  | _ => first | rfl | cases h.1

/-- A part that the notes do not read is deaf, unless it ends a report. -/
theorem deaf_within {α : Type} {p : P α} {gs : List Group}
    {vs vs' : List Var} (h : Within (S := Calls) Aside (Touch vs) p)
    (hfoot : Foot gs vs' p) (hg : ∀ b, Group.mark (.reportFix b) ∉ gs) :
    Within (S := Calls) (fun o => o.deaf = true) (fun _ _ => True) p :=
  (h.and hfoot).mono
    (fun _ ho => aside_deaf ho.1 fun b he => hg b (he ▸ ho.2))
    fun _ _ _ => trivial

/-- a deaf call is a deaf program, -/
theorem op_deaf {o : Op} (h : o.deaf = true) :
    Within (S := Calls) (fun o => o.deaf = true) (fun _ _ => True) (call o) :=
  Within.op h

variable {fix : Option TrackerFix}

/-- and deaf programs leave the fix in hand as fresh as it was. -/
theorem deaf_keeps {α : Type} {p : P α}
    (h : Within (S := Calls) (fun o => o.deaf = true) (fun _ _ => True) p) :
    Triple (device cfg) G (AllWaited src) (Bringing src fix) p
      fun _ => Bringing src fix := (bringing_frame fix).keeps h

/-- Both sends of a report bring the same fix, -/
theorem cloudSend_brings (payload : Text) :
    Triple (device cfg) G (AllWaited src) (Bringing src fix)
      (cloudSendTelemetry cfg payload) fun _ => Bringing src fix := by
  unfold cloudSendTelemetry
  cases cfg.cloudProvider with
  | nrfcloud =>
      refine deaf_keeps (Within.bind (op_deaf rfl) fun clock => ?_)
      refine Within.ite (Within.ret _) (Within.ite (Within.ret _) ?_)
      exact (op_deaf rfl).bind fun err => Within.ret _
  | hologram =>
      exact hologram_sends (fun f => deaf_keeps (op_deaf rfl))
        (fun n => deaf_keeps (op_deaf rfl))
        fun topic list => deaf_keeps (op_deaf rfl)

/-- the location message is deaf to new ones, -/
theorem cloudSendLocation_deaf (fix : TrackerFix) :
    Within (S := Calls) (fun o => o.deaf = true) (fun _ _ => True)
      (cloudSendLocation cfg fix) := by
  unfold cloudSendLocation
  cases cfg.cloudProvider with
  | hologram => exact Within.ret _
  | nrfcloud =>
      refine Within.ite (Within.ret _) (Within.ite (Within.ret _) ?_)
      exact (op_deaf rfl).bind fun clock => (op_deaf rfl).bind
        fun err => Within.ret _

/-- and so the fix lasts through the retry -/
theorem sendReport_brings (payload : Text) :
    Triple (device cfg) G (AllWaited src) (Bringing src fix)
      (sendReport cfg payload) fun _ => Bringing src fix := by
  have hsend : ∀ f, (Op.enter f).deaf = true →
      (∀ c, (Op.leave f c).deaf = true) →
      Triple (device cfg) G (AllWaited src) (Bringing src fix)
        (scope f (cloudSendTelemetry cfg payload))
        fun _ => Bringing src fix := fun f he hl =>
    triple_scope (deaf_keeps (op_deaf he)) (cloudSend_brings payload)
      fun r => deaf_keeps (op_deaf (hl _))
  refine (hsend .firstSend rfl fun _ => rfl).bind fun err => Triple.ite
    (fun _ => ?_) fun _ => Triple.ret fun w h => h
  refine (deaf_keeps (deaf_within (guardStart_aside _)
    (watchdogGuardStart_foot _) (by simp))).bind fun _ => ?_
  refine (deaf_keeps (deaf_within cloudResume_aside (cloudResume_foot cfg)
    (by simp))).bind fun err => ?_
  refine (deaf_keeps (deaf_within guardStop_aside watchdogGuardStop_foot
    (by simp))).bind fun _ => ?_
  exact Triple.ite (fun _ => hsend .retrySend rfl fun _ => rfl)
    fun _ => Triple.ret fun w h => h

/-- and the delivery. -/
theorem deliver_brings (payload : Text) :
    Triple (device cfg) G (AllWaited src) (Bringing src fix)
      (deliver cfg fix payload) fun _ => Bringing src fix := by
  have hfeed : ∀ err : Int, Triple (device cfg) G (AllWaited src)
      (Bringing src fix) (do
        watchdogFeed
        pure err : P Int) fun _ => Bringing src fix := fun err =>
    (deaf_keeps (deaf_within watchdogFeed_aside watchdogFeed_foot
      (by simp))).bind fun _ => Triple.ret fun w h => h
  refine (sendReport_brings payload).bind fun err => Triple.ite (fun _ => ?_)
    fun _ => hfeed err
  refine (deaf_keeps (op_deaf rfl)).bind fun now =>
    (deaf_keeps (Within.modify fun _ => trivial)).bind fun _ => ?_
  cases fix with
  | none => exact hfeed err
  | some fix =>
      exact (deaf_keeps (cloudSendLocation_deaf fix)).bind fun _ => hfeed err

/-- Reading the power hears no receiver. -/
theorem powerRead_deaf :
    Within (S := Calls) (fun o => o.deaf = true) (fun _ _ => True)
      powerRead := by
  refine (op_deaf rfl).bind fun err => Within.ite (Within.ret _) ?_
  refine (op_deaf rfl).bind fun voltage => Within.ite (Within.ret _) ?_
  exact (op_deaf rfl).bind fun status => Within.ite (Within.ret _)
    (Within.ret _)

/-- Nothing is copied between a report's call and its messages. -/
theorem reportFix_waited (fix : Option TrackerFix) (u : Nat)
    (wr : WakeReason) :
    Triple (device cfg) G (AllWaited src) (fun w => AllWaited src w
        ∧ (fix.isSome = true → (heard src w.log).fresh = true))
      (reportFix cfg fix u wr) fun _ => AllWaited src := by
  have henter : Triple (device cfg) G (AllWaited src) (fun w =>
      AllWaited src w ∧ (fix.isSome = true → (heard src w.log).fresh = true))
      (call (.enter (.reportFix fix.isSome)))
      fun _ => Bringing src fix := by
    refine Triple.op (fun _ _ h _ _ => ⟨⟨trivial, h.1⟩, h.2⟩)
      fun w r h _ _ => ?_
    have hrecord : AllWaited src (w.called (device cfg)
        (.enter (.reportFix fix.isSome)) r) :=
      ⟨waited_quiet rfl w.st w.dev r w.log, h.1⟩
    refine ⟨hrecord, hrecord, h.2, ?_⟩
    rintro rfl
    rfl
  refine triple_scope (R := fun _ => Bringing src fix) henter ?_ fun r =>
    (leave_keeps allWaited_frame (by simp)).pre fun w h => h.record
  refine (deaf_keeps (op_deaf rfl)).bind fun now =>
    (deaf_keeps powerRead_deaf).bind fun power =>
    (deaf_keeps (op_deaf rfl)).bind fun rsrp =>
    (deaf_keeps (Within.modify fun _ => trivial)).bind fun _ =>
    Triple.get fun s => Triple.pre (P := Bringing src fix) ?_ fun w h => h.1
  generalize telemetryBuildJson _ _ _ _ = built
  cases built with
  | error err => exact Triple.ret fun w h => h
  | ok payload => exact deliver_brings payload

-- ==================================================================== the walk

/-- The obligations of the walk with a fix in hand. -/
theorem waited_conveying : Conveying cfg G (AllWaited src)
    (fun _ _ => AllWaited src) fun _ _ _ => HasWaited src where
  rests := allWaited_frame.mono (fun o h => h.mono (by simp)) fun _ _ h => h
  mids _ _ := allWaited_frame.mono (fun o h => h.mono (by simp)) fun _ _ h => h
  helds _ _ _ := by
    refine fetched_frame.mono (fun o h => ?_) fun _ _ _ => trivial
    rcases h with ⟨ms, rfl⟩ | rfl <;> rfl
  topOfCycle wr := part allWaited_frame (topOfCycle_foot wr)
    (by simp) (by simp)
  wait _ _ t := fun w h => (gnssWaitFix_heard t _).post (fun r w h => by
    cases r with
    | ok fix => exact h
    | error err => exact h.1) w ⟨h, rfl⟩
  settle _ _ fix := (gnssWaitFix_heard 5 true).post fun r w h =>
    ⟨h.1, h.2.trans (Bool.or_true _)⟩
  report u wr fix := (reportFix_waited (some fix) u wr).pre
    fun w h => ⟨h.1, fun _ => h.2⟩
  reportNone u wr := (reportFix_waited none u wr).pre
    fun w h => ⟨h, fun hf => by cases hf⟩

/-- In every run a message with a fix tells one that was waited for. -/
theorem waited_reach {n fuel : Nat} {w : Tracker} (hboot : w.log = [])
    {c : P Int × Tracker} (hr : Reach (device cfg) (main cfg n fuel) w c) :
    AllWaited src c.2 := by
  have hw : AllWaited src w := by
    rw [AllWaited, hboot]
    trivial
  exact waited_conveying.walk.reach hw hr (always_free c.2.log)

end Main

-- ================================================================ the handlers

/-- The receiver of a source. -/
def receiver (cfg : Config) : FixSource → Receiver
  | .modem => modemReceiver
  | .external => extReceiver cfg

/-- The receiver waits on its own semaphore, -/
theorem receiver_sem : (receiver cfg src).sem = src.sem := by
  cases src <;> rfl

/-- The source whose snapshot a call copies. -/
def Op.source : Op → Option FixSource
  | .lastPvtGet => some .modem
  | .lastFixGet => some .external
  | _ => none

/-- and copies from its own source. -/
theorem receiver_copies (o : Op) :
    (receiver cfg src).copies o = (o.source == some src) := by
  cases src <;> cases o <;> rfl

/-- A call with no source brings no fix. -/
theorem read_fix {o : Op} (h : o.source = none) (n : Notes) (r : o.Ret) :
    (n.read o r).fix = n.fix := by
  cases o with
  | enter f => cases f <;> rfl
  | lastPvtGet => cases h
  | lastFixGet => cases h
  | _ => rfl

/-- A copy is no part of a wait. -/
theorem hear_source {o : Op} {other : FixSource} (h : o.source = some other)
    (h' : Hearing) (r : o.Ret) : (h'.hear src o r).ear = h'.ear := by
  cases o with
  | lastPvtGet => rfl
  | lastFixGet => rfl
  | _ => cases h

/-- A copy of the receiver's snapshot is fresh where a wait was ended. -/
theorem hear_copy {o : Op} (h : o.source = some src) (h' : Hearing)
    (r : o.Ret) : (h'.hear src o r).fresh = (h'.ear == .woken) := by
  cases o with
  | lastPvtGet =>
      cases h
      rfl
  | lastFixGet =>
      cases h
      rfl
  | _ => cases h

/-- What it shows is on record. -/
theorem read_copy {o : Op} (h : o.source = some src) (n : Notes) {r : o.Ret}
    {v : (receiver cfg src).Frame}
    (hshows : (receiver cfg src).shows o r (some v) = true) :
    (n.read o r).fix = some ((receiver cfg src).fixOf v) := by
  cases o with
  | lastPvtGet =>
      cases h
      exact congrArg some (modemReceiver.shows_copy r v hshows)
  | lastFixGet =>
      cases h
      exact congrArg some ((extReceiver cfg).shows_copy r v hshows)
  | _ => cases h

/-- Where the fix copied last has come from. -/
def lastSource : Trace → Option FixSource
  | [] => none
  | .call _ _ o _ :: l => o.source.or (lastSource l)
  | .env .. :: l => lastSource l

section

variable {ι : Type}

/-- An event that begins a cycle or ends a report. -/
def beginsLeg {R : Receiver} : ListenEv R ι → Bool
  | .call _ _ (.enter (.cycle _)) _ => true
  | .call _ _ (.leave (.reportFix _) _) _ => true
  | _ => false

/-- The record since the cycle began or the last report ended. -/
def leg {R : Receiver} (l : ListenLog R ι) : ListenLog R ι :=
  l.takeWhile fun e => !beginsLeg e

/-- The leg goes on until it begins again. -/
theorem leg_cons {R : Receiver} {e : ListenEv R ι} {l : ListenLog R ι}
    (h : beginsLeg e = false) : leg (e :: l) = e :: leg l := by
  simp [leg, h]

/-- What was last said in the leg was last said in all. -/
theorem leg_says {R : Receiver} {α : Type} {word : ListenEv R ι → Option α}
    {l : ListenLog R ι} {a : α} (h : (leg l).findSome? word = some a) :
    l.findSome? word = some a := by
  have hsplit : l = leg l ++ l.dropWhile fun e => !beginsLeg e :=
    List.takeWhile_append_dropWhile.symm
  rw [hsplit, List.findSome?_append, h]
  rfl

/-- The frame that the last copy showed and the frame whose give had ended
the wait before it, with their numbers. -/
def lastCopy {R : Receiver} (l : ListenLog R ι) :
    Option (Option (Nat × R.Frame) × Option (Nat × R.Frame)) :=
  lastTime isCopy (fun e l =>
    (e.dev.slot.map (e.dev.count, ·), wokenBy l)) l

/-- The last copy showed the newest frame, after a wait that had been ended
by a give for that frame or one before. -/
def Fresh {R : Receiver} (l : ListenLog R ι) (v : R.Frame) : Prop :=
  ∃ n n' v', lastCopy l = some (some (n, v), some (n', v')) ∧ n' ≤ n
    ∧ R.accepts v = true ∧ R.signals v' = true

variable [DecidableEq ι]

/-- The tracker with the handlers of one receiver, seen without them. -/
def handled (cfg : Config) (src : FixSource) (ι : Type) [DecidableEq ι] :
    Shadow ((receiver cfg src).machine cfg ι) (device cfg) :=
  Box.shadow (.give (receiver cfg src).sem) (fun _ _ => rfl)
    (fun _ => by cases src <;> rfl) fun _ => rfl

/-- The record of the tracker without the handlers. -/
abbrev seen (cfg : Config) (src : FixSource)
    (l : ListenLog (receiver cfg src) ι) : Trace := (handled cfg src ι).log l

/-- The fix of a copy that was waited for is that of a fresh frame. -/
def Recalls (cfg : Config) (src : FixSource)
    (l : ListenLog (receiver cfg src) ι) : Prop :=
  (heard src (seen cfg src l)).fresh = true →
    lastSource (seen cfg src l) = some src →
    ∃ v, Fresh (leg l) v
      ∧ (notes (seen cfg src l)).fix = some ((receiver cfg src).fixOf v)

/-- What a message tells is what was observed, and a position of this
receiver's is that of a fresh frame. -/
def TellsFresh (cfg : Config) (src : FixSource)
    (e : ListenEv (receiver cfg src) ι)
    (l : ListenLog (receiver cfg src) ι) : Prop :=
  match e with
  | .call s m o r => o.hands = true →
      Truthful cfg (.call s m.dev o r) (seen cfg src l)
      ∧ ∀ fix, (notes (seen cfg src l)).told = some fix →
        lastSource (seen cfg src l) = some src →
        ∃ v, Fresh (leg l) v ∧ fix = (receiver cfg src).fixOf v
  | .env .. => True

/-- What is heard goes back to the handlers. -/
structure Attentive (cfg : Config) (src : FixSource)
    (v₀ : Option (receiver cfg src).Frame)
    (w : Listener (receiver cfg src) ι) : Prop where
  kept : Kept v₀ w
  reset : (heard src (seen cfg src w.log)).ear = .reset →
    ((leg w.log).findSome? wakeWord).isSome = true
  woken : (heard src (seen cfg src w.log)).ear = .woken →
    ∃ n v, wokenBy (leg w.log) = some (n, v) ∧ 0 < n ∧ n ≤ w.dev.count
      ∧ (receiver cfg src).signals v = true
  fresh : Recalls cfg src w.log

variable {v₀ : Option (receiver cfg src).Frame}
variable {w : Listener (receiver cfg src) ι}

/-- An own move or a step of a handler is not heard. -/
theorem seen_env (s : Statics) (m : Mail (receiver cfg src).box ι)
    (a : Post Move ι (receiver cfg src).Frame)
    (l : ListenLog (receiver cfg src) ι) :
    heard src (seen cfg src (.env s m a :: l)) = heard src (seen cfg src l)
      ∧ lastSource (seen cfg src (.env s m a :: l))
        = lastSource (seen cfg src l)
      ∧ notes (seen cfg src (.env s m a :: l)) = notes (seen cfg src l) := by
  cases a <;> exact ⟨rfl, rfl, rfl⟩

theorem Attentive.moved (h : Attentive cfg src v₀ w)
    {a : Post Move ι (receiver cfg src).Frame}
    (hcan : ((receiver cfg src).machine cfg ι).can a w.dev = true) :
    Attentive cfg src v₀ (w.moved ((receiver cfg src).machine cfg ι) a) := by
  obtain ⟨hheard, hsource, hnotes⟩ := seen_env w.st w.dev a w.log
  have hleg : leg (w.moved ((receiver cfg src).machine cfg ι) a).log
      = .env w.st w.dev a :: leg w.log := leg_cons rfl
  refine ⟨h.kept.moved ((receiver cfg src).box_fits cfg) hcan,
    fun he => ?_, fun he => ?_, fun hf hs => ?_⟩
  · rw [hleg, List.findSome?_cons]
    split
    · rfl
    · exact h.reset (hheard ▸ he)
  · obtain ⟨n, v, hwoken, hpos, hle, hsig⟩ := h.woken (hheard ▸ he)
    rw [hleg]
    exact ⟨n, v, hwoken, hpos, Nat.le_trans hle (Machine.fed_counts a w.dev),
      hsig⟩
  · obtain ⟨v, hfresh, hfix⟩ := h.fresh (hheard ▸ hf) (hsource.symm.trans hs)
    rw [hleg]
    exact ⟨v, hfresh, (congrArg Notes.fix hnotes).trans hfix⟩

/-- What is seen of a call. -/
theorem seen_call (s : Statics) (m : Mail (receiver cfg src).box ι) (o : Op)
    (r : o.Ret) (l : ListenLog (receiver cfg src) ι) :
    heard src (seen cfg src (.call s m o r :: l))
        = (heard src (seen cfg src l)).hear src o r
      ∧ lastSource (seen cfg src (.call s m o r :: l))
        = o.source.or (lastSource (seen cfg src l))
      ∧ notes (seen cfg src (.call s m o r :: l))
        = (notes (seen cfg src l)).read o r := ⟨rfl, rfl, rfl⟩

/-- A copy that was waited for stays one until the next. -/
theorem Attentive.remembers (h : Attentive cfg src v₀ w) {o : Op} (r : o.Ret)
    (hbegins : beginsLeg (.call w.st w.dev o r :
      ListenEv (receiver cfg src) ι) = false)
    (hsource : o.source = none)
    (hfresh : ∀ h : Hearing, (h.hear src o r).fresh = h.fresh) :
    Recalls cfg src
      (w.called ((receiver cfg src).machine cfg ι) o r).log := by
  intro hf hs
  obtain ⟨hheard, hlast, hnotes⟩ := seen_call w.st w.dev o r w.log
  have hf' : (heard src (seen cfg src w.log)).fresh = true := by
    rw [← hfresh]
    exact hf
  have hs' : lastSource (seen cfg src w.log) = some src := by
    rw [hsource] at hlast
    exact hlast.symm.trans hs
  obtain ⟨v, ⟨n, n', v', hcopied, hrest⟩, hfix⟩ := h.fresh hf' hs'
  refine ⟨v, ⟨n, n', v', ?_, hrest⟩, ?_⟩
  · have hcopy : isCopy (.call w.st w.dev o r :
        ListenEv (receiver cfg src) ι) = false := by
      show (receiver cfg src).copies o = false
      rw [receiver_copies, hsource]
      rfl
    show lastCopy (leg (.call w.st w.dev o r :: w.log)) = _
    rw [leg_cons hbegins]
    simpa only [lastCopy, lastTime, hcopy, Bool.false_eq_true, if_false]
      using hcopied
  · exact (read_fix hsource _ r).trans hfix

/-- A call that takes nothing and begins nothing. -/
theorem Attentive.stays (h : Attentive cfg src v₀ w) {o : Op} {r : o.Ret}
    (hbegins : beginsLeg (.call w.st w.dev o r :
      ListenEv (receiver cfg src) ι) = false)
    (hdrains : drains (receiver cfg src).sem o r = false)
    (hear : ∀ h : Hearing, (h.hear src o r).ear = h.ear)
    (hfresh : Recalls cfg src
      (w.called ((receiver cfg src).machine cfg ι) o r).log) :
    Attentive cfg src v₀
      (w.called ((receiver cfg src).machine cfg ι) o r) := by
  have hleg : leg (w.called ((receiver cfg src).machine cfg ι) o r).log
      = .call w.st w.dev o r :: leg w.log := leg_cons hbegins
  refine ⟨h.kept.called ((receiver cfg src).box_fits cfg) o r,
    fun he => ?_, fun he => ?_, hfresh⟩
  · have hword : wakeWord (.call w.st w.dev o r :
        ListenEv (receiver cfg src) ι) = none := by
      show (if drains (receiver cfg src).sem o r then _ else _) = _
      rw [hdrains]
      rfl
    rw [hleg, List.findSome?_cons, hword]
    exact h.reset ((hear _).symm.trans he)
  · have hwoken : isWoken (.call w.st w.dev o r :
        ListenEv (receiver cfg src) ι) = false := by
      cases o with
      | semTake s ms => exact hdrains
      | _ => rfl
    obtain ⟨n, v, hby, hpos, hle, hsig⟩ := h.woken ((hear _).symm.trans he)
    rw [hleg]
    refine ⟨n, v, ?_, hpos, ?_, hsig⟩
    · simpa only [wokenBy, lastTime, hwoken, Bool.false_eq_true, if_false]
        using hby
    · exact hle.trans_eq (Machine.fed_count (M := device cfg) o r w.dev).symm

/-- A call that has nothing to do with the wait. -/
theorem Attentive.passed (h : Attentive cfg src v₀ w) {o : Op} (r : o.Ret)
    (hbegins : beginsLeg (.call w.st w.dev o r :
      ListenEv (receiver cfg src) ι) = false)
    (hdrains : drains (receiver cfg src).sem o r = false)
    (hsource : o.source = none)
    (hheard : ∀ h : Hearing, h.hear src o r = h) :
    Attentive cfg src v₀
      (w.called ((receiver cfg src).machine cfg ι) o r) :=
  h.stays hbegins hdrains (fun h' => congrArg Hearing.ear (hheard h'))
    (h.remembers r hbegins hsource fun h' =>
      congrArg Hearing.fresh (hheard h'))

/-- While nothing is heard there is nothing to go back. -/
theorem Attentive.unheard (hk : Kept v₀ w)
    (hh : heard src (seen cfg src w.log) = {}) : Attentive cfg src v₀ w := by
  refine ⟨hk, ?_, ?_, ?_⟩
  · rw [hh]
    intro he
    cases he
  · rw [hh]
    intro he
    cases he
  · intro hf
    rw [hh] at hf
    cases hf

/-- A cycle begins or a report ends: nothing is heard yet. -/
theorem Attentive.begun (h : Attentive cfg src v₀ w) {o : Op} (r : o.Ret)
    (hheard : ∀ h : Hearing, h.hear src o r = {}) :
    Attentive cfg src v₀
      (w.called ((receiver cfg src).machine cfg ι) o r) :=
  .unheard (h.kept.called ((receiver cfg src).box_fits cfg) o r) (hheard _)

/-- A wait begins. -/
theorem Attentive.cleared (h : Attentive cfg src v₀ w) (r : Unit) :
    Attentive cfg src v₀ (w.called ((receiver cfg src).machine cfg ι)
      (.semReset src.sem) r) := by
  have hear : (heard src (seen cfg src (w.called
      ((receiver cfg src).machine cfg ι) (.semReset src.sem) r).log)).ear
        = .reset := by
    show ((heard src (seen cfg src w.log)).hear src
      (.semReset src.sem) r).ear = _
    simp [Hearing.hear]
  refine ⟨h.kept.called ((receiver cfg src).box_fits cfg)
    (.semReset src.sem) r, fun _ => ?_,
    fun he => ?_, h.remembers (o := .semReset src.sem) r rfl rfl
      fun h => hear_deaf (o := .semReset src.sem) rfl h r⟩
  · have hword : wakeWord (.call w.st w.dev (.semReset src.sem) r :
        ListenEv (receiver cfg src) ι) = some none := by
      show (if drains (receiver cfg src).sem (.semReset src.sem) r then _
        else _) = _
      rw [receiver_sem]
      exact if_pos (beq_self_eq_true _)
    show ((leg (.call w.st w.dev (.semReset src.sem) r :: w.log)).findSome?
      wakeWord).isSome = true
    rw [leg_cons rfl, List.findSome?_cons, hword]
    rfl
  · rw [hear] at he
    cases he

/-- A wait ends. Where the semaphore was reset in this leg and is available
now, a give of this leg has made it so. -/
theorem Attentive.taken (h : Attentive cfg src v₀ w) {ms : Nat} {r : Int}
    (hok : ((receiver cfg src).machine cfg ι).ok (.semTake src.sem ms) r
      w.dev = true) :
    Attentive cfg src v₀ (w.called ((receiver cfg src).machine cfg ι)
      (.semTake src.sem ms) r) := by
  have hear : (heard src (seen cfg src (w.called
      ((receiver cfg src).machine cfg ι) (.semTake src.sem ms) r).log)).ear
        = if r = 0 ∧ (heard src (seen cfg src w.log)).ear = .reset then .woken
          else .idle := by
    show ((heard src (seen cfg src w.log)).hear src
      (.semTake src.sem ms) r).ear = _
    simp [Hearing.hear]
  refine ⟨h.kept.called ((receiver cfg src).box_fits cfg)
    (.semTake src.sem ms) r, fun he => ?_,
    fun he => ?_, h.remembers (o := .semTake src.sem ms) r rfl rfl
      fun h => hear_deaf (o := .semTake src.sem ms) rfl h r⟩
  · rw [hear] at he
    split at he <;> cases he
  · rw [hear] at he
    split at he
    next hreset =>
      obtain ⟨rfl, hreset⟩ := hreset
      have hsem : (receiver cfg src).box.sem w.dev.dev = true := by
        show w.dev.dev.sem (receiver cfg src).sem = true
        rw [receiver_sem]
        exact (take_answer (Bool.and_eq_true_iff.mp hok).1).mp rfl
      -- the reset is of this leg, so its last word is too
      obtain ⟨word, hword⟩ := Option.isSome_iff_exists.mp (h.reset hreset)
      have hfull := leg_says hword
      -- a reset as the last word leaves the semaphore unavailable
      cases word with
      | none =>
          rw [h.kept.drained hfull] at hsem
          cases hsem
      | some f =>
          obtain ⟨hpos, hle, hsig⟩ := h.kept.woken f.1 f.2 hfull
          refine ⟨f.1, f.2, ?_, hpos, ?_, hsig⟩
          · show wokenBy (leg (.call w.st w.dev (.semTake src.sem ms) (0 : Int)
              :: w.log)) = _
            rw [leg_cons rfl]
            simp [wokenBy, lastTime, isWoken, receiver_sem, hword]
          · exact hle.trans_eq (Machine.fed_count (M := device cfg)
              (.semTake src.sem ms) (0 : Int) w.dev).symm
    next => cases he

/-- The copy of this receiver's snapshot after a wait shows the newest
frame. -/
theorem Attentive.shows (h : Attentive cfg src v₀ w) {o : Op} {r : o.Ret}
    (hsource : o.source = some src)
    (hbegins : beginsLeg (.call w.st w.dev o r :
      ListenEv (receiver cfg src) ι) = false)
    (hok : ((receiver cfg src).machine cfg ι).ok o r w.dev = true)
    (hwas : (heard src (seen cfg src w.log)).ear = .woken) :
    ∃ v, Fresh (leg (w.called ((receiver cfg src).machine cfg ι) o r).log) v
      ∧ (notes (seen cfg src (w.called ((receiver cfg src).machine cfg ι)
        o r).log)).fix = some ((receiver cfg src).fixOf v) := by
  obtain ⟨n', v', hn', hpos, hle, hsig⟩ := h.woken hwas
  -- a frame was given for, so the slot is not empty
  obtain ⟨v, hv⟩ := Option.isSome_iff_exists.mp
    (w.dev.full (fun _ => rfl) (Nat.lt_of_lt_of_le hpos hle))
  have hshows : (receiver cfg src).shows o r (some v) = true := by
    rw [← hv]
    exact (Bool.and_eq_true_iff.mp hok).2
  refine ⟨v, ⟨w.dev.count, n', v', ?_, hle, w.dev.slot_ok v hv, hsig⟩,
    read_copy hsource _ hshows⟩
  have hcopy : isCopy (.call w.st w.dev o r :
      ListenEv (receiver cfg src) ι) = true := by
    show (receiver cfg src).copies o = true
    rw [receiver_copies, hsource]
    exact beq_self_eq_true _
  have hdev : (Event.call w.st w.dev o r :
      ListenEv (receiver cfg src) ι).dev = w.dev := rfl
  show lastCopy (leg (.call w.st w.dev o r :: w.log)) = _
  rw [leg_cons hbegins]
  simp only [lastCopy, lastTime, hcopy, if_true, hdev, hv, Option.map_some,
    hn']

/-- The copy of either snapshot. -/
theorem Attentive.copied (h : Attentive cfg src v₀ w) {o : Op} {r : o.Ret}
    {other : FixSource} (hsource : o.source = some other)
    (hok : ((receiver cfg src).machine cfg ι).ok o r w.dev = true) :
    Attentive cfg src v₀
      (w.called ((receiver cfg src).machine cfg ι) o r) := by
  have hplain : beginsLeg (.call w.st w.dev o r :
      ListenEv (receiver cfg src) ι) = false
      ∧ drains (receiver cfg src).sem o r = false := by
    cases o with
    | lastPvtGet => exact ⟨rfl, rfl⟩
    | lastFixGet => exact ⟨rfl, rfl⟩
    | _ => cases hsource
  refine h.stays hplain.1 hplain.2 (fun h' => hear_source hsource h' r)
    fun hf hs => ?_
  have hthis : o.source = some src := by
    have hlast : o.source.or (lastSource (seen cfg src w.log))
        = some src := hs
    rw [hsource] at hlast ⊢
    exact hlast
  have hwas : (heard src (seen cfg src w.log)).ear = .woken :=
    beq_iff_eq.mp ((hear_copy hthis _ r).symm.trans hf)
  exact h.shows hthis hplain.1 hok hwas

/-- The calls of any program at all. -/
theorem Attentive.called (h : Attentive cfg src v₀ w) {o : Op} {r : o.Ret}
    (hok : ((receiver cfg src).machine cfg ι).ok o r w.dev = true) :
    Attentive cfg src v₀
      (w.called ((receiver cfg src).machine cfg ι) o r) := by
  -- a copy says whose it is; of the other calls those of this receiver's
  -- semaphore count
  by_cases hsource : o.source = none
  · cases o with
    | enter f =>
        cases f with
        | cycle wr =>
            exact h.begun (o := .enter (.cycle wr)) r fun _ => rfl
        | _ => apply h.passed <;> intros <;> rfl
    | leave f c =>
        cases f with
        | reportFix b =>
            exact h.begun (o := .leave (.reportFix b) c) r fun _ => rfl
        | _ => apply h.passed <;> intros <;> rfl
    | semReset s =>
        by_cases hs : s = src.sem
        · subst hs
          exact h.cleared r
        · exact h.passed (o := .semReset s) r rfl
            (by simp [drains, receiver_sem, hs]) rfl fun _ => if_neg hs
    | semTake s ms =>
        by_cases hs : s = src.sem
        · subst hs
          exact h.taken hok
        · exact h.passed (o := .semTake s ms) r rfl
            (by simp [drains, receiver_sem, hs]) rfl fun _ => if_neg hs
    | lastPvtGet => cases hsource
    | lastFixGet => cases hsource
    | _ => apply h.passed <;> intros <;> rfl
  · obtain ⟨other, hother⟩ := Option.ne_none_iff_exists'.mp hsource
    exact h.copied hother hok

/-- Whatever program owns the mailbox, what it hears goes back to the
handlers. -/
theorem attentive_frame (v₀ : Option (receiver cfg src).Frame) :
    Frame ((receiver cfg src).machine cfg ι) Free (Attentive cfg src v₀)
      (Attentive cfg src v₀) (fun _ => True) fun _ _ => True where
  stable := fun _ _ h hcan _ => h.moved hcan
  calls := fun _ _ _ _ h hok _ => h.called hok
  writes := fun _ _ _ h => ⟨⟨h.kept.slot, h.kept.drained, h.kept.woken⟩,
    h.reset, h.woken, h.fresh⟩
  gives := fun _ h => h

/-- So a copy that it waited for shows a fresh frame. -/
theorem recalls_reach {α : Type} {p : P α} (hboot : w.log = [])
    {c : P α × Listener (receiver cfg src) ι}
    (hr : Reach ((receiver cfg src).machine cfg ι) p w c) :
    Always (fun _ => Recalls cfg src) c.2.log := by
  have hnothing : heard src (seen cfg src w.log) = {} := by
    rw [hboot]
    rfl
  have hstart : Attentive cfg src w.dev.slot w :=
    .unheard (Kept.start w hboot) hnothing
  exact Frame.invariant_always (attentive_frame w.dev.slot)
    (fun _ h => h.fresh) hstart hboot hr

-- ==================================================================== the law

/-- In every run around which the handlers of a receiver store and give as
they like, a message tells what was observed, and a position of that
receiver's is that of the newest frame at its copy. The copy was made since
the cycle began and since the report before, and the frame is no older than
one whose give had ended the wait. -/
theorem positions_fresh {n fuel : Nat}
    {w : Listener (receiver cfg src) ι} (hboot : w.log = [])
    {c : P Int × Listener (receiver cfg src) ι}
    (hr : Reach ((receiver cfg src).machine cfg ι) (main cfg n fuel) w c) :
    Always (TellsFresh cfg src) c.2.log := by
  have hrun := (handled cfg src ι).reach hr
  have hnil : ((handled cfg src ι).world w).log = [] := by
    show (handled cfg src ι).log w.log = []
    rw [hboot]
    rfl
  have htrue := (handled cfg src ι).always (honest_reach hnil hrun)
  have hwait : AllWaited src ((handled cfg src ι).world c.2) :=
    waited_reach hnil hrun
  have hwaited := (handled cfg src ι).always hwait
  have hrecalls := recalls_reach hboot hr
  rw [always_iff] at htrue hwaited hrecalls ⊢
  intro l₁ e l hsplit
  cases e with
  | env s m a => trivial
  | call s m o r =>
      intro ho
      refine ⟨htrue l₁ _ l hsplit _ rfl, fun fix htold hsource => ?_⟩
      have hheard : (heard src (seen cfg src l)).fresh = true :=
        hwaited l₁ _ l hsplit _ rfl ho (by rw [htold]; rfl)
      obtain ⟨v, hfresh, hfix⟩ := hrecalls l₁ _ l hsplit hheard hsource
      refine ⟨v, hfresh, ?_⟩
      have htold' : (notes (seen cfg src l)).fix = some fix := by
        unfold Notes.told at htold
        split at htold
        · exact htold
        · cases htold
      exact Option.some.inj (htold'.symm.trans hfix)

end

/-- `sighted`, with a frame that the modem's handler stores and gives for in
place of every give. -/
def framing : Script Statics (Mail (receiver sharing .modem).box Unit)
    (Post Move Unit (receiver sharing .modem).Frame) Calls := fun w o =>
  match o with
  | .semTake .modemFix _ => ([.put () somePvt, .give ()], (0 : Int))
  | o =>
      ((sighted ((handled sharing .modem Unit).world w) o).1.map .own,
        (sighted ((handled sharing .modem Unit).world w) o).2)

/-- A registered device at power-on, its modem's handler at rest. -/
def listening : Listener (receiver sharing .modem) Unit :=
  { st := (start sharing).st
    dev := Mail.resting _ Unit (start sharing).dev
    log := [] }

/-- A scripted run with the handler. -/
@[irreducible] def playFramed (steps : Nat) :
    P Int × Listener (receiver sharing .modem) Unit :=
  play ((receiver sharing .modem).machine sharing Unit) framing steps
    (main sharing 1 2) listening

/-- The sample run is a run. -/
theorem playFramed_reach (steps : Nat) :
    Reach ((receiver sharing .modem).machine sharing Unit) (main sharing 1 2)
      listening (playFramed steps) := by
  unfold playFramed
  exact play_reach .init

/-- A fix in the cycle and another in its first pass, each of a frame of its
own. -/
theorem positions_fresh_framed :
    let c := playFramed 400
    (seen sharing .modem c.2.log).filterMap latitudeOf = [52, 52] ∧
    c.2.dev.count = 2 ∧ Always (TellsFresh sharing .modem) c.2.log :=
  ⟨by decide +kernel, by decide +kernel,
    positions_fresh rfl (playFramed_reach 400)⟩

end GpsTracker
