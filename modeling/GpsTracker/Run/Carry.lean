/-
The walk through a cycle with the fix in hand: for laws that must know
whether a fix was found, and which.

`acquire` hands its fix to the first report, which may swap it for a
better one before it sends it; a pass of the frequent loop waits once and
reports what it got. `InHand` is the list of what such a law owes, with
an assertion for each fix that may be in hand, and the theorems put the
obligations together along the text of main.c.

# The places

    search --wait, fetch, fallback--> search or held fix
    held fix --settling--> held fix'   held fix --report--> told
    search --report without a fix, or nothing--> told
    pass --power check--> parked --wait--> held fix or empty
    empty --as from search--> told

# The walk around it

A law about the fix in hand alone has one assertion `mid` for the rest of a
cycle, and its promise everywhere else. `Conveying` is what is left to owe
then, and `Conveying.walk` pays with it for all of `main`.
-/
import GpsTracker.Run.Surroundings

namespace GpsTracker

open Proc

/-- The calls that `main` makes itself with a fix in hand: a sleep and a
feed. -/
def Standby (o : Op) : Prop := (∃ ms, o = .kSleep ms) ∨ o = .wdtFeed

/-- A phase marker, a feed, a sleep and the questions to the arbiter keep to
`Standby`. -/
theorem watchdogPhase_standby (p : Phase) :
    Within (S := Calls) Standby (Touch [.phase]) (watchdogPhase p) :=
  Within.modify fun s => by simp [Var.forall]

theorem watchdogFeed_standby :
    Within (S := Calls) Standby (Touch [.phase]) watchdogFeed := by
  refine Within.get.bind fun _ => Within.ite (Within.op (.inr rfl))
    (Within.ret ())

theorem kSleep_standby (ms : Nat) :
    Within (S := Calls) Standby (Touch [.phase]) (call (.kSleep ms)) :=
  Within.op (.inl ⟨ms, rfl⟩)

theorem fixTimeout_standby (cfg : Config) :
    Within (S := Calls) Standby (Touch [.phase])
      (gnssFixTimeoutSeconds cfg) :=
  Within.get.bind fun _ => Within.ite (Within.ret _) (Within.ret _)

theorem fallbackAvailable_standby (cfg : Config) :
    Within (S := Calls) Standby (Touch [.phase])
      (gnssFallbackAvailable cfg) :=
  Within.get.bind fun _ => Within.ret _

/-- A law that looks at neither plain calls nor the phase is quiet to
these. -/
theorem quiet_standby {cfg : Config} {G : Ev → Trace → Prop}
    {J X : Tracker → Prop} {bad : List Group} {keep : List Var}
    (F : Frame (device cfg) G J X (Off bad) (Keep keep))
    (hg : Group.plain ∉ bad) (hv : Var.phase ∉ keep) :
    Frame (device cfg) G J X Standby (Touch [.phase]) := by
  refine (quiet F hg hv).mono (fun o h => ?_) fun _ _ h => h
  rcases h with ⟨ms, rfl⟩ | rfl <;> exact List.mem_singleton.mpr rfl

variable (cfg : Config) (G : Ev → Trace → Prop) (J : Tracker → Prop)

/-- What stands where a wait came back: `held` with its fix, `none`
without. -/
def waited (none : Tracker → Prop) (held : TrackerFix → Tracker → Prop) :
    Option TrackerFix → Tracker → Prop
  | .none => none
  | some fix => held fix

/-- What a law owes that follows the fix in hand. `parked` is a pass after
its power check. -/
structure InHand (search empty told pass parked done : Tracker → Prop)
    (held : TrackerFix → Tracker → Prop) (wakeUptimeMs : Nat)
    (wr : WakeReason) : Prop where
  searches : Frame (device cfg) G J search Standby (Touch [.phase])
  empties : Frame (device cfg) G J empty Standby (Touch [.phase])
  helds : ∀ fix, Frame (device cfg) G J (held fix) Standby (Touch [.phase])
  tolds : Frame (device cfg) G J told Standby (Touch [.phase])
  passes : Frame (device cfg) G J pass Standby (Touch [.phase])
  parks : Frame (device cfg) G J parked Standby (Touch [.phase])
  request : ∀ t, Triple (device cfg) G J
    (fun w => search w ∧ w.st.active = .modem) (gnssAgnssRequestWait t)
    fun _ w => search w ∧ w.st.active = .modem
  fetch : Triple (device cfg) G J
    (fun w => search w ∧ w.st.active = .modem) (agnssFetchAndInject cfg)
    fun _ => search
  wait : ∀ t, Triple (device cfg) G J search (gnssWaitFix cfg t)
    fun r => waited search held r.toOption
  fallback : Triple (device cfg) G J search (gnssFallback cfg)
    fun _ => search
  settle : ∀ fix, Triple (device cfg) G J (held fix) (gnssWaitFix cfg 5)
    fun r => held (r.toOption.getD fix)
  report : ∀ fix, Triple (device cfg) G J (held fix)
    (reportFix cfg (some fix) wakeUptimeMs wr) fun _ => told
  reportNone : cfg.forcePublishWithoutFix = true →
    Triple (device cfg) G J (fun w => search w ∨ empty w)
      (reportFix cfg none wakeUptimeMs wr) fun _ => told
  unreported : cfg.forcePublishWithoutFix = false →
    ∀ w, search w ∨ empty w → told w
  ledTold : ∀ haveFix, Triple (device cfg) G J told
    (statusLedReport cfg haveFix) fun _ => told
  keepIf : Triple (device cfg) G J told
    (keepReporting cfg .ifCond (wr == .motion))
    fun b w => if b then told w else done w
  logLine : Triple (device cfg) G J told (powerVbusPresent .logLine)
    fun _ => told
  keepWhile : Triple (device cfg) G J told
    (keepReporting cfg .whileCond (wr == .motion))
    fun b w => if b then pass w else done w
  holdOff : Triple (device cfg) G J pass (holdOffMotion cfg)
    fun _ => parked
  waitPass : Triple (device cfg) G J parked (gnssWaitFix cfg 10)
    fun r => waited empty held r.toOption

variable {cfg G J}

namespace InHand

variable {search empty told pass parked done : Tracker → Prop}
variable {held : TrackerFix → Tracker → Prop} {wakeUptimeMs : Nat}
variable {wr : WakeReason}
variable (R : InHand cfg G J search empty told pass parked done held
  wakeUptimeMs wr)
include R

-- ============================================================ acquisition

/-- Assistance keeps the search going, whatever came of it. -/
theorem assist {mark : P Unit}
    (hm : Within (S := Calls) Standby (Touch [.phase]) mark) :
    Triple (device cfg) G J search (assistIfAsked cfg mark)
      fun _ => search := by
  refine agnssWanted_modem.bind fun b => Triple.ite
    (fun _ => Triple.ret fun w h => h.1) fun hb => ?_
  have hwanted : b = true := by simpa using hb
  refine Triple.bind (R := fun _ w => search w ∧ w.st.active = .modem)
    ((R.request _).pre fun w h => ⟨h.1, h.2 hwanted⟩) fun r => ?_
  refine Triple.ite (fun _ => Triple.ret fun w h => h.1) fun _ => ?_
  exact ((modem_frame R.searches).keeps hm).bind fun _ => R.fetch.bind
    fun r => Triple.ret fun w h => h

/-- So does asking the arbiter for the timeout. -/
theorem timeout :
    Triple (device cfg) G J search (gnssFixTimeoutSeconds cfg)
      fun _ => search :=
  R.searches.keeps (fixTimeout_standby cfg)

/-- The second wait ends as the first may: with a fix in hand, or still
searching. -/
theorem acquireFallback (assisted : Bool) :
    Triple (device cfg) G J search (acquireFallback cfg assisted)
      fun r => waited search held r.1 := by
  refine R.fallback.bind fun r => Triple.ite
    (fun _ => Triple.ret fun w h => h) fun _ => ?_
  refine (R.assist (Within.ret ())).bind fun asked => R.timeout.bind fun t =>
    (R.wait t).bind fun fix => Triple.ret fun w h => h

/-- And so does the last one. -/
theorem acquireAssisted :
    Triple (device cfg) G J
      (fun w => search w ∧ w.st.active = .modem) (acquireAssisted cfg)
      (waited search held) := by
  refine R.fetch.bind fun r => Triple.ite
    (fun _ => Triple.ret fun w h => h) fun _ => ?_
  exact (R.wait _).bind fun fix => Triple.ret fun w h => h

/-- The acquisition ends with the fix that is in hand, or with none and the
search going on. Its shape is the ladder's. -/
theorem acquire :
    Triple (device cfg) G J search (acquire cfg) (waited search held) := by
  refine acquire_ladder (waited search held) (waited search held)
    (R.assist (watchdogPhase_standby _))
    (R.searches.keeps (watchdogPhase_standby _)) R.timeout R.wait
    (R.searches.keeps (fallbackAvailable_standby cfg)) R.acquireFallback
    (fun _ _ h => h) ?_ fun _ _ h => h
  refine agnssWanted_modem.bind fun b => Triple.ite (fun hb => ?_)
    fun _ => Triple.ret fun w h => h.1
  exact R.acquireAssisted.pre fun w h => ⟨h.1, h.2 hb⟩

-- =============================================================== reporting

/-- A fix in hand is told as it is. -/
theorem reportFound (fix : TrackerFix) :
    Triple (device cfg) G J (held fix)
      (reportOrSkip cfg (some fix) wakeUptimeMs wr) fun _ => told :=
  (R.report fix).bind fun _ => R.ledTold true

/-- Where none was found a report is made without, or none at all. -/
theorem reportMissing :
    Triple (device cfg) G J (fun w => search w ∨ empty w)
      (reportOrSkip cfg none wakeUptimeMs wr) fun _ => told := by
  refine Triple.ite (fun hforce => ?_) fun hforce => ?_
  · exact (R.reportNone hforce).bind fun _ => R.ledTold false
  · have hoff : cfg.forcePublishWithoutFix = false := by simpa using hforce
    exact (R.ledTold false).pre (R.unreported hoff)

/-- Settling puts a better fix in hand or leaves the one that is there. -/
theorem settleFix (fix : TrackerFix) :
    Triple (device cfg) G J (held fix) (settleFix cfg fix) held := by
  refine Triple.ite (fun _ => ?_) fun _ => Triple.ret fun w h => h
  exact ((R.helds fix).keeps (kSleep_standby _)).bind fun _ =>
    (R.settle fix).bind fun better => Triple.ret fun w h => h

/-- The first report of a cycle tells what the acquisition found. -/
theorem firstReport (fix : Option TrackerFix) :
    Triple (device cfg) G J (waited search held fix)
      (firstReport cfg fix wakeUptimeMs wr) fun _ => told := by
  have hlast : Triple (device cfg) G J told watchdogFeed fun _ => told :=
    R.tolds.keeps watchdogFeed_standby
  cases fix with
  | some fix =>
      exact ((R.helds fix).keeps watchdogFeed_standby).bind fun _ =>
        (R.settleFix fix).bind fun better =>
        (R.reportFound better).bind fun _ => hlast
  | none =>
      exact (R.searches.keeps watchdogFeed_standby).bind fun _ =>
        (R.reportMissing.pre fun w h => .inl h).bind fun _ => hlast

/-- A pass begins with nothing in hand and tells what its own wait found. -/
theorem frequentPass :
    Triple (device cfg) G J pass
      (frequentPass cfg wakeUptimeMs wr) fun _ => told := by
  refine (R.passes.keeps (watchdogPhase_standby _)).bind fun _ =>
    R.holdOff.bind fun _ => (R.parks.keeps (kSleep_standby _)).bind fun _ =>
    (R.parks.keeps watchdogFeed_standby).bind fun _ => R.waitPass.bind
    fun r => ?_
  cases r with
  | ok fix => exact R.reportFound fix
  | error err => exact R.reportMissing.pre fun w h => .inr h

end InHand

-- ============================================================ a whole cycle

/-- The groups of what begins a cycle or hands something over. -/
abbrev conveyGroups : List Group :=
  [.send, .location, .mark (.cycle .boot), .mark (.cycle .timer),
    .mark (.cycle .vbus), .mark (.cycle .motion)]

variable (cfg G J) in
/-- What a law owes about the fix in hand alone. -/
structure Conveying (mid : Nat → WakeReason → Tracker → Prop)
    (held : Nat → WakeReason → TrackerFix → Tracker → Prop) : Prop where
  rests : Frame (device cfg) G J J (Off conveyGroups) (Keep [])
  mids : ∀ u wr, Frame (device cfg) G J (mid u wr) (Off conveyGroups) (Keep [])
  helds : ∀ u wr fix, Frame (device cfg) G J (held u wr fix) Standby
    (Touch [.phase])
  topOfCycle : ∀ wr, Triple (device cfg) G J J (topOfCycle wr)
    fun u => mid u wr
  wait : ∀ u wr t, Triple (device cfg) G J (mid u wr) (gnssWaitFix cfg t)
    fun r => waited (mid u wr) (held u wr) r.toOption
  settle : ∀ u wr fix, Triple (device cfg) G J (held u wr fix)
    (gnssWaitFix cfg 5) fun r => held u wr (r.toOption.getD fix)
  report : ∀ u wr fix, Triple (device cfg) G J (held u wr fix)
    (reportFix cfg (some fix) u wr) fun _ => mid u wr
  reportNone : ∀ u wr, Triple (device cfg) G J (mid u wr)
    (reportFix cfg none u wr) fun _ => mid u wr

/-- Where such a law says what. -/
def conveyedAt (J : Tracker → Prop) (mid : Nat → WakeReason → Tracker → Prop)
    (held : Nat → WakeReason → TrackerFix → Tracker → Prop) :
    Place → Tracker → Prop
  | .during u wr (.ready fix) => waited (mid u wr) (held u wr) fix
  | .during u wr _ => mid u wr
  | _ => J

namespace Conveying

variable {mid : Nat → WakeReason → Tracker → Prop}
variable {held : Nat → WakeReason → TrackerFix → Tracker → Prop}
variable (R : Conveying cfg G J mid held)
include R

/-- While the receiver runs. -/
theorem inHand (u : Nat) (wr : WakeReason) :
    InHand cfg G J (mid u wr) (mid u wr) (mid u wr) (mid u wr) (mid u wr)
      (mid u wr) (held u wr) u wr where
  searches := quiet_standby (R.mids u wr) (by simp) (by simp)
  empties := quiet_standby (R.mids u wr) (by simp) (by simp)
  helds := R.helds u wr
  tolds := quiet_standby (R.mids u wr) (by simp) (by simp)
  passes := quiet_standby (R.mids u wr) (by simp) (by simp)
  parks := quiet_standby (R.mids u wr) (by simp) (by simp)
  request := request_keeps (quiet_unguarded (R.mids u wr) (by simp)
    (by simp))
  fetch := (part (R.mids u wr) (agnssFetchAndInject_foot cfg) (by simp)
    (by simp)).pre fun _ h => h.1
  wait := R.wait u wr
  fallback := part (R.mids u wr) (gnssFallback_foot cfg) (by simp) (by simp)
  settle := R.settle u wr
  report := R.report u wr
  reportNone _ := (R.reportNone u wr).pre fun w h => h.elim id id
  unreported _ _ h := h.elim id id
  ledTold b := part (R.mids u wr) (statusLedReport_foot cfg b) (by simp)
    (by simp)
  keepIf := (part (R.mids u wr) (keepReporting_foot cfg _ _)
    (by simp) (by simp)).post fun b w h => by split <;> exact h
  logLine := part (R.mids u wr) (powerVbusPresent_foot _) (by simp)
    (by simp)
  keepWhile := (part (R.mids u wr) (keepReporting_foot cfg _ _)
    (by simp) (by simp)).post fun b w h => by split <;> exact h
  holdOff := part (R.mids u wr) (holdOffMotion_foot cfg) (by simp)
    (by simp)
  waitPass := R.wait u wr 10

/-- The whole of `main`: what is in hand at each place, put together from the
obligations of `Conveying`. -/
theorem walk : Walk cfg G J (conveyedAt J mid held) where
  gives _ h := h
  phase pl p := by
    have hwithin : Within (S := Calls) Standby (Touch [.phase])
        (watchdogPhase p) := watchdogPhase_standby p
    cases pl with
    | during u wr stage =>
        have hmid : Triple (device cfg) G J (mid u wr) (watchdogPhase p)
            fun _ => mid u wr :=
          part (R.mids u wr) (watchdogPhase_foot p) (by simp) (by simp)
        cases stage with
        -- the one place with a fix in hand
        | ready fix =>
            cases fix with
            | none => exact hmid
            | some fix => exact (R.helds u wr fix).keeps hwithin
        | _ => exact hmid
    | _ => exact part R.rests (watchdogPhase_foot p) (by simp) (by simp)
  setUp := (part R.rests setUp_foot (by simp) (by simp)).post
    fun _ _ h _ => h
  topOfCycle := R.topOfCycle
  network u wr := by
    refine Triple.ite (fun _ => Triple.ret fun w h => h) fun _ => ?_
    refine (part (R.mids u wr) (recoverIfSilent_foot cfg) (by simp)
      (by simp)).bind fun _ => (part (R.mids u wr)
      (watchdogPhase_foot _) (by simp) (by simp)).bind fun _ =>
      (part (R.mids u wr) (lteEnsureConnected_foot cfg) (by simp)
      (by simp)).bind fun r => Triple.ret fun w h => ?_
    -- without a network the cycle goes straight to its sleep
    split
    · exact h
    · exact (R.mids u wr).gives w h
  ledCut := part R.rests (statusLedSet_foot cfg .noLte) (by simp) (by simp)
  guardStart u wr := part (R.mids u wr) (watchdogGuardStart_foot _)
    (by simp) (by simp)
  resume u wr := part (R.mids u wr) (cloudResume_foot cfg) (by simp)
    (by simp)
  guardStop u wr := part (R.mids u wr) watchdogGuardStop_foot (by simp)
    (by simp)
  ledOn u wr := part (R.mids u wr) (statusLedReport_foot cfg false)
    (by simp) (by simp)
  start u wr := (part (R.mids u wr) (gnssStart_foot cfg) (by simp)
    (by simp)).post fun r w h => by
      -- and so it does without a receiver
      split
      · exact h
      · exact (R.mids u wr).gives w h
  acquire u wr := (R.inHand u wr).acquire
  firstReport u wr fix := (R.inHand u wr).firstReport fix
  keepIf u wr := (R.inHand u wr).keepIf
  logLine u wr := (R.inHand u wr).logLine
  keepWhile u wr := (R.inHand u wr).keepWhile
  frequentPass u wr := (R.inHand u wr).frequentPass
  stop u wr := (part (R.mids u wr) (gnssStop_foot cfg) (by simp)
    (by simp)).post fun _ w h => (R.mids u wr).gives w h
  pause site := part R.rests (cloudPause_foot cfg) (by simp) (by simp)
  sleep site := part R.rests (batterySleep_foot cfg site) (by simp)
    (by simp)

end Conveying

end GpsTracker
