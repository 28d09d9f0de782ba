/-
The walk through `main`: which assertion holds where, for one cycle at a
time.

A law about whole runs names an assertion for each place of the loop and
says what every function of the source does between its two places.
`Receiving` is the list of these obligations while the receiver runs, and
`Walk` for the cycle around it, the guard of the watchdog included; the
theorems below put them together along the text of main.c, once for every
law.

# The places

    boot --set_up--> top --(bookkeeping)--> woken --network--> awake
    awake --guard_start--> guarded --cloud_resume--> resumed
    resumed --guard_stop--> on --gnss_start--> run --acquire--> ready
    ready --report--> told --frequent loop--> done --gnss_stop--> off
    off --cloud_pause--> bed --battery_sleep--> top

A pass of the frequent loop goes from `told` over `pass`, where its
condition held, and back to `told`. A cycle cut short goes from `woken`
over `cut` or from `on` over `off` to `bed` with the place that cut it. What
happens within a cycle may depend on its start time and wake reason.
-/
import GpsTracker.Run.Pace

namespace GpsTracker

open Proc

/-- The worlds of the tracker. -/
abbrev Tracker := World Statics Dev Move Calls

/-- The events of the tracker. -/
abbrev Ev := Event Statics Dev Move Calls

/-- The log of the tracker. -/
abbrev Trace := Log Statics Dev Move Calls

/-- Plain calls that leave the guard alone. -/
def Unguarded (o : Op) : Prop := group o = .plain ∧ kind o ≠ .guard

/-- Those that take no semaphore. -/
def Brisk (o : Op) : Prop := Unguarded o ∧ ∀ s ms, o ≠ .semTake s ms

variable (cfg : Config) (G : Ev → Trace → Prop) (J : Tracker → Prop)

/-- What a law owes for the functions that `main` calls while the receiver
runs. -/
structure Receiving (run told pass done : Tracker → Prop)
    (wakeUptimeMs : Nat) (wr : WakeReason) : Prop where
  runs : Frame (device cfg) G J run Brisk (Touch [.phase])
  tolds : Frame (device cfg) G J told Brisk (Touch [.phase])
  passes : Frame (device cfg) G J pass Brisk (Touch [.phase])
  request : ∀ t, Triple (device cfg) G J
    (fun w => run w ∧ w.st.active = .modem) (gnssAgnssRequestWait t)
    fun _ w => run w ∧ w.st.active = .modem
  fetch : Triple (device cfg) G J
    (fun w => run w ∧ w.st.active = .modem) (agnssFetchAndInject cfg)
    fun _ => run
  wait : ∀ t, Triple (device cfg) G J run (gnssWaitFix cfg t) fun _ => run
  fallback : Triple (device cfg) G J run (gnssFallback cfg) fun _ => run
  report : ∀ fix, Triple (device cfg) G J run
    (reportFix cfg fix wakeUptimeMs wr) fun _ => told
  unreported : ∀ w, run w → told w
  ledTold : ∀ haveFix, Triple (device cfg) G J told
    (statusLedReport cfg haveFix) fun _ => told
  keepIf : Triple (device cfg) G J told
    (keepReporting cfg .ifCond (wr == .motion))
    fun b w => if b then told w else done w
  logLine : Triple (device cfg) G J told (powerVbusPresent .logLine)
    fun _ => told
  keepWhile : Triple (device cfg) G J told
    (keepReporting cfg .whileCond (wr == .motion))
    fun b w => if b then pass w else done w
  holdOff : Triple (device cfg) G J pass (holdOffMotion cfg) fun _ => run

/-- The places of a cycle; the acquisition ends with the fix it found. -/
inductive Stage
  | woken | awake | guarded | resumed | on | run
  | ready (fix : Option TrackerFix)
  | told | pass | done

/-- The places of `main` between which its functions run. -/
inductive Place
  | boot
  | top (wr : WakeReason)
  | during (wakeUptimeMs : Nat) (wr : WakeReason) (stage : Stage)
  | cut
  | off (site : SleepSite)
  | bed (site : SleepSite)

variable (At : Place → Tracker → Prop)

/-- What a law owes for the functions that `main` calls. -/
structure Walk : Prop where
  gives : ∀ w, At .boot w → J w
  phase : ∀ pl p, Triple (device cfg) G J (At pl) (watchdogPhase p)
    fun _ => At pl
  setUp : Triple (device cfg) G J (At .boot) (setUp cfg)
    fun r w => r = 0 → At (.top .boot) w
  topOfCycle : ∀ wr, Triple (device cfg) G J (At (.top wr))
    (topOfCycle wr) fun u => At (.during u wr .woken)
  network : ∀ u wr, Triple (device cfg) G J (At (.during u wr .woken))
    (bringUpNetwork cfg)
    fun b w => if b then At (.during u wr .awake) w else At .cut w
  ledCut : Triple (device cfg) G J (At .cut) (statusLedSet cfg .noLte)
    fun _ => At (.bed .noNetwork)
  guardStart : ∀ u wr, Triple (device cfg) G J (At (.during u wr .awake))
    (watchdogGuardStart cfg.cloudConnectBudgetSeconds)
    fun _ => At (.during u wr .guarded)
  resume : ∀ u wr, Triple (device cfg) G J (At (.during u wr .guarded))
    (cloudResume cfg) fun _ => At (.during u wr .resumed)
  guardStop : ∀ u wr, Triple (device cfg) G J (At (.during u wr .resumed))
    watchdogGuardStop fun _ => At (.during u wr .on)
  ledOn : ∀ u wr, Triple (device cfg) G J (At (.during u wr .on))
    (statusLedReport cfg false) fun _ => At (.during u wr .on)
  start : ∀ u wr, Triple (device cfg) G J (At (.during u wr .on))
    (gnssStart cfg) fun r w =>
      if r = 0 then At (.during u wr .run) w else At (.off .gnssStart) w
  acquire : ∀ u wr, Triple (device cfg) G J (At (.during u wr .run))
    (acquire cfg) fun fix => At (.during u wr (.ready fix))
  firstReport : ∀ u wr fix, Triple (device cfg) G J
    (At (.during u wr (.ready fix))) (firstReport cfg fix u wr)
    fun _ => At (.during u wr .told)
  keepIf : ∀ u wr, Triple (device cfg) G J (At (.during u wr .told))
    (keepReporting cfg .ifCond (wr == .motion)) fun b w =>
      if b then At (.during u wr .told) w else At (.during u wr .done) w
  logLine : ∀ u wr, Triple (device cfg) G J (At (.during u wr .told))
    (powerVbusPresent .logLine) fun _ => At (.during u wr .told)
  keepWhile : ∀ u wr, Triple (device cfg) G J
    (At (.during u wr .told))
    (keepReporting cfg .whileCond (wr == .motion)) fun b w =>
      if b then At (.during u wr .pass) w else At (.during u wr .done) w
  frequentPass : ∀ u wr, Triple (device cfg) G J (At (.during u wr .pass))
    (frequentPass cfg u wr) fun _ => At (.during u wr .told)
  stop : ∀ u wr, Triple (device cfg) G J (At (.during u wr .done))
    (gnssStop cfg) fun _ => At (.off .endOfCycle)
  pause : ∀ site, Triple (device cfg) G J (At (.off site))
    (cloudPause cfg) fun _ => At (.bed site)
  sleep : ∀ site, Triple (device cfg) G J (At (.bed site))
    (batterySleep cfg site) fun wr => At (.top wr)

variable {cfg G J At}

/-- `agnss_wanted` answers true only while the modem is the source. -/
theorem agnssWanted_modem {X : Tracker → Prop} :
    Triple (device cfg) G J X (agnssWanted cfg)
      fun b w => X w ∧ (b = true → w.st.active = .modem) := by
  refine Triple.ite (fun _ => Triple.ret fun w h => ⟨h, nofun⟩) fun _ => ?_
  refine Triple.get fun s => Triple.ite
    (fun _ => Triple.ret fun w h => ⟨h.1, nofun⟩) fun hs => Triple.ite
    (fun _ => Triple.ret fun w h => ⟨h.1, nofun⟩) fun _ => ?_
  intro w hw
  obtain ⟨hx, hst⟩ := hw
  have hact : w.st.active = .modem := by
    rw [hst]
    exact Decidable.not_not.mp hs
  cases h : cfg.cloudProvider with
  | nrfcloud =>
      simp only [cloudIsReady, h]
      exact ⟨hx, fun _ => hact⟩
  | hologram =>
      simp only [cloudIsReady, h]
      exact ⟨hx, fun _ => hact⟩

-- ============================================================ quiet parts

/-- What leaves the guard alone and waits for no one: the phase marker, a
feed, a sleep and the questions to the arbiter. -/
theorem watchdogPhase_brisk (p : Phase) :
    Within (S := Calls) Brisk (Touch [.phase]) (watchdogPhase p) :=
  Within.modify fun s => by simp [Var.forall]

/-- A feed leaves the guard alone. -/
theorem watchdogFeed_brisk :
    Within (S := Calls) Brisk (Touch [.phase]) watchdogFeed := by
  refine Within.get.bind fun _ => Within.ite (Within.op ⟨⟨rfl, nofun⟩, nofun⟩)
    (Within.ret ())

theorem kSleep_brisk (ms : Nat) :
    Within (S := Calls) Brisk (Touch [.phase]) (call (.kSleep ms)) :=
  Within.op ⟨⟨rfl, nofun⟩, nofun⟩

theorem fixTimeout_brisk (cfg : Config) :
    Within (S := Calls) Brisk (Touch [.phase])
      (gnssFixTimeoutSeconds cfg) :=
  Within.get.bind fun _ => Within.ite (Within.ret _) (Within.ret _)

theorem fallbackAvailable_brisk (cfg : Config) :
    Within (S := Calls) Brisk (Touch [.phase])
      (gnssFallbackAvailable cfg) :=
  Within.get.bind fun _ => Within.ret _

theorem requestWait_unguarded (t : Nat) :
    Within (S := Calls) Unguarded (Touch [.phase])
      (gnssAgnssRequestWait t) := by
  refine Within.get.bind fun s => Within.ite (Within.ret _) ?_
  exact (Within.op ⟨rfl, nofun⟩).bind fun r =>
    Within.ite (Within.ret _) (Within.ret _)

/-- While nothing writes the active source, it stays the modem. -/
theorem modem_frame {X : Tracker → Prop} {C : Op → Prop}
    (F : Frame (device cfg) G J X C (Touch [.phase])) :
    Frame (device cfg) G J (fun w => X w ∧ w.st.active = .modem) C
      (Touch [.phase]) where
  stable := F.stable.and
    (Stable.static fun s : Statics => s.active = FixSource.modem)
  calls := fun w o r ho h hok hG => ⟨F.calls w o r ho h.1 hok hG, h.2⟩
  writes := fun w f hf h =>
    ⟨F.writes w f hf h.1,
      (hf .active (by simp) : (f w.st).active = _).trans h.2⟩
  gives := fun w h => F.gives w h.1

/-- Where a wait is like any other call, so is the wait for a request. -/
theorem request_keeps {X : Tracker → Prop}
    (F : Frame (device cfg) G J X Unguarded (Touch [.phase])) (t : Nat) :
    Triple (device cfg) G J (fun w => X w ∧ w.st.active = .modem)
      (gnssAgnssRequestWait t) fun _ w => X w ∧ w.st.active = .modem :=
  (modem_frame F).keeps (requestWait_unguarded t)

-- ========================================================= the fix ladder

/-- `acquire` from its rungs. `found` is what the first wait leaves behind,
by what it found, and `ready` what stands before the last resort. -/
theorem acquire_ladder {asks marks times : Tracker → Prop}
    {waits : Nat → Tracker → Prop}
    {out : Option TrackerFix → Tracker → Prop}
    (found ready : Option TrackerFix → Tracker → Prop)
    (hask : Triple (device cfg) G J asks
      (assistIfAsked cfg (watchdogPhase .agnss)) fun _ => marks)
    (hmark : Triple (device cfg) G J marks (watchdogPhase .fix)
      fun _ => times)
    (htime : Triple (device cfg) G J times (gnssFixTimeoutSeconds cfg) waits)
    (hwait : ∀ t, Triple (device cfg) G J (waits t) (gnssWaitFix cfg t)
      fun r => found r.toOption)
    (havailable : Triple (device cfg) G J (found none)
      (gnssFallbackAvailable cfg) fun _ => found none)
    (hfallback : ∀ assisted, Triple (device cfg) G J (found none)
      (acquireFallback cfg assisted) fun r => ready r.1)
    (hready : ∀ fix w, found fix w → ready fix w)
    (hwanted : Triple (device cfg) G J (ready none) (do
      if ← agnssWanted cfg then acquireAssisted cfg else pure none) out)
    (hout : ∀ fix w, ready fix w → out fix w) :
    Triple (device cfg) G J asks (acquire cfg) out := by
  have hfound : ∀ fix, Triple (device cfg) G J (ready (some fix))
      (pure (some fix)) out := fun fix => Triple.ret (hout (some fix))
  have hnone : ∀ assisted : Bool, Triple (device cfg) G J (ready none) (do
      if assisted then pure none
      else if ← agnssWanted cfg then acquireAssisted cfg
      else pure none) out := fun assisted =>
    Triple.ite (fun _ => Triple.ret (hout none)) fun _ => hwanted
  refine hask.bind fun asked => hmark.bind fun _ => htime.bind fun t =>
    (hwait t).bind fun r => ?_
  -- a fix at the first wait ends the ladder
  cases r with
  | ok fix => exact (hfound fix).pre (hready (some fix))
  | error err =>
      refine havailable.bind fun b => Triple.ite (fun _ => ?_) fun _ =>
        (hnone (asked.getD false)).pre (hready none)
      refine (hfallback (asked.getD false)).bind fun r => ?_
      obtain ⟨fix, assisted⟩ := r
      -- the second receiver failed as well: the last resort is left
      cases fix with
      | some fix => exact hfound fix
      | none => exact hnone assisted

namespace Receiving

variable {run told pass done : Tracker → Prop} {wakeUptimeMs : Nat}
variable {wr : WakeReason}
variable (R : Receiving cfg G J run told pass done wakeUptimeMs wr)
include R

-- ============================================================ acquisition

/-- Assistance is wanted, waited for and fetched only while the modem is the
source. -/
theorem assist {mark : P Unit}
    (hm : Within (S := Calls) Brisk (Touch [.phase]) mark) :
    Triple (device cfg) G J run (assistIfAsked cfg mark)
      fun _ => run := by
  refine agnssWanted_modem.bind fun b => Triple.ite
    (fun _ => Triple.ret fun w h => h.1) fun hb => ?_
  have hwanted : b = true := by simpa using hb
  refine Triple.bind (R := fun _ w => run w ∧ w.st.active = .modem)
    ((R.request _).pre fun w h => ⟨h.1, h.2 hwanted⟩) fun r => ?_
  refine Triple.ite (fun _ => Triple.ret fun w h => h.1) fun _ => ?_
  exact ((modem_frame R.runs).keeps hm).bind fun _ => R.fetch.bind fun r =>
    Triple.ret fun w h => h

theorem timeout :
    Triple (device cfg) G J run (gnssFixTimeoutSeconds cfg)
      fun _ => run :=
  R.runs.keeps (fixTimeout_brisk cfg)

/-- The fallback may have changed the source, so the second round of
assistance asks again. -/
theorem acquireFallback (assisted : Bool) :
    Triple (device cfg) G J run (acquireFallback cfg assisted)
      fun _ => run := by
  refine R.fallback.bind fun r => Triple.ite
    (fun _ => Triple.ret fun w h => h) fun _ => ?_
  refine (R.assist (Within.ret ())).bind fun asked => R.timeout.bind fun t =>
    (R.wait t).bind fun fix => Triple.ret fun w h => h

/-- The last fetch has asked already. -/
theorem acquireAssisted :
    Triple (device cfg) G J
      (fun w => run w ∧ w.st.active = .modem) (acquireAssisted cfg)
      fun _ => run := by
  refine R.fetch.bind fun r => Triple.ite
    (fun _ => Triple.ret fun w h => h) fun _ => ?_
  exact (R.wait _).bind fun fix => Triple.ret fun w h => h

/-- The acquisition keeps `run`, rung by rung. -/
theorem acquire :
    Triple (device cfg) G J run (acquire cfg) fun _ => run := by
  refine acquire_ladder (fun _ => run) (fun _ => run)
    (R.assist (watchdogPhase_brisk _))
    (R.runs.keeps (watchdogPhase_brisk _)) R.timeout R.wait
    (R.runs.keeps (fallbackAvailable_brisk cfg)) R.acquireFallback
    (fun _ _ h => h) ?_ fun _ _ h => h
  refine agnssWanted_modem.bind fun b => Triple.ite (fun hb => ?_)
    fun _ => Triple.ret fun w h => h.1
  exact R.acquireAssisted.pre fun w h => ⟨h.1, h.2 hb⟩

-- =============================================================== reporting

/-- A report or none leads from `run` to `told`. -/
theorem reportOrSkip (fix : Option TrackerFix) :
    Triple (device cfg) G J run
      (reportOrSkip cfg fix wakeUptimeMs wr) fun _ => told := by
  cases fix with
  | some fix =>
      exact (R.report (some fix)).bind fun _ => R.ledTold true
  | none =>
      refine Triple.ite (fun _ => ?_)
        fun _ => (R.ledTold false).pre R.unreported
      exact (R.report none).bind fun _ => R.ledTold false

/-- The first report, after its settling wait. -/
theorem firstReport (fix : Option TrackerFix) :
    Triple (device cfg) G J run
      (firstReport cfg fix wakeUptimeMs wr) fun _ => told := by
  have hlast : Triple (device cfg) G J told watchdogFeed fun _ => told :=
    R.tolds.keeps watchdogFeed_brisk
  refine (R.runs.keeps watchdogFeed_brisk).bind fun _ => ?_
  cases fix with
  | some fix =>
      have hsettle : Triple (device cfg) G J run (settleFix cfg fix)
          fun _ => run := by
        refine Triple.ite (fun _ => ?_) fun _ => Triple.ret fun w h => h
        exact (R.runs.keeps (kSleep_brisk _)).bind fun _ => (R.wait 5).bind
          fun better => Triple.ret fun w h => h
      exact hsettle.bind fun fix =>
        (R.reportOrSkip (some fix)).bind fun _ => hlast
  | none =>
      exact (R.reportOrSkip none).bind fun _ => hlast

/-- A pass leads from where the loop's condition held back to where it is
asked. -/
theorem frequentPass :
    Triple (device cfg) G J pass
      (frequentPass cfg wakeUptimeMs wr) fun _ => told := by
  refine (R.passes.keeps (watchdogPhase_brisk _)).bind fun _ =>
    R.holdOff.bind fun _ => ?_
  refine (R.runs.keeps (kSleep_brisk _)).bind fun _ =>
    (R.runs.keeps watchdogFeed_brisk).bind
    fun _ => (R.wait 10).bind fun fix => R.reportOrSkip _

end Receiving

-- =============================================================== the cycle

namespace Walk

variable (W : Walk cfg G J At)
include W

/-- The frequent loop, by induction on the passes left: each starts at
`told` and ends there. -/
theorem frequentLoop (u : Nat) (wr : WakeReason) :
    ∀ fuel, Triple (device cfg) G J (At (.during u wr .told))
      (frequentLoop cfg u wr (wr == .motion) fuel)
      fun _ => At (.during u wr .done) := by
  intro fuel
  induction fuel with
  | zero => exact Triple.halt
  | succ fuel ih =>
      refine (W.keepWhile u wr).bind fun b => ?_
      cases b with
      | false => exact Triple.ret fun w h => h
      | true => exact (W.frequentPass u wr).bind fun _ => ih

/-- The frequent section: the condition once more before the first pass, then
the loop, by induction on its fuel. -/
theorem frequentReports (fuel u : Nat) (wr : WakeReason) :
    Triple (device cfg) G J (At (.during u wr .told))
      (frequentReports cfg fuel u wr (wr == .motion))
      fun _ => At (.during u wr .done) := by
  refine (W.keepIf u wr).bind fun b => ?_
  cases b with
  | false => exact Triple.ret fun w h => h
  | true =>
      exact (W.logLine u wr).bind fun _ => W.frequentLoop u wr fuel

/-- From the last report to the next wake reason. -/
theorem endOfCycle (u : Nat) (wr : WakeReason) :
    Triple (device cfg) G J (At (.during u wr .done)) (endOfCycle cfg)
      fun wr => At (.top wr) :=
  (W.phase _ _).bind fun _ => (W.stop u wr).bind fun _ =>
    (W.phase _ _).bind fun _ => (W.pause _).bind fun _ => W.sleep _

/-- A cycle with the network up: through the acquisition, or cut short where
the receiver does not start. -/
theorem onlineCycle (fuel u : Nat) (wr : WakeReason) :
    Triple (device cfg) G J (At (.during u wr .awake))
      (onlineCycle cfg fuel u wr) fun wr => At (.top wr) := by
  refine (W.phase _ _).bind fun _ => (W.guardStart u wr).bind fun _ =>
    (W.resume u wr).bind fun _ => (W.guardStop u wr).bind fun _ =>
    (W.ledOn u wr).bind fun _ => (W.phase _ _).bind fun _ =>
    (W.start u wr).bind fun r => ?_
  refine Triple.ite (fun hr => ?_) fun hr => ?_
  · refine Triple.pre (P := At (.off .gnssStart)) ?_ fun w h => by
      rwa [if_neg hr] at h
    exact (W.pause _).bind fun _ => W.sleep _
  · refine Triple.pre (P := At (.during u wr .run)) ?_ fun w h => by
      rwa [if_pos (Decidable.not_not.mp hr)] at h
    exact (W.acquire u wr).bind fun fix => (W.firstReport u wr fix).bind
      fun _ => (W.frequentReports fuel u wr).bind
      fun _ => W.endOfCycle u wr

/-- One pass of `while (1)`. -/
theorem cycle (fuel : Nat) (wr : WakeReason) :
    Triple (device cfg) G J (At (.top wr)) (cycle cfg fuel wr)
      fun wr => At (.top wr) := by
  refine (W.topOfCycle wr).bind fun u => (W.network u wr).bind
    fun b => Triple.ite (fun hb => ?_) fun hb => ?_
  · refine (W.onlineCycle fuel u wr).pre fun w h => ?_
    rwa [if_pos hb] at h
  · refine Triple.pre (P := At .cut) ?_ fun w h => by rwa [if_neg hb] at h
    exact W.ledCut.bind fun _ => W.sleep .noNetwork

/-- `while (1)`, by induction on the cycles left. -/
theorem mainLoop (fuel : Nat) :
    ∀ n wr, Triple (device cfg) G J (At (.top wr))
      (mainLoop cfg fuel n wr) fun _ _ => True := by
  intro n
  induction n with
  | zero => exact fun wr => Triple.halt
  | succ n ih => exact fun wr => (W.cycle fuel wr).bind fun wr' => ih wr'

/-- All of `main`, by induction on the cycles it is given. -/
theorem main (n fuel : Nat) :
    Triple (device cfg) G J (At .boot) (main cfg n fuel)
      fun _ _ => True := by
  refine W.setUp.bind fun r => Triple.ite
    (fun _ => Triple.ret fun _ _ => trivial) fun hr => ?_
  exact (W.mainLoop fuel n .boot).pre fun w h => h (Decidable.not_not.mp hr)

/-- What the walk promises of every state `main` can reach. -/
theorem reach {n fuel : Nat} {w : Tracker} (hw : At .boot w)
    {c : P Int × Tracker}
    (hr : Reach (device cfg) (GpsTracker.main cfg n fuel) w c)
    (hG : Always G c.2.log) : J c.2 :=
  (W.main n fuel).reach hw (W.gives w hw) hr hG

end Walk

end GpsTracker
