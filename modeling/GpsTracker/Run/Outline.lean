/-
The outline of `main`: a walk for the laws that look at neither the guard
of the watchdog nor the start time of a cycle.

Such a law names one assertion for all cycles at each point of the loop,
and its assertions survive all plain calls, the guard's among them.
`Outline` is the list of its obligations, and `Outline.walk` pays with them
what `Walk` asks for.

# The points

    boot --set_up--> top --(bookkeeping)--> woken --recovery--> awake
    awake --(network, cloud_resume)--> on --gnss_start--> run
    run --(acquire, report)--> told --frequent loop--> done
    done --gnss_stop--> off --cloud_pause--> bed --battery_sleep--> top

A pass of the frequent loop goes from `told` over `pass`, where its
condition held, to `run` after the power check of its body, and reports
back to `told`. A cycle cut short goes from `awake` or `off` to `bed`
with the place that cut it.
-/
import GpsTracker.Run.Walk

namespace GpsTracker

open Proc

/-- The points of `main` between which its functions run. -/
inductive Point
  | boot
  | top (wakeReason : WakeReason)
  | woken | awake | on | run | told | pass | done
  | off (site : SleepSite)
  | bed (site : SleepSite)

variable (cfg : Config) (G : Ev → Trace → Prop) (J : Tracker → Prop)
variable (At : Point → Tracker → Prop)

/-- What a law owes for each function that `main` calls. -/
structure Outline : Prop where
  quiet : ∀ pt, Frame (device cfg) G J (At pt) (fun o => group o ∈ [.plain])
    (Touch [.phase])
  setUp : Triple (device cfg) G J (At .boot) (setUp cfg)
    fun r w => r = 0 → At (.top .boot) w
  topOfCycle : ∀ wr, Triple (device cfg) G J (At (.top wr))
    (topOfCycle wr) fun _ => At .woken
  recover : Triple (device cfg) G J (At .woken) (recoverIfSilent cfg)
    fun _ => At .awake
  noLte : cfg.skipLte = true → ∀ w, At .woken w → At .awake w
  lte : Triple (device cfg) G J (At .awake) (lteEnsureConnected cfg)
    fun _ => At .awake
  offline : ∀ w, At .awake w → At (.bed .noNetwork) w
  resume : Triple (device cfg) G J (At .awake) (cloudResume cfg)
    fun _ => At .on
  ledOn : Triple (device cfg) G J (At .on) (statusLedReport cfg false)
    fun _ => At .on
  start : Triple (device cfg) G J (At .on) (gnssStart cfg)
    fun r w => if r = 0 then At .run w else At (.off .gnssStart) w
  fetch : Triple (device cfg) G J
    (fun w => At .run w ∧ w.st.active = .modem) (agnssFetchAndInject cfg)
    fun _ => At .run
  wait : ∀ t, Triple (device cfg) G J (At .run) (gnssWaitFix cfg t)
    fun _ => At .run
  fallback : Triple (device cfg) G J (At .run) (gnssFallback cfg)
    fun _ => At .run
  report : ∀ fix wakeUptimeMs wr, Triple (device cfg) G J (At .run)
    (reportFix cfg fix wakeUptimeMs wr) fun _ => At .told
  unreported : ∀ w, At .run w → At .told w
  ledTold : ∀ haveFix, Triple (device cfg) G J (At .told)
    (statusLedReport cfg haveFix) fun _ => At .told
  keepIf : ∀ mc, Triple (device cfg) G J (At .told)
    (keepReporting cfg .ifCond mc)
    fun b w => if b then At .told w else At .done w
  logLine : Triple (device cfg) G J (At .told) (powerVbusPresent .logLine)
    fun _ => At .told
  keepWhile : ∀ mc, Triple (device cfg) G J (At .told)
    (keepReporting cfg .whileCond mc)
    fun b w => if b then At .pass w else At .done w
  holdOff : Triple (device cfg) G J (At .pass) (holdOffMotion cfg)
    fun _ => At .run
  stop : Triple (device cfg) G J (At .done) (gnssStop cfg)
    fun _ => At (.off .endOfCycle)
  pause : ∀ site, Triple (device cfg) G J (At (.off site))
    (cloudPause cfg) fun _ => At (.bed site)
  sleep : ∀ site, Triple (device cfg) G J (At (.bed site))
    (batterySleep cfg site) fun wr => At (.top wr)

variable {cfg G J At}

/-- The point of the outline at a place of the walk. -/
def Place.point : Place → Point
  | .boot => .boot
  | .top wr => .top wr
  | .during _ _ .woken => .woken
  | .during _ _ .awake => .awake
  | .during _ _ .guarded => .awake
  | .during _ _ .resumed => .on
  | .during _ _ .on => .on
  | .during _ _ .run => .run
  | .during _ _ (.ready _) => .run
  | .during _ _ .told => .told
  | .during _ _ .pass => .pass
  | .during _ _ .done => .done
  | .cut => .bed .noNetwork
  | .off site => .off site
  | .bed site => .bed site

namespace Outline

variable (O : Outline cfg G J At)
include O

variable {α : Type}

/-- A part that only moves the phase and makes plain calls stays at its
point. -/
theorem stay (pt : Point) {p : P α} (h : Foot [.plain] [.phase] p) :
    Triple (device cfg) G J (At pt) p fun _ => At pt :=
  (O.quiet pt).keeps h

/-- The network part, on either build. -/
theorem bringUpNetwork :
    Triple (device cfg) G J (At .woken) (bringUpNetwork cfg)
      fun _ => At .awake := by
  refine Triple.ite (fun h => Triple.ret (O.noLte h)) fun _ => ?_
  refine O.recover.bind fun _ => (O.stay .awake ((watchdogPhase_foot _).mono
    (by simp) (by simp))).bind fun _ => O.lte.bind fun r =>
    Triple.ret fun w h => h

/-- The outline pays what a walk owes while the receiver runs. -/
theorem receiving (wakeUptimeMs : Nat) (wr : WakeReason) :
    Receiving cfg G J (At .run) (At .told) (At .pass) (At .done)
      wakeUptimeMs wr := by
  have hquiet : ∀ pt, Frame (device cfg) G J (At pt) Unguarded
      (Touch [.phase]) := fun pt =>
    (O.quiet pt).mono (fun _ h => List.mem_singleton.mpr h.1) fun _ _ h => h
  exact
    { runs := (hquiet .run).mono (fun _ h => h.1) fun _ _ h => h
      tolds := (hquiet .told).mono (fun _ h => h.1) fun _ _ h => h
      passes := (hquiet .pass).mono (fun _ h => h.1) fun _ _ h => h
      request := request_keeps (hquiet .run)
      fetch := O.fetch
      wait := O.wait
      fallback := O.fallback
      report := fun fix => O.report fix wakeUptimeMs wr
      unreported := O.unreported
      ledTold := O.ledTold
      keepIf := O.keepIf _
      logLine := O.logLine
      keepWhile := O.keepWhile _
      holdOff := O.holdOff }

/-- And the rest; the guard is quiet to it. -/
theorem walk : Walk cfg G J fun pl => At pl.point where
  gives := (O.quiet .boot).gives
  phase _ p := O.stay _ ((watchdogPhase_foot p).mono (by simp) (by simp))
  setUp := O.setUp
  topOfCycle := O.topOfCycle
  network _ _ := O.bringUpNetwork.post fun b w h => by
    cases b with
    | true => exact h
    | false => exact O.offline w h
  ledCut := O.stay _ ((statusLedSet_foot cfg .noLte).mono (by simp) (by simp))
  guardStart _ _ := O.stay .awake
    ((watchdogGuardStart_foot _).mono (by simp) (by simp))
  resume _ _ := O.resume
  guardStop _ _ := O.stay .on (watchdogGuardStop_foot.mono (by simp) (by simp))
  ledOn _ _ := O.ledOn
  start _ _ := O.start
  acquire u wr := (O.receiving u wr).acquire
  firstReport u wr fix := (O.receiving u wr).firstReport fix
  keepIf _ _ := O.keepIf _
  logLine _ _ := O.logLine
  keepWhile _ _ := O.keepWhile _
  frequentPass u wr := (O.receiving u wr).frequentPass
  stop _ _ := O.stop
  pause := O.pause
  sleep := O.sleep

/-- And the loop of main, for as long as it is followed. -/
theorem mainLoop (fuel : Nat) :
    ∀ n wr, Triple (device cfg) G J (At (.top wr))
      (mainLoop cfg fuel n wr) fun _ _ => True := O.walk.mainLoop fuel

/-- What the outline promises of every state `main` can reach. -/
theorem reach {n fuel : Nat} {w : Tracker} (hw : At .boot w)
    {c : P Int × Tracker}
    (hr : Reach (device cfg) (GpsTracker.main cfg n fuel) w c)
    (hG : Always G c.2.log) : J c.2 := O.walk.reach hw hr hG

end Outline

end GpsTracker
