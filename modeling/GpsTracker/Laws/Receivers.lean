/-
The receiver waited on is running (gnss.c, gnss_modem.c, gnss_ext.c).

`gnss_start` sets the active source and starts it, and every later
`gnss_wait_fix` of the cycle waits on that source without asking whether
it runs. Two paths restart the modem receiver inside the cycle, the
fallback and the assistance fetch, and `main` goes on waiting whatever
the restart answered. The law holds of the runs whose restarts succeed.
-/
import GpsTracker.Run.Script

namespace GpsTracker

open Proc

variable {cfg : Config}

/-- What an event says about receiver `src`: started, or not running. -/
def verdict (src : FixSource) (e : Ev) : Option Bool :=
  match src, e with
  | .external, .call _ _ (.leave .gnssExtStart r) _ => some (r == 0)
  | .external, .call _ _ (.enter .gnssExtStop) _ => some false
  | .modem, .call _ _ (.leave (.gnssModemStart _) r) _ => some (r == 0)
  | .modem, .call _ _ (.enter .gnssModemStop) _ => some false
  | _, _ => none

/-- The most recent start of `src` returned 0 and no stop came since. -/
def running (src : FixSource) (l : Trace) : Bool :=
  (l.findSome? (verdict src)).getD false

/-- Whoever waits for a fix waits on a running receiver. -/
def waitsOnRunning : Ev → Trace → Bool
  | .call s _ (.enter .gnssWaitFix) _, l => running s.active l
  | _, _ => true

abbrev WaitsOnRunning (e : Ev) (l : Trace) : Prop := waitsOnRunning e l

/-- The modem starts made by the fallback and by the fetch succeed. -/
def restarts : Ev → Bool
  | .call _ _ (.leave (.gnssModemStart .fallback) r) _ => r == 0
  | .call _ _ (.leave (.gnssModemStart .assistance) r) _ => r == 0
  | _ => true

/-- `restarts` as a proviso on the steps of a run. -/
abbrev Restarts (e : Ev) (_ : Trace) : Prop := restarts e

-- ============================================================== assertions

/-- The marks that start or stop a receiver. -/
abbrev receiverMarks : List Group :=
  [.mark .gnssExtStart, .mark .gnssExtStop, .mark (.gnssModemStart .cycle),
    .mark (.gnssModemStart .fallback), .mark (.gnssModemStart .assistance),
    .mark .gnssModemStop]

/-- The promise at every step. -/
abbrev WaitedWell (w : Tracker) : Prop := Always WaitsOnRunning w.log

/-- The active source is `src`, running where `c` asks for it. -/
def Held (src : FixSource) (c : Prop) (w : Tracker) : Prop :=
  WaitedWell w ∧ w.st.active = src ∧ (c → running src w.log = true)

/-- The active source is running. -/
def ActiveRuns (w : Tracker) : Prop := Held w.st.active True w

theorem Held.runs {src : FixSource} {w : Tracker} (h : Held src True w) :
    ActiveRuns w := by
  obtain ⟨hw, rfl, hr⟩ := h
  exact ⟨hw, rfl, hr⟩

private theorem verdict_call {o : Op} (h : Off receiverMarks o)
    (src : FixSource) (s : Statics) (d : Dev) (r : o.Ret) :
    verdict src (.call s d o r : Ev) = none := by
  cases o with
  | enter f =>
      cases f <;> cases src <;> first | rfl | exact absurd (by simp) h
  | leave f r' =>
      cases f with
      | gnssModemStart site =>
          cases site <;> exact absurd (by simp) h
      | _ => cases src <;> first | rfl | exact absurd (by simp) h
  | _ => cases src <;> rfl

private theorem running_call {o : Op} (h : Off receiverMarks o)
    (src : FixSource) (s : Statics) (d : Dev) (r : o.Ret) (l : Trace) :
    running src (.call s d o r :: l) = running src l := by
  simp only [running, List.findSome?_cons, verdict_call h]

private theorem running_move (src : FixSource) (s : Statics) (d : Dev)
    (a : Move) (l : Trace) :
    running src (.env s d a :: l) = running src l := by
  cases src <;> rfl

private theorem waits_call {o : Op} (h : group o ≠ .mark .gnssWaitFix)
    (s : Statics) (d : Dev) (r : o.Ret) (l : Trace) :
    WaitsOnRunning (.call s d o r : Ev) l := by
  cases o with
  | enter f => cases f <;> first | rfl | exact absurd rfl h
  | _ => rfl

/-- Between starts and stops the active source keeps its state, and while
it runs it may be waited on. -/
theorem held_frame (src : FixSource) {c : Prop} (hc : c) :
    Frame (device cfg) Restarts WaitedWell (Held src c)
      (Off receiverMarks) (Keep [.active]) where
  stable := fun w a h _ _ =>
    ⟨⟨rfl, h.1⟩, h.2.1, fun k => (running_move ..).trans (h.2.2 k)⟩
  calls := fun w o r ho h _ _ => by
    refine ⟨⟨?_, h.1⟩, h.2.1, fun k => (running_call ho ..).trans (h.2.2 k)⟩
    by_cases hw : group o = .mark .gnssWaitFix
    · cases o with
      | enter f =>
          cases f with
          | gnssWaitFix =>
              show running w.st.active w.log = true
              rw [h.2.1]
              exact h.2.2 hc
          | _ => rfl
      | _ => rfl
    · exact waits_call hw ..
  writes := fun w f hf h =>
    ⟨h.1, (hf .active (by simp) : (f w.st).active = _).trans h.2.1, h.2.2⟩
  gives := fun w h => h.1

/-- Away from waits nothing is promised of the active source. -/
theorem unheld_frame (src : FixSource) (c : Prop) :
    Frame (device cfg) Restarts WaitedWell (Held src c)
      (Off (.mark .gnssWaitFix :: receiverMarks)) (Keep [.active]) where
  stable := fun w a h _ _ =>
    ⟨⟨rfl, h.1⟩, h.2.1, fun k => (running_move ..).trans (h.2.2 k)⟩
  calls := fun w o r ho h _ _ =>
    ⟨⟨waits_call (fun hw => ho (List.mem_cons.mpr (.inl hw))) .., h.1⟩, h.2.1,
      fun k =>
      (running_call (fun hm => ho (List.mem_cons_of_mem _ hm)) ..).trans
        (h.2.2 k)⟩
  writes := fun w f hf h =>
    ⟨h.1, (hf .active (by simp) : (f w.st).active = _).trans h.2.1, h.2.2⟩
  gives := fun w h => h.1

/-- Outside the acquisition nobody waits. -/
theorem waited_frame : Frame (device cfg) Restarts WaitedWell WaitedWell
    (Off [.mark .gnssWaitFix]) (Keep []) where
  stable := fun w a h _ _ => ⟨rfl, h⟩
  calls := fun w o r ho h _ _ =>
    ⟨waits_call (by simpa [Off] using ho) .., h⟩
  writes := fun w f _ h => h
  gives := fun w h => h

/-- `held_frame` for whatever source is active. -/
theorem runs_frame : Frame (device cfg) Restarts WaitedWell ActiveRuns
    (Off receiverMarks) (Keep [.active]) where
  stable := fun w a h hcan hG =>
    ((held_frame _ trivial).stable w a h hcan hG).runs
  calls := fun w o r ho h hok hG =>
    ((held_frame _ trivial).calls w o r ho h hok hG).runs
  writes := fun w f hf h =>
    ⟨h.1, rfl, fun _ => by
      have ha : (f w.st).active = w.st.active := hf .active (by simp)
      show running (f w.st).active w.log = true
      rw [ha]
      exact h.2.2 trivial⟩
  gives := fun w h => h.1

-- ======================================================== starts and stops

/-- A logged start or stop of `src`, with `src` active: what its return
mark says is what is known of `src`. -/
private theorem held_scope {α : Type} [Code α] {src : FixSource} {f : Fn}
    {p : P α} (gs : List Group) (vs : List Var) (h : Foot gs vs p)
    (hg : ∀ g ∈ gs, g ∉ Group.mark .gnssWaitFix :: receiverMarks)
    (hv : ∀ v ∈ [Var.active], v ∉ vs)
    (hf : ∀ s d r, verdict src (.call s d (.leave f r) ())
      = some (r == 0)) (hn : f ≠ .gnssWaitFix) :
    Triple (device cfg) Restarts WaitedWell (Held src False) (scope f p)
      fun a w => Held src (Code.code a = 0) w ∧
        ∃ s d, restarts (.call s d (.leave f (Code.code a)) ()) := by
  have henter : Triple (device cfg) Restarts WaitedWell (Held src False)
      (call (.enter f)) fun _ => Held src False := by
    refine Triple.op (unheld_frame src False).stable fun w r hw _ _ => ?_
    have hφ : WaitsOnRunning (.call w.st w.dev (.enter f) r) w.log :=
      waits_call (show group (.enter f) ≠ .mark .gnssWaitFix from
        fun hm => hn (Group.mark.inj hm)) ..
    exact ⟨⟨hφ, hw.1⟩, ⟨hφ, hw.1⟩, hw.2.1, nofun⟩
  refine triple_scope henter ((unheld_frame src False).keeps (h.off hg hv))
    fun a => Triple.op (unheld_frame src False).stable
      fun w r hw _ hG => ?_
  refine ⟨⟨rfl, hw.1⟩, ⟨⟨rfl, hw.1⟩, hw.2.1, fun ha => ?_⟩, w.st, w.dev,
    hG.1⟩
  show running src (.call w.st w.dev (.leave f (Code.code a)) r :: w.log)
    = true
  simp [running, hf, ha]

/-- A start of the external module, with the module active. -/
theorem gnssExtStart_held :
    Triple (device cfg) Restarts WaitedWell (Held .external False)
      (gnssExtStart cfg) fun r => Held .external (r = 0) := by
  refine (held_scope [.plain, .pin, .pm] [.powered] ?_ (by simp) (by simp)
    (by intros; rfl) (by simp)).post fun _ _ h => h.1
  simp [gnssExtOpen, powerSet, Var.forall]

private theorem gnssModemStart_scope (site : StartSite) :
    Triple (device cfg) Restarts WaitedWell (Held .modem False)
      (gnssModemStart cfg site) fun r w => Held .modem (r = 0) w ∧
        ∃ s d, restarts (.call s d (.leave (.gnssModemStart site) r) ()) := by
  refine held_scope [.plain, .modemRun] [] ?_ (by simp) (by simp)
    (by intros; rfl) (by simp)
  simp

/-- A start of the modem receiver, with the modem active. -/
theorem gnssModemStart_held (site : StartSite) :
    Triple (device cfg) Restarts WaitedWell (Held .modem False)
      (gnssModemStart cfg site) fun r => Held .modem (r = 0) :=
  (gnssModemStart_scope site).post fun _ _ h => h.1

/-- A restart of the modem receiver, with the modem active. -/
theorem gnssModemRestart_held {site : StartSite} (hs : site ≠ .cycle) :
    Triple (device cfg) Restarts WaitedWell (Held .modem False)
      (gnssModemStart cfg site) fun _ => Held .modem True := by
  refine (gnssModemStart_scope site).post fun r w h => ?_
  obtain ⟨⟨hw, hact, hrun⟩, s, d, hr⟩ := h
  refine ⟨hw, hact, fun _ => hrun ?_⟩
  cases site with
  | cycle => exact absurd rfl hs
  | fallback => exact eq_of_beq hr
  | assistance => exact eq_of_beq hr

/-- A stop: whatever ran, nothing is promised of it. -/
theorem stop_held {src : FixSource} {p : P Unit} (gs : List Group)
    (vs : List Var) (h : Foot gs vs p)
    (hg : ∀ g ∈ gs, g ≠ .mark .gnssWaitFix) (hv : Var.active ∉ vs) :
    Triple (device cfg) Restarts WaitedWell (Held src True) p
      fun _ => Held src False := by
  have F : Frame (device cfg) Restarts WaitedWell
      (fun w => WaitedWell w ∧ w.st.active = src)
      (Off [.mark .gnssWaitFix]) (Keep [.active]) :=
    (waited_frame.static fun s => s.active = src).mono (fun _ h => h)
      fun s s' hs => ⟨nofun, fun ha =>
        (hs .active (by simp) : s'.active = s.active).trans ha⟩
  refine (F.keeps (h.off (fun g hm => by simpa using hg g hm)
    (by simpa using hv))).conseq (fun w h => ⟨h.1, h.2.1⟩)
    fun _ w h => ⟨h.1, h.2, nofun⟩

/-- `gnss_start`: a zero result means that the active source runs. -/
theorem gnssStart_runs :
    Triple (device cfg) Restarts WaitedWell WaitedWell (gnssStart cfg)
      fun r w => if r = 0 then ActiveRuns w else WaitedWell w := by
  -- a switch of the source alone promises nothing of it
  have hswitch : ∀ src, Triple (device cfg) Restarts WaitedWell WaitedWell
      (Prog.modify fun s => { s with active := src })
      fun _ => Held src False := fun src =>
    Triple.modify fun w h => ⟨h, h, rfl, nofun⟩
  have hmodem : Triple (device cfg) Restarts WaitedWell WaitedWell
      (gnssStartModem cfg)
      fun r w => if r = 0 then ActiveRuns w else WaitedWell w := by
    refine (hswitch .modem).bind fun _ =>
      (gnssModemStart_held .cycle).post fun r w h => ?_
    split
    next hr => exact Held.runs ⟨h.1, h.2.1, fun _ => h.2.2 hr⟩
    next => exact h.1
  -- the module first, the modem where it fails or is missing
  have hbody : Triple (device cfg) Restarts WaitedWell WaitedWell (do
      let s ← Prog.get
      if cfg.gnssExternal && s.externalUsable then
        Prog.modify fun s => { s with active := .external }
        if (← gnssExtStart cfg) = 0 then pure 0 else gnssStartModem cfg
      else gnssStartModem cfg : P Int)
      fun r w => if r = 0 then ActiveRuns w else WaitedWell w := by
    refine Triple.get fun s => Triple.ite (fun _ => ?_) fun _ =>
      hmodem.pre fun w h => h.1
    refine Triple.pre (P := WaitedWell) ?_ fun w h => h.1
    refine (hswitch .external).bind fun _ => gnssExtStart_held.bind
      fun r => Triple.ite (fun hr => ?_) fun _ => hmodem.pre fun w h => h.1
    refine Triple.ret fun w h => ?_
    rw [if_pos rfl]
    exact Held.runs ⟨h.1, h.2.1, fun _ => h.2.2 hr⟩
  refine triple_scope (enter_keeps waited_frame (by simp)) hbody fun r => ?_
  by_cases hr : r = 0
  · simp only [if_pos hr]
    exact leave_keeps runs_frame (by simp)
  · simp only [if_neg hr]
    exact leave_keeps waited_frame (by simp)

/-- `gnss_fallback` hands over to a modem receiver that runs. -/
theorem gnssFallback_runs :
    Triple (device cfg) Restarts WaitedWell ActiveRuns (gnssFallback cfg)
      fun _ => ActiveRuns := by
  have hstart : Triple (device cfg) Restarts WaitedWell WaitedWell (do
      Prog.modify fun s => { s with active := .modem }
      let err ← gnssModemStart cfg .fallback
      if err ≠ 0 then pure err else pure 0 : P Int) fun _ => ActiveRuns :=
    Triple.bind (R := fun _ => Held .modem False)
      (Triple.modify fun w h => ⟨h, h, rfl, nofun⟩) fun _ =>
      (gnssModemRestart_held (by simp)).bind fun r =>
        Triple.ite (fun _ => Triple.ret fun w h => h.runs)
          fun _ => Triple.ret fun w h => h.runs
  refine triple_scope (enter_keeps runs_frame (by simp)) ?_
    fun r => leave_keeps runs_frame (by simp)
  refine (part runs_frame (p := gnssFallbackAvailable cfg) (g := [])
    (v := []) (by simp [gnssFallbackAvailable])
      (by simp) (by simp)).bind fun b => ?_
  refine Triple.ite (fun _ => Triple.ret fun w h => h) fun _ =>
    Triple.ite (fun _ => ?_) fun _ => hstart.pre fun w h => h.1
  refine Triple.bind (R := fun _ => WaitedWell) ?_ fun _ => hstart
  exact (part waited_frame (gnssExtStop_foot true)
    (by simp) (by simp)).pre fun w h => h.1

/-- `agnss_fetch_and_inject` with the modem active leaves it running. -/
theorem agnssFetchAndInject_runs :
    Triple (device cfg) Restarts WaitedWell
      (fun w => ActiveRuns w ∧ w.st.active = .modem)
      (agnssFetchAndInject cfg) fun _ => ActiveRuns := by
  have F : Frame (device cfg) Restarts _ _ _ _ :=
    held_frame .modem trivial
  refine Triple.pre (P := Held .modem True) ?_ fun w h =>
    ⟨h.1.1, h.2, fun _ => h.2 ▸ h.1.2.2 trivial⟩
  refine triple_scope (enter_keeps F (by simp)) ?_ fun r => leave_keeps runs_frame
    (by simp)
  refine Triple.ite (fun _ => Triple.ret fun w h => h.runs) fun _ => ?_
  refine (part F (rateLimited_foot cfg) (by simp) (by simp)).bind fun b =>
    Triple.ite (fun _ => Triple.ret fun w h => h.runs) fun _ => ?_
  -- stopped for the fetch the modem is restarted, and by the condition on the
  -- run that succeeds
  have hfetch : ∀ c : Prop, (cfg.agnssStopGnssDuringFetch = false → c) →
      Triple (device cfg) Restarts WaitedWell (Held .modem c) (do
        watchdogGuardStart cfg.agnssBudgetSeconds
        let err ← fetchAndInject cfg
        watchdogGuardStop
        if cfg.agnssStopGnssDuringFetch then
          if (← gnssModemStart cfg .assistance) ≠ 0 then
            pure (- EIO)
          else
            pure err
        else
          pure err : P Int) fun _ => ActiveRuns := by
    intro c hc
    have U : Frame (device cfg) Restarts _ _ _ _ := unheld_frame .modem c
    refine (part U (watchdogGuardStart_foot _)
      (by simp) (by simp)).bind fun _ =>
      (part U (fetchAndInject_foot cfg) (by simp) (by simp)).bind fun err =>
      (part U watchdogGuardStop_foot (by simp) (by simp)).bind fun _ =>
      Triple.ite (fun _ => ?_) fun hs => Triple.ret fun w h => ?_
    · exact ((gnssModemRestart_held (by simp)).pre fun w h =>
        ⟨h.1, h.2.1, nofun⟩).bind fun r =>
          Triple.ite (fun _ => Triple.ret fun w h => h.runs)
            fun _ => Triple.ret fun w h => h.runs
    · exact Held.runs ⟨h.1, h.2.1, fun _ => h.2.2 (hc (by simpa using hs))⟩
  refine Triple.ite (fun hs => ?_) fun _ => hfetch True fun _ => trivial
  -- after the stop nothing runs until then
  refine (stop_held [.modemRun, .mark .gnssModemStop] [] gnssModemStop_foot
    (by simp) (by simp)).bind fun _ => hfetch False fun hn => ?_
  rw [hs] at hn
  cases hn

-- ================================================================= the law

/-- The points of `main` between a start that succeeded and the stop keep
the active source running. -/
theorem receivers_outline :
    Outline cfg Restarts WaitedWell fun pt => match pt with
      | .run => ActiveRuns
      | .told => ActiveRuns
      | .pass => ActiveRuns
      | _ => WaitedWell := by
  have F : Frame (device cfg) Restarts _ _ _ _ := waited_frame
  have R : Frame (device cfg) Restarts _ _ _ _ := runs_frame
  exact
    { quiet := fun pt => by
        cases pt <;> first
          | exact quiet R (by simp) (by simp)
          | exact quiet F (by simp) (by simp)
      setUp := (part F setUp_foot (by simp) (by simp)).post fun _ _ h _ => h
      topOfCycle := fun wr => part F (topOfCycle_foot wr) (by simp) (by simp)
      recover := part F (recoverIfSilent_foot cfg) (by simp) (by simp)
      lte := part F (lteEnsureConnected_foot cfg) (by simp) (by simp)
      noLte := fun _ _ h => h
      offline := fun _ h => h
      resume := part F (cloudResume_foot cfg) (by simp) (by simp)
      ledOn := part F (statusLedReport_foot cfg false) (by simp) (by simp)
      start := gnssStart_runs
      fetch := agnssFetchAndInject_runs
      wait := fun t => part R (gnssWaitFix_foot cfg t) (by simp) (by simp)
      fallback := gnssFallback_runs
      report := fun fix t wr => part R (reportFix_foot cfg fix t wr)
        (by simp) (by simp)
      unreported := fun _ h => h
      ledTold := fun b => part R (statusLedReport_foot cfg b)
        (by simp) (by simp)
      keepIf := fun mc => (part R (keepReporting_foot cfg _ mc)
        (by simp) (by simp)).post
        fun _ _ h => by
          split
          · exact h
          · exact h.1
      logLine := part R (powerVbusPresent_foot _) (by simp) (by simp)
      keepWhile := fun mc => (part R (keepReporting_foot cfg _ mc)
        (by simp) (by simp)).post
        fun _ _ h => by
          split
          · exact h
          · exact h.1
      holdOff := part R (holdOffMotion_foot cfg) (by simp) (by simp)
      stop := part F (gnssStop_foot cfg) (by simp) (by simp)
      pause := fun _ => part F (cloudPause_foot cfg) (by simp) (by simp)
      sleep := fun site => part F (batterySleep_foot cfg site)
        (by simp) (by simp) }

/-- Every wait for a fix is a wait on a running receiver, in every run in
which the restarts inside a cycle succeed. -/
theorem waits_on_running {n fuel : Nat} {w : Tracker} (hw : Booted cfg w)
    {c : P Int × Tracker}
    (hr : Reach (device cfg) (main cfg n fuel) w c)
    (hG : Always Restarts c.2.log) : Always WaitsOnRunning c.2.log := by
  refine receivers_outline.reach (J := WaitedWell) ?_ hr hG
  show WaitedWell w
  rw [WaitedWell, hw.log]
  trivial

/-- A cycle with a fallback and a fetch, both restarts answering 0. -/
theorem waits_on_running_thirsty :
    Always WaitsOnRunning (playMain {} (thirsty 0 0) 1 0 400).2.log :=
  waits_on_running (start_booted {}) (playMain_reach {} (thirsty 0 0) 1 0 400)
    (by decide +kernel)

/-- The fetch does not get its receiver back, and the cycle waits on it. -/
theorem waits_on_stopped :
    ∃ w c, Booted {} w ∧ Reach (device {}) (main {} 1 0) w c ∧
      ¬Always WaitsOnRunning c.2.log :=
  ⟨start {}, _, start_booted {},
    playMain_reach {} (thirsty 0 (-1)) 1 0 400, by decide +kernel⟩

end GpsTracker
