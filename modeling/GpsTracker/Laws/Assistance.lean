/-
Assistance downloads are rate-limited (agnss.c).

`rate_limited` refuses a fetch whose last stamp is younger than
`TRACKER_AGNSS_MIN_INTERVAL_SECONDS`, and `fetch_and_inject` stamps the
uptime when it is done. The stamp is set only after the injection, so a
download that completes and is then not accepted leaves none. The law
below holds of the runs where that does not happen.
-/
import GpsTracker.Run.Script

namespace GpsTracker

open Proc

variable {cfg : Config}

/-- A completed download. -/
def downloaded : Ev → Bool
  | .call _ _ (.agnssDataGet _) r => r == (0 : Int)
  | _ => false

/-- A completed download has every earlier one at least the configured
interval behind it. -/
def Spaced (cfg : Config) (e : Ev) (l : Trace) : Prop :=
  downloaded e → ∀ e' ∈ l, downloaded e' →
    e'.dev.now + cfg.agnssMinIntervalSeconds * 1000 ≤ e.dev.now

instance (cfg : Config) (e : Ev) (l : Trace) :
    Decidable (Spaced cfg e l) := by
  unfold Spaced
  infer_instance

/-- Every completed download is accepted by the modem, and none completes
in the first millisecond after boot, whose stamp would read as none. -/
def injects : Ev → Bool
  | .call _ d (.agnssDataGet _) r => r != (0 : Int) || decide (0 < d.now)
  | .call _ _ .agnssProcess r => r == (0 : Int)
  | _ => true

/-- `injects` as a proviso on the steps of a run. -/
abbrev Injects (e : Ev) (_ : Trace) : Prop := injects e

-- ============================================================== invariants

/-- Downloads are spaced and behind the clock, so is the stamp, and it is
not older than any of them. -/
structure Stamped (cfg : Config) (w : Tracker) : Prop where
  spaced : Always (Spaced cfg) w.log
  chrono : Chrono w
  past : w.st.lastFetchUptimeMs ≤ w.dev.now
  stamp : ∀ e ∈ w.log, downloaded e →
    0 < e.dev.now ∧ (e.dev.now : Int) ≤ w.st.lastFetchUptimeMs

/-- Past the limiter: the last download is an interval ago. -/
def Clear (cfg : Config) (w : Tracker) : Prop :=
  Stamped cfg w ∧ ∀ e ∈ w.log, downloaded e →
    e.dev.now + cfg.agnssMinIntervalSeconds * 1000 ≤ w.dev.now

/-- downloaded and not yet stamped. -/
structure Unstamped (cfg : Config) (w : Tracker) : Prop where
  spaced : Always (Spaced cfg) w.log
  chrono : Chrono w
  late : ∀ e ∈ w.log, downloaded e → 0 < e.dev.now

/-- The promise at every step. -/
abbrev SpacedSoFar (cfg : Config) (w : Tracker) : Prop :=
  Always (Spaced cfg) w.log

private theorem spaced_of_not {e : Ev} {l : Trace} (h : ¬downloaded e) :
    Spaced cfg e l := fun hd => absurd hd h

private theorem call_not_downloaded {o : Op} (h : group o ≠ .download)
    (s : Statics) (d : Dev) (r : o.Ret) :
    ¬downloaded (.call s d o r : Ev) := by
  cases o <;> first | exact absurd rfl h | exact Bool.false_ne_true

/-- A property of the log's downloads survives an event that is none. -/
private theorem forall_downloads {e : Ev} {l : Trace} {p : Ev → Prop}
    (he : ¬downloaded e) (h : ∀ e' ∈ l, downloaded e' → p e') :
    ∀ e' ∈ e :: l, downloaded e' → p e' := by
  intro e' hm hd
  rcases List.mem_cons.mp hm with rfl | hm
  · exact absurd hd he
  · exact h e' hm hd

theorem stamped_frame : Frame (device cfg) Injects (SpacedSoFar cfg)
    (Stamped cfg) (Off [.download]) (Keep [.lastFetchUptimeMs]) where
  stable := fun w a h _ _ =>
    { spaced := ⟨spaced_of_not nofun, h.spaced⟩
      chrono := h.chrono.moved a
      past := by
        have hnow : w.dev.now ≤ (move cfg a w.dev).now :=
          (move_drifts cfg a w.dev).now
        have := h.past
        show w.st.lastFetchUptimeMs ≤ ((move cfg a w.dev).now : Int)
        omega
      stamp := forall_downloads nofun h.stamp }
  calls := fun w o r ho h _ _ => by
    -- off the downloads no call is one, so the record stays
    have hn := call_not_downloaded (by simpa [Off] using ho) w.st w.dev r
    exact
      { spaced := ⟨spaced_of_not hn, h.spaced⟩
        chrono := h.chrono.called o r
        past := by
          show _ ≤ ((effect o r w.dev).now : Int)
          rw [effect_now]
          exact h.past
        stamp := forall_downloads hn h.stamp }
  writes := fun w f hf h => by
    have hs : (f w.st).lastFetchUptimeMs = w.st.lastFetchUptimeMs :=
      hf .lastFetchUptimeMs (by simp)
    exact
      { spaced := h.spaced
        chrono := h.chrono
        past := by
          show (f w.st).lastFetchUptimeMs ≤ _
          rw [hs]
          exact h.past
        stamp := fun e he hd => by
          show _ ∧ _ ≤ (f w.st).lastFetchUptimeMs
          rw [hs]
          exact h.stamp e he hd }
  gives := fun w h => h.spaced

theorem clear_frame : Frame (device cfg) Injects (SpacedSoFar cfg)
    (Clear cfg) (Off [.download]) (Keep [.lastFetchUptimeMs]) where
  stable := fun w a h hcan hG => by
    refine ⟨stamped_frame.stable w a h.1 hcan hG,
      forall_downloads nofun fun e he hd => ?_⟩
    exact Nat.le_trans (h.2 e he hd) (move_drifts cfg a w.dev).now
  calls := fun w o r ho h hok hG => by
    have hn := call_not_downloaded (by simpa [Off] using ho) w.st w.dev r
    refine ⟨stamped_frame.calls w o r ho h.1 hok hG,
      forall_downloads hn fun e he hd => ?_⟩
    show _ ≤ (effect o r w.dev).now
    rw [effect_now]
    exact h.2 e he hd
  writes := fun w f hf h => ⟨stamped_frame.writes w f hf h.1, h.2⟩
  gives := fun w h => h.1.spaced

theorem unstamped_frame : Frame (device cfg) Injects (SpacedSoFar cfg)
    (Unstamped cfg) (Off [.download]) (Keep []) where
  stable := fun w a h _ _ =>
    ⟨⟨spaced_of_not nofun, h.spaced⟩, h.chrono.moved a,
      forall_downloads nofun h.late⟩
  calls := fun w o r ho h _ _ => by
    have hn := call_not_downloaded (by simpa [Off] using ho) w.st w.dev r
    exact ⟨⟨spaced_of_not hn, h.spaced⟩, h.chrono.called o r,
      forall_downloads hn h.late⟩
  writes := fun w f _ h => ⟨h.spaced, h.chrono, h.late⟩
  gives := fun w h => h.spaced

-- =============================================================== the fetch

/-- What `rate_limited` lets through is clear of every download. -/
theorem rateLimited_triple :
    Triple (device cfg) Injects (SpacedSoFar cfg) (Stamped cfg)
      (rateLimited cfg)
      fun b w => if b then Stamped cfg w else Clear cfg w := by
  refine Triple.get fun s => Triple.ite (fun hs => ?_) fun hs => ?_
  · -- no stamp yet, so no download either
    refine Triple.ret fun w h => ⟨h.1, fun e he hd => ?_⟩
    have hstamp := h.1.stamp e he hd
    rw [h.2] at hstamp
    omega
  refine ((stamped_frame.static (· = s)).ask
    (R := fun now w => now = (w.dev.now : Int)) (by simp [Off])
    fun w r _ hok => ?_).bind fun now => Triple.ret fun w h => ?_
  · show r = ((effect .kUptimeGet r w.dev).now : Int)
    rw [effect_now]
    simpa [device, ok] using hok
  obtain ⟨⟨hstamped, rfl⟩, rfl⟩ := h
  split
  next => exact hstamped
  next hage =>
    refine ⟨hstamped, fun e he hd => ?_⟩
    have hlast := (hstamped.stamp e he hd).2
    have hpast := hstamped.past
    simp only [decide_eq_true_eq, Int.not_lt] at hage
    have hmin := (units_le (k := 1000) (by omega) (by decide)).mp hage
    omega

/-- `fetch_and_inject` starts clear and ends stamped. -/
theorem fetchAndInject_triple :
    Triple (device cfg) Injects (SpacedSoFar cfg) (Clear cfg)
      (fetchAndInject cfg) fun _ => Stamped cfg := by
  refine (part clear_frame (p := gnssModemAgnssRequestGet)
    (g := [.plain]) (v := []) (by simp [gnssModemAgnssRequestGet])
      (by simp) (by simp)).bind
    fun asked => ?_
  -- without a frame there is no download
  cases agnssFrame cfg asked with
  | none => exact Triple.ret fun w h => h.1
  | some req =>
    refine (part clear_frame servingCellInfoGet_foot
      (by simp) (by simp)).bind fun cell => ?_
    -- the download is spaced, since it starts clear, and is not stamped yet
    have hget : ∀ r, Triple (device cfg) Injects (SpacedSoFar cfg)
        (Clear cfg) (call (.agnssDataGet r)) fun err w =>
          if err = 0 then Unstamped cfg w else Stamped cfg w := by
      intro r
      refine Triple.op clear_frame.stable fun w err h hok hG => ?_
      have hspaced : Always (Spaced cfg)
          (w.called (device cfg) (.agnssDataGet r) err).log :=
        ⟨fun _ => h.2, h.1.spaced⟩
      refine ⟨hspaced, ?_⟩
      split
      next herr =>
        refine ⟨hspaced, h.1.chrono.called _ _, fun e he hd => ?_⟩
        rcases List.mem_cons.mp he with rfl | he
        · have hlate : (err != 0 || decide (0 < w.dev.now)) = true := hG.1
          show 0 < w.dev.now
          simpa [herr] using hlate
        · exact (h.1.stamp e he hd).1
      next herr =>
        exact ⟨hspaced, h.1.chrono.called _ _, h.1.past,
          forall_downloads (fun hd => herr (eq_of_beq hd)) h.1.stamp⟩
    refine (hget _).bind fun err => Triple.ite (fun herr => ?_) fun herr => ?_
    · refine Triple.ret fun w h => ?_
      rwa [if_neg herr] at h
    refine Triple.pre (P := Unstamped cfg) ?_ fun w h => by
      rwa [if_pos (Decidable.not_not.mp herr)] at h
    refine Triple.bind (R := fun r w => Unstamped cfg w ∧ r = 0)
      (Triple.op unstamped_frame.stable fun w r h hok hG => ?_) fun r => ?_
    · have hkeep := unstamped_frame.calls w .agnssProcess r (by simp [Off])
        h hok hG
      exact ⟨hkeep.spaced, hkeep, eq_of_beq hG.1⟩
    -- by the condition on the run the injection succeeds, so the stamp is
    -- reached
    refine Triple.pure_pre fun hr => Triple.ite (fun hn => absurd hr hn)
      fun _ => ?_
    refine (unstamped_frame.ask
      (R := fun now w => now = (w.dev.now : Int)) (by simp [Off])
      fun w r _ hok => ?_).bind fun now => ?_
    · show r = ((effect .kUptimeGet r w.dev).now : Int)
      rw [effect_now]
      simpa [device, ok] using hok
    refine Triple.bind (R := fun _ => Stamped cfg)
      (Triple.modify fun w h => ?_) fun _ => Triple.ret fun w h => h
    obtain ⟨h, rfl⟩ := h
    refine ⟨h.spaced, h.spaced, h.chrono, Int.le_refl _, fun e he hd =>
      ⟨h.late e he hd, ?_⟩⟩
    have := h.chrono e he
    show (e.dev.now : Int) ≤ w.dev.now
    omega

/-- `agnss_fetch_and_inject`, whatever the restarts answer. -/
theorem agnssFetchAndInject_stamped :
    Triple (device cfg) Injects (SpacedSoFar cfg) (Stamped cfg)
      (agnssFetchAndInject cfg) fun _ => Stamped cfg := by
  refine triple_scope (enter_keeps stamped_frame (by simp)) ?_
    fun r => leave_keeps stamped_frame (by simp)
  refine Triple.ite (fun _ => Triple.ret fun w h => h) fun _ => ?_
  -- the restart behind the fetch leaves the stamp alone, whatever it answers
  have hfetch : Triple (device cfg) Injects (SpacedSoFar cfg) (Clear cfg)
      (do
        watchdogGuardStart cfg.agnssBudgetSeconds
        let err ← fetchAndInject cfg
        watchdogGuardStop
        if cfg.agnssStopGnssDuringFetch then
          if (← gnssModemStart cfg .assistance) ≠ 0 then
            pure (- EIO)
          else
            pure err
        else
          pure err : P Int) fun _ => Stamped cfg := by
    refine (part clear_frame (watchdogGuardStart_foot _)
      (by simp) (by simp)).bind fun _ =>
      fetchAndInject_triple.bind fun err =>
      (part stamped_frame watchdogGuardStop_foot
        (by simp) (by simp)).bind fun _ =>
      Triple.ite (fun _ => ?_) fun _ => Triple.ret fun w h => h
    exact (part stamped_frame (gnssModemStart_foot cfg .assistance)
      (by simp) (by simp)).bind
      fun r => Triple.ite (fun _ => Triple.ret fun w h => h)
        fun _ => Triple.ret fun w h => h
  refine rateLimited_triple.bind fun b => Triple.ite (fun hb => ?_) fun hb => ?_
  -- refused by the rate limit
  · refine Triple.ret fun w h => ?_
    rwa [if_pos hb] at h
  refine Triple.pre (P := Clear cfg) ?_ fun w h => by rwa [if_neg hb] at h
  refine Triple.ite (fun _ => ?_) fun _ => hfetch
  exact (part clear_frame gnssModemStop_foot
    (by simp) (by simp)).bind fun _ => hfetch

-- ================================================================= the law

/-- The stamp's invariant at every point of `main`. -/
theorem assistance_outline :
    Outline cfg Injects (SpacedSoFar cfg) fun _ => Stamped cfg := by
  have F : Frame (device cfg) Injects (SpacedSoFar cfg) (Stamped cfg)
      (Off [.download]) (Keep [.lastFetchUptimeMs]) := stamped_frame
  exact
    { quiet := fun _ => quiet F (by simp) (by simp)
      setUp := (part F setUp_foot (by simp) (by simp)).post fun _ _ h _ => h
      topOfCycle := fun wr => part F (topOfCycle_foot wr) (by simp) (by simp)
      recover := part F (recoverIfSilent_foot cfg) (by simp) (by simp)
      lte := part F (lteEnsureConnected_foot cfg) (by simp) (by simp)
      noLte := fun _ _ h => h
      offline := fun _ h => h
      resume := part F (cloudResume_foot cfg) (by simp) (by simp)
      ledOn := part F (statusLedReport_foot cfg false) (by simp) (by simp)
      start := (part F (gnssStart_foot cfg)
        (by simp) (by simp)).post fun _ _ h => by
        split <;> exact h
      fetch := agnssFetchAndInject_stamped.pre fun _ h => h.1
      wait := fun t => part F (gnssWaitFix_foot cfg t) (by simp) (by simp)
      fallback := part F (gnssFallback_foot cfg) (by simp) (by simp)
      report := fun fix t wr => part F (reportFix_foot cfg fix t wr)
        (by simp) (by simp)
      unreported := fun _ h => h
      ledTold := fun b => part F (statusLedReport_foot cfg b)
        (by simp) (by simp)
      keepIf := fun mc => (part F (keepReporting_foot cfg _ mc)
        (by simp) (by simp)).post
        fun _ _ h => by split <;> exact h
      logLine := part F (powerVbusPresent_foot _) (by simp) (by simp)
      keepWhile := fun mc => (part F (keepReporting_foot cfg _ mc)
        (by simp) (by simp)).post
        fun _ _ h => by split <;> exact h
      holdOff := part F (holdOffMotion_foot cfg) (by simp) (by simp)
      stop := part F (gnssStop_foot cfg) (by simp) (by simp)
      pause := fun _ => part F (cloudPause_foot cfg) (by simp) (by simp)
      sleep := fun site => part F (batterySleep_foot cfg site)
        (by simp) (by simp) }

/-- Completed downloads are spaced in every run in which each completed
download is accepted by the modem. -/
theorem downloads_spaced {n fuel : Nat} {w : Tracker} (hw : Booted cfg w)
    {c : P Int × Tracker}
    (hr : Reach (device cfg) (main cfg n fuel) w c)
    (hG : Always Injects c.2.log) : Always (Spaced cfg) c.2.log := by
  obtain ⟨magic, phase, hst⟩ := hw.st
  refine assistance_outline.reach (J := SpacedSoFar cfg) ?_ hr hG
  refine ⟨?_, ?_, ?_, ?_⟩
  · rw [hw.log]
    trivial
  · intro e he
    rw [hw.log] at he
    cases he
  · rw [hst]
    exact Int.natCast_nonneg _
  · intro e he
    rw [hw.log] at he
    cases he

/-- With injections accepted, one cycle downloads once. -/
theorem downloads_spaced_thirsty :
    (playMain {} (thirsty 0 0) 1 0 400).2.log.any downloaded = true ∧
    Always (Spaced {}) (playMain {} (thirsty 0 0) 1 0 400).2.log :=
  ⟨by decide +kernel, downloads_spaced (start_booted {})
    (playMain_reach {} (thirsty 0 0) 1 0 400) (by decide +kernel)⟩

/-- With injections refused, one cycle downloads twice, 120 s apart. -/
theorem download_repeats :
    ∃ w c, Booted {} w ∧ Reach (device {}) (main {} 1 0) w c ∧
      ¬Always (Spaced {}) c.2.log :=
  ⟨start {}, _, start_booted {}, playMain_reach {} (thirsty (-22) 0) 1 0 400,
    by decide +kernel⟩

end GpsTracker
