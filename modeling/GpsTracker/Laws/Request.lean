/-
An assistance request is made only where it can help (agnss.c, main.c).

`agnss_fetch_and_inject` itself checks only its rate limit. That the
transport can answer, that the link is up and that the modem is the
receiver to be helped is what its callers look at before, through
`agnss_wanted`, with a fallback, a wait for the modem's request and a
phase marker in between. The law follows the three calls and says what
every request of a run finds: all of this still holds, the radio is free
of the receiver where the build asks for that, the guard is on, and what
is asked for is made of what the modem said last.
-/
import GpsTracker.Run.Script

namespace GpsTracker

open Proc

-- ================================================================= the promise

/-- What the modem last said it needs. -/
def needWord : Ev → Option (Option AgnssDataFrame)
  | .call _ _ .agnssRequestGet r => some r
  | _ => none

/-- Whether the guard was last started or stopped. -/
def guardWord : Ev → Option Bool
  | .call _ _ (.guardTimerSet b) _ => some b
  | _ => none

/-- Where assistance can help. -/
structure Helpful (cfg : Config) (s : Statics) : Prop where
  enabled : cfg.agnss = true
  lte : cfg.skipLte = false
  provider : cfg.cloudProvider = .nrfcloud
  source : s.active = .modem
  linked : s.linkState = .connected

/-- The request frame that answers what the modem last said: its own
systems, with all six items where it asks for any and none where it asks for
none. Where it has said nothing, all items for every satellite of one
system, in a build that makes such a request up. -/
def AsksFor (cfg : Config) :
    Option AgnssDataFrame → AgnssDataFrame → Prop
  | some need, frame =>
      frame.systems = need.systems
        ∧ frame.dataFlags = if need.dataFlags = 0 then 0 else 0x3f
  | none, frame =>
      cfg.agnssFullRequestFallback = true
        ∧ frame.systems = [(0xffffffff, 0xffffffff)]
        ∧ frame.dataFlags = 0x3f

/-- A request that is made where it can help, with the radio free and the
guard on, and asks for what the modem needs. -/
structure Requested (cfg : Config) (s : Statics) (d : Dev)
    (req : AgnssRequest) (l : Trace) : Prop where
  ready : Helpful cfg s
  free : cfg.agnssStopGnssDuringFetch = true → d.modemOn = false
  guarded : latest guardWord false l = true
  frame : ∃ need, l.findSome? needWord = some need
    ∧ AsksFor cfg need req.agnssReq
  filtered : req.filtered = cfg.agnssFiltered
  mask : req.maskAngle = cfg.agnssElevationMask
  /-- Where anything is asked for, everything is. -/
  whole : req.agnssReq.dataFlags ≠ 0 →
    req.agnssReq.dataFlags = AGNSS_ALL_FLAGS

/-- Every request is such a one. -/
def Proper (cfg : Config) : Ev → Trace → Prop
  | .call s d (.agnssDataGet req) _, l => Requested cfg s d req l
  | _, _ => True

variable {cfg : Config} {G : Ev → Trace → Prop}

/-- The frame that is made up or completed answers the modem's need. -/
theorem agnssFrame_asks {need : Option AgnssDataFrame}
    {frame : AgnssDataFrame} (h : agnssFrame cfg need = some frame) :
    AsksFor cfg need frame := by
  cases need with
  | none =>
      unfold agnssFrame at h
      by_cases hf : cfg.agnssFullRequestFallback = true
      · rw [if_pos hf] at h
        cases h
        exact ⟨hf, rfl, rfl⟩
      · rw [if_neg hf] at h
        cases h
  | some req =>
      simp only [agnssFrame] at h
      by_cases hflags : req.dataFlags = 0
      · rw [if_neg (not_not_intro hflags)] at h
        cases h
        exact ⟨rfl, by rw [if_pos hflags, hflags]⟩
      · rw [if_pos hflags] at h
        cases h
        exact ⟨rfl, (if_neg hflags).symm⟩

/-- The frame asks for every item, or for none. -/
theorem AsksFor.whole {need : Option AgnssDataFrame}
    {frame : AgnssDataFrame} (h : AsksFor cfg need frame)
    (hne : frame.dataFlags ≠ 0) : frame.dataFlags = AGNSS_ALL_FLAGS := by
  cases need with
  | none => exact h.2.2
  | some req =>
      obtain ⟨-, hflags⟩ := h
      by_cases hreq : req.dataFlags = 0
      · rw [if_pos hreq] at hflags
        exact absurd hflags hne
      · rw [if_neg hreq] at hflags
        exact hflags

-- ================================================================== assertions

/-- The promise so far. -/
abbrev Fine (cfg : Config) (w : Tracker) : Prop := Always (Proper cfg) w.log

/-- Ready for a fetch. -/
def FetchReady (cfg : Config) (w : Tracker) : Prop :=
  Fine cfg w ∧ Helpful cfg w.st

/-- Ready, with the radio free. -/
def RadioFree (cfg : Config) (w : Tracker) : Prop :=
  FetchReady cfg w
    ∧ (cfg.agnssStopGnssDuringFetch = true → w.dev.modemOn = false)

/-- Ready, free and guarded. -/
def FetchGuarded (cfg : Config) (w : Tracker) : Prop :=
  RadioFree cfg w ∧ latest guardWord false w.log = true

private theorem proper_off {o : Op} (h : group o ≠ .download) (s : Statics)
    (d : Dev) (r : o.Ret) (l : Trace) : Proper cfg (.call s d o r) l := by
  cases o with
  | agnssDataGet req => exact absurd rfl h
  | _ => trivial

/-- Only a request can break the promise. -/
theorem fine_frame : Frame (device cfg) G (Fine cfg) (Fine cfg)
    (Off [.download]) (Keep []) where
  stable := fun _ _ h _ _ => ⟨trivial, h⟩
  calls := fun w _ r ho h _ _ =>
    ⟨proper_off (ho.ne (by simp)) w.st w.dev r w.log, h⟩
  writes := fun _ _ _ h => h
  gives := fun _ h => h

/-- Readiness is the source and the link, which nothing in between writes. -/
theorem fetchReady_frame : Frame (device cfg) G (Fine cfg) (FetchReady cfg)
    (Off [.download]) (Keep [.active, .linkState]) := by
  refine (fine_frame.static (Helpful cfg)).mono (fun _ h => h)
    fun s s' h => ⟨by simp [Keep], fun hr => ?_⟩
  have hactive : s'.active = s.active := h .active (by simp)
  have hlink : s'.linkState = s.linkState := h .linkState (by simp)
  exact ⟨hr.enabled, hr.lte, hr.provider, hactive.trans hr.source,
    hlink.trans hr.linked⟩

/-- A radio that is free stays free until a receiver is started. -/
theorem radioFree_frame : Frame (device cfg) G (Fine cfg) (RadioFree cfg)
    (Off [.download, .modemRun]) (Keep [.active, .linkState]) where
  stable := fun w a h hcan hG =>
    ⟨fetchReady_frame.stable w a h.1 hcan hG, fun hs =>
      (move_drifts cfg a w.dev).modemOn.trans (h.2 hs)⟩
  calls := fun w o r ho h hok hG =>
    ⟨fetchReady_frame.calls w o r (ho.mono (by simp)) h.1 hok hG, fun hs =>
      ((effect_spares o r w.dev).modemOn (ho.ne (by simp))).trans (h.2 hs)⟩
  writes := fun w f hf h => by
    have F : Frame (device cfg) G (Fine cfg) (FetchReady cfg)
      (Off [.download]) (Keep [.active, .linkState]) := fetchReady_frame
    exact ⟨F.writes w f hf h.1, h.2⟩
  gives := fun _ h => h.1.1

/-- The questions asked between the modem's need and the request. -/
def Question (o : Op) : Prop :=
  o = .uninitialised ∨ ∃ i, o = .modemInfoString i

/-- The serving cell is asked for in three questions. -/
theorem servingCellInfoGet_asks :
    Within (S := Calls) Question (Touch []) servingCellInfoGet := by
  refine (Within.op (.inl rfl)).bind fun resp => ?_
  refine (Within.op (.inr ⟨_, rfl⟩)).bind fun cellid =>
    Within.ite (Within.ret _) ?_
  refine (Within.op (.inr ⟨_, rfl⟩)).bind fun area =>
    Within.ite (Within.ret _) ?_
  exact (Within.op (.inr ⟨_, rfl⟩)).bind fun operator =>
    Within.ite (Within.ret _) (Within.ret _)

/-- Guarded, and the modem needs `need`. -/
def Needing (cfg : Config) (need : Option AgnssDataFrame) (w : Tracker) :
    Prop :=
  FetchGuarded cfg w ∧ w.log.findSome? needWord = some need

/-- The questions about the cell keep what the modem needs on record. -/
theorem needing_frame (need : Option AgnssDataFrame) :
    Frame (device cfg) G (Fine cfg) (Needing cfg need) Question
      (Touch []) where
  stable := fun w a h hcan hG =>
    ⟨⟨radioFree_frame.stable w a h.1.1 hcan hG, h.1.2⟩, h.2⟩
  calls := fun w o r ho h hok hG => by
    have hoff : Off [.download, .modemRun] o := by
      rcases ho with rfl | ⟨i, rfl⟩ <;> simp [Off]
    have hfree := radioFree_frame.calls w o r hoff h.1.1 hok hG
    rcases ho with rfl | ⟨i, rfl⟩
    · exact ⟨⟨hfree, h.1.2⟩, h.2⟩
    · exact ⟨⟨hfree, h.1.2⟩, h.2⟩
  writes := fun w f hf h => by
    have F : Frame (device cfg) G (Fine cfg) (RadioFree cfg)
      (Off [.download, .modemRun]) (Keep [.active, .linkState]) :=
      radioFree_frame
    have hfree := F.writes w f (fun v _ => hf v (by simp)) h.1.1
    exact ⟨⟨hfree, h.1.2⟩, h.2⟩
  gives := fun _ h => h.1.1.1.1

-- =================================================================== the fetch

/-- The guard is on once it is started. -/
theorem guardStart_guarded (budgetS : Nat) :
    Triple (device cfg) G (Fine cfg) (RadioFree cfg)
      (watchdogGuardStart budgetS) fun _ => FetchGuarded cfg := by
  have F : Frame (device cfg) G (Fine cfg) (RadioFree cfg)
    (Off [.download, .modemRun]) (Keep [.active, .linkState]) :=
    radioFree_frame
  refine Triple.bind (R := fun _ => RadioFree cfg)
    (F.keeps (Within.op (by simp [Off]))) fun _ =>
    (part F watchdogFeed_foot (by simp) (by simp)).bind fun _ =>
    Triple.op F.stable fun w r h hok hG => ?_
  have hw := F.calls w (.guardTimerSet true) r (by simp [Off]) h hok hG
  exact ⟨hw.1.1, hw, rfl⟩

/-- What is left of a fetch once its request is made. -/
theorem injects_fine (err : Int) :
    Triple (device cfg) G (Fine cfg) (Fine cfg) (do
      if err ≠ 0 then
        pure (if err < 0 then err else - EIO)
      else
        let err ← call .agnssProcess
        if err ≠ 0 then
          pure err
        else
          let now ← call .kUptimeGet
          Prog.modify fun s => { s with lastFetchUptimeMs := now }
          pure (0 : Int)) fun _ => Fine cfg :=
  part fine_frame (g := [.plain, .inject]) (v := [.lastFetchUptimeMs])
    (by simp [Var.forall]) (by simp) (by simp)

/-- The request is made of the need that was just read, with everything else
still as it was. -/
theorem fetchAndInject_fine :
    Triple (device cfg) G (Fine cfg) (FetchGuarded cfg) (fetchAndInject cfg)
      fun _ => Fine cfg := by
  have hneed : Triple (device cfg) G (Fine cfg) (FetchGuarded cfg)
      (call .agnssRequestGet) fun need => Needing cfg need := by
    refine Triple.op (fun w a h hcan hG => ?_) fun w need h hok hG => ?_
    · exact ⟨radioFree_frame.stable w a h.1 hcan hG, h.2⟩
    · have hfree := radioFree_frame.calls w .agnssRequestGet need
        (by simp [Off]) h.1 hok hG
      exact ⟨hfree.1.1, ⟨hfree, h.2⟩, rfl⟩
  refine hneed.bind fun need => ?_
  cases hframe : agnssFrame cfg need with
  | none => exact Triple.ret fun w h => h.1.1.1.1
  | some frame =>
      refine ((needing_frame need).keeps servingCellInfoGet_asks).bind
        fun cell => Triple.bind (R := fun _ => Fine cfg)
        (Triple.op (needing_frame need).stable fun w r h _ _ => ?_)
        injects_fine
      obtain ⟨⟨⟨⟨hfine, hhelpful⟩, hfree⟩, hguard⟩, hneeds⟩ := h
      have hasks : AsksFor cfg need frame := agnssFrame_asks hframe
      have hreq : Requested cfg w.st w.dev
          { agnssReq := frame, netInfo := cell, filtered := cfg.agnssFiltered
            maskAngle := cfg.agnssElevationMask } w.log :=
        ⟨hhelpful, hfree, hguard, ⟨need, hneeds, hasks⟩, rfl, rfl,
          hasks.whole⟩
      exact ⟨⟨hreq, hfine⟩, hreq, hfine⟩

/-- The receiver is stopped where the build asks for that. -/
theorem gnssModemStop_free :
    Triple (device cfg) G (Fine cfg) (FetchReady cfg) gnssModemStop
      fun _ => RadioFree cfg := by
  have hkeep : ∀ o : Op, Off [.download, .modemRun] o →
      Triple (device cfg) G (Fine cfg) (RadioFree cfg) (call o)
        fun _ => RadioFree cfg := fun o ho => radioFree_frame.keeps
      (Within.op ho)
  have hstop : Triple (device cfg) G (Fine cfg) (FetchReady cfg)
      (call (.gnssRun false)) fun _ => RadioFree cfg := by
    refine Triple.op fetchReady_frame.stable fun w r h hok hG => ?_
    have hw := fetchReady_frame.calls w (.gnssRun false) r (by simp [Off]) h
      hok hG
    exact ⟨hw.1, hw, fun _ => rfl⟩
  exact triple_scope (R := fun _ => RadioFree cfg)
    (fetchReady_frame.keeps (Within.op (by simp [Off])))
    (hstop.bind fun _ => Triple.ret fun w h => h)
    fun r => hkeep _ (by simp [Off])

/-- Around the request: the rate limit, the receiver stopped where the build
asks for that, the guard. -/
theorem agnssFetchAndInject_fine :
    Triple (device cfg) G (Fine cfg) (FetchReady cfg)
      (agnssFetchAndInject cfg) fun _ => Fine cfg := by
  refine triple_scope (R := fun _ => Fine cfg)
    (fetchReady_frame.keeps (Within.op (by simp [Off]))) ?_
    fun r => fine_frame.keeps (Within.op (by simp [Off]))
  refine Triple.ite (fun _ => Triple.ret fun w h => h.1) fun _ => ?_
  refine (part fetchReady_frame (rateLimited_foot cfg) (by simp)
    (by simp)).bind fun b => Triple.ite
    (fun _ => Triple.ret fun w h => h.1) fun _ => ?_
  have hfetch : Triple (device cfg) G (Fine cfg) (RadioFree cfg) (do
      watchdogGuardStart cfg.agnssBudgetSeconds
      let err ← fetchAndInject cfg
      watchdogGuardStop
      if cfg.agnssStopGnssDuringFetch then
        if (← gnssModemStart cfg .assistance) ≠ 0 then
          pure (- EIO)
        else
          pure err
      else
        pure err) fun _ => Fine cfg := by
    refine (guardStart_guarded _).bind fun _ => fetchAndInject_fine.bind
      fun err => (part fine_frame watchdogGuardStop_foot (by simp)
      (by simp)).bind fun _ => Triple.ite (fun _ => ?_)
      fun _ => Triple.ret fun w h => h
    exact (part fine_frame (gnssModemStart_foot cfg .assistance) (by simp)
      (by simp)).bind fun r => Triple.ite (fun _ => Triple.ret fun w h => h)
      fun _ => Triple.ret fun w h => h
  refine Triple.ite (fun _ => gnssModemStop_free.bind fun _ => hfetch)
    fun hs => hfetch.pre fun w h => ⟨h, fun h' => absurd h' hs⟩

-- ================================================================ the callers

/-- `agnss_wanted` answers true only where assistance can help. -/
theorem agnssWanted_helpful :
    Triple (device cfg) G (Fine cfg) (Fine cfg) (agnssWanted cfg)
      fun b w => if b then FetchReady cfg w else Fine cfg w := by
  have hno : Triple (device cfg) G (Fine cfg) (Fine cfg) (pure false : P Bool)
      fun b w => if b then FetchReady cfg w else Fine cfg w :=
    Triple.ret fun w h => h
  refine Triple.ite (fun _ => hno) fun hon => Triple.get fun s => Triple.ite
    (fun _ => hno.pre fun w h => h.1) fun hs => Triple.ite
    (fun _ => hno.pre fun w h => h.1) fun hprovider => ?_
  intro w hw
  obtain ⟨hfine, hst⟩ := hw
  have hon' : cfg.agnss = true ∧ cfg.skipLte = false := by simpa using hon
  cases hp : cfg.cloudProvider with
  | hologram => simp [cloudSupportsAgnss, hp] at hprovider
  | nrfcloud =>
      simp only [cloudIsReady, hp]
      cases hlink : w.st.linkState == .connected with
      | false =>
          show if w.st.linkState == .connected then _ else _
          rw [hlink]
          exact hfine
      | true =>
          show if w.st.linkState == .connected then _ else _
          rw [hlink]
          refine ⟨hfine, hon'.1, hon'.2, hp, ?_, beq_iff_eq.mp hlink⟩
          rw [hst]
          exact Decidable.not_not.mp hs

/-- The first call: the modem has asked. -/
theorem assistIfAsked_fine {mark : P Unit} (hm : Foot [] [.phase] mark) :
    Triple (device cfg) G (Fine cfg) (Fine cfg) (assistIfAsked cfg mark)
      fun _ => Fine cfg := by
  refine agnssWanted_helpful.bind fun b => Triple.ite (fun hb => ?_)
    fun hb => ?_
  · refine Triple.ret fun w h => ?_
    have hfalse : b = false := by simpa using hb
    rwa [hfalse] at h
  · have htrue : b = true := by simpa using hb
    rw [htrue]
    refine (part fetchReady_frame (gnssAgnssRequestWait_foot _) (by simp)
      (by simp)).bind fun r => Triple.ite
      (fun _ => Triple.ret fun w h => h.1) fun _ => ?_
    exact (part fetchReady_frame hm (by simp) (by simp)).bind fun _ =>
      agnssFetchAndInject_fine.bind fun r => Triple.ret fun w h => h

/-- The second: after the fallback it is asked again. -/
theorem acquireFallback_fine (assisted : Bool) :
    Triple (device cfg) G (Fine cfg) (Fine cfg)
      (acquireFallback cfg assisted) fun _ => Fine cfg := by
  refine (part fine_frame (gnssFallback_foot cfg) (by simp) (by simp)).bind
    fun r => Triple.ite (fun _ => Triple.ret fun w h => h) fun _ => ?_
  refine (assistIfAsked_fine (foot_pure ())).bind fun asked =>
    Triple.bind (R := fun _ => Fine cfg) (Triple.get fun s => Triple.ite
      (fun _ => Triple.ret fun w h => h.1)
      fun _ => Triple.ret fun w h => h.1) fun t => ?_
  exact (part fine_frame (gnssWaitFix_foot cfg t) (by simp) (by simp)).bind
    fun fix => Triple.ret fun w h => h

/-- And the third, the last resort of the ladder. -/
theorem acquire_fine :
    Triple (device cfg) G (Fine cfg) (Fine cfg) (acquire cfg)
      fun _ => Fine cfg := by
  refine acquire_ladder (fun _ => Fine cfg) (fun _ => Fine cfg)
    (assistIfAsked_fine (watchdogPhase_foot _))
    (part fine_frame (watchdogPhase_foot _) (by simp) (by simp))
    (Triple.get fun s => Triple.ite (fun _ => Triple.ret fun w h => h.1)
      fun _ => Triple.ret fun w h => h.1)
    (fun t => part fine_frame (gnssWaitFix_foot cfg t) (by simp) (by simp))
    (Triple.get fun s => Triple.ret fun w h => h.1) acquireFallback_fine
    (fun _ _ h => h) ?_ fun _ _ h => h
  refine agnssWanted_helpful.bind fun b => Triple.ite (fun hb => ?_)
    fun hb => ?_
  · rw [hb]
    refine agnssFetchAndInject_fine.bind fun r => Triple.ite
      (fun _ => Triple.ret fun w h => h) fun _ => ?_
    exact (part fine_frame (gnssWaitFix_foot cfg _) (by simp) (by simp)).bind
      fun fix => Triple.ret fun w h => h
  · refine Triple.ret fun w h => ?_
    rwa [if_neg hb] at h

/-- Nothing but the acquisition makes a request. -/
theorem fine_walk : Walk cfg G (Fine cfg) fun _ => Fine cfg :=
  walk_holding fine_frame (by simp) acquire_fine fun site mc =>
    (part fine_frame (keepReporting_foot cfg site mc) (by simp) (by simp))

-- ===================================================================== the law

/-- In every run each assistance request is made by a build and over a
transport that support it, on a connected link, for the modem as the active
receiver and under the guard; the receiver is stopped where the build asks
for that; and the request asks for all items if the modem last asked for
any. -/
theorem requests_proper {w : Tracker} (hboot : w.log = []) {n fuel : Nat}
    {c : P Int × Tracker}
    (hr : Reach (device cfg) (main cfg n fuel) w c) :
    Always (Proper cfg) c.2.log := by
  have hw : Fine cfg w := by
    rw [Fine, hboot]
    trivial
  exact fine_walk.reach hw hr (always_free c.2.log)

/-- The items an event asks assistance for. -/
def itemsOf : Ev → Option Nat
  | .call _ _ (.agnssDataGet req) _ => some req.agnssReq.dataFlags
  | _ => none

/-- Two requests of one cycle, the injection of the first refused. -/
theorem requests_proper_thirsty :
    let c := playMain {} (thirsty (-22) 0) 1 0 400
    c.2.log.filterMap itemsOf = [AGNSS_ALL_FLAGS, AGNSS_ALL_FLAGS] ∧
    Always (Proper {}) c.2.log :=
  ⟨by decide +kernel,
    requests_proper rfl (playMain_reach {} (thirsty (-22) 0) 1 0 400)⟩

end GpsTracker
