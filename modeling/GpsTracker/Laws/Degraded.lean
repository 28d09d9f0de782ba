/-
Degraded start-up (gnss.c): a receiver that did not initialise is not
used.

`gnss_init` keeps whether the external module initialised and forgets
whether the modem receiver did: its failure counts only where the module
failed, too. With the module usable, a start of the module that fails and
a fallback both lead to the modem receiver, initialised or not. The law
holds of the runs in which a modem receiver that did not initialise is
never needed.

# The two modes

From `gnss_init` on either the modem receiver is initialised (`Whole`),
and whatever is started may be, or the module is and stays the active
receiver (`External`). `Usable` is the two together.
-/
import GpsTracker.Run.Script

namespace GpsTracker

open Proc

variable {cfg : Config}

-- ================================================================= the record

/-- What an event says of the modem receiver: it initialised, or not. -/
def modemInitWord : Ev → Option Bool
  | .call _ _ (.leave .gnssModemInit r) _ => some (r == 0)
  | _ => none

/-- `gnss_modem_init` returned 0. -/
def modemInitialised (l : Trace) : Bool := latest modemInitWord false l

def extInitWord : Ev → Option Bool
  | .call _ _ (.leave .gnssExtInit r) _ => some (r == 0)
  | _ => none

/-- `gnss_ext_init` returned 0. -/
def extInitialised (l : Trace) : Bool := latest extInitWord false l

/-- A wait on one of the modem receiver's semaphores: for a fix, or for its
request for assistance. -/
@[simp] def awaitsModem : Op → Bool
  | .semTake .modemFix _ => true
  | .semTake .agnssReq _ => true
  | _ => false

/-- Whoever starts a receiver or waits on the modem finds it
initialised. -/
def usesInitialised : Ev → Trace → Bool
  | .call _ _ (.enter (.gnssModemStart _)) _, l => modemInitialised l
  | .call _ _ (.enter .gnssExtStart) _, l => extInitialised l
  | .call _ _ o _, l => !awaitsModem o || modemInitialised l
  | .env .., _ => true

abbrev UsesInitialised (e : Ev) (l : Trace) : Prop := usesInitialised e l

/-- Where the modem receiver did not initialise, no start of the module
fails and no fallback is made. -/
def modemSpared : Ev → Trace → Bool
  | .call _ _ (.leave .gnssExtStart r) _, l => modemInitialised l || r == 0
  | .call _ _ (.enter .gnssFallback) _, l => modemInitialised l
  | _, _ => true

/-- `modemSpared` as a proviso on the steps of a run. -/
abbrev ModemSpared (e : Ev) (l : Trace) : Prop := modemSpared e l

-- ============================================================== the awaiting

/-- A part that does not wait on the modem. -/
abbrev Shy {α : Type} (p : P α) : Prop :=
  Within (S := Calls) (fun o => awaitsModem o = false) (fun _ _ => True) p

/-- A part that does not wait does not wait on the modem. -/
theorem Paced.shy {α : Type} {p : P α} (h : Paced [.other] p) : Shy p := by
  refine Within.mono h (fun o ho => ?_) fun _ _ h => h
  cases o with
  | semTake s ms => simp at ho
  | _ => rfl

/-- One call that does not wait for the modem. -/
theorem shy_op {o : Op} (h : awaitsModem o = false) : Shy (call o) :=
  Within.op h

/-- And what comes after it. -/
theorem shy_call {α : Type} {o : Op} {k : o.Ret → P α}
    (h : awaitsModem o = false) (hk : ∀ r, Shy (k r)) :
    Shy (call o >>= k) := (shy_op h).bind hk

theorem kSleep_shy (ms : Nat) : Shy (call (.kSleep ms)) := shy_op rfl

theorem watchdogPhase_shy (p : Phase) : Shy (watchdogPhase p) :=
  Within.modify fun _ => trivial

theorem watchdogGuardStart_shy (budgetS : Nat) :
    Shy (watchdogGuardStart budgetS) :=
  shy_call rfl fun _ => watchdogFeed_paced.shy.bind fun _ =>
    shy_op rfl

theorem watchdogGuardStop_shy : Shy watchdogGuardStop :=
  shy_call rfl fun _ => watchdogFeed_paced.shy

/-- The external module is started without waiting for the modem. -/
theorem gnssExtStart_shy (cfg : Config) : Shy (gnssExtStart cfg) := by
  have hpower : ∀ on, Shy (powerSet on) := fun on =>
    shy_call rfl fun _ => Within.ite (Within.ret _)
      (Within.modify fun _ => trivial)
  have hopen : Shy gnssExtOpen := by
    refine shy_call rfl fun _ => Within.ite
      ((hpower false).bind fun _ => Within.ret _) ?_
    refine shy_call rfl fun r => Within.ite ?_
      (shy_call rfl fun _ => Within.ret _)
    exact shy_call rfl fun _ => (hpower false).bind fun _ =>
      Within.ret _
  refine within_scope rfl (Within.get.bind fun s => Within.ite ?_ hopen)
    fun _ => rfl
  exact (hpower true).bind fun _ => Within.get.bind fun s =>
    Within.ite (Within.ret _) ((kSleep_shy _).bind fun _ => hopen)

/-- Nor does its first look. -/
theorem gnssExtInit_shy : Shy gnssExtInit :=
  Paced.shy (paced_scope rfl (fun _ => rfl) (by simp) (by simp))

/-- Its wait is for its own semaphore. -/
theorem gnssExtWaitFix_shy (timeoutS : Nat) : Shy (gnssExtWaitFix timeoutS) :=
  shy_call rfl fun _ => shy_call rfl fun _ =>
    Within.ite (Within.ret _) (shy_call rfl fun _ => Within.ret _)

/-- The link polls for the modem's time; it waits for no receiver. -/
theorem cloudResume_shy (cfg : Config) : Shy (cloudResume cfg) := by
  have hpoll : ∀ n, Shy (Nrf.modemTimePoll n) := by
    intro n
    induction n with
    | zero => exact Within.ret ()
    | succ n ih =>
        exact shy_call rfl fun _ => Within.ite
          (Within.modify fun _ => trivial) ((kSleep_shy _).bind fun _ =>
            watchdogFeed_paced.shy.bind fun _ => ih)
  have hlink : ∀ l, Shy (Nrf.setLink l) := fun l =>
    Within.modify fun _ => trivial
  have hconnect : Shy (Nrf.connect cfg) := by
    refine Within.bind (p := Nrf.modemTimeWait cfg)
      (Within.get.bind fun s => Within.ite (Within.ret ()) (hpoll _))
      fun _ => shy_call rfl fun r => Within.ite ?_ ?_
    · exact shy_call rfl fun _ => (hlink _).bind fun _ => Within.ret _
    · exact (hlink _).bind fun _ => Within.ret _
  refine within_scope rfl ?_ fun _ => rfl
  cases cfg.cloudProvider with
  | hologram => exact Within.ret _
  | nrfcloud =>
      refine Within.ite (Within.ret _) (Within.ite
        ((hlink _).bind fun _ => Within.ret _) (Within.get.bind fun s => ?_))
      refine Within.ite (Within.ret _) (Within.ite (Within.ret _)
        (Within.ite ?_ hconnect))
      exact shy_call rfl fun r => Within.ite
        ((hlink _).bind fun _ => Within.ret _)
        ((hlink _).bind fun _ => hconnect)

/-- The registration has a semaphore of its own. -/
theorem lteEnsureConnected_shy (cfg : Config) :
    Shy (lteEnsureConnected cfg) := by
  refine within_scope rfl (lteIsRegistered_paced.shy.bind fun b =>
    Within.ite (Within.ret _) (shy_call rfl fun _ => ?_)) fun _ => rfl
  refine shy_call rfl fun r => Within.ite (Within.ret _) ?_
  exact shy_call rfl fun r => Within.ite (Within.ret _) (Within.ret _)

/-- Recovery sleeps. -/
theorem recoverIfSilent_shy (cfg : Config) : Shy (recoverIfSilent cfg) := by
  have hwrite : ∀ f : Statics → Statics, Shy (Prog.modify f : P Unit) :=
    fun f => Within.modify fun _ => trivial
  refine within_scope rfl (Within.get.bind fun s => shy_call rfl fun now =>
    Within.ite (hwrite _) (Within.ite ?_ (Within.ite (Within.ret ()) ?_)))
    fun _ => rfl
  · exact (watchdogPhase_shy _).bind fun _ => (kSleep_shy _).bind fun _ =>
      shy_call rfl fun _ => Within.halt
  · exact (hwrite _).bind fun _ => shy_call rfl fun _ =>
      (kSleep_shy _).bind fun _ => shy_call rfl fun _ => Within.ret ()

/-- A battery sleep waits to be woken. -/
theorem batterySleep_shy (cfg : Config) (site : SleepSite) :
    Shy (batterySleep cfg site) := by
  have hwait : Shy (do
        watchdogPhase .sleep
        wakeWait cfg.sleepSeconds : P WakeReason) :=
    (watchdogPhase_shy _).bind fun _ => within_scope rfl
      (shy_call rfl fun _ => shy_call rfl fun _ =>
        shy_call rfl fun r => Within.ite (Within.ret _)
          (shy_op rfl)) fun _ => rfl
  refine within_scope rfl (Within.get.bind fun s =>
    (watchdogPhase_shy _).bind fun _ => (statusLedSleep_paced cfg).shy.bind
    fun _ => (watchdogPhase_shy _).bind fun _ =>
    (motionSetArmed_paced cfg _).shy.bind fun _ => Within.ite ?_ hwait)
    fun _ => rfl
  exact (Within.modify fun _ => trivial).bind fun _ => hwait

/-- A report waits for no receiver, through both its sends. -/
theorem reportFix_shy (cfg : Config) (fix : Option TrackerFix) (u : Nat)
    (wr : WakeReason) : Shy (reportFix cfg fix u wr) := by
  have hone : ∀ f payload, Shy (scope f (cloudSendTelemetry cfg payload)) :=
    fun f payload => within_scope rfl (cloudSendTelemetry_paced cfg payload).shy
      fun _ => rfl
  have hsend : ∀ payload, Shy (sendReport cfg payload) := fun payload => by
    refine (hone .firstSend payload).bind fun err => Within.ite ?_
      (Within.ret _)
    exact (watchdogGuardStart_shy _).bind fun _ => (cloudResume_shy cfg).bind
      fun err => watchdogGuardStop_shy.bind fun _ =>
      Within.ite (hone .retrySend payload) (Within.ret _)
  have htail : ∀ err : Int, Shy (do
      watchdogFeed
      pure err : P Int) := fun err =>
    watchdogFeed_paced.shy.bind fun _ => Within.ret _
  have hloc : ∀ fix, Shy (cloudSendLocation cfg fix) := fun fix =>
    Within.mono (cloudSendLocation_paced cfg fix) (fun o ho => by
      cases o with
      | semTake s ms => simp at ho
      | _ => rfl) fun _ _ h => h
  refine within_scope rfl (shy_call rfl fun now =>
    powerRead_paced.shy.bind fun power => shy_call rfl fun rsrp =>
    (watchdogPhase_shy _).bind fun _ => Within.get.bind fun s => ?_)
    fun _ => rfl
  split
  next => exact Within.ret _
  next payload _ =>
    refine (hsend payload).bind fun err => Within.ite ?_ (htail err)
    refine shy_call rfl fun now => (Within.modify fun _ =>
      trivial).bind fun _ => ?_
    cases fix with
    | none => exact htail err
    | some fix => exact (hloc fix).bind fun _ => htail err

-- ============================================================== assertions

/-- The promise at every step. -/
abbrev Spotless (w : Tracker) : Prop := Always UsesInitialised w.log

/-- The modem receiver is initialised, and the module where it is
usable. -/
structure Whole (w : Tracker) : Prop where
  kept : Spotless w
  modem : modemInitialised w.log = true
  ext : w.st.externalUsable = true → extInitialised w.log = true

/-- The module is initialised and active. -/
structure External (cfg : Config) (w : Tracker) : Prop where
  kept : Spotless w
  build : cfg.gnssExternal = true
  usable : w.st.externalUsable = true
  active : w.st.active = .external
  ext : extInitialised w.log = true

/-- Either. -/
def Usable (cfg : Config) (w : Tracker) : Prop := Whole w ∨ External cfg w

/-- A usable tracker has kept the promise. -/
theorem Usable.kept {w : Tracker} (h : Usable cfg w) : Spotless w :=
  h.elim Whole.kept External.kept

/-- The modem active, it is the modem that initialised. -/
theorem Usable.whole {w : Tracker} (h : Usable cfg w)
    (ha : w.st.active = .modem) : Whole w := by
  rcases h with h | h
  · exact h
  · rw [h.active] at ha
    cases ha

/-- The marks of the initialisations. -/
abbrev initMarks : List Group := [.mark .gnssModemInit, .mark .gnssExtInit]

/-- The marks of the starts. -/
abbrev startMarks : List Group :=
  [.mark .gnssExtStart, .mark (.gnssModemStart .cycle),
    .mark (.gnssModemStart .fallback), .mark (.gnssModemStart .assistance)]

/-- The marks that a law about degraded start-up looks at. -/
abbrev useMarks : List Group :=
  [.mark .gnssModemInit, .mark .gnssExtInit, .mark .gnssExtStart,
    .mark (.gnssModemStart .cycle), .mark (.gnssModemStart .fallback),
    .mark (.gnssModemStart .assistance), .mark .gnssFallback]

/-- A call that uses no receiver. -/
def Idle (o : Op) : Prop := Off useMarks o ∧ awaitsModem o = false

section

variable {o : Op} {s : Statics} {d : Dev} {l : Trace}

/-- Only the modem's own first look says that it is initialised. -/
theorem modemInitialised_call (h : Off [.mark .gnssModemInit] o) (r : o.Ret) :
    modemInitialised (.call s d o r :: l) = modemInitialised l := by
  refine latest_none ?_
  cases o with
  | leave f c => cases f <;> first | rfl | exact absurd (by simp) h
  | _ => rfl

/-- And only the module's says so of the module. -/
theorem extInitialised_call (h : Off [.mark .gnssExtInit] o) (r : o.Ret) :
    extInitialised (.call s d o r :: l) = extInitialised l := by
  refine latest_none ?_
  cases o with
  | leave f c => cases f <;> first | rfl | exact absurd (by simp) h
  | _ => rfl

/-- What neither starts nor waits uses nothing. -/
theorem idle_uses (hoff : Off startMarks o) (hawaits : awaitsModem o = false)
    (r : o.Ret) : UsesInitialised (.call s d o r : Ev) l := by
  cases o with
  | enter f =>
      cases f with
      | gnssModemStart site => cases site <;> exact absurd (by simp) hoff
      | gnssExtStart => exact absurd (by simp) hoff
      | _ => rfl
  | semTake sem ms =>
      show (!awaitsModem (.semTake sem ms) || modemInitialised l) = true
      rw [hawaits]
      rfl
  | _ => rfl

/-- With the modem initialised every call but a start of the module is in
order. -/
theorem modem_uses (h : Off [.mark .gnssExtStart] o)
    (hm : modemInitialised l = true) (r : o.Ret) :
    UsesInitialised (.call s d o r : Ev) l := by
  cases o with
  | enter f =>
      cases f with
      | gnssModemStart site => exact hm
      | gnssExtStart => exact absurd (by simp) h
      | _ => rfl
  | semTake sem ms =>
      show (!awaitsModem (.semTake sem ms) || modemInitialised l) = true
      rw [hm, Bool.or_true]
  | _ => rfl

end

/-- What keeps the module usable. -/
theorem whole_frame :
    Frame (device cfg) ModemSpared Spotless Whole
      (Off [.mark .gnssModemInit, .mark .gnssExtInit, .mark .gnssExtStart])
      (Keep [.externalUsable]) where
  stable := fun w a h _ _ => ⟨⟨rfl, h.kept⟩, h.modem, h.ext⟩
  calls := fun w o r ho h _ _ => by
    refine ⟨⟨modem_uses (ho.mono (by simp)) h.modem r, h.kept⟩, ?_,
      fun he => ?_⟩
    · exact (modemInitialised_call (ho.mono (by simp)) r).trans h.modem
    · exact (extInitialised_call (ho.mono (by simp)) r).trans (h.ext he)
  writes := fun w f hf h => ⟨h.kept, h.modem, fun he =>
    h.ext ((hf .externalUsable (by simp) :
      (f w.st).externalUsable = w.st.externalUsable).symm.trans he)⟩
  gives := fun w h => h.kept

/-- What keeps the module active. -/
theorem external_frame :
    Frame (device cfg) ModemSpared Spotless (External cfg) Idle
      (Keep [.active, .externalUsable]) where
  stable := fun w a h _ _ =>
    ⟨⟨rfl, h.kept⟩, h.build, h.usable, h.active, h.ext⟩
  calls := fun w o r ho h _ _ =>
    ⟨⟨idle_uses (ho.1.mono (by simp)) ho.2 r, h.kept⟩, h.build, h.usable,
      h.active,
      (extInitialised_call (ho.1.mono (by simp)) r).trans h.ext⟩
  writes := fun w f hf h =>
    ⟨h.kept, h.build,
      (hf .externalUsable (by simp) :
        (f w.st).externalUsable = w.st.externalUsable).trans h.usable,
      (hf .active (by simp) : (f w.st).active = w.st.active).trans h.active,
      h.ext⟩
  gives := fun w h => h.kept

/-- What uses no receiver keeps either. -/
theorem usable_frame :
    Frame (device cfg) ModemSpared Spotless (Usable cfg) Idle
      (Keep [.active, .externalUsable]) := by
  have W : Frame (device cfg) ModemSpared Spotless Whole _ _ := whole_frame
  have E : Frame (device cfg) ModemSpared Spotless (External cfg) _ _ :=
    external_frame
  exact
    { stable := fun w a h hcan hG => h.imp (fun h => W.stable w a h hcan hG)
        fun h => E.stable w a h hcan hG
      calls := fun w o r ho h hok hG => h.imp
        (fun h => W.calls w o r (ho.1.mono (by simp)) h hok hG)
        fun h => E.calls w o r ho h hok hG
      writes := fun w f hf h => h.imp
        (fun h => W.writes w f (fun v hv => hf v (List.mem_cons_of_mem _ hv)) h)
        fun h => E.writes w f hf h
      gives := fun w h => h.kept }

/-- A shy part with its footprint outside the marks uses no receiver. -/
theorem idle_part {α : Type} {X : Tracker → Prop}
    {keep : List Var}
    (F : Frame (device cfg) ModemSpared Spotless X Idle (Keep keep))
    {g : List Group} {v : List Var} {p : P α} (h : Foot g v p) (hs : Shy p)
    (hg : ∀ x ∈ g, x ∉ useMarks) (hv : ∀ x ∈ keep, x ∉ v) :
    Triple (device cfg) ModemSpared Spotless X p fun _ => X :=
  F.keeps (((h.off hg hv).and hs).mono (fun _ h => h) fun _ _ h => h.1)

-- ============================================================ the receivers

/-- A call in order, and no initialisation, keeps either. -/
theorem Usable.called {w : Tracker} (h : Usable cfg w) {o : Op} {r : o.Ret}
    (ho : Off initMarks o)
    (huse : UsesInitialised (.call w.st w.dev o r : Ev) w.log) :
    Usable cfg (w.called (device cfg) o r) := by
  refine h.imp (fun h => ⟨⟨huse, h.kept⟩, ?_, fun he => ?_⟩)
    fun h => ⟨⟨huse, h.kept⟩, h.build, h.usable, h.active, ?_⟩
  · exact (modemInitialised_call (ho.mono (by simp)) r).trans h.modem
  · exact (extInitialised_call (ho.mono (by simp)) r).trans (h.ext he)
  · exact (extInitialised_call (ho.mono (by simp)) r).trans h.ext

/-- A modem that did initialise need not be spared. -/
theorem Usable.promote {w : Tracker} (h : Usable cfg w)
    (hm : modemInitialised w.log = true) : Whole w := by
  rcases h with h | h
  · exact h
  · exact ⟨h.kept, hm, fun _ => h.ext⟩

/-- The start of an initialised module: where it fails, there is the
modem. -/
theorem gnssExtStart_usable :
    Triple (device cfg) ModemSpared Spotless
      (fun w => Usable cfg w ∧ extInitialised w.log = true)
      (gnssExtStart cfg)
      fun r w => if r = 0 then Usable cfg w else Whole w := by
  have U : Frame (device cfg) ModemSpared Spotless (Usable cfg) _ _ :=
    usable_frame
  have hstable : Stable (device cfg) ModemSpared fun w : Tracker =>
      Usable cfg w ∧ extInitialised w.log = true :=
    fun w a h hcan hG => ⟨U.stable w a h.1 hcan hG, h.2⟩
  have henter : Triple (device cfg) ModemSpared Spotless
      (fun w => Usable cfg w ∧ extInitialised w.log = true)
      (call (.enter .gnssExtStart)) fun _ => Usable cfg := by
    refine Triple.op hstable fun w r h _ _ => ?_
    have h' := h.1.called (o := .enter .gnssExtStart) (r := r) (by simp [Off])
      h.2
    exact ⟨h'.kept, h'⟩
  have hbody := within_of_scope (gnssExtStart_shy cfg)
  refine triple_scope henter (idle_part U (g := [.plain, .pin, .pm])
    (v := [.powered]) (by simp [gnssExtOpen, powerSet, Var.forall]) hbody
    (by simp) (by simp)) fun r => Triple.op U.stable fun w r' h _ hG => ?_
  · have hspared : (modemInitialised w.log || Code.code r == 0) = true := hG.1
    have h' := h.called (o := .leave .gnssExtStart (Code.code r)) (r := r')
      (by simp [Off]) rfl
    refine ⟨h'.kept, ?_⟩
    by_cases hr : r = 0
    · rw [if_pos hr]
      exact h'
    · rw [if_neg hr]
      refine h'.promote ((modemInitialised_call
        (o := .leave .gnssExtStart (Code.code r)) (by simp [Off]) r').trans ?_)
      rcases Bool.or_eq_true_iff.mp hspared with hm | hz
      · exact hm
      · exact absurd (eq_of_beq hz) hr

/-- A start uses the module only where it is usable, else the modem. -/
theorem gnssStart_usable :
    Triple (device cfg) ModemSpared Spotless (Usable cfg) (gnssStart cfg)
      fun _ => Usable cfg := by
  have U : Frame (device cfg) ModemSpared Spotless (Usable cfg) _ _ :=
    usable_frame
  -- the modem: the cycle is its own, and it was initialised
  have hmodem : Triple (device cfg) ModemSpared Spotless Whole
      (gnssStartModem cfg) fun _ => Usable cfg := by
    refine Triple.bind (R := fun _ => Whole)
      (Triple.modify fun w h => ⟨h.kept, h.kept, h.modem, h.ext⟩) fun _ => ?_
    exact (part whole_frame (gnssModemStart_foot cfg .cycle) (by simp)
      (by simp)).post fun _ _ h => .inl h
  refine triple_scope (U.keeps (Within.op ⟨by simp [Off], rfl⟩)) ?_
    fun r => U.keeps (Within.op ⟨by simp [Off], rfl⟩)
  refine Triple.get fun s => Triple.ite (fun hext => ?_) fun hext => ?_
  -- the module was found usable, so it was initialised
  · obtain ⟨hbuild, husable⟩ := Bool.and_eq_true_iff.mp hext
    refine Triple.bind (R := fun _ w => Usable cfg w ∧
      extInitialised w.log = true) (Triple.modify fun w h => ?_) fun _ => ?_
    · obtain ⟨h, hst⟩ := h
      have hw : w.st.externalUsable = true := hst ▸ husable
      rcases h with h | h
      · exact ⟨h.kept, .inl ⟨h.kept, h.modem, h.ext⟩, h.ext hw⟩
      · exact ⟨h.kept, .inr ⟨h.kept, hbuild, hw, rfl, h.ext⟩, h.ext⟩
    · refine gnssExtStart_usable.bind fun r => Triple.ite (fun hr => ?_)
        fun hr => ?_
      · exact Triple.ret fun w h => by simpa only [if_pos hr] using h
      · exact hmodem.pre fun w h => by simpa only [if_neg hr] using h
  · refine hmodem.pre fun w h => ?_
    obtain ⟨h | h, hst⟩ := h
    · exact h
    · refine absurd (Bool.and_eq_true_iff.mpr ⟨h.build, ?_⟩) hext
      exact hst ▸ h.usable

/-- The fallback uses the modem. -/
theorem gnssFallback_usable :
    Triple (device cfg) ModemSpared Spotless (Usable cfg)
      (gnssFallback cfg) fun _ => Usable cfg := by
  have U : Frame (device cfg) ModemSpared Spotless (Usable cfg) _ _ :=
    usable_frame
  have W : Frame (device cfg) ModemSpared Spotless Whole _ _ := whole_frame
  have henter : Triple (device cfg) ModemSpared Spotless (Usable cfg)
      (call (.enter .gnssFallback)) fun _ => Whole := by
    refine Triple.op U.stable fun w r h _ hG => ?_
    have hm : modemInitialised w.log = true := hG.1
    have h' := W.calls w (.enter .gnssFallback) r (by simp [Off])
      (h.promote hm) rfl hG
    exact ⟨h'.kept, h'⟩
  refine (triple_scope henter (part W
    (foot_scope.mp (gnssFallback_foot cfg)).2 (by simp) (by simp))
    fun r => leave_keeps W (by simp)).post fun _ _ h => .inl h

/-- A wait uses whichever is active. -/
theorem gnssWaitFix_usable (t : Nat) :
    Triple (device cfg) ModemSpared Spotless (Usable cfg)
      (gnssWaitFix cfg t) fun _ => Usable cfg := by
  have E : Frame (device cfg) ModemSpared Spotless (External cfg) _ _ :=
    external_frame
  refine Triple.or ((part whole_frame (gnssWaitFix_foot cfg t) (by simp)
    (by simp)).post fun _ _ h => .inl h) ?_
  refine (triple_scope (E.keeps (Within.op ⟨by simp [Off], rfl⟩)) ?_
    fun r => E.keeps (Within.op ⟨by simp [Off], rfl⟩)).post
    fun _ _ h => .inr h
  refine Triple.get fun s => Triple.ite (fun _ => ?_) fun hn w h => ?_
  · refine (idle_part E (g := [.plain]) (v := []) (by simp [gnssExtWaitFix])
      (gnssExtWaitFix_shy t) (by simp) (by simp)).pre fun w h => h.1
  · refine absurd ⟨h.1.build, ?_⟩ hn
    exact h.2 ▸ h.1.active

/-- A wait for a request uses the modem. -/
theorem gnssAgnssRequestWait_usable (t : Nat) :
    Triple (device cfg) ModemSpared Spotless
      (fun w => Usable cfg w ∧ w.st.active = .modem)
      (gnssAgnssRequestWait t)
      fun _ w => Usable cfg w ∧ w.st.active = .modem := by
  have W : Frame (device cfg) ModemSpared Spotless Whole Unguarded
      (Touch [.phase]) := by
    refine whole_frame.mono (fun o h => ?_) fun _ _ h => fun v hv => h v ?_
    · unfold Off
      rw [h.1]
      simp
    · rw [List.mem_singleton.mp hv]
      decide
  exact (request_keeps W t).conseq (fun w h => ⟨h.1.whole h.2, h.2⟩)
    fun _ w h => ⟨.inl h.1, h.2⟩

/-- A fetch may start it again. -/
theorem agnssFetchAndInject_usable :
    Triple (device cfg) ModemSpared Spotless
      (fun w => Usable cfg w ∧ w.st.active = .modem)
      (agnssFetchAndInject cfg) fun _ => Usable cfg :=
  ((part whole_frame (agnssFetchAndInject_foot cfg) (by simp)
    (by simp)).pre fun _ h => h.1.whole h.2).post fun _ _ h => .inl h

-- =============================================================== the set-up

/-- Before the module is known to be usable, with the modem as `ok`
says. -/
structure Tried (ok : Bool) (w : Tracker) : Prop where
  kept : Spotless w
  unusable : w.st.externalUsable = false
  modem : modemInitialised w.log = ok

/-- Between the two first looks nothing is used. -/
theorem tried_frame (ok : Bool) :
    Frame (device cfg) ModemSpared Spotless (Tried ok)
      (fun o => Off (startMarks ++ [.mark .gnssModemInit]) o ∧
        awaitsModem o = false) (Keep [.externalUsable]) where
  stable := fun w a h _ _ => ⟨⟨rfl, h.kept⟩, h.unusable, h.modem⟩
  calls := fun w o r ho h _ _ => by
    refine ⟨⟨idle_uses (ho.1.mono (by simp)) ho.2 r, h.kept⟩, h.unusable, ?_⟩
    exact (modemInitialised_call (ho.1.mono (by simp)) r).trans h.modem
  writes := fun w f hf h =>
    ⟨h.kept, (hf .externalUsable (by simp) :
      (f w.st).externalUsable = w.st.externalUsable).trans h.unusable, h.modem⟩
  gives := fun w h => h.kept

/-- The modem's first look says whether it came up. -/
theorem gnssModemInit_tried (ok : Bool) :
    Triple (device cfg) ModemSpared Spotless (Tried ok) gnssModemInit
      fun r => Tried (r == 0) := by
  have F : Frame (device cfg) ModemSpared Spotless (Tried ok) _ _ :=
    tried_frame ok
  refine triple_scope (Triple.op F.stable fun w r h _ _ => ?_)
    (F.keeps (Within.op ⟨by simp [Off], rfl⟩)) fun r =>
    Triple.op F.stable fun w u h _ _ => ?_
  · have h' : Tried ok (w.called (device cfg) (.enter .gnssModemInit) r) :=
      ⟨⟨rfl, h.kept⟩, h.unusable, h.modem⟩
    exact ⟨h'.kept, h'⟩
  · have h' : Tried (r == 0) (w.called (device cfg)
        (.leave .gnssModemInit (Code.code r)) u) :=
      ⟨⟨rfl, h.kept⟩, h.unusable, latest_some rfl⟩
    exact ⟨h'.kept, h'⟩

/-- A part of the set-up that starts nothing. -/
theorem tried_part {α : Type} {ok : Bool} {g : List Group} {v : List Var}
    {p : P α} (h : Foot g v p) (hs : Shy p)
    (hg : ∀ x ∈ g, x ∉ startMarks ++ [.mark .gnssModemInit])
    (hv : .externalUsable ∉ v) :
    Triple (device cfg) ModemSpared Spotless (Tried ok) p fun _ => Tried ok :=
  (tried_frame ok).keeps (((h.off hg fun x hx => by
    rw [List.mem_singleton.mp hx]
    exact hv).and hs).mono (fun _ h => h) fun _ _ h => h.1)

/-- The module's first look does not lose that. -/
theorem gnssExtInit_tried (ok : Bool) :
    Triple (device cfg) ModemSpared Spotless (Tried ok) gnssExtInit
      fun r w => Tried ok w ∧ (r = 0 → extInitialised w.log = true) := by
  have F : Frame (device cfg) ModemSpared Spotless (Tried ok) _ _ :=
    tried_frame ok
  -- nothing of the body is about either receiver's use
  have hbody : Foot [.plain, .pin, .pm] []
      (do
        if (← call (.lib .deviceReadyGpio)) ≠ 0 then
          pure (-ENODEV)
        else if (← call (.lib .deviceReadyUart)) ≠ 0 then
          pure (-ENODEV)
        else if (← call (.lib .deviceReadyGnss)) ≠ 0 then
          pure (-ENODEV)
        else
          let err ← call .gpioPinConfigure
          if err ≠ 0 then
            pure err
          else
            let _ ← call (.pmAction .uart false)
            pure 0 : P Int) := by
    simp
  refine triple_scope (F.keeps (Within.op ⟨by simp [Off], rfl⟩))
    (tried_part hbody ?_ (by simp) (by simp)) fun r =>
    Triple.op F.stable fun w u h _ _ => ?_
  · exact within_of_scope gnssExtInit_shy
  · have h' : Tried ok (w.called (device cfg)
        (.leave .gnssExtInit (Code.code r)) u) :=
      ⟨⟨rfl, h.kept⟩, h.unusable, h.modem⟩
    refine ⟨h'.kept, h', fun hr => latest_some ?_⟩
    show some (r == 0) = some true
    rw [hr]
    rfl

/-- With the module tried, too. -/
structure Chosen (cfg : Config) (ok : Bool) (w : Tracker) : Prop where
  kept : Spotless w
  modem : modemInitialised w.log = ok
  ext : w.st.externalUsable = true →
    cfg.gnssExternal = true ∧ extInitialised w.log = true

/-- The end of `gnss_init`: the module where it is usable, else the modem,
and an error where neither is. -/
theorem choose_usable (modemErr : Int) :
    Triple (device cfg) ModemSpared Spotless (Chosen cfg (modemErr == 0)) (do
        let s ← Prog.get
        if !s.externalUsable && modemErr != 0 then
          pure modemErr
        else
          Prog.modify fun s =>
            { s with active := if s.externalUsable then .external else .modem }
          pure 0 : P Int)
      fun r w => Spotless w ∧ (r = 0 → Usable cfg w) := by
  refine Triple.get fun s => Triple.ite (fun herr => ?_) fun herr => ?_
  · refine Triple.ret fun w h => ⟨h.1.kept, fun h0 => ?_⟩
    rw [h0] at herr
    simp at herr
  · refine Triple.bind (R := fun _ => Usable cfg)
      (Triple.modify fun w h => ⟨h.1.kept, ?_⟩) fun _ =>
      Triple.ret fun w h => ⟨h.kept, fun _ => h⟩
    obtain ⟨h, hst⟩ := h
    by_cases hu : w.st.externalUsable = true
    · obtain ⟨hbuild, hext⟩ := h.ext hu
      exact .inr ⟨h.kept, hbuild, hu, if_pos hu, hext⟩
    · refine .inl ⟨h.kept, h.modem.trans ?_, fun he => absurd he hu⟩
      rw [← hst, Bool.not_eq_true _ |>.mp hu] at herr
      simpa using herr

/-- `gnss_init`: where it returns 0, the modem is initialised or the module
is, and active. -/
theorem gnssInit_usable (ok : Bool) :
    Triple (device cfg) ModemSpared Spotless (Tried ok) (gnssInit cfg)
      fun r w => r = 0 → Usable cfg w := by
  have F : Frame (device cfg) ModemSpared Spotless (Tried ok) _ _ :=
    tried_frame ok
  have U : Frame (device cfg) ModemSpared Spotless (Usable cfg) _ _ :=
    usable_frame
  have hplain : ∀ ok w, Tried ok w → Chosen cfg ok w := fun ok w h =>
    ⟨h.kept, h.modem, fun he => by
      rw [h.unusable] at he
      cases he⟩
  refine triple_scope (F.keeps (Within.op ⟨by simp [Off], rfl⟩))
    ((gnssModemInit_tried ok).bind fun modemErr => Triple.ite (fun hbuild => ?_)
      fun _ => (choose_usable modemErr).pre (hplain _)) fun r => ?_
  · refine (gnssExtInit_tried _).bind fun r => Triple.ite (fun hr => ?_)
      fun _ => (choose_usable modemErr).pre fun w h => hplain _ w h.1
    refine Triple.bind (R := fun _ => Chosen cfg (modemErr == 0))
      (Triple.modify fun w h => ⟨h.1.kept, ?_⟩) fun _ => choose_usable modemErr
    exact ⟨h.1.kept, h.1.modem, fun _ => ⟨hbuild, h.2 hr⟩⟩
  · refine Triple.op (fun w a h hcan hG => ⟨⟨rfl, h.1⟩, fun h0 =>
      U.stable w a (h.2 h0) hcan hG⟩) fun w u h hok hG => ?_
    have hkept : Spotless (w.called (device cfg)
        (.leave .gnssInit (Code.code r)) u) := ⟨rfl, h.1⟩
    exact ⟨hkept, fun h0 => U.calls w (.leave .gnssInit (Code.code r)) u
      ⟨by simp [Off], rfl⟩ (h.2 h0) hok hG⟩

/-- A set-up that returns 0 leaves something to use. -/
theorem setUp_usable :
    Triple (device cfg) ModemSpared Spotless (Tried false) (setUp cfg)
      fun r w => r = 0 → Usable cfg w := by
  have U : Frame (device cfg) ModemSpared Spotless (Usable cfg) _ _ :=
    usable_frame
  -- a set-up that fails promises nothing
  have hdead : ∀ {X : Tracker → Prop} (r : Int), r ≠ 0 →
      Triple (device cfg) ModemSpared Spotless X (pure r)
        fun r w => r = 0 → Usable cfg w :=
    fun r hr => Triple.ret fun w h h0 => absurd h0 hr
  have hradio : Shy (radioInit cfg) := Paced.shy (by simp [radioInit])
  have hlib : ∀ f, Triple (device cfg) ModemSpared Spotless (Tried false)
      (call (.lib f)) fun _ => Tried false := fun f =>
    (tried_frame false).keeps (Within.op ⟨by simp [Off], rfl⟩)
  refine (hlib _).bind fun err => Triple.ite
    (fun herr => hdead _ herr) fun _ => ?_
  refine (tried_part watchdogInit_foot watchdogInit_paced.shy (by simp)
    (by simp)).bind fun _ => (hlib _).bind fun _ => ?_
  refine (tried_part powerInit_foot powerInit_paced.shy (by simp)
    (by simp)).bind fun _ => ?_
  refine (tried_part (motionInit_foot cfg) (motionInit_paced cfg).shy (by simp)
    (by simp)).bind fun _ => ?_
  refine (tried_part (statusLedInit_foot cfg) (statusLedInit_paced cfg).shy
    (by simp) (by simp)).bind fun _ => ?_
  refine (gnssInit_usable false).bind fun r => Triple.ite
    (fun _ => hdead _ (by decide)) fun hr => ?_
  -- `gnss_init` returned 0: one of the two is there
  refine Triple.pre (P := Usable cfg) ?_
    fun w h => h (Decidable.not_not.mp hr)
  refine (idle_part U (radioInit_foot cfg) hradio (by simp)
    (by simp)).bind fun r => Triple.ite
    (fun _ => hdead _ (by decide)) fun _ => ?_
  refine (idle_part U (cloudInit_foot cfg) (cloudInit_paced cfg).shy (by simp)
    (by simp)).bind fun _ => ?_
  exact (idle_part U (statusLedReport_foot cfg false)
    (statusLedReport_paced cfg false).shy (by simp) (by simp)).bind fun _ =>
    Triple.ret fun w h _ => h

-- =================================================================== main

/-- What a cycle uses while the receiver runs. -/
theorem degraded_receiving (u : Nat) (wr : WakeReason) :
    Receiving cfg ModemSpared Spotless (Usable cfg) (Usable cfg) (Usable cfg)
      (Usable cfg) u wr := by
  have U : Frame (device cfg) ModemSpared Spotless (Usable cfg) _ _ :=
    usable_frame
  have hbrisk : Frame (device cfg) ModemSpared Spotless (Usable cfg) Brisk
      (Touch [.phase]) := U.mono (fun o h => ⟨?_, ?_⟩) fun _ _ h v hv => h v ?_
  · exact
      { runs := hbrisk
        tolds := hbrisk
        passes := hbrisk
        request := gnssAgnssRequestWait_usable
        fetch := agnssFetchAndInject_usable
        wait := gnssWaitFix_usable
        fallback := gnssFallback_usable
        report := fun fix => idle_part U (reportFix_foot cfg fix u wr)
          (reportFix_shy cfg fix u wr) (by simp) (by simp)
        unreported := fun _ h => h
        ledTold := fun b => idle_part U (statusLedReport_foot cfg b)
          (statusLedReport_paced cfg b).shy (by simp) (by simp)
        keepIf := (idle_part U (keepReporting_foot cfg _ _)
          (keepReporting_paced cfg _ _).shy (by simp) (by simp)).post
          fun _ _ h => by split <;> exact h
        logLine := idle_part U (powerVbusPresent_foot _)
          (powerVbusPresent_paced _).shy (by simp) (by simp)
        keepWhile := (idle_part U (keepReporting_foot cfg _ _)
          (keepReporting_paced cfg _ _).shy (by simp) (by simp)).post
          fun _ _ h => by split <;> exact h
        holdOff := idle_part U (holdOffMotion_foot cfg)
          (holdOffMotion_paced cfg).shy (by simp) (by simp) }
  · unfold Off
    rw [h.1.1]
    simp
  · cases o with
    | semTake s ms => exact absurd rfl (h.2 s ms)
    | _ => rfl
  · revert v
    decide

/-- Only before the loop is nothing known to be usable. -/
abbrev degradedAt (cfg : Config) : Place → Tracker → Prop
  | .boot => Tried false
  | _ => Usable cfg

/-- And along all of `main`. -/
theorem degraded_walk :
    Walk cfg ModemSpared Spotless (degradedAt cfg) where
  gives := fun _ h => h.kept
  phase pl p := by
    cases pl with
    | boot =>
        exact tried_part (watchdogPhase_foot p) (watchdogPhase_shy p)
          (by simp) (by simp)
    | _ =>
        exact idle_part usable_frame (watchdogPhase_foot p)
          (watchdogPhase_shy p) (by simp) (by simp)
  setUp := setUp_usable
  topOfCycle wr := idle_part usable_frame (topOfCycle_foot wr)
    (topOfCycle_paced wr).shy (by simp) (by simp)
  network u wr := by
    have U : Frame (device cfg) ModemSpared Spotless (Usable cfg) _ _ :=
      usable_frame
    refine Triple.ite (fun _ => Triple.ret fun w h => h) fun _ => ?_
    refine (idle_part U (recoverIfSilent_foot cfg) (recoverIfSilent_shy cfg)
      (by simp) (by simp)).bind fun _ => ?_
    refine (idle_part U (watchdogPhase_foot _) (watchdogPhase_shy _) (by simp)
      (by simp)).bind fun _ => ?_
    refine (idle_part U (lteEnsureConnected_foot cfg)
      (lteEnsureConnected_shy cfg) (by simp) (by simp)).bind fun r => ?_
    exact Triple.ret fun w h => by split <;> exact h
  ledCut := idle_part usable_frame (statusLedSet_foot cfg _)
    (statusLedSet_paced cfg _).shy (by simp) (by simp)
  guardStart _ _ := idle_part usable_frame (watchdogGuardStart_foot _)
    (watchdogGuardStart_shy _) (by simp) (by simp)
  resume _ _ := idle_part usable_frame (cloudResume_foot cfg)
    (cloudResume_shy cfg) (by simp) (by simp)
  guardStop _ _ := idle_part usable_frame watchdogGuardStop_foot
    watchdogGuardStop_shy (by simp) (by simp)
  ledOn _ _ := idle_part usable_frame (statusLedReport_foot cfg false)
    (statusLedReport_paced cfg false).shy (by simp) (by simp)
  start _ _ := gnssStart_usable.post fun _ _ h => by split <;> exact h
  acquire u wr := (degraded_receiving u wr).acquire
  firstReport u wr fix := (degraded_receiving u wr).firstReport fix
  keepIf u wr := (degraded_receiving u wr).keepIf
  logLine u wr := (degraded_receiving u wr).logLine
  keepWhile u wr := (degraded_receiving u wr).keepWhile
  frequentPass u wr := (degraded_receiving u wr).frequentPass
  stop _ _ := idle_part usable_frame (gnssStop_foot cfg)
    (gnssStop_paced cfg).shy (by simp) (by simp)
  pause _ := idle_part usable_frame (cloudPause_foot cfg)
    (cloudPause_paced cfg).shy (by simp) (by simp)
  sleep site := idle_part usable_frame (batterySleep_foot cfg site)
    (batterySleep_shy cfg site) (by simp) (by simp)

/-- In every run in which a modem receiver that did not initialise is
spared, a receiver that did not initialise is not used. -/
theorem uses_initialised {n fuel : Nat} {w : Tracker} (hw : Booted cfg w)
    {c : P Int × Tracker}
    (hr : Reach (device cfg) (main cfg n fuel) w c)
    (hG : Always ModemSpared c.2.log) : Always UsesInitialised c.2.log := by
  obtain ⟨magic, phase, hst⟩ := hw.st
  refine degraded_walk.reach (J := Spotless) ?_ hr hG
  refine ⟨?_, ?_, ?_⟩
  · rw [Spotless, hw.log]
    trivial
  · rw [hst]
    rfl
  · rw [hw.log]
    rfl

/-- The modem's event handler is refused. -/
def handlerless : Script Statics Dev Move Calls := fun w o =>
  match o with
  | .lib .gnssEventHandlerSet => ([], - EIO)
  | o => calm w o

/-- A cycle that falls back on a modem that did initialise. -/
theorem uses_initialised_calm :
    Always UsesInitialised (playMain {} calm 1 0 400).2.log :=
  uses_initialised (start_booted {}) (playMain_reach {} calm 1 0 400)
    (by decide +kernel)

/-- The modem did not initialise, the module has no fix, and the fallback
starts the modem. -/
theorem uses_uninitialised :
    ∃ w c, Booted {} w ∧ Reach (device {}) (main {} 1 0) w c ∧
      ¬Always UsesInitialised c.2.log :=
  ⟨start {}, _, start_booted {},
    playMain_reach {} handlerless 1 0 400, by decide +kernel⟩

end GpsTracker
