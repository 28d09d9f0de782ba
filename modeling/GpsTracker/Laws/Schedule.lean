/-
The life of the tracker as a protocol, and that `main` follows it.

Everything the tracker does for its owner is one word of a small alphabet:
a cycle begins, the network is up or not, the link is up or not, the
receiver starts, assistance is fetched, a wait ends, a report is made and
delivered, the receiver stops, the tracker sleeps and wakes. `schedule`
says which word may follow which, and `main_follows_schedule` that the
record of every run is one it accepts, whatever the surroundings answer
and do. What a maintainer wants to know about the order of things is then
a fact about a finite automaton.

# The stations

    resting --cycle--> woken --(silence)--> tended --network--> online
    online --link--> linked --start--> running --stop--> halted
    halted --pause--> bed --sleep--> asleep --woke--> resting

While the receiver runs, `Hand` says what is owed: a fix is searched, one
is found and to be reported, none came and a report without one is due
where it is forced, all is told and the supply decides about another
pass. A fetch and a report are stations of their own, with the state of
the download and of the delivery.

# Where the silent parts go

Sleeps, LED writes, feeds, the guard, the session calls and the starts and
stops of the two receivers under their arbiter say nothing here; a call
outside `scheduleGroups` keeps the station.
-/
import GpsTracker.Lib.Protocol
import GpsTracker.Laws.Link
import GpsTracker.Run.Carry

namespace GpsTracker

open Proc

-- ============================================================== the alphabet

/-- What a call says of the schedule. -/
inductive Mark
  | cycle (wr : WakeReason)
  | restart | reboot | tended
  | network (up : Bool)
  | link (up : Bool)
  | start (ok : Bool)
  | fallback
  | fetch
  | download (ok : Bool)
  | inject (ok : Bool)
  | fetched (ok : Bool)
  | wait (found : Bool)
  | look (site : VbusSite) (present : Bool)
  | surge (active : Bool)
  | report (haveFix : Bool)
  | message (taken : Bool)
  | sent (again : Bool) (r : Int)
  | location
  | reported (ok : Bool)
  | stop | pause
  | sleep (site : SleepSite)
  | woke (code : Int)
deriving DecidableEq, Repr

/-- The word of an answered call. A message is taken where the library
answers 0, or the socket that it took some of it. -/
def Op.mark : (o : Op) → o.Ret → Option Mark
  | .enter (.cycle wr), _ => some (.cycle wr)
  | .funcModeSet .offline, _ => some .restart
  | .sysReboot, _ => some .reboot
  | .leave .recoverIfSilent _, _ => some .tended
  | .leave .lteEnsureConnected r, _ => some (.network (r == 0))
  | .leave .cloudResume r, _ => some (.link (r == 0))
  | .leave .gnssStart r, _ => some (.start (r == 0))
  | .leave .gnssFallback _, _ => some .fallback
  | .enter .agnssFetchAndInject, _ => some .fetch
  | .agnssDataGet _, r => some (.download (r == (0 : Int)))
  | .agnssProcess, r => some (.inject (r == (0 : Int)))
  | .leave .agnssFetchAndInject r, _ => some (.fetched (r == 0))
  | .leave .gnssWaitFix r, _ => some (.wait (r == 0))
  | .leave (.powerVbusPresent .ifCond) r, _ => some (.look .ifCond (r == 1))
  | .leave (.powerVbusPresent .whileCond) r, _ =>
      some (.look .whileCond (r == 1))
  | .leave (.surgeActive _) r, _ => some (.surge (r == 1))
  | .enter (.reportFix b), _ => some (.report b)
  | .jsonMessageSend _, r => some (.message (r == (0 : Int)))
  | .sendSocket _, r => some (.message (decide ((0 : Int) ≤ r)))
  | .leave .firstSend r, _ => some (.sent false r)
  | .leave .retrySend r, _ => some (.sent true r)
  | .locationSend _, _ => some .location
  | .leave (.reportFix _) r, _ => some (.reported (r == 0))
  | .leave .gnssStop _, _ => some .stop
  | .leave .cloudPause _, _ => some .pause
  | .enter (.batterySleep site), _ => some (.sleep site)
  | .leave (.batterySleep _) r, _ => some (.woke r)
  | _, _ => none

/-- The word of an event; own moves say nothing. -/
def mark : Ev → Option Mark
  | .call _ _ o r => o.mark r
  | .env .. => none

/-- What a run says, newest word first. -/
def marks (l : Trace) : List Mark := said mark l

-- ============================================================== the stations

/-- What is owed while the receiver runs; `asked` is a look at the supply
that found none, with the surge still to decide. -/
inductive Hand
  | searching | found | empty | told | pass
  | asked (site : VbusSite)
  | done
deriving DecidableEq, Repr

/-- How far a fetch of assistance is. -/
inductive Fetch | asking | downloaded | injected | failed
deriving DecidableEq, Repr

/-- How far a report is; `again` marks its second send. -/
inductive Delivery
  | unsent (again : Bool)
  | handed (again taken : Bool)
  | stale | accepted | located | failed
deriving DecidableEq, Repr

/-- The stations of the schedule; `code` is the wake reason to come. -/
inductive Station
  | resting (code : Int)
  | woken | restarted | tended | online | linked
  | running (h : Hand)
  | fetching (f : Fetch)
  | reporting (haveFix : Bool) (d : Delivery)
  | halted (site : SleepSite)
  | bed (site : SleepSite)
  | asleep | rebooted
deriving DecidableEq, Repr

variable (cfg : Config)

/-- Nothing to be reported is left: the supply may decide. -/
def Hand.rests : Hand → Bool
  | .told => true
  | .searching | .empty => !cfg.forcePublishWithoutFix
  | _ => false

/-- A report may be made, with a fix or without. -/
def Hand.reports : Hand → Bool → Bool
  | .found, b => b
  | .searching, b | .empty, b => !b && cfg.forcePublishWithoutFix
  | _, _ => false

/-- What a wait that found a fix, or none, leaves to do; a fix in hand is
kept until a better one comes. -/
def Hand.wait : Hand → Bool → Option Hand
  | .searching, b => some (if b then .found else .searching)
  | .found, _ => some .found
  | .pass, b => some (if b then .found else .empty)
  | _, _ => none

/-- Whether the supply or the surge asks for another pass. -/
def Hand.keep (site : VbusSite) (b : Bool) : Hand :=
  if b then (if site = .whileCond then .pass else .told) else .done

/-- Where a send leaves a report that had been `taken` or not. -/
def Delivery.sent (again taken : Bool) (r : Int) : Option Delivery :=
  if r = 0 then (if taken then some .accepted else none)
  else if !again && refused r then some .stale
  else some .failed

/-- One word of a delivery. Without a message, a send succeeds only where
messages are off. -/
def Delivery.next (haveFix : Bool) : Delivery → Mark → Option Delivery
  | .unsent again, .message t => some (.handed again t)
  | .unsent again, .sent again' r =>
      if again = again' then Delivery.sent again cfg.offlineDebug r else none
  | .handed again taken, .sent again' r =>
      if again = again' then Delivery.sent again taken r else none
  | .stale, .link up => some (if up then .unsent true else .failed)
  | .accepted, .location => if haveFix then some .located else none
  | _, _ => none

/-- Whether a report may end, and with which verdict. -/
def Delivery.over : Delivery → Bool → Bool
  | .accepted, ok | .located, ok => ok
  | .failed, ok => !ok
  | .unsent again, ok => !again && !ok
  | _, _ => false

/-- One word of a fetch. -/
def Fetch.next : Fetch → Mark → Option Fetch
  | .asking, .download ok => some (if ok then .downloaded else .failed)
  | .downloaded, .inject ok => some (if ok then .injected else .failed)
  | _, _ => none

/-- One word while the receiver runs. -/
def Hand.next : Hand → Mark → Option Station
  | .searching, .fallback => some (.running .searching)
  | .searching, .fetch => some (.fetching .asking)
  | .asked site, .surge b => some (.running (Hand.keep site b))
  | .done, .stop => some (.halted .endOfCycle)
  | h, .wait b => (h.wait b).map Station.running
  | h, .report b =>
      if h.reports cfg b then some (.reporting b (.unsent false)) else none
  | h, .look site b =>
      if h.rests cfg then
        some (.running (if b then Hand.keep site true else .asked site))
      else none
  | _, _ => none

/-- One word of the schedule. -/
def Station.next : Station → Mark → Option Station
  | .resting code, .cycle wr =>
      if code = Code.code wr then
        some (if cfg.skipLte then .online else .woken)
      else none
  | .woken, .restart => some .restarted
  | .woken, .reboot => some .rebooted
  | .woken, .tended | .restarted, .tended => some .tended
  | .tended, .network up => some (if up then .online else .bed .noNetwork)
  | .online, .link _ => some .linked
  | .linked, .start ok =>
      some (if ok then .running .searching else .halted .gnssStart)
  | .running h, m => h.next cfg m
  | .fetching f, .fetched ok =>
      if ok && f != .injected then none else some (.running .searching)
  | .fetching f, m => (f.next m).map Station.fetching
  | .reporting _ d, .reported ok =>
      if d.over ok then some (.running .told) else none
  | .reporting b d, m => (d.next cfg b m).map (Station.reporting b)
  | .halted site, .pause => some (.bed site)
  | .bed site, .sleep site' => if site = site' then some .asleep else none
  | .asleep, .woke code => some (.resting code)
  | _, _ => none

/-- The schedule, from a boot on. -/
def schedule : Protocol Mark Station :=
  ⟨.resting (Code.code WakeReason.boot), Station.next cfg⟩

-- ================================================================ assertions

section Main

variable {cfg}
variable {G : Ev → Trace → Prop}

/-- The record leads to a station. -/
abbrev On (cfg : Config) (q : Station) (w : Tracker) : Prop :=
  (schedule cfg).At mark q w

/-- The record is accepted. -/
abbrev Scheduled (cfg : Config) (w : Tracker) : Prop :=
  (schedule cfg).Follows mark w

/-- The groups of the calls that say something, or whose function does. -/
abbrev scheduleGroups : List Group :=
  [.mark (.cycle .boot), .mark (.cycle .timer), .mark (.cycle .vbus),
    .mark (.cycle .motion), .funcMode, .reboot, .mark .recoverIfSilent,
    .mark .lteEnsureConnected, .mark .cloudResume, .mark .gnssStart,
    .mark .gnssFallback, .mark .agnssFetchAndInject, .download, .inject,
    .mark .gnssWaitFix, .mark (.powerVbusPresent .ifCond),
    .mark (.powerVbusPresent .whileCond), .mark (.surgeActive true),
    .mark (.surgeActive false), .mark (.reportFix true),
    .mark (.reportFix false), .send, .mark .firstSend, .mark .retrySend,
    .location, .mark .gnssStop, .mark .cloudPause,
    .mark (.batterySleep .noNetwork), .mark (.batterySleep .gnssStart),
    .mark (.batterySleep .endOfCycle)]

/-- What is off the schedule says nothing. -/
theorem mark_off {o : Op} (h : Off scheduleGroups o) (r : o.Ret) :
    o.mark r = none := by
  cases o with
  | enter f =>
      cases f with
      | cycle wr => cases wr <;> exact absurd h (by simp [Off])
      | reportFix b => cases b <;> exact absurd h (by simp [Off])
      | batterySleep site => cases site <;> exact absurd h (by simp [Off])
      | _ => first | rfl | exact absurd h (by simp [Off])
  | leave f r =>
      cases f with
      | powerVbusPresent site =>
          cases site <;> first | rfl | exact absurd h (by simp [Off])
      | surgeActive mc => cases mc <;> exact absurd h (by simp [Off])
      | reportFix b => cases b <;> exact absurd h (by simp [Off])
      | batterySleep site => cases site <;> exact absurd h (by simp [Off])
      | _ => first | rfl | exact absurd h (by simp [Off])
  | funcModeSet m => cases m <;> first | rfl | exact absurd h (by simp [Off])
  | _ => first | rfl | exact absurd h (by simp [Off])

/-- What says nothing keeps the station. -/
theorem on_frame (q : Station) :
    Frame (device cfg) G (Scheduled cfg) (On cfg q) (Off scheduleGroups)
      (Keep []) :=
  (Protocol.silent (C := Off scheduleGroups) (fun _ _ _ => rfl)
    (fun _ h _ _ r => mark_off h r) q).mono (fun _ h => h)
    fun _ _ _ => trivial

/-- A call that says one word leads along it. -/
theorem speak {o : Op} {q : Station} (f : o.Ret → Station)
    (h : ∀ r, ∃ a, o.mark r = some a ∧ q.next cfg a = some (f r)) :
    Triple (device cfg) G (Scheduled cfg) (On cfg q) (call o)
      fun r => On cfg (f r) :=
  Protocol.say (fun _ _ _ => rfl) fun _ _ r => .inl (h r)

/-- A call that says nothing, in whatever group, keeps the station. -/
theorem hush {o : Op} {q : Station} (h : ∀ r, o.mark r = none) :
    Triple (device cfg) G (Scheduled cfg) (On cfg q) (call o)
      fun _ => On cfg q :=
  Protocol.say (fun _ _ _ => rfl) fun _ _ r => .inr ⟨h r, rfl⟩

/-- A function that says one word, when it returns. -/
theorem scope_speaks {α : Type} [Code α] {f : Fn} {p : P α}
    {gs : List Group} {vs : List Var} {q : Station} (next : α → Station)
    (hp : Scoped f gs vs p) (hg : ∀ x ∈ gs, x ∉ scheduleGroups)
    (he : Op.mark (.enter f) () = none)
    (hl : ∀ a : α, ∃ m, Op.mark (.leave f (Code.code a)) () = some m
      ∧ q.next cfg m = some (next a)) :
    Triple (device cfg) G (Scheduled cfg) (On cfg q) p
      fun a => On cfg (next a) :=
  triple_scoped hp (on_frame q) hg (by simp) (hush fun _ => he)
    fun a => speak (fun _ => next a) fun _ => hl a

-- ============================================================ around a cycle

/-- A cycle begins where its wake reason is due. -/
theorem topOfCycle_on (wr : WakeReason) :
    Triple (device cfg) G (Scheduled cfg)
      (On cfg (.resting (Code.code wr))) (topOfCycle wr)
      fun _ => On cfg (if cfg.skipLte then .online else .woken) := by
  refine (speak (fun _ => if cfg.skipLte then .online else .woken)
    fun _ => ⟨_, rfl, ?_⟩).bind fun _ => ?_
  · exact if_pos rfl
  · refine part (on_frame _) (g := [.plain]) (v := [.phase, .batterySleeps])
      ?_ (by simp) (by simp)
    simp [watchdogPhase, watchdogFeed, Var.forall]

/-- Recovery is tended, with a restart before it, or a reboot instead. -/
theorem recoverIfSilent_on :
    Triple (device cfg) G (Scheduled cfg) (On cfg .woken)
      (recoverIfSilent cfg) fun _ => On cfg .tended := by
  have hplain : ∀ q o, group o = .plain → Triple (device cfg) G
      (Scheduled cfg) (On cfg q) (call o) fun _ => On cfg q := fun q _ ho =>
    plain_keeps (on_frame q) ho (by simp)
  have hwrite : ∀ q (f : Statics → Statics), Triple (device cfg) G
      (Scheduled cfg) (On cfg q) (Prog.modify f) fun _ => On cfg q :=
    fun q f => Triple.modify fun w h => ⟨h.follows, h⟩
  have hleave : ∀ q : Station, q = .woken ∨ q = .restarted →
      Triple (device cfg) G (Scheduled cfg) (On cfg q)
        (call (.leave .recoverIfSilent 0)) fun _ => On cfg .tended := by
    rintro q (rfl | rfl) <;> exact speak _ fun _ => ⟨_, rfl, rfl⟩
  refine triple_scope (R := fun _ w =>
    On cfg .woken w ∨ On cfg .restarted w) (hush fun _ => rfl) ?_
    fun _ => (hleave _ (.inl rfl)).or (hleave _ (.inr rfl))
  refine Triple.get fun s => Triple.pre (P := On cfg .woken) ?_
    fun w h => h.1
  refine (hplain _ _ rfl).bind fun now => Triple.ite (fun _ => ?_) fun _ =>
    Triple.ite (fun _ => ?_) fun _ => Triple.ite (fun _ => ?_) fun _ => ?_
  · exact (hwrite _ _).post fun _ _ => .inl
  · exact (hwrite _ _).bind fun _ => (hplain _ _ rfl).bind fun _ =>
      (speak (fun _ => .rebooted) fun _ => ⟨_, rfl, rfl⟩).bind fun _ =>
      Triple.halt
  · exact Triple.ret fun w h => .inl h
  · refine (hwrite _ _).bind fun _ =>
      (speak (fun _ => .restarted) fun _ => ⟨_, rfl, rfl⟩).bind fun _ =>
      (hplain _ _ rfl).bind fun _ => (hush fun _ => rfl).bind fun _ =>
      Triple.ret fun w h => .inr h

/-- A result of 0 and the word for it. -/
private theorem beq_zero (r : Int) : (r == 0) = decide (r = 0) :=
  Bool.beq_eq_decide_eq r 0

/-- The network is up, or the cycle goes to bed. -/
theorem bringUpNetwork_on :
    Triple (device cfg) G (Scheduled cfg)
      (On cfg (if cfg.skipLte then .online else .woken))
      (bringUpNetwork cfg) fun b =>
        On cfg (if b then .online else .bed .noNetwork) := by
  refine Triple.ite (fun h => Triple.ret fun w hw => ?_) fun h => ?_
  · rwa [if_pos h] at hw
  · rw [if_neg h]
    refine recoverIfSilent_on.bind fun _ => (part (on_frame .tended)
      (watchdogPhase_foot _) (by simp) (by simp)).bind fun _ =>
      (scope_speaks (fun r : Int => if r == 0 then .online else .bed .noNetwork)
        (lteEnsureConnected_scoped cfg) (by simp) rfl
        fun r => ⟨_, rfl, rfl⟩).bind fun r => Triple.ret fun w hw => hw

/-- `cloud_resume` says whether the link is up, wherever it is called. -/
theorem cloudResume_on {q : Station} (next : Bool → Station)
    (hn : ∀ b, q.next cfg (.link b) = some (next b)) :
    Triple (device cfg) G (Scheduled cfg) (On cfg q) (cloudResume cfg)
      fun r => On cfg (next (r == 0)) :=
  scope_speaks (fun r : Int => next (r == 0)) (cloudResume_scoped cfg)
    (by simp) rfl fun r => ⟨_, rfl, hn _⟩

/-- A start that fails goes to its own pause. -/
theorem gnssStart_on :
    Triple (device cfg) G (Scheduled cfg) (On cfg .linked) (gnssStart cfg)
      fun r => On cfg
        (if r == 0 then .running .searching else .halted .gnssStart) :=
  scope_speaks (fun r : Int =>
      if r == 0 then .running .searching else .halted .gnssStart)
    (gnssStart_scoped cfg) (by simp) rfl fun r => ⟨_, rfl, rfl⟩

/-- The receiver stops once all is told. -/
theorem gnssStop_on :
    Triple (device cfg) G (Scheduled cfg) (On cfg (.running .done))
      (gnssStop cfg) fun _ => On cfg (.halted .endOfCycle) :=
  scope_speaks (fun _ => .halted .endOfCycle) (gnssStop_scoped cfg)
    (by simp) rfl fun _ => ⟨_, rfl, rfl⟩

/-- The link is released before the sleep. -/
theorem cloudPause_on (site : SleepSite) :
    Triple (device cfg) G (Scheduled cfg) (On cfg (.halted site))
      (cloudPause cfg) fun _ => On cfg (.bed site) :=
  scope_speaks (fun _ => .bed site) (cloudPause_scoped cfg)
    (by simp) rfl fun _ => ⟨_, rfl, rfl⟩

/-- A sleep ends with the next wake reason. -/
theorem batterySleep_on (site : SleepSite) :
    Triple (device cfg) G (Scheduled cfg) (On cfg (.bed site))
      (batterySleep cfg site) fun wr => On cfg (.resting (Code.code wr)) := by
  refine triple_scoped (batterySleep_scoped cfg site) (on_frame .asleep)
    (by simp) (by simp) ?_ fun wr => ?_
  · exact speak (fun _ => .asleep) fun _ => ⟨_, rfl, if_pos rfl⟩
  · exact speak (fun _ => .resting (Code.code wr)) fun _ => ⟨_, rfl, rfl⟩

-- ================================================================= a report

/-- Where the verdict of a send leaves a report. -/
def Delivery.after (again : Bool) (r : Int) : Delivery :=
  if r = 0 then .accepted
  else if !again && refused r then .stale
  else .failed

/-- Where a send leaves its report. -/
theorem sent_after {again taken : Bool} {r : Int} (h : r = 0 → taken = true) :
    Delivery.sent again taken r = some (Delivery.after again r) := by
  unfold Delivery.sent Delivery.after
  by_cases hr : r = 0
  · rw [if_pos hr, if_pos hr, if_pos (h hr)]
  · rw [if_neg hr, if_neg hr]
    split <;> rfl

/-- A send is about to return `r`, and the record allows it. -/
def Verdict (cfg : Config) (b again : Bool) (r : Int) (w : Tracker) : Prop :=
  ∃ d, On cfg (.reporting b d) w
    ∧ (Station.reporting b d).next cfg (.sent again r)
      = some (.reporting b (.after again r))

variable {b again : Bool}

/-- Without a message, only an error is returned, or messages are off. -/
theorem untaken_sends {r : Int} (h : r = 0 → cfg.offlineDebug = true)
    {w : Tracker} (hw : On cfg (.reporting b (.unsent again)) w) :
    Verdict cfg b again r w := by
  refine ⟨_, hw, ?_⟩
  show ((if again = again then Delivery.sent again cfg.offlineDebug r
    else none).map (Station.reporting b)) = _
  rw [if_pos rfl, sent_after h]
  rfl

/-- After a message, 0 is returned only where it was taken. -/
theorem handed_sends {taken : Bool} {r : Int} (h : r = 0 → taken = true)
    {w : Tracker} (hw : On cfg (.reporting b (.handed again taken)) w) :
    Verdict cfg b again r w := by
  refine ⟨_, hw, ?_⟩
  show ((if again = again then Delivery.sent again taken r
    else none).map (Station.reporting b)) = _
  rw [if_pos rfl, sent_after h]
  rfl

/-- A device message is handed over, or the cloud is not connected. -/
theorem nrfSend_on (payload : Text) :
    Triple (device cfg) G (Scheduled cfg)
      (On cfg (.reporting b (.unsent again)))
      (Nrf.cloudSendTelemetry cfg payload) (Verdict cfg b again) := by
  refine (plain_keeps (on_frame _) rfl (by simp)).bind fun t =>
    Triple.ite (fun _ => ?_) fun _ => Triple.ite (fun hoff => ?_) fun _ => ?_
  · exact Triple.ret fun w h => untaken_sends (fun h0 => by cases h0) h
  · exact Triple.ret fun w h => untaken_sends (fun _ => hoff) h
  · refine (speak (fun r : Int => .reporting b (.handed again (r == 0)))
      fun r => ⟨_, rfl, rfl⟩).bind fun r => Triple.ret fun w h => ?_
    refine handed_sends (fun h0 => ?_) h
    unfold Nrf.normalize at h0
    split at h0
    · cases h0
    · rw [h0]
      rfl

/-- A socket may fail before anything is handed over. -/
theorem socketSend_on (envelope : Text) :
    Triple (device cfg) G (Scheduled cfg)
      (On cfg (.reporting b (.unsent again)))
      (Hologram.socketSendEnvelope envelope) (Verdict cfg b again) := by
  have hplain : ∀ d o, group o = .plain → Triple (device cfg) G
      (Scheduled cfg) (On cfg (.reporting b d)) (call o)
      fun _ => On cfg (.reporting b d) := fun d _ ho =>
    plain_keeps (on_frame _) ho (by simp)
  -- whatever the verdict, it outlasts the close
  have hclose : ∀ err : Int, Triple (device cfg) G (Scheduled cfg)
      (Verdict cfg b again err) (do
        let _ ← call (.lib .close)
        pure err) (Verdict cfg b again) := by
    intro err w hw
    obtain ⟨d, hd, hn⟩ := hw
    exact ((hplain d (.lib .close) rfl).bind fun _ =>
      Triple.ret (R := Verdict cfg b again) fun w h => ⟨d, h, hn⟩) w hd
  -- after the send the text is handed over if anything was taken
  have hexchange : Triple (device cfg) G (Scheduled cfg)
      (On cfg (.reporting b (.unsent again))) (Hologram.exchange envelope)
      (Verdict cfg b again) := by
    refine (speak (fun r : Int =>
      .reporting b (.handed again (decide (0 ≤ r)))) fun r =>
      ⟨_, rfl, rfl⟩).bind fun (sent : Int) =>
      Triple.ite (fun hneg => ?_) fun hneg => ?_
    · have hne : sent ≠ 0 := fun h0 => by
        subst h0
        exact absurd hneg (Int.lt_irrefl 0)
      exact Triple.ret fun w h => handed_sends (fun h0 => absurd h0 hne) h
    · have htaken : decide ((0 : Int) ≤ sent) = true := by simpa using hneg
      refine (hplain _ _ rfl).bind fun r => Triple.ite
        (fun _ => Triple.ret fun w h => handed_sends (fun _ => htaken) h)
        fun _ => Triple.ret fun w h => handed_sends (fun _ => htaken) h
  refine (hplain _ _ rfl).bind fun err => Triple.ite
    (fun _ => Triple.ret fun w h => untaken_sends (fun h0 => by cases h0) h)
    fun _ => (hplain _ _ rfl).bind fun (fd : Int) =>
      Triple.ite (fun hfd => ?_) fun _ => ?_
  -- the early returns are errors, so none of them accepts
  · have hne : fd ≠ 0 := fun h0 => by
      subst h0
      exact absurd hfd (Int.lt_irrefl 0)
    exact Triple.ret fun w h => untaken_sends (fun h0 => absurd h0 hne) h
  · refine (hplain _ _ rfl).bind fun err =>
      Triple.ite (fun herr => ?_) fun _ => ?_
    · exact (hclose err).pre fun w h => untaken_sends (fun h0 => absurd h0 herr) h
    · exact (hplain _ _ rfl).bind fun _ => (hplain _ _ rfl).bind fun _ =>
        hexchange.bind hclose

/-- `build_envelope` fails with one error only. -/
theorem buildEnvelope_returns (payload : Text) :
    Returns (S := Calls) (fun r : Except Int Text =>
      ∀ err, r = .error err → err = -ENOMEM)
      (Hologram.buildEnvelope cfg payload) := by
  have herr : ∀ err, (Except.error (-ENOMEM) : Except Int Text) = .error err →
      err = -ENOMEM := fun err h => by
    cases h
    rfl
  refine Returns.call fun r => Returns.ite (fun _ => herr) fun _ =>
    Returns.call fun r => Returns.ite (fun _ => herr) fun _ =>
    Returns.call fun r => Returns.ite (fun _ => herr) fun _ =>
    Returns.call fun r => Returns.ite (fun _ => herr) fun _ =>
    Returns.call fun topic => Returns.call fun list => Returns.call fun r =>
    Returns.ite (fun _ => herr) fun _ => Returns.ret fun err h => ?_
  cases h

/-- And an envelope may not be built. -/
theorem hologramSend_on (payload : Text) :
    Triple (device cfg) G (Scheduled cfg)
      (On cfg (.reporting b (.unsent again)))
      (Hologram.hologramSend cfg payload) (Verdict cfg b again) := by
  refine Triple.bind (R := fun r w =>
      On cfg (.reporting b (.unsent again)) w ∧
        ∀ err, r = .error err → err = -ENOMEM)
    ((part (on_frame _) (buildEnvelope_foot cfg payload) (by simp)
      (by simp)).returns (buildEnvelope_returns payload)) fun r => ?_
  cases r with
  | error err =>
      refine Triple.ret fun w h => untaken_sends (fun h0 => ?_) h.1
      rw [h.2 err rfl] at h0
      cases h0
  | ok envelope =>
      refine Triple.pre (P := On cfg (.reporting b (.unsent again))) ?_
        fun w h => h.1
      refine Triple.ite (fun hoff => ?_) fun _ => Triple.ite (fun _ => ?_)
        fun _ => socketSend_on envelope
      · exact Triple.ret fun w h => untaken_sends (fun _ => hoff) h
      · exact Triple.ret fun w h => untaken_sends (fun h0 => by cases h0) h

/-- A send, over either transport. -/
theorem cloudSend_on (payload : Text) :
    Triple (device cfg) G (Scheduled cfg)
      (On cfg (.reporting b (.unsent again)))
      (cloudSendTelemetry cfg payload) (Verdict cfg b again) := by
  unfold cloudSendTelemetry
  cases cfg.cloudProvider with
  | nrfcloud => exact nrfSend_on payload
  | hologram => exact hologramSend_on payload

/-- A logged send says its verdict. -/
theorem send_on {f : Fn} (he : Op.mark (.enter f) () = none)
    (hl : ∀ r, Op.mark (.leave f r) () = some (.sent again r))
    (payload : Text) :
    Triple (device cfg) G (Scheduled cfg)
      (On cfg (.reporting b (.unsent again)))
      (scope f (cloudSendTelemetry cfg payload))
      fun r => On cfg (.reporting b (.after again r)) := by
  refine triple_scope (hush fun _ => he) (cloudSend_on payload) fun r w hw => ?_
  obtain ⟨d, hd, hn⟩ := hw
  exact speak (fun _ => .reporting b (.after again r))
    (fun _ => ⟨_, hl r, hn⟩) w hd

/-- `report_fix`'s sends, with the link brought up in between where the
first was refused. -/
theorem sendReport_on (payload : Text) :
    Triple (device cfg) G (Scheduled cfg)
      (On cfg (.reporting b (.unsent false))) (sendReport cfg payload)
      fun r => On cfg (.reporting b (if r = 0 then .accepted else .failed)) := by
  refine (send_on rfl (fun _ => rfl) payload).bind fun err => Triple.ite
    (fun hrefused => ?_) fun hrefused => Triple.ret fun w h => ?_
  · have hstale : Delivery.after false err = .stale := by
      have hr : refused err = true := by simpa [refused] using hrefused
      have hne : err ≠ 0 := by
        rcases hrefused with h | h <;> rw [h] <;> decide
      simp [Delivery.after, hr, hne]
    rw [hstale]
    refine (part (on_frame _) (watchdogGuardStart_foot _) (by simp)
      (by simp)).bind fun _ => (cloudResume_on
        (fun up => .reporting b (if up then .unsent true else .failed))
        fun _ => rfl).bind fun err => (part (on_frame _)
      watchdogGuardStop_foot (by simp) (by simp)).bind fun _ =>
      Triple.ite (fun hup => ?_) fun hup => Triple.ret fun w h => ?_
    · subst hup
      refine (send_on rfl (fun _ => rfl) payload).post fun r w h => ?_
      simpa [Delivery.after] using h
    · have hdown : (err == 0) = false := by simpa using hup
      rw [if_neg hup]
      rw [hdown] at h
      exact h
  · have hr : refused err = false := by simpa [refused] using hrefused
    simpa [Delivery.after, hr] using h

/-- The report may end with verdict `r`. -/
def Delivered (cfg : Config) (b : Bool) (r : Int) (w : Tracker) : Prop :=
  ∃ d, On cfg (.reporting b d) w ∧ d.over (r == 0) = true

/-- A location, or none where the build or the transport has none. -/
theorem cloudSendLocation_on (fix : TrackerFix) :
    Triple (device cfg) G (Scheduled cfg)
      (On cfg (.reporting true .accepted)) (cloudSendLocation cfg fix)
      fun _ => Delivered cfg true 0 := by
  have hquiet : ∀ w, On cfg (.reporting true .accepted) w →
      Delivered cfg true 0 w := fun w h => ⟨_, h, rfl⟩
  unfold cloudSendLocation
  cases cfg.cloudProvider with
  | nrfcloud =>
      refine Triple.ite (fun _ => Triple.ret hquiet) fun _ => Triple.ite
        (fun _ => Triple.ret hquiet) fun _ => ?_
      refine (plain_keeps (on_frame _) rfl (by simp)).bind fun t =>
        (speak (fun _ => .reporting true .located) fun _ =>
          ⟨_, rfl, rfl⟩).bind fun r => Triple.ret fun w h => ?_
      exact ⟨_, h, rfl⟩
  | hologram => exact Triple.ret hquiet

/-- A report is delivered at once, at the second send, or not. -/
theorem deliver_on (fix : Option TrackerFix) (payload : Text) :
    Triple (device cfg) G (Scheduled cfg)
      (On cfg (.reporting fix.isSome (.unsent false)))
      (deliver cfg fix payload) (Delivered cfg fix.isSome) := by
  have hfeed : ∀ b (err : Int), Triple (device cfg) G (Scheduled cfg)
      (Delivered cfg b err) (do
        watchdogFeed
        pure err) (Delivered cfg b) := by
    intro b err w hw
    obtain ⟨d, hd, hover⟩ := hw
    exact ((part (on_frame _) watchdogFeed_foot (by simp) (by simp)).bind
      fun _ => Triple.ret (R := Delivered cfg b) fun w h => ⟨d, h, hover⟩) w hd
  refine (sendReport_on payload).bind fun err => Triple.ite (fun h0 => ?_)
    fun h0 => ?_
  · subst h0
    refine (plain_keeps (on_frame _) rfl (by simp)).bind fun now =>
      (part (on_frame _) (g := []) (v := [.lastSendUptime])
        (by simp [Var.forall]) (by simp) (by simp)).bind fun _ => ?_
    cases fix with
    | none => exact (hfeed false 0).pre fun w h => ⟨_, h, rfl⟩
    | some fix => exact (cloudSendLocation_on fix).bind fun _ => hfeed true 0
  · rw [if_neg h0]
    refine (hfeed _ err).pre fun w h => ⟨_, h, ?_⟩
    simpa [Delivery.over] using h0

/-- A report that is due may be made. -/
theorem next_report {h : Hand} {b : Bool} (hdue : h.reports cfg b = true) :
    (Station.running h).next cfg (.report b)
      = some (.reporting b (.unsent false)) := by
  cases h <;> exact if_pos hdue

/-- `report_fix`, where a report is due. -/
theorem reportFix_on {h : Hand} (fix : Option TrackerFix)
    (hdue : h.reports cfg fix.isSome = true) (wakeUptimeMs : Nat)
    (wr : WakeReason) :
    Triple (device cfg) G (Scheduled cfg) (On cfg (.running h))
      (reportFix cfg fix wakeUptimeMs wr)
      fun _ => On cfg (.running .told) := by
  refine report_body (on_frame (.reporting fix.isSome (.unsent false)))
    (by simp) (by simp) (by simp)
    (speak _ fun _ => ⟨_, rfl, next_report hdue⟩)
    (fun w hw => ⟨_, hw, rfl⟩) (deliver_on fix) fun r w hw => ?_
  obtain ⟨d, hd, hover⟩ := hw
  have hn : (Station.reporting fix.isSome d).next cfg (.reported (r == 0))
      = some (.running .told) := if_pos hover
  exact speak (fun _ => .running .told) (fun _ => ⟨_, rfl, hn⟩) w hd

-- ====================================================== while it is running

/-- A wait returns a fix or an error. -/
theorem waitFix_returns (timeoutS : Nat) :
    Returns (S := Calls) (fun r : Except Int TrackerFix =>
      (Code.code r == 0) = r.toOption.isSome) (do
        let s ← Prog.get
        if cfg.gnssExternal ∧ s.active = .external then
          gnssExtWaitFix timeoutS
        else
          gnssModemWaitFix timeoutS) := by
  refine Returns.get fun s => Returns.ite (fun _ => ?_) fun _ => ?_
  · refine Returns.call fun _ => Returns.call fun r => Returns.ite
      (fun _ => Returns.ret rfl) fun _ => Returns.call fun fix => ?_
    exact Returns.ret rfl
  · refine Returns.call fun _ => Returns.call fun r => Returns.ite
      (fun _ => Returns.ret rfl) fun _ => Returns.call fun fix => ?_
    exact Returns.ret rfl

/-- A wait says whether it found a fix. -/
theorem gnssWaitFix_on {h : Hand} (next : Bool → Hand)
    (hn : ∀ b, h.wait b = some (next b)) (timeoutS : Nat) :
    Triple (device cfg) G (Scheduled cfg) (On cfg (.running h))
      (gnssWaitFix cfg timeoutS)
      fun r => On cfg (.running (next r.toOption.isSome)) := by
  have hword : ∀ b, (Station.running h).next cfg (.wait b)
      = some (.running (next b)) := by
    intro b
    have hb := hn b
    cases h <;> exact congrArg (Option.map Station.running) hb
  refine triple_scope (hush fun _ => rfl) ((part (on_frame (.running h))
    (g := [.plain]) (v := []) (by simp [gnssExtWaitFix, gnssModemWaitFix])
    (by simp) (by simp)).returns (waitFix_returns timeoutS)) fun r w hw => ?_
  rw [← hw.2]
  exact speak (fun _ => .running (next (Code.code r == 0)))
    (fun _ => ⟨_, rfl, hword _⟩) w hw.1

/-- The fallback goes on searching. -/
theorem gnssFallback_on :
    Triple (device cfg) G (Scheduled cfg) (On cfg (.running .searching))
      (gnssFallback cfg) fun _ => On cfg (.running .searching) :=
  scope_speaks (fun _ => .running .searching) (gnssFallback_scoped cfg)
    (by simp) rfl fun _ => ⟨_, rfl, rfl⟩

/-- The fetch may end with result `r`. -/
def Fetched (cfg : Config) (r : Int) (w : Tracker) : Prop :=
  ∃ f, On cfg (.fetching f) w ∧ (r = 0 → f = .injected)

/-- A fetch asks, downloads and injects, or stops on the way. -/
theorem fetchAndInject_on :
    Triple (device cfg) G (Scheduled cfg) (On cfg (.fetching .asking))
      (fetchAndInject cfg) (Fetched cfg) := by
  have hfail : ∀ {f : Fetch} {r : Int}, r ≠ 0 → ∀ w,
      On cfg (.fetching f) w → Fetched cfg r w :=
    fun hr w h => ⟨_, h, fun h0 => absurd h0 hr⟩
  refine (plain_keeps (on_frame _) rfl (by simp)).bind fun asked => ?_
  -- without a frame nothing is asked for
  cases agnssFrame cfg asked with
  | none => exact Triple.ret (hfail (by decide))
  | some req =>
      refine (part (on_frame _) servingCellInfoGet_foot (by simp)
        (by simp)).bind fun cell => (speak (fun r : Int =>
          .fetching (if r == 0 then .downloaded else .failed)) fun r =>
          ⟨_, rfl, rfl⟩).bind fun (err : Int) =>
          Triple.ite (fun herr => ?_) fun herr => ?_
      · refine Triple.ret (hfail ?_)
        split
        · exact herr
        · decide
      -- downloaded, and now to be injected
      · rw [Decidable.not_not] at herr
        subst herr
        refine (speak (q := .fetching .downloaded) (fun r : Int =>
          .fetching (if r == 0 then .injected else .failed)) fun r =>
          ⟨_, rfl, rfl⟩).bind fun (err : Int) =>
          Triple.ite (fun herr => Triple.ret (hfail herr)) fun herr => ?_
        rw [Decidable.not_not] at herr
        subst herr
        refine (plain_keeps (on_frame (.fetching .injected)) rfl
          (by simp)).bind fun now => (part (on_frame _) (g := [])
          (v := [.lastFetchUptimeMs]) (by simp [Var.forall]) (by simp)
          (by simp)).bind fun _ => Triple.ret fun w h => ⟨_, h, fun _ => rfl⟩

/-- It is refused by the rate limit or goes through, and the search goes on.
-/
theorem agnssFetchAndInject_on :
    Triple (device cfg) G (Scheduled cfg) (On cfg (.running .searching))
      (agnssFetchAndInject cfg) fun _ => On cfg (.running .searching) := by
  have hfail : ∀ {f : Fetch} {r : Int}, r ≠ 0 → ∀ w,
      On cfg (.fetching f) w → Fetched cfg r w :=
    fun hr w h => ⟨_, h, fun h0 => absurd h0 hr⟩
  have hrest : ∀ {p : P Unit}, Foot [.plain, .modemRun,
      .mark .gnssModemStop] [] p → ∀ r, Triple (device cfg) G
      (Scheduled cfg) (Fetched cfg r) p fun _ => Fetched cfg r := by
    intro p hp r w hw
    obtain ⟨f, hf, h0⟩ := hw
    have hkept : Triple (device cfg) G (Scheduled cfg)
        (On cfg (.fetching f)) p fun _ => Fetched cfg r :=
      (part (on_frame _) hp (by simp) (by simp)).post
        fun _ w h => ⟨f, h, h0⟩
    exact hkept w hf
  -- a restart that fails makes the fetch fail, whatever it brought
  have hrestart : ∀ err : Int, Triple (device cfg) G (Scheduled cfg)
      (Fetched cfg err) (do
        if cfg.agnssStopGnssDuringFetch then
          if (← gnssModemStart cfg .assistance) ≠ 0 then
            pure (- EIO)
          else
            pure err
        else
          pure err) (Fetched cfg) := by
    intro err
    refine Triple.ite (fun _ => ?_) fun _ => Triple.ret fun w h => h
    intro w hw
    obtain ⟨f, hf, h0⟩ := hw
    exact ((part (on_frame _) (gnssModemStart_foot cfg .assistance)
      (by simp) (by simp)).bind fun r => Triple.ite
        (fun _ => Triple.ret (hfail (by decide)))
        fun _ => Triple.ret fun w h => ⟨f, h, h0⟩) w hf
  have hfetch : Triple (device cfg) G (Scheduled cfg)
      (On cfg (.fetching .asking)) (do
        watchdogGuardStart cfg.agnssBudgetSeconds
        let err ← fetchAndInject cfg
        watchdogGuardStop
        if cfg.agnssStopGnssDuringFetch then
          if (← gnssModemStart cfg .assistance) ≠ 0 then
            pure (- EIO)
          else
            pure err
        else
          pure err) (Fetched cfg) :=
    (part (on_frame _) (watchdogGuardStart_foot _) (by simp)
      (by simp)).bind fun _ => fetchAndInject_on.bind fun err =>
      (hrest (watchdogGuardStop_foot.mono (by simp) (by simp)) err).bind
      fun _ => hrestart err
  refine triple_scope (R := Fetched cfg) (speak (fun _ => .fetching .asking)
    fun _ => ⟨_, rfl, rfl⟩) ?_ fun r w hw => ?_
  -- without credentials, or too early, the fetch ends before it begins
  · refine Triple.ite (fun _ => Triple.ret (hfail (by decide))) fun _ =>
      (part (on_frame _) (rateLimited_foot cfg) (by simp)
        (by simp)).bind fun b => Triple.ite
        (fun _ => Triple.ret (hfail (by decide))) fun _ =>
        Triple.ite (fun _ => ?_) fun _ => hfetch
    exact (part (on_frame _) gnssModemStop_foot (by simp) (by simp)).bind
      fun _ => hfetch
  · obtain ⟨f, hf, h0⟩ := hw
    -- a fetch that says 0 was injected, so the word is one that the station
    -- knows
    have hn : (Station.fetching f).next cfg (.fetched (r == 0))
        = some (.running .searching) := by
      refine if_neg ?_
      by_cases hr : r = 0
      · simp [h0 hr]
      · simp [hr]
    exact speak (fun _ => .running .searching) (fun _ => ⟨_, rfl, hn⟩) w hf

/-- Asking the supply, and the surge where there is none. -/
theorem keepReporting_on {h : Hand} {site : VbusSite}
    (hsite : site = .ifCond ∨ site = .whileCond) (hrests : h.rests cfg = true)
    (mc : Bool) :
    Triple (device cfg) G (Scheduled cfg) (On cfg (.running h))
      (keepReporting cfg site mc)
      fun b => On cfg (.running (Hand.keep site b)) := by
  have hlook : ∀ b, (Station.running h).next cfg (.look site b)
      = some (.running (if b then Hand.keep site true else .asked site)) := by
    intro b
    cases h <;> simp [Station.next, Hand.next, hrests]
  have hword : ∀ b : Bool, Op.mark
      (.leave (.powerVbusPresent site) (Code.code b)) ()
      = some (.look site b) := by
    intro b
    rcases hsite with rfl | rfl <;> cases b <;> rfl
  have hmark : Group.mark (.surgeActive mc) ∈ scheduleGroups := by
    cases mc <;> simp
  refine (scope_speaks (fun b : Bool => .running
    (if b then Hand.keep site true else .asked site))
    (powerVbusPresent_scoped site) (by simp) rfl
    fun b => ⟨_, hword b, hlook b⟩).bind fun b => Triple.ite
    (fun hb => Triple.ret fun w hw => ?_) fun hb => ?_
  · rwa [if_pos hb] at hw
  · rw [if_neg hb]
    refine scope_speaks (fun b : Bool => .running (Hand.keep site b))
      (surgeActive_scoped cfg mc) (by simp) rfl fun b => ⟨_, rfl, ?_⟩
    cases b <;> rfl

-- ================================================================== the walk

/-- Nothing is left to be reported. -/
def Rested (cfg : Config) (w : Tracker) : Prop :=
  ∃ h : { h : Hand // h.rests cfg = true }, On cfg (.running h) w

/-- A hand at rest stays so through what says nothing. -/
theorem rested_frame :
    Frame (device cfg) G (Scheduled cfg) (Rested cfg) (Off scheduleGroups)
      (Keep []) :=
  Frame.exists fun _ => on_frame _

/-- A station at rest. -/
theorem rested {h : Hand} (hr : h.rests cfg = true) {w : Tracker}
    (hw : On cfg (.running h) w) : Rested cfg w := ⟨⟨h, hr⟩, hw⟩

/-- A look at the supply decides, and the surge where it found none. -/
theorem keepReporting_rested {site : VbusSite}
    (hsite : site = .ifCond ∨ site = .whileCond) (mc : Bool) :
    Triple (device cfg) G (Scheduled cfg) (Rested cfg)
      (keepReporting cfg site mc)
      fun b => On cfg (.running (Hand.keep site b)) := by
  intro w hw
  obtain ⟨h, hw⟩ := hw
  exact keepReporting_on hsite h.2 mc w hw

/-- What is owed for the functions that `main` calls while the receiver
runs. -/
theorem schedule_inHand (wakeUptimeMs : Nat) (wr : WakeReason) :
    InHand cfg G (Scheduled cfg) (On cfg (.running .searching))
      (On cfg (.running .empty)) (Rested cfg) (On cfg (.running .pass))
      (On cfg (.running .pass)) (On cfg (.running .done))
      (fun _ => On cfg (.running .found)) wakeUptimeMs wr where
  searches := quiet_standby (on_frame _) (by simp) (by simp)
  empties := quiet_standby (on_frame _) (by simp) (by simp)
  helds _ := quiet_standby (on_frame _) (by simp) (by simp)
  tolds := quiet_standby rested_frame (by simp) (by simp)
  passes := quiet_standby (on_frame _) (by simp) (by simp)
  parks := quiet_standby (on_frame _) (by simp) (by simp)
  request := request_keeps (quiet_unguarded (on_frame _) (by simp) (by simp))
  fetch := agnssFetchAndInject_on.pre fun _ h => h.1
  wait t := (gnssWaitFix_on (fun b => if b then .found else .searching)
    (fun _ => rfl) t).post fun r w h => by
      cases r with
      | ok fix => exact h
      | error err => exact h
  fallback := gnssFallback_on
  settle _ := gnssWaitFix_on (fun _ => .found) (fun _ => rfl) 5
  report fix := (reportFix_on (some fix) rfl wakeUptimeMs wr).post
    fun _ _ h => rested rfl h
  reportNone hforce := by
    -- a report without a fix is due after the search as after an empty pass
    have hdue : ∀ h : Hand, h.reports cfg false = true →
        Triple (device cfg) G (Scheduled cfg) (On cfg (.running h))
          (reportFix cfg none wakeUptimeMs wr) fun _ => Rested cfg :=
      fun h hd => (reportFix_on none hd wakeUptimeMs wr).post
        fun _ _ h => rested rfl h
    exact (hdue .searching (by simp [Hand.reports, hforce])).or
      (hdue .empty (by simp [Hand.reports, hforce]))
  unreported hforce w h := by
    rcases h with h | h <;> exact rested (by simp [Hand.rests, hforce]) h
  ledTold b := part rested_frame (statusLedReport_foot cfg b) (by simp)
    (by simp)
  keepIf := (keepReporting_rested (.inl rfl) _).post fun b w h => by
    cases b with
    | true => exact rested rfl h
    | false => exact h
  logLine := part rested_frame (powerVbusPresent_foot _) (by simp) (by simp)
  keepWhile := (keepReporting_rested (.inr rfl) _).post fun b w h => by
    cases b with
    | true => exact h
    | false => exact h
  holdOff := part (on_frame _) (holdOffMotion_foot cfg) (by simp) (by simp)
  waitPass := (gnssWaitFix_on (fun b => if b then .found else .empty)
    (fun _ => rfl) 10).post fun r w h => by
      cases r with
      | ok fix => exact h
      | error err => exact h

/-- The station at each place of `main`; once told, any that rests. -/
def scheduleAt (cfg : Config) : Place → Tracker → Prop
  | .boot => On cfg (.resting (Code.code WakeReason.boot))
  | .top wr => On cfg (.resting (Code.code wr))
  | .during _ _ .woken => On cfg (if cfg.skipLte then .online else .woken)
  | .during _ _ .awake | .during _ _ .guarded => On cfg .online
  | .during _ _ .resumed | .during _ _ .on => On cfg .linked
  | .during _ _ .run => On cfg (.running .searching)
  | .during _ _ (.ready fix) =>
      waited (On cfg (.running .searching))
        (fun _ => On cfg (.running .found)) fix
  | .during _ _ .told => Rested cfg
  | .during _ _ .pass => On cfg (.running .pass)
  | .during _ _ .done => On cfg (.running .done)
  | .cut => On cfg (.bed .noNetwork)
  | .off site => On cfg (.halted site)
  | .bed site => On cfg (.bed site)

/-- Every place is kept by what says nothing. -/
theorem scheduleAt_frame (pl : Place) :
    Frame (device cfg) G (Scheduled cfg) (scheduleAt cfg pl)
      (Off scheduleGroups) (Keep []) := by
  cases pl with
  | during u wr stage =>
      cases stage with
      | ready fix => cases fix <;> exact on_frame _
      | told => exact rested_frame
      | _ => exact on_frame _
  | _ => exact on_frame _

/-- The station at every place of `main`. -/
theorem schedule_walk :
    Walk cfg G (Scheduled cfg) (scheduleAt cfg) where
  gives := (scheduleAt_frame (G := G) .boot).gives
  phase pl p := part (scheduleAt_frame pl) (watchdogPhase_foot p) (by simp)
    (by simp)
  setUp := (part (scheduleAt_frame .boot) setUp_foot (by simp)
    (by simp)).post fun _ _ h _ => h
  topOfCycle := topOfCycle_on
  network _ _ := bringUpNetwork_on.post fun b w h => by
    -- without a network the station is at the sleep
    cases b with
    | true => exact h
    | false => exact h
  ledCut := part (on_frame _) (statusLedSet_foot cfg .noLte) (by simp)
    (by simp)
  guardStart _ _ := part (on_frame _) (watchdogGuardStart_foot _) (by simp)
    (by simp)
  resume _ _ := cloudResume_on (fun _ => .linked) fun _ => rfl
  guardStop _ _ := part (on_frame _) watchdogGuardStop_foot (by simp)
    (by simp)
  ledOn _ _ := part (on_frame _) (statusLedReport_foot cfg false) (by simp)
    (by simp)
  start _ _ := gnssStart_on.post fun r w h => by
    by_cases hr : r = 0
    · rw [if_pos hr]
      rwa [beq_zero, decide_eq_true hr] at h
    · rw [if_neg hr]
      rwa [beq_zero, decide_eq_false hr] at h
  acquire u wr := (schedule_inHand u wr).acquire
  firstReport u wr := (schedule_inHand u wr).firstReport
  keepIf u wr := (schedule_inHand u wr).keepIf
  logLine u wr := (schedule_inHand u wr).logLine
  keepWhile u wr := (schedule_inHand u wr).keepWhile
  frequentPass u wr := (schedule_inHand u wr).frequentPass
  stop _ _ := gnssStop_on
  pause := cloudPause_on
  sleep := batterySleep_on

end Main

/-- And so of every run. -/
theorem schedule_reach {n fuel : Nat} {w : Tracker} (hboot : w.log = [])
    {c : P Int × Tracker}
    (hr : Reach (device cfg) (main cfg n fuel) w c) : Scheduled cfg c.2 := by
  have hstart : On cfg (.resting (Code.code WakeReason.boot)) w := by
    show (schedule cfg).run (said mark w.log) = _
    rw [hboot]
    rfl
  exact schedule_walk.reach hstart hr (always_free c.2.log)

/-- Every run of `main` follows the schedule. -/
theorem main_follows_schedule {n fuel : Nat} {w : Tracker}
    (hboot : w.log = []) {c : P Int × Tracker}
    (hr : Reach (device cfg) (main cfg n fuel) w c) :
    ∃ q, (schedule cfg).run (marks c.2.log) = some q :=
  schedule_reach cfg hboot hr

/-- A cycle with two reports, and back to sleep. -/
theorem main_follows_schedule_sighted :
    let c := playMain hurried sighted 1 2 400
    (marks c.2.log).head? = some (.woke 1) ∧
    ∃ q, (schedule hurried).run (marks c.2.log) = some q :=
  ⟨by decide +kernel,
    main_follows_schedule hurried rfl (playMain_reach hurried sighted 1 2 400)⟩

end GpsTracker
