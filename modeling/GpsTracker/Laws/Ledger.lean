/-
What the schedule says of the order and the number of things.

`main_follows_schedule` turns a question about `main` and everything
around it into one about a finite automaton. This module reads the
answers off: what is counted over a whole run (`ledger`), that no fix is
lost between the wait that found it and its report (`fixes_reported`),
and that a cycle reports again only with a cause (`reports_have_cause`).

# The argument

`Allowed` lists once what one word can do. Each law names an invariant of
record and station, shows that every allowed word keeps it, and reads the
law off the invariant; `Protocol.invariant` is the induction.
-/
import GpsTracker.Laws.Schedule

namespace GpsTracker

open Proc

variable {cfg : Config}

-- =================================================================== one word

/-- What a word can do, one constructor for each place it can lead to. -/
inductive Allowed (cfg : Config) : Station → Mark → Station → Prop
  | cycle (wr : WakeReason) (h : cfg.skipLte = false) :
      Allowed cfg (.resting (Code.code wr)) (.cycle wr) .woken
  | cycleNoLte (wr : WakeReason) (h : cfg.skipLte = true) :
      Allowed cfg (.resting (Code.code wr)) (.cycle wr) .online
  | restart : Allowed cfg .woken .restart .restarted
  | reboot : Allowed cfg .woken .reboot .rebooted
  | tended : Allowed cfg .woken .tended .tended
  | tendedRestarted : Allowed cfg .restarted .tended .tended
  | network : Allowed cfg .tended (.network true) .online
  | noNetwork : Allowed cfg .tended (.network false) (.bed .noNetwork)
  | link (up : Bool) : Allowed cfg .online (.link up) .linked
  | start : Allowed cfg .linked (.start true) (.running .searching)
  | noStart : Allowed cfg .linked (.start false) (.halted .gnssStart)
  | fallback :
      Allowed cfg (.running .searching) .fallback (.running .searching)
  | fetch : Allowed cfg (.running .searching) .fetch (.fetching .asking)
  | download :
      Allowed cfg (.fetching .asking) (.download true) (.fetching .downloaded)
  | noDownload :
      Allowed cfg (.fetching .asking) (.download false) (.fetching .failed)
  | inject :
      Allowed cfg (.fetching .downloaded) (.inject true) (.fetching .injected)
  | noInject :
      Allowed cfg (.fetching .downloaded) (.inject false) (.fetching .failed)
  | fetched :
      Allowed cfg (.fetching .injected) (.fetched true) (.running .searching)
  | notFetched (f : Fetch) :
      Allowed cfg (.fetching f) (.fetched false) (.running .searching)
  | wait {h h' : Hand} {found : Bool} (hw : h.wait found = some h') :
      Allowed cfg (.running h) (.wait found) (.running h')
  | report {h : Hand} {b : Bool} (hr : h.reports cfg b = true) :
      Allowed cfg (.running h) (.report b) (.reporting b (.unsent false))
  | lookPass {h : Hand} (hr : h.rests cfg = true) :
      Allowed cfg (.running h) (.look .whileCond true) (.running .pass)
  | look {h : Hand} {site : VbusSite} (hr : h.rests cfg = true)
      (hs : site ≠ .whileCond) :
      Allowed cfg (.running h) (.look site true) (.running .told)
  | lookAway {h : Hand} {site : VbusSite} (hr : h.rests cfg = true) :
      Allowed cfg (.running h) (.look site false) (.running (.asked site))
  | surgePass :
      Allowed cfg (.running (.asked .whileCond)) (.surge true) (.running .pass)
  | surge {site : VbusSite} (hs : site ≠ .whileCond) :
      Allowed cfg (.running (.asked site)) (.surge true) (.running .told)
  | noSurge (site : VbusSite) :
      Allowed cfg (.running (.asked site)) (.surge false) (.running .done)
  | message (b again taken : Bool) :
      Allowed cfg (.reporting b (.unsent again)) (.message taken)
        (.reporting b (.handed again taken))
  | spared (b again : Bool) (h : cfg.offlineDebug = true) :
      Allowed cfg (.reporting b (.unsent again)) (.sent again 0)
        (.reporting b .accepted)
  | accepted (b again : Bool) :
      Allowed cfg (.reporting b (.handed again true)) (.sent again 0)
        (.reporting b .accepted)
  | unsent {b again : Bool} {r : Int} {d : Delivery} (hr : r ≠ 0)
      (hd : d = .stale ∧ again = false ∨ d = .failed) :
      Allowed cfg (.reporting b (.unsent again)) (.sent again r)
        (.reporting b d)
  | refused {b again taken : Bool} {r : Int} {d : Delivery} (hr : r ≠ 0)
      (hd : d = .stale ∧ again = false ∨ d = .failed) :
      Allowed cfg (.reporting b (.handed again taken)) (.sent again r)
        (.reporting b d)
  | relink (b : Bool) :
      Allowed cfg (.reporting b .stale) (.link true)
        (.reporting b (.unsent true))
  | noLink (b : Bool) :
      Allowed cfg (.reporting b .stale) (.link false) (.reporting b .failed)
  | location :
      Allowed cfg (.reporting true .accepted) .location
        (.reporting true .located)
  | reported {b ok : Bool} {d : Delivery} (h : d.over ok = true) :
      Allowed cfg (.reporting b d) (.reported ok) (.running .told)
  | stop : Allowed cfg (.running .done) .stop (.halted .endOfCycle)
  | pause (site : SleepSite) :
      Allowed cfg (.halted site) .pause (.bed site)
  | sleep (site : SleepSite) :
      Allowed cfg (.bed site) (.sleep site) .asleep
  | woke (code : Int) : Allowed cfg .asleep (.woke code) (.resting code)

/-- While the receiver runs, hand by hand. -/
private theorem hand_allowed {h : Hand} {m : Mark} {q : Station}
    (hn : Hand.next cfg h m = some q) : Allowed cfg (.running h) m q := by
  unfold Hand.next at hn
  -- one case for each line of `Hand.next`, in its order
  split at hn
  · cases hn
    exact .fallback
  · cases hn
    exact .fetch
  · next site b =>
    cases hn
    unfold Hand.keep
    cases b with
    | false => exact .noSurge site
    | true =>
        -- at the loop's own condition the pass goes on, at the `if` before it
        -- the loop is entered
        by_cases hs : site = .whileCond
        · subst hs
          exact .surgePass
        · rw [if_neg hs]
          exact .surge hs
  · cases hn
    exact .stop
  · obtain ⟨h', hw, rfl⟩ := Option.map_eq_some_iff.mp hn
    exact .wait hw
  · split at hn
    next hr =>
      cases hn
      exact .report hr
    next => cases hn
  · next site b =>
    split at hn
    next hr =>
      cases hn
      unfold Hand.keep
      cases b with
      | false => exact .lookAway hr
      | true =>
          by_cases hs : site = .whileCond
          · subst hs
            exact .lookPass hr
          · rw [if_neg hs]
            exact .look hr hs
    next => cases hn
  · cases hn

/-- How a send may leave a report. -/
private theorem sent_cases {again taken : Bool} {r : Int} {d : Delivery}
    (h : Delivery.sent again taken r = some d) :
    r = 0 ∧ taken = true ∧ d = .accepted
      ∨ r ≠ 0 ∧ (d = .stale ∧ again = false ∨ d = .failed) := by
  unfold Delivery.sent at h
  split at h
  next hr =>
    split at h
    next ht =>
      cases h
      exact .inl ⟨hr, ht, rfl⟩
    next => cases h
  next hr =>
    split at h
    next hst =>
      cases h
      rw [Bool.and_eq_true, Bool.not_eq_true'] at hst
      exact .inr ⟨hr, .inl ⟨rfl, hst.1⟩⟩
    next =>
      cases h
      exact .inr ⟨hr, .inr rfl⟩

/-- While a report is delivered. -/
private theorem delivery_allowed {b : Bool} {d d' : Delivery} {m : Mark}
    (hn : Delivery.next cfg b d m = some d') :
    Allowed cfg (.reporting b d) m (.reporting b d') := by
  unfold Delivery.next at hn
  split at hn
  · cases hn
    exact .message _ _ _
  · split at hn
    next ha =>
      subst ha
      rcases sent_cases hn with ⟨rfl, hoff, rfl⟩ | ⟨hr, hd⟩
      · exact .spared b _ hoff
      · exact .unsent hr hd
    next => cases hn
  · split at hn
    next ha =>
      subst ha
      rcases sent_cases hn with ⟨rfl, rfl, rfl⟩ | ⟨hr, hd⟩
      · exact .accepted b _
      · exact .refused hr hd
    next => cases hn
  · next up =>
    cases hn
    cases up with
    | false => exact .noLink b
    | true => exact .relink b
  · split at hn
    next hb =>
      cases hn
      rw [hb]
      exact .location
    next => cases hn
  · cases hn

/-- While assistance is fetched. -/
private theorem fetch_allowed {f f' : Fetch} {m : Mark}
    (hn : f.next m = some f') :
    Allowed cfg (.fetching f) m (.fetching f') := by
  unfold Fetch.next at hn
  split at hn
  · next ok =>
    cases hn
    cases ok with
    | false => exact .noDownload
    | true => exact .download
  · next ok =>
    cases hn
    cases ok with
    | false => exact .noInject
    | true => exact .inject
  · cases hn

/-- What a word leads to, it is allowed to. -/
theorem next_allowed {q q' : Station} {m : Mark}
    (hn : q.next cfg m = some q') : Allowed cfg q m q' := by
  unfold Station.next at hn
  -- one case for each line of `Station.next`, in its order
  split at hn
  · split at hn
    next h =>
      cases hn
      rw [h]
      -- a build without LTE goes on at once
      split
      next hlte => exact .cycleNoLte _ hlte
      next hlte => exact .cycle _ (by simpa using hlte)
    next => cases hn
  · cases hn
    exact .restart
  · cases hn
    exact .reboot
  · cases hn
    exact .tended
  · cases hn
    exact .tendedRestarted
  · next up =>
    cases hn
    cases up with
    | false => exact .noNetwork
    | true => exact .network
  · cases hn
    exact .link _
  · next ok =>
    cases hn
    cases ok with
    | false => exact .noStart
    | true => exact .start
  · exact hand_allowed hn
  · next f ok =>
    cases ok with
    | false =>
        cases hn
        exact .notFetched f
    | true =>
        -- only a fetch that injected says that it succeeded
        cases f with
        | injected =>
            cases hn
            exact .fetched
        | _ => cases hn
  · obtain ⟨f', hf, rfl⟩ := Option.map_eq_some_iff.mp hn
    exact fetch_allowed hf
  · split at hn
    next h =>
      cases hn
      exact .reported h
    next => cases hn
  · obtain ⟨d', hd, rfl⟩ := Option.map_eq_some_iff.mp hn
    exact delivery_allowed hd
  · cases hn
    exact .pause _
  · split at hn
    next h =>
      cases hn
      rw [h]
      exact .sleep _
    next => cases hn
  · cases hn
    exact .woke _
  · cases hn

-- ================================================================= the counts

namespace Mark

def isCycle : Mark → Bool
  | .cycle _ => true
  | _ => false

def isSleep : Mark → Bool
  | .sleep _ => true
  | _ => false

def isReport : Mark → Bool
  | .report _ => true
  | _ => false

def isMessage : Mark → Bool
  | .message _ => true
  | _ => false

/-- A send that `report_fix` takes for a success. -/
def isAccepted : Mark → Bool
  | .sent _ r => r == 0
  | _ => false

def isDownload : Mark → Bool
  | .download _ => true
  | _ => false

def isInject : Mark → Bool
  | .inject _ => true
  | _ => false

end Mark

namespace Station

/-- Whether a cycle has begun and not gone to sleep. -/
def inCycle : Station → Bool
  | .resting _ | .asleep => false
  | _ => true

/-- Whether the receiver was started and not stopped. -/
def receiving : Station → Bool
  | .running _ | .fetching _ | .reporting .. => true
  | _ => false

/-- How many messages the report may still hand over. -/
def left : Station → Nat
  | .reporting _ (.unsent false) => 2
  | .reporting _ (.unsent true) => 1
  | .reporting _ (.handed false _) => 1
  | .reporting _ .stale => 1
  | _ => 0

/-- Whether a message was taken and the verdict on it is still out. -/
def taken : Station → Bool
  | .reporting _ (.handed _ taken) => taken
  | _ => false

/-- Whether the location may still be shared. -/
def shares : Station → Bool
  | .reporting _ .accepted => true
  | _ => false

/-- Whether a report was accepted and is not over. -/
def accepted : Station → Bool
  | .reporting _ .accepted | .reporting _ .located => true
  | _ => false

end Station

/-- What the words of a run balance to. -/
structure Ledger (cfg : Config) (l : List Mark) : Prop where
  sleeps : l.countP Mark.isSleep ≤ l.countP Mark.isCycle
  cycles : l.countP Mark.isCycle ≤ l.countP Mark.isSleep + 1
  restarts : l.count .restart ≤ l.countP Mark.isCycle
  stops : l.count .stop ≤ l.count (.start true)
  starts : l.count (.start true) ≤ l.count .stop + 1
  messages : l.countP Mark.isMessage ≤ 2 * l.countP Mark.isReport
  accepted : cfg.offlineDebug = false →
    l.countP Mark.isAccepted ≤ l.count (.message true)
  reported : l.count (.reported true) ≤ l.countP Mark.isAccepted
  locations : l.count .location ≤ l.countP Mark.isAccepted
  downloads : l.countP Mark.isDownload ≤ l.count .fetch
  injects : l.countP Mark.isInject ≤ l.count (.download true)
  fetched : l.count (.fetched true) ≤ l.count (.inject true)

section

variable {l : List Mark} {q : Station}

/-- `Protocol.credit` for the schedule, with one case for each place a word
can lead to. -/
theorem schedule_credit {p r : Mark → Bool} {k : Nat} (g : Station → Nat)
    (hs : ∀ q m q', Allowed cfg q m q' →
      (if p m then 1 else 0) + g q' ≤ g q + (if r m then k else 0))
    (h : (schedule cfg).run l = some q) :
    l.countP p ≤ g (.resting 0) + k * l.countP r :=
  Nat.le_of_add_right_le
    (Protocol.credit (fun q m q' hn => hs q m q' (next_allowed hn)) h)

/-- A sleep needs a cycle before it. -/
theorem sleeps_credit (h : (schedule cfg).run l = some q) :
    l.countP Mark.isSleep ≤ l.countP Mark.isCycle := by
  have hc := schedule_credit (p := Mark.isSleep) (r := Mark.isCycle)
    (k := 1) (fun q => q.inCycle.toNat) ?_ h
  · simpa [Station.inCycle] using hc
  · intro q m q' hq
    cases hq <;> simp [Mark.isSleep, Mark.isCycle, Station.inCycle]

/-- A cycle, after the first, a sleep. -/
theorem cycles_credit (h : (schedule cfg).run l = some q) :
    l.countP Mark.isCycle ≤ l.countP Mark.isSleep + 1 := by
  have hc := schedule_credit (p := Mark.isCycle) (r := Mark.isSleep)
    (k := 1) (fun q => (!q.inCycle).toNat) ?_ h
  · simpa [Station.inCycle, Nat.add_comm] using hc
  · intro q m q' hq
    cases hq <;> simp [Mark.isSleep, Mark.isCycle, Station.inCycle]

/-- The modem is restarted once a cycle at most. -/
theorem restarts_credit (h : (schedule cfg).run l = some q) :
    l.count .restart ≤ l.countP Mark.isCycle := by
  have hc := schedule_credit (p := (· == .restart)) (r := Mark.isCycle)
    (k := 1) (fun q => (decide (q = .woken)).toNat) ?_ h
  · simpa [List.count] using hc
  · intro q m q' hq
    cases hq <;> simp [Mark.isCycle]

/-- A receiver that is stopped was started. -/
theorem stops_credit (h : (schedule cfg).run l = some q) :
    l.count .stop ≤ l.count (.start true) := by
  have hc := schedule_credit (p := (· == .stop)) (r := (· == .start true))
    (k := 1) (fun q => q.receiving.toNat) ?_ h
  · simpa [Station.receiving, List.count] using hc
  · intro q m q' hq
    cases hq <;> simp [Station.receiving]

/-- And one that is started was stopped, but for the last. -/
theorem starts_credit (h : (schedule cfg).run l = some q) :
    l.count (.start true) ≤ l.count .stop + 1 := by
  have hc := schedule_credit (p := (· == .start true)) (r := (· == .stop))
    (k := 1) (fun q => (!q.receiving).toNat) ?_ h
  · simpa [Station.receiving, List.count, Nat.add_comm] using hc
  · intro q m q' hq
    cases hq <;> simp [Station.receiving]

/-- A report hands over its message at most twice: the retry is worth one
more. -/
theorem messages_credit (h : (schedule cfg).run l = some q) :
    l.countP Mark.isMessage ≤ 2 * l.countP Mark.isReport := by
  have hc := schedule_credit (p := Mark.isMessage) (r := Mark.isReport)
    (k := 2) Station.left ?_ h
  · simpa [Station.left] using hc
  · intro q m q' hq
    cases hq with
    | message b again taken =>
        cases again <;> simp [Mark.isMessage, Mark.isReport, Station.left]
    | unsent hr hd | refused hr hd =>
        rcases hd with ⟨rfl, rfl⟩ | rfl <;>
          simp [Mark.isMessage, Mark.isReport, Station.left]
    | _ => simp [Mark.isMessage, Mark.isReport, Station.left]

/-- A send that succeeds had its message taken. -/
theorem accepted_credit (hoff : cfg.offlineDebug = false)
    (h : (schedule cfg).run l = some q) :
    l.countP Mark.isAccepted ≤ l.count (.message true) := by
  have hc := schedule_credit (p := Mark.isAccepted)
    (r := (· == .message true)) (k := 1) (fun q => q.taken.toNat) ?_ h
  · simpa [Station.taken, List.count] using hc
  · intro q m q' hq
    cases hq with
    | spared b again h =>
        rw [hoff] at h
        cases h
    | message b again taken =>
        cases taken <;> simp [Mark.isAccepted, Station.taken]
    | unsent hr hd | refused hr hd =>
        rcases hd with ⟨rfl, rfl⟩ | rfl <;>
          simp [Mark.isAccepted, Station.taken, hr]
    | _ => simp [Mark.isAccepted, Station.taken]

/-- A report that succeeds had its send accepted. -/
theorem reported_credit (h : (schedule cfg).run l = some q) :
    l.count (.reported true) ≤ l.countP Mark.isAccepted := by
  have hc := schedule_credit (p := (· == .reported true))
    (r := Mark.isAccepted) (k := 1) (fun q => q.accepted.toNat) ?_ h
  · simpa [Station.accepted, List.count] using hc
  · intro q m q' hq
    cases hq with
    | @reported b ok d h =>
        cases ok <;> cases d <;>
          simp_all [Mark.isAccepted, Station.accepted, Delivery.over]
    | unsent hr hd | refused hr hd =>
        rcases hd with ⟨rfl, rfl⟩ | rfl <;>
          simp [Mark.isAccepted, Station.accepted, hr]
    | _ => simp [Mark.isAccepted, Station.accepted]

/-- A location follows an accepted send. -/
theorem locations_credit (h : (schedule cfg).run l = some q) :
    l.count .location ≤ l.countP Mark.isAccepted := by
  have hc := schedule_credit (p := (· == .location)) (r := Mark.isAccepted)
    (k := 1) (fun q => q.shares.toNat) ?_ h
  · simpa [Station.shares, List.count] using hc
  · intro q m q' hq
    cases hq with
    | unsent hr hd | refused hr hd =>
        rcases hd with ⟨rfl, rfl⟩ | rfl <;>
          simp [Mark.isAccepted, Station.shares, hr]
    | _ => simp [Mark.isAccepted, Station.shares]

/-- A download needs a fetch. -/
theorem downloads_credit (h : (schedule cfg).run l = some q) :
    l.countP Mark.isDownload ≤ l.count .fetch := by
  have hc := schedule_credit (p := Mark.isDownload) (r := (· == .fetch))
    (k := 1) (fun q => (decide (q = .fetching .asking)).toNat) ?_ h
  · simpa [List.count] using hc
  · intro q m q' hq
    cases hq <;> simp [Mark.isDownload]

/-- An injection a download. -/
theorem injects_credit (h : (schedule cfg).run l = some q) :
    l.countP Mark.isInject ≤ l.count (.download true) := by
  have hc := schedule_credit (p := Mark.isInject)
    (r := (· == .download true)) (k := 1)
    (fun q => (decide (q = .fetching .downloaded)).toNat) ?_ h
  · simpa [List.count] using hc
  · intro q m q' hq
    cases hq <;> simp [Mark.isInject]

/-- A fetch that succeeds an injection. -/
theorem fetched_credit (h : (schedule cfg).run l = some q) :
    l.count (.fetched true) ≤ l.count (.inject true) := by
  have hc := schedule_credit (p := (· == .fetched true))
    (r := (· == .inject true)) (k := 1)
    (fun q => (decide (q = .fetching .injected)).toNat) ?_ h
  · simpa [List.count] using hc
  · intro q m q' hq
    cases hq <;> simp

/-- The books, all in one. -/
theorem schedule_ledger (h : (schedule cfg).Accepts l) : Ledger cfg l := by
  obtain ⟨q, hq⟩ := h
  exact
    { sleeps := sleeps_credit hq
      cycles := cycles_credit hq
      restarts := restarts_credit hq
      stops := stops_credit hq
      starts := starts_credit hq
      messages := messages_credit hq
      accepted := fun hoff => accepted_credit hoff hq
      reported := reported_credit hq
      locations := locations_credit hq
      downloads := downloads_credit hq
      injects := injects_credit hq
      fetched := fetched_credit hq }

-- ================================================================== the order

/-- `Protocol.Accepts.each` for the schedule. -/
theorem schedule_each {φ : Mark → List Mark → Prop}
    (h : (schedule cfg).Accepts l)
    (hs : ∀ l q m q', (schedule cfg).run l = some q → Allowed cfg q m q' →
      φ m l) : Each φ l :=
  h.each fun l q m q' hq hn => hs l q m q' hq (next_allowed hn)

/-- `Protocol.invariant` for the schedule. -/
theorem schedule_invariant {I : List Mark → Station → Prop}
    (h₀ : I [] (.resting 0))
    (hs : ∀ l q m q', I l q → Allowed cfg q m q' → I (m :: l) q')
    (h : (schedule cfg).run l = some q) : I l q :=
  Protocol.invariant h₀ (fun l q m q' hI hn => hs l q m q' hI
    (next_allowed hn)) h

/-- A wait has found a fix and no report was made since. -/
def owesFix : List Mark → Bool
  | [] => false
  | .wait true :: _ => true
  | .report _ :: _ => false
  | _ :: l => owesFix l

/-- What a word does about a fix that is owed: a report carries it, and
nothing else is decided or done with the receiver before. -/
def paysFix : Mark → List Mark → Bool
  | .report b, l => b == owesFix l
  | .look .., l | .fallback, l | .fetch, l | .stop, l | .pause, l
  | .sleep _, l | .cycle _, l => !owesFix l
  | _, _ => true

/-- A fix is owed exactly at the station that has one in hand. -/
theorem owesFix_station (h : (schedule cfg).run l = some q) :
    owesFix l = decide (q = .running .found) := by
  refine schedule_invariant (I := fun l q =>
    owesFix l = decide (q = .running .found)) rfl ?_ h
  intro l q m q' hI hq
  cases hq with
  | @wait h h' found hw =>
      cases h <;> cases found <;> simp_all [owesFix, Hand.wait]
      all_goals subst hw; simp
  | report hr => simp [owesFix]
  | @look h site hr hs | @lookAway h site hr | @lookPass h hr =>
      cases h <;> simp_all [owesFix, Hand.rests]
  | _ => simpa [owesFix] using hI

/-- Each report with a fix follows a wait that found it. -/
theorem schedule_pays (h : (schedule cfg).Accepts l) :
    Each (fun m l => paysFix m l = true) l := by
  refine schedule_each h fun l q m q' hq hm => ?_
  have howed := owesFix_station hq
  cases hm with
  | @report hand b hr =>
      cases hand <;> cases b <;> simp_all [paysFix, Hand.reports]
  | @look hand site hr hs | @lookAway hand site hr | @lookPass hand hr =>
      cases hand <;> simp_all [paysFix, Hand.rests]
  | _ => simp_all [paysFix]

/-- Since the cycle began or the last report was made, power was seen at the
head of the frequent loop or the surge was found active; the beginning of a
cycle is a cause, too. -/
def hasCause : List Mark → Bool
  | [] => false
  | .cycle _ :: _ => true
  | .look .whileCond true :: _ => true
  | .surge true :: _ => true
  | .report _ :: _ => false
  | _ :: l => hasCause l

/-- The stations of a cycle before its report, and those of a pass. -/
def Station.caused : Station → Bool
  | .woken | .restarted | .tended | .online | .linked => true
  | .running .searching | .running .found | .running .pass => true
  | .running .empty | .fetching _ => true
  | _ => false

/-- The stations with a report due know its cause. -/
theorem hasCause_station (h : (schedule cfg).run l = some q)
    (hq : q.caused = true) : hasCause l = true := by
  refine schedule_invariant (I := fun l q =>
    q.caused = true → hasCause l = true) (by simp [Station.caused]) ?_ h hq
  intro l q m q' hI hm
  cases hm with
  | @wait h h' found hw =>
      cases h <;> cases found <;> simp_all [hasCause, Hand.wait, Station.caused]
  | _ => simp_all [hasCause, Station.caused]

/-- So each report has one. -/
theorem schedule_causes (h : (schedule cfg).Accepts l) :
    Each (fun m l => m.isReport = true → hasCause l = true) l := by
  refine schedule_each h fun l q m q' hq hm hreport => ?_
  refine hasCause_station hq ?_
  cases hm with
  | @report hand b hr =>
      cases hand <;> simp_all [Hand.reports, Station.caused]
  | _ => cases hreport

/-- The link was released, or not yet brought up. -/
def released : List Mark → Bool
  | [] => true
  | .link _ :: _ => false
  | .pause :: _ => true
  | _ :: l => released l

/-- What needs the link. -/
def Mark.needsLink : Mark → Bool
  | .report _ | .message _ | .sent .. | .location | .fetch | .download _
  | .inject _ => true
  | _ => false

/-- The stations between `cloud_resume` and `cloud_pause`. -/
def Station.held : Station → Bool
  | .linked | .running _ | .fetching _ | .reporting .. | .halted _ => true
  | _ => false

/-- The stations that need the link have not released it. -/
theorem released_station (h : (schedule cfg).run l = some q)
    (hq : q.held = true) : released l = false := by
  refine schedule_invariant (I := fun l q =>
    q.held = true → released l = false) (by simp [Station.held]) ?_ h hq
  intro l q m q' hI hm
  cases hm <;> simp_all [released, Station.held]

/-- So what needs the link finds it held. -/
theorem schedule_held (h : (schedule cfg).Accepts l) :
    Each (fun m l => m.needsLink = true → released l = false) l := by
  refine schedule_each h fun l q m q' hq hm hneeds => ?_
  refine released_station hq ?_
  cases hm <;> simp_all [Mark.needsLink, Station.held]

end

-- ============================================================ the runs of main

section

variable {n fuel : Nat} {w : Tracker} (hboot : w.log = [])
variable {c : P Int × Tracker}
variable (hr : Reach (device cfg) (main cfg n fuel) w c)
include hboot hr

/-- The books of every run balance. -/
theorem books_balance : Ledger cfg (marks c.2.log) :=
  schedule_ledger (schedule_reach cfg hboot hr)

/-- No fix is lost and none is made up: a report carries a fix exactly if a
wait has found one since the last report, and until then neither is the
supply asked nor the receiver touched. -/
theorem fixes_reported :
    Each (fun m l => paysFix m l = true) (marks c.2.log) :=
  schedule_pays (schedule_reach cfg hboot hr)

/-- A second report in a cycle needs power at the head of the frequent loop
or an active surge since the first. -/
theorem reports_have_cause :
    Each (fun m l => m.isReport = true → hasCause l = true)
      (marks c.2.log) :=
  schedule_causes (schedule_reach cfg hboot hr)

/-- Nothing is reported, sent, fetched or injected after `cloud_pause` and
before the next `cloud_resume`. -/
theorem silent_while_released :
    Each (fun m l => m.needsLink = true → released l = false)
      (marks c.2.log) :=
  schedule_held (schedule_reach cfg hboot hr)

end

/-- Two cycles without a fix. -/
theorem books_balance_calm :
    let c := playMain fixless calm 2 0 500
    (marks c.2.log).countP Mark.isSleep = 2 ∧
    (marks c.2.log).countP Mark.isMessage = 2 ∧
    Ledger fixless (marks c.2.log) :=
  ⟨by decide +kernel, by decide +kernel,
    books_balance rfl (playMain_reach fixless calm 2 0 500)⟩

/-- A fix in the cycle and another in its first pass. -/
theorem fixes_reported_sighted :
    let c := playMain hurried sighted 1 2 400
    (marks c.2.log).count (.report true) = 2 ∧
    Each (fun m l => paysFix m l = true) (marks c.2.log) :=
  ⟨by decide +kernel,
    fixes_reported rfl (playMain_reach hurried sighted 1 2 400)⟩

/-- Power at the head of the loop, and a second report. -/
theorem reports_have_cause_driven :
    let c := playMain fixless (driven false) 1 2 400
    (marks c.2.log).countP Mark.isReport = 2 ∧
    Each (fun m l => m.isReport = true → hasCause l = true)
      (marks c.2.log) :=
  ⟨by decide +kernel,
    reports_have_cause rfl (playMain_reach fixless (driven false) 1 2 400)⟩

/-- Two cycles, each with a message and a pause. -/
theorem silent_while_released_calm :
    let c := playMain fixless calm 2 0 500
    (marks c.2.log).count .pause = 2 ∧
    Each (fun m l => m.needsLink = true → released l = false)
      (marks c.2.log) :=
  ⟨by decide +kernel,
    silent_while_released rfl (playMain_reach fixless calm 2 0 500)⟩

end GpsTracker
