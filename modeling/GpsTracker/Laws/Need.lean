/-
What assistance is asked for is what the modem needs now (gnss_modem.c,
agnss.c, main.c).

The modem says what it needs in an event; the handler stores that and gives
for it, whenever it comes. `fetch_and_inject` copies the slot much later,
perhaps after a fallback, a wait and a rate limit, or makes up a request
where the slot has never been filled. With the handler spelled out around
all of `main`: a request is made of the newest need at the moment of the
copy, and none is made up once a wait for the modem's request has
succeeded.

The receiver's start empties the semaphore but not the slot. So a need may
be one of an earlier run of the receiver; a need that a wait was answered by
is never lost.
-/
import GpsTracker.Lib.Shadow
import GpsTracker.Laws.Request

namespace GpsTracker

open Proc

-- ==================================================================== the slot

/-- `agnss_req`, `agnss_req_valid` and `agnss_req_sem`: the slot and the
semaphore of `gnss_event_handler`'s assistance event. -/
def needBox : Box Dev Move AgnssDataFrame Calls where
  accepts _ := true
  signals _ := true
  put _ d := d
  give d := d.setSem .agnssReq true
  sem d := d.sem .agnssReq
  own a := a != .give .agnssReq
  clears _ := false
  drains := drains .agnssReq
  shows
    | .agnssRequestGet, r, need => r == need
    | _, _, _ => true

/-- The mailbox is the tracker's: what drains the semaphore in the one does so
in the other. -/
theorem needBox_fits (cfg : Config) : needBox.Fits (device cfg) where
  own a d ha _ := by
    refine move_sem cfg (t := .agnssReq) ?_ d
    cases a with
    | give s =>
        exact beq_eq_false_iff_ne.mpr fun h => bne_iff_ne.mp ha (h ▸ rfl)
    | _ => rfl
  put _ _ := rfl
  drains _ _ d h := effect_drained (t := .agnssReq) h d
  keeps _ _ d h := effect_undrained (t := .agnssReq) h d

-- ================================================================== the record

section

variable {ι : Type}

/-- The tracker's world with the handler of the modem's requests. -/
abbrev NeedWorld (ι : Type) :=
  World Statics (Mail needBox ι) (Post Move ι AgnssDataFrame) Calls

/-- An event of that world. -/
abbrev NeedEv (ι : Type) :=
  Event Statics (Mail needBox ι) (Post Move ι AgnssDataFrame) Calls

/-- Its log. -/
abbrev NeedLog (ι : Type) := MailLog Statics needBox ι

/-- The answer of `gnss_modem_agnss_request_get`. -/
def readWord : NeedEv ι → Option (Option AgnssDataFrame)
  | .call _ _ .agnssRequestGet r => some r
  | _ => none

/-- The slot is copied. -/
def isNeedRead : NeedEv ι → Bool
  | .call _ _ .agnssRequestGet _ => true
  | _ => false

/-- A wait for the modem's request succeeds. -/
def isAnswered : NeedEv ι → Bool
  | .call _ _ (.semTake s _) r => s == .agnssReq && r == (0 : Int)
  | _ => false

/-- A wait for the modem's request has succeeded. -/
def waitedFor (l : NeedLog ι) : Bool := l.any isAnswered

/-- The newest need when the slot was last copied, and whether a wait had
succeeded before. -/
def lastRead (l : NeedLog ι) : Option (Option AgnssDataFrame × Bool) :=
  lastTime isNeedRead (fun _ l => (lastPut none l, waitedFor l)) l

/-- What was read was the newest need, and there was one if a wait had
succeeded. -/
def Newest (l : NeedLog ι) : Prop :=
  ∀ need, l.findSome? readWord = some need →
    ∃ b, lastRead l = some (need, b) ∧ (b = true → need.isSome = true)

/-- A call that is no copy leaves what was read. -/
theorem newest_off {o : Op} (ho : o ≠ .agnssRequestGet) (s : Statics)
    (m : Mail needBox ι) (r : o.Ret) {l : NeedLog ι} (h : Newest l) :
    Newest (.call s m o r :: l) := by
  cases o with
  | agnssRequestGet => exact absurd rfl ho
  | _ => exact h

-- ============================================================== what is kept

/-- The mailbox since a start with an empty slot and nothing given. -/
structure Supplied (w : NeedWorld ι) : Prop where
  kept : Kept none w
  dry : w.log.findSome? wakeWord = none → w.dev.dev.sem .agnssReq = false
  asked : waitedFor w.log = true → 0 < w.dev.count
  newest : Newest w.log

/-- Nothing stored and nothing given yet. -/
structure Unasked (w : NeedWorld ι) : Prop where
  boot : w.log = []
  slot : w.dev.slot = none
  sem : w.dev.dev.semAgnssReq = false

/-- A start at rest is supplied. -/
theorem Unasked.supplied {w : NeedWorld ι} (h : Unasked w) : Supplied w := by
  have hkept : Kept none w := by
    rw [← h.slot]
    exact Kept.start w h.boot
  refine ⟨hkept, fun _ => h.sem, ?_, ?_⟩
  · rw [h.boot]
    intro ha
    cases ha
  · rw [h.boot]
    intro need hneed
    cases hneed

-- ================================================================ the handler

variable [DecidableEq ι]

/-- The tracker with that handler. -/
abbrev needMachine (cfg : Config) (ι : Type) [DecidableEq ι] :
    Machine (Mail needBox ι) (Post Move ι AgnssDataFrame) Calls :=
  (device cfg).fed needBox

/-- The tracker with that handler, seen without it. -/
def needless (cfg : Config) (ι : Type) [DecidableEq ι] :
    Shadow (needMachine cfg ι) (device cfg) :=
  Box.shadow (.give .agnssReq) (fun _ _ => rfl) (fun _ => rfl) fun _ => rfl

/-- A request is made where it can help, and of the newest need; it is made
up only while no wait for a need has succeeded. -/
def Needed (cfg : Config) (e : NeedEv ι) (l : NeedLog ι) : Prop :=
  match e with
  | .call s m (.agnssDataGet req) _ =>
      Requested cfg s m.dev req ((needless cfg ι).log l) ∧
      ∃ need b, lastRead l = some (need, b) ∧ (b = true → need.isSome = true)
        ∧ AsksFor cfg need req.agnssReq
  | _ => True

variable {cfg : Config} {w : NeedWorld ι}

/-- The surroundings keep it: the device's own moves leave the semaphore
alone, a store counts up, and a give is due. -/
theorem Supplied.moved (h : Supplied w) {a : Post Move ι AgnssDataFrame}
    (hcan : (needMachine cfg ι).can a w.dev = true) :
    Supplied (w.moved (needMachine cfg ι) a) := by
  refine ⟨h.kept.moved (needBox_fits cfg) hcan, fun hd => ?_, fun ha => ?_,
    h.newest⟩
  · cases a with
    | own a =>
        obtain ⟨hown, hdev⟩ := Bool.and_eq_true_iff.mp hcan
        exact ((needBox_fits cfg).own a _ hown hdev).trans (h.dry hd)
    | put i v => exact h.dry hd
    | give i =>
        -- a give that is not on record found the semaphore available
        obtain ⟨f, hf⟩ := Option.isSome_iff_exists.mp hcan
        cases hs : w.dev.dev.sem .agnssReq with
        | true =>
            have hrest : w.log.findSome? wakeWord = none := by
              have hword : wakeWord (.env w.st w.dev (.give i) : NeedEv ι)
                  = none := if_pos hs
              simpa only [World.moved, List.findSome?_cons, hword] using hd
            rw [h.dry hrest] at hs
            cases hs
        | false =>
            have hword : wakeWord (.env w.st w.dev (.give i) : NeedEv ι)
                = some (some f) := by
              show (if w.dev.dev.sem .agnssReq then none
                else some (w.dev.due i)) = _
              rw [hs, hf]
              rfl
            simp only [World.moved, List.findSome?_cons, hword] at hd
            cases hd
  · exact Nat.lt_of_lt_of_le (h.asked ha) (Machine.fed_counts a w.dev)

/-- A wait succeeds only if a need was stored. -/
theorem Supplied.stored (h : Supplied w) {ms : Nat}
    (hok : (needMachine cfg ι).ok (.semTake .agnssReq ms) (0 : Int) w.dev
      = true) : 0 < w.dev.count := by
  have hsem : w.dev.dev.sem .agnssReq = true :=
    (take_answer (Bool.and_eq_true_iff.mp hok).1).mp rfl
  cases hword : w.log.findSome? wakeWord with
  | none =>
      rw [h.dry hword] at hsem
      cases hsem
  | some word =>
      cases word with
      | none =>
          have hdrained : w.dev.dev.sem .agnssReq = false :=
            h.kept.drained hword
          rw [hdrained] at hsem
          cases hsem
      | some f =>
          obtain ⟨hpos, hle, -⟩ := h.kept.woken f.1 f.2 hword
          exact Nat.lt_of_lt_of_le hpos hle

/-- The slot that is copied holds the newest need. -/
theorem Supplied.reads (h : Supplied w) {need : Option AgnssDataFrame}
    (hok : (needMachine cfg ι).ok .agnssRequestGet need w.dev = true) :
    need = lastPut none w.log
      ∧ (waitedFor w.log = true → need.isSome = true) := by
  have hok' : (ok .agnssRequestGet need w.dev.dev && need == w.dev.slot)
      = true := hok
  have hslot : need = w.dev.slot :=
    beq_iff_eq.mp (Bool.and_eq_true_iff.mp hok').2
  refine ⟨hslot.trans h.kept.slot, fun ha => ?_⟩
  rw [hslot]
  exact w.dev.full (fun _ => rfl) (h.asked ha)

/-- And so does every call: a drain is on record, a wait that succeeds found a
store, a copy tells the newest. -/
theorem Supplied.called (h : Supplied w) {o : Op} {r : o.Ret}
    (hok : (needMachine cfg ι).ok o r w.dev = true) :
    Supplied (w.called (needMachine cfg ι) o r) := by
  have hcount := Machine.fed_count (B := needBox) (M := device cfg) o r w.dev
  have hlog : (w.called (needMachine cfg ι) o r).log
      = .call w.st w.dev o r :: w.log := rfl
  refine ⟨h.kept.called (needBox_fits cfg) o r, fun hd => ?_, fun ha => ?_,
    ?_⟩
  · rw [hlog, List.findSome?_cons] at hd
    -- since the last drain the semaphore is as it was
    cases hdrains : drains .agnssReq o r with
    | true =>
        have hword : wakeWord (.call w.st w.dev o r : NeedEv ι) = some none :=
          if_pos hdrains
        rw [hword] at hd
        cases hd
    | false =>
        have hword : wakeWord (.call w.st w.dev o r : NeedEv ι) = none := by
          show (if drains .agnssReq o r then _ else _) = _
          rw [hdrains]
          rfl
        rw [hword] at hd
        exact ((needBox_fits cfg).keeps o r _ hdrains).trans (h.dry hd)
  · show 0 < ((needMachine cfg ι).effect o r w.dev).count
    rw [hcount]
    rw [hlog, waitedFor, List.any_cons, Bool.or_eq_true] at ha
    -- a wait that succeeds now, or one before
    rcases ha with hnow | hbefore
    · cases o with
      | semTake s ms =>
          obtain ⟨hs, hr⟩ := Bool.and_eq_true_iff.mp hnow
          cases beq_iff_eq.mp hs
          cases beq_iff_eq.mp hr
          exact h.stored hok
      | _ => cases hnow
    · exact h.asked hbefore
  -- the one copy: of what was stored last
  · by_cases ho : o = .agnssRequestGet
    · subst ho
      obtain ⟨hput, hsome⟩ := h.reads hok
      intro need hneed
      cases hneed
      refine ⟨waitedFor w.log, ?_, hsome⟩
      rw [hput]
      rfl
    · exact newest_off ho w.st w.dev r h.newest

-- ==================================================================== the law

/-- So it holds around every program. -/
theorem supplied_frame (cfg : Config) :
    Frame (needMachine cfg ι) Free (Supplied (ι := ι)) Supplied
      (fun _ => True) fun _ _ => True where
  stable := fun _ _ h hcan _ => h.moved hcan
  calls := fun _ _ _ _ h hok _ => h.called hok
  writes := fun _ _ _ h => ⟨⟨h.kept.slot, h.kept.drained, h.kept.woken⟩,
    h.dry, h.asked, h.newest⟩
  gives := fun _ h => h

/-- What is seen of the copies. -/
theorem read_seen (l : NeedLog ι) :
    ((needless cfg ι).log l).findSome? needWord = l.findSome? readWord := by
  induction l with
  | nil => rfl
  | cons e l ih =>
      cases e with
      | env s m a =>
          rw [List.findSome?_cons]
          cases a <;> exact ih
      | call s m o r =>
          rw [Shadow.log_call, List.findSome?_cons, List.findSome?_cons, ih]
          cases o <;> rfl

/-- In every run around which the modem's handler stores needs and gives for
them as it likes, each assistance request is made where it can help and of
the newest need at its copy. It is made up only while no wait for a need
has succeeded. -/
theorem requests_needed (hboot : Unasked w) {n fuel : Nat}
    {c : P Int × NeedWorld ι}
    (hr : Reach (needMachine cfg ι) (main cfg n fuel) w c) :
    Always (Needed cfg) c.2.log := by
  have hrun := (needless cfg ι).reach hr
  have hnil : ((needless cfg ι).world w).log = [] := by
    show (needless cfg ι).log w.log = []
    rw [hboot.boot]
    rfl
  have hfine : Fine cfg ((needless cfg ι).world w) := by
    rw [Fine, hnil]
    trivial
  have hproper := (needless cfg ι).always
    (fine_walk.reach hfine hrun (always_free _))
  have hpast := (supplied_frame cfg).invariant_always (fun _ h => h.newest)
    hboot.supplied hboot.boot hr
  rw [always_iff] at hproper hpast ⊢
  intro l₁ e l hsplit
  cases e with
  | env s m a => trivial
  | call s m o r =>
      cases o with
      | agnssDataGet req =>
          have hreq : Requested cfg s m.dev req ((needless cfg ι).log l) :=
            hproper l₁ _ l hsplit _ rfl
          obtain ⟨need, hneed, hasks⟩ := hreq.frame
          rw [read_seen] at hneed
          obtain ⟨b, hread, hsome⟩ := hpast l₁ _ l hsplit need hneed
          exact ⟨hreq, need, b, hread, hsome, hasks⟩
      | _ => trivial

end

/-- The ephemerides of two satellites, and the time. -/
def someNeed : AgnssDataFrame := { dataFlags := 1, systems := [(5, 0)] }

/-- `thirsty`, with a need that the modem's handler stores and gives for
whenever it is waited for; every injection is refused. -/
def pressing : Script Statics (Mail needBox Unit)
    (Post Move Unit AgnssDataFrame) Calls := fun w o =>
  match o with
  | .semTake .agnssReq _ => ([.put () someNeed, .give ()], (0 : Int))
  | .agnssRequestGet => ([], w.dev.slot)
  | o =>
      ((thirsty (-22) 0 ((needless {} Unit).world w) o).1.map .own,
        (thirsty (-22) 0 ((needless {} Unit).world w) o).2)

/-- A registered device at power-on, the modem's handler at rest. -/
def needing : NeedWorld Unit :=
  { st := (start {}).st
    dev := Mail.resting needBox Unit (start {}).dev
    log := [] }

/-- A scripted run with the handler. -/
@[irreducible] def playNeed (steps : Nat) : P Int × NeedWorld Unit :=
  play (needMachine {} Unit) pressing steps (main {} 1 0) needing

/-- What is played is a run. -/
theorem playNeed_reach (steps : Nat) :
    Reach (needMachine {} Unit) (main {} 1 0) needing (playNeed steps) := by
  unfold playNeed
  exact play_reach .init

/-- The frame of a request. -/
def frameOf : NeedEv Unit → Option AgnssDataFrame
  | .call _ _ (.agnssDataGet req) _ => some req.agnssReq
  | _ => none

/-- Two requests of one cycle, both of what the modem had asked for. -/
theorem requests_needed_pressing :
    let c := playNeed 400
    c.2.log.filterMap frameOf
      = [{ dataFlags := AGNSS_ALL_FLAGS, systems := [(5, 0)] },
        { dataFlags := AGNSS_ALL_FLAGS, systems := [(5, 0)] }] ∧
    Always (Needed {}) c.2.log :=
  ⟨by decide +kernel,
    requests_needed ⟨rfl, rfl, rfl⟩ (playNeed_reach 400)⟩

end GpsTracker
