/-
What a fix wait returns, under every interleaving (gnss_modem.c,
gnss_ext.c).

The two receivers mirror each other: a snapshot that the handler stores,
a semaphore that it then gives, and a waiter that resets, takes and
copies. `Receiver` is what they have in common, and both waits are one
program over it. They differ in one place: the modem's handler stores
every frame and gives for valid ones, the external module's stores none
but valid ones.

The snapshot copied is the newest frame. It is no older than the frame
that ended the wait, but on the modem a frame without a fix may have
replaced that one.
-/
import GpsTracker.Lib.Mailbox
import GpsTracker.Run.Script

namespace GpsTracker

open Proc

-- =============================================================== receivers

/-- A receiver's snapshot and semaphore: which frames its handler stores,
gives for and calls valid, the fix of a frame, the call that copies the
snapshot and what it shows. -/
structure Receiver where
  Frame : Type
  sem : Sem
  accepts : Frame → Bool
  signals : Frame → Bool
  valid : Frame → Bool
  fixOf : Frame → TrackerFix
  copy : Op
  copies : Op → Bool
  shows : (o : Op) → o.Ret → Option Frame → Bool
  read : copy.Ret → TrackerFix
  sem_fix : sem = .modemFix ∨ sem = .extFix
  copies_copy : copies copy = true
  copies_reset : ∀ s, copies (.semReset s) = false
  copies_take : ∀ s ms, copies (.semTake s ms) = false
  shows_copy : ∀ r v, shows copy r (some v) = true → read r = fixOf v

/-- `gnss_event_handler` and `gnss_modem_wait_fix`. -/
def modemReceiver : Receiver where
  Frame := PvtFrame
  sem := .modemFix
  accepts _ := true
  signals := PvtFrame.fixValid
  valid := PvtFrame.fixValid
  fixOf := fixOfPvt
  copy := .lastPvtGet
  copies
    | .lastPvtGet => true
    | _ => false
  shows
    | .lastPvtGet, r, some pvt => r == pvt
    | _, _, _ => true
  read := fixOfPvt
  sem_fix := .inl rfl
  copies_copy := rfl
  copies_reset _ := rfl
  copies_take _ _ := rfl
  shows_copy r v h := by
    have hr : r = v := of_decide_eq_true h
    rw [hr]

/-- `gnss_data_handler` and `gnss_ext_wait_fix`. -/
def extReceiver (cfg : Config) : Receiver where
  Frame := GnssData
  sem := .extFix
  accepts := GnssData.fix
  signals _ := true
  valid := GnssData.fix
  fixOf := fixOfGnssData cfg
  copy := .lastFixGet
  copies
    | .lastFixGet => true
    | _ => false
  shows
    | .lastFixGet, r, some data => r == fixOfGnssData cfg data
    | _, _, _ => true
  read := id
  sem_fix := .inr rfl
  copies_copy := rfl
  copies_reset _ := rfl
  copies_take _ _ := rfl
  shows_copy _ _ h := of_decide_eq_true h

namespace Receiver

variable (R : Receiver)

/-- The wait of either receiver. -/
def waitFix (timeoutS : Nat) : P (Except Int TrackerFix) := do
  call (.semReset R.sem)
  if (← call (.semTake R.sem (timeoutS * 1000))) ≠ 0 then
    pure (.error (-EAGAIN))
  else
    let r ← call R.copy
    pure (.ok (R.read r))

/-- The snapshot as a mailbox; its semaphore is given by the handler
alone. -/
def box : Box Dev Move R.Frame Calls where
  accepts := R.accepts
  signals := R.signals
  put _ d := d
  give d := d.setSem R.sem true
  sem d := d.sem R.sem
  own a := a != .give R.sem
  clears _ := false
  drains := drains R.sem
  shows := R.shows

end Receiver

/-- The model's `gnss_modem_wait_fix` is the modem's wait. -/
theorem gnssModemWaitFix_eq (timeoutS : Nat) :
    gnssModemWaitFix timeoutS = modemReceiver.waitFix timeoutS := rfl

/-- The model's `gnss_ext_wait_fix` is the external module's. -/
theorem gnssExtWaitFix_eq (cfg : Config) (timeoutS : Nat) :
    gnssExtWaitFix timeoutS = (extReceiver cfg).waitFix timeoutS := rfl

/-- A receiver's semaphore is given by its handler alone. -/
private theorem fix_unmoved {t : Sem} (ht : t = .modemFix ∨ t = .extFix)
    {a : Move} (ha : a ≠ .give t) : a.gives t = false := by
  cases a with
  | give s => exact beq_eq_false_iff_ne.mpr fun h => ha (h ▸ rfl)
  | workStep | lteReg b => rcases ht with rfl | rfl <;> rfl
  | _ => rfl

theorem Receiver.box_fits (R : Receiver) (cfg : Config) :
    R.box.Fits (device cfg) where
  own _ d ha _ :=
    move_sem cfg (fix_unmoved R.sem_fix (bne_iff_ne.mp ha)) d
  put _ _ := rfl
  drains _ _ d h := effect_drained (t := R.sem) h d
  keeps _ _ d h := effect_undrained (t := R.sem) h d

-- =============================================================== the record

section record

variable {ι : Type} {R : Receiver}

/-- The waiter's world, with handlers `ι`. -/
abbrev Listener (R : Receiver) (ι : Type) :=
  World Statics (Mail R.box ι) (Post Move ι R.Frame) Calls

/-- An event of that world. -/
abbrev ListenEv (R : Receiver) (ι : Type) :=
  Event Statics (Mail R.box ι) (Post Move ι R.Frame) Calls

/-- Its log. -/
abbrev ListenLog (R : Receiver) (ι : Type) := MailLog Statics R.box ι

/-- The snapshot is copied. -/
def isCopy : ListenEv R ι → Bool
  | .call _ _ o _ => R.copies o
  | _ => false

/-- `k_sem_take` was ended by a give. -/
def isWoken : ListenEv R ι → Bool
  | .call _ _ (.semTake s _) r => s == R.sem && r == (0 : Int)
  | _ => false

/-- The frame copied, with its number. -/
def copied (l : ListenLog R ι) : Option (Nat × R.Frame) :=
  (lastTime isCopy (fun e _ => e.dev.slot.map (e.dev.count, ·)) l).getD none

/-- The frame whose give ended the wait, with its number. -/
def wokenBy (l : ListenLog R ι) : Option (Nat × R.Frame) :=
  (lastTime isWoken (fun _ l => (l.findSome? wakeWord).getD none) l).getD none

/-- What the caller finds: the result and `*out`. -/
def written (out : TrackerFix) : Except Int TrackerFix → Int × TrackerFix
  | .ok fix => (0, fix)
  | .error err => (err, out)

/-- A zero result comes with the conversion of the frame copied, which is
valid and no older than the one that ended the wait; any other leaves
`*out` as it was. -/
def sound (out : TrackerFix) (res : Except Int TrackerFix)
    (l : ListenLog R ι) : Bool :=
  if (written out res).1 = 0 then
    match copied l, wokenBy l with
    | some (n, v), some (n', _) =>
        decide ((written out res).2 = R.fixOf v) && R.valid v
          && decide (n' ≤ n)
    | _, _ => false
  else decide ((written out res).2 = out)

/-- The frame stored last before the copy, if there was a copy, is
valid; `v₀` is the one stored last before the record. -/
def newestValid (v₀ : Option R.Frame) (l : ListenLog R ι) : Bool :=
  match lastTime isCopy (fun _ l => lastPut v₀ l) l with
  | none => true
  | some none => false
  | some (some v) => R.valid v

/-- A copy is no take. -/
private theorem isWoken_copy {o : Op} (h : R.copies o = true)
    (s : Statics) (m : Mail R.box ι) (r : o.Ret) :
    isWoken (.call s m o r : ListenEv R ι) = false := by
  cases o with
  | semTake sem ms =>
      rw [R.copies_take] at h
      cases h
  | _ => rfl

end record

-- ================================================================= the wait

variable {ι : Type} [DecidableEq ι] {cfg : Config} {R : Receiver}

/-- The waiter's machine. -/
abbrev Receiver.machine (R : Receiver) (cfg : Config) (ι : Type)
    [DecidableEq ι] : Machine (Mail R.box ι) (Post Move ι R.Frame) Calls :=
  (device cfg).fed R.box

/-- On record since the reset, with no copy made. -/
structure Listening (v₀ : Option R.Frame) (w : Listener R ι) : Prop where
  kept : Kept v₀ w
  reset : (w.log.findSome? wakeWord).isSome = true
  none : w.log.any isCopy = false

/-- The wait is sound where the newest frame at the copy is valid, and
only there; a handler that stores valid frames alone makes it so. -/
structure Judged (v₀ : Option R.Frame) (out : TrackerFix)
    (res : Except Int TrackerFix) (w : Listener R ι) : Prop where
  iff : sound out res w.log = newestValid v₀ w.log
  strict : (∀ v, R.accepts v = true → R.valid v = true) →
    newestValid v₀ w.log = true

/-- A frame that signals has ended the wait. -/
structure Answered (v₀ : Option R.Frame) (w : Listener R ι) : Prop where
  kept : Kept v₀ w
  woken : ∃ n v, wokenBy w.log = some (n, v) ∧ 0 < n ∧ n ≤ w.dev.count

private theorem isSome_cons {α β : Type} {f : α → Option β} {a : α}
    {l : List α} (h : (l.findSome? f).isSome = true) :
    ((a :: l).findSome? f).isSome = true := by
  rw [List.findSome?_cons]
  split
  · rfl
  · exact h

/-- No own move and no sender lowers the count. -/
private theorem count_move (a : Post Move ι R.Frame) (m : Mail R.box ι) :
    m.count ≤ ((R.machine cfg ι).move a m).count := by
  cases a with
  | own a => exact Nat.le_refl _
  | put i v =>
      simp only [Receiver.machine, Machine.fed]
      split
      · exact Nat.le_succ _
      · exact Nat.le_refl _
  | give i => exact Nat.le_refl _

theorem listening_stable (v₀ : Option R.Frame) :
    Stable (R.machine cfg ι) Free (Listening (R := R) v₀) :=
  fun _ _ h hcan _ => ⟨h.kept.moved (R.box_fits cfg) hcan,
    isSome_cons h.reset, h.none⟩

theorem answered_stable (v₀ : Option R.Frame) :
    Stable (R.machine cfg ι) Free (Answered (R := R) v₀) := by
  intro w a h hcan _
  obtain ⟨n, v, hwoken, hpos, hle⟩ := h.woken
  exact ⟨h.kept.moved (R.box_fits cfg) hcan, n, v, hwoken, hpos,
    Nat.le_trans hle (count_move a w.dev)⟩

/-- The take, ended by a give or by the timeout. -/
private theorem take_answered (v₀ : Option R.Frame) (ms : Nat)
    (out : TrackerFix) :
    Triple (R.machine cfg ι) Free (fun _ => True) (Listening v₀)
      (call (.semTake R.sem ms)) fun (r : Int) w =>
        if r = 0 then Answered v₀ w
        else Judged v₀ out (.error (-EAGAIN)) w := by
  refine Triple.op (listening_stable v₀) fun w (r : Int) h hok _ =>
    ⟨trivial, ?_⟩
  have hkept := h.kept.called (R.box_fits cfg) (.semTake R.sem ms) r
  by_cases hr : r = 0
  · rw [if_pos hr]
    subst hr
    have hok' : ok (.semTake R.sem ms) (0 : Int) w.dev.dev = true :=
      (Bool.and_eq_true_iff.mp hok).1
    have hsem : R.box.sem w.dev.dev = true := by
      show w.dev.dev.sem R.sem = true
      cases hs : w.dev.dev.sem R.sem with
      | true => rfl
      | false => simp [ok, hs, EAGAIN] at hok'
    have hwoken : wokenBy (w.called (R.machine cfg ι) (.semTake R.sem ms)
        (0 : Int)).log = (w.log.findSome? wakeWord).getD none := by
      simp [wokenBy, World.called, lastTime, isWoken]
    obtain ⟨f, hf⟩ := Option.isSome_iff_exists.mp h.reset
    -- the take succeeded, so the semaphore was given since its reset
    cases f with
    | none =>
        rw [h.kept.drained hf] at hsem
        cases hsem
    | some f =>
        obtain ⟨hpos, hle, -⟩ := h.kept.woken f.1 f.2 hf
        refine ⟨hkept, f.1, f.2, ?_, hpos, hle⟩
        rw [hwoken, hf]
        rfl
  · rw [if_neg hr]
    -- a timeout hands out nothing
    have hnone : (w.called (R.machine cfg ι) (.semTake R.sem ms)
        r).log.any isCopy = false := by
      show (R.copies (.semTake R.sem ms) || w.log.any isCopy) = false
      rw [R.copies_take, h.none]
      rfl
    have hsound : ∀ l : ListenLog R ι,
        sound out (.error (-EAGAIN)) l = true := by
      intro l
      simp [sound, written, EAGAIN]
    have hnewest : newestValid v₀ (w.called (R.machine cfg ι)
        (.semTake R.sem ms) r).log = true := by
      rw [newestValid, lastTime_none hnone]
    exact ⟨(hsound _).trans hnewest.symm, fun _ => hnewest⟩

/-- The copy of the newest frame. -/
private theorem copy_sound (v₀ : Option R.Frame) (out : TrackerFix) :
    Triple (R.machine cfg ι) Free (fun _ => True) (Answered v₀)
      (call R.copy) fun r w => Judged v₀ out (.ok (R.read r)) w := by
  refine Triple.op (answered_stable v₀) fun w r h hok _ => ⟨trivial, ?_⟩
  obtain ⟨n, v', hwoken, hpos, hle⟩ := h.woken
  have hfull : w.dev.slot.isSome = true :=
    w.dev.full (fun _ => rfl) (Nat.lt_of_lt_of_le hpos hle)
  obtain ⟨v, hv⟩ := Option.isSome_iff_exists.mp hfull
  -- the slot is full since a frame was given for, and the copy is of the
  -- newest
  have hread : R.read r = R.fixOf v := by
    refine R.shows_copy r v ?_
    have hshows : R.shows R.copy r w.dev.slot = true :=
      (Bool.and_eq_true_iff.mp hok).2
    rwa [hv] at hshows
  generalize he : (.call w.st w.dev R.copy r : ListenEv R ι) = e
  have hlog : (w.called (R.machine cfg ι) R.copy r).log = e :: w.log := by
    rw [← he]
    rfl
  have hcopy : isCopy e = true := by
    rw [← he]
    exact R.copies_copy
  -- what goes on record with the copy: the frame, and the one that woke the
  -- wait
  have hcopied : copied (e :: w.log) = some (w.dev.count, v) := by
    have hdev : e.dev = w.dev := by
      rw [← he]
      rfl
    simp only [copied, lastTime, hcopy, if_true, hdev, hv, Option.map_some,
      Option.getD_some]
  have hby : wokenBy (e :: w.log) = some (n, v') := by
    have hnot : isWoken e = false := by
      rw [← he]
      exact isWoken_copy R.copies_copy w.st w.dev r
    simpa only [wokenBy, lastTime, hnot, Bool.false_eq_true, if_false]
      using hwoken
  have hnewest : newestValid v₀ (e :: w.log) = R.valid v := by
    have hslot : lastPut v₀ w.log = some v := h.kept.slot.symm.trans hv
    simp only [newestValid, lastTime, hcopy, if_true, hslot]
  refine ⟨?_, fun hR => ?_⟩
  · rw [hlog, hnewest, sound, hcopied, hby]
    simp [written, hread, hle]
  · rw [hlog, hnewest]
    exact hR v (w.dev.slot_ok v hv)

/-- The wait, step by step: reset, take, copy. -/
theorem waitFix_sound (R : Receiver) (v₀ : Option R.Frame) (timeoutS : Nat)
    (out : TrackerFix) :
    Triple (R.machine cfg ι) Free (fun _ => True)
      (fun w => Kept v₀ w ∧ w.log.any isCopy = false)
      (R.waitFix timeoutS) fun res w => Judged v₀ out res w := by
  have hstart : Stable (R.machine cfg ι) Free fun w : Listener R ι =>
      Kept v₀ w ∧ w.log.any isCopy = false :=
    fun w a h hcan _ => ⟨h.1.moved (R.box_fits cfg) hcan, h.2⟩
  have hreset : Triple (R.machine cfg ι) Free (fun _ => True)
      (fun w => Kept v₀ w ∧ w.log.any isCopy = false)
      (call (.semReset R.sem)) fun _ => Listening v₀ := by
    refine Triple.op hstart fun w r h _ _ => ⟨trivial,
      h.1.called (R.box_fits cfg) _ r, ?_, ?_⟩
    · have hdrain : R.box.drains (.semReset R.sem) r = true := by
        show (R.sem == R.sem) = true
        exact beq_self_eq_true _
      simp only [World.called, List.findSome?_cons, wakeWord, hdrain,
        if_true, Option.isSome_some]
    · show (R.copies (.semReset R.sem) || w.log.any isCopy) = false
      rw [R.copies_reset, h.2]
      rfl
  refine hreset.bind fun _ => (take_answered v₀ _ out).bind fun r =>
    Triple.ite (fun hr => ?_) fun hr => ?_
  · exact Triple.ret fun w h => by rwa [if_neg hr] at h
  · refine ((copy_sound v₀ out).pre fun w h => ?_).bind fun r =>
      Triple.ret fun w h => h
    rwa [if_pos (Decidable.not_not.mp hr)] at h

-- ================================================================= the law

/-- What a wait of either receiver returns. -/
theorem Receiver.judged (R : Receiver) {timeoutS : Nat} {s : Statics}
    {m : Mail R.box ι} {res : Except Int TrackerFix} {w' : Listener R ι}
    (out : TrackerFix)
    (hr : Reach (R.machine cfg ι) (R.waitFix timeoutS) ⟨s, m, []⟩
      (.ret res, w')) : Judged m.slot out res w' :=
  (waitFix_sound R m.slot timeoutS out).result
    ⟨Kept.start ⟨s, m, []⟩ rfl, rfl⟩ trivial hr (always_free _)

/-- For every interleaving of the handlers with the wait: the modem's wait
is sound exactly when the frame stored last before the copy is valid, and
the external module's always. -/
theorem fix_sound_iff (out : TrackerFix) (s : Statics) (timeoutS : Nat) :
    (∀ (m : Mail modemReceiver.box ι) res w',
      Reach (modemReceiver.machine cfg ι) (gnssModemWaitFix timeoutS)
        ⟨s, m, []⟩ (.ret res, w') →
      sound out res w'.log = newestValid m.slot w'.log) ∧
    (∀ (m : Mail (extReceiver cfg).box ι) res w',
      Reach ((extReceiver cfg).machine cfg ι) (gnssExtWaitFix timeoutS)
        ⟨s, m, []⟩ (.ret res, w') →
      sound out res w'.log = true) := by
  refine ⟨fun m res w' hr => ?_, fun m res w' hr => ?_⟩
  · rw [gnssModemWaitFix_eq] at hr
    exact (modemReceiver.judged out hr).iff
  · rw [gnssExtWaitFix_eq cfg] at hr
    have h := (extReceiver cfg).judged out hr
    exact h.iff.trans (h.strict fun _ hv => hv)

/-- A modem frame with a fix, and one without while the waiter is on its
way from the give to the copy, if `late`. -/
def framed (late : Bool) :
    Script Statics (Mail modemReceiver.box Unit) (Post Move Unit PvtFrame)
      Calls :=
  fun w o =>
    match o with
    | .semTake .modemFix _ =>
        ([.put () { noPvt with fixValid := true }, .give ()], (0 : Int))
    | .lastPvtGet =>
        (if late then [.put () noPvt] else [],
          if late then noPvt else { noPvt with fixValid := true })
    | o => ([], calmAnswer w.dev.dev o)

/-- A scripted wait on the modem. -/
def playFix (late : Bool) :
    P (Except Int TrackerFix) × Listener modemReceiver Unit :=
  play (modemReceiver.machine fixless Unit) (framed late) 20
    (gnssModemWaitFix 120)
    ⟨Statics.boot fixless 0 0, Mail.resting modemReceiver.box Unit {}, []⟩

theorem playFix_reach {late : Bool} {res : Except Int TrackerFix}
    (h : (playFix late).1 = .ret res) :
    Reach (modemReceiver.machine fixless Unit) (gnssModemWaitFix 120)
      ⟨Statics.boot fixless 0 0, Mail.resting modemReceiver.box Unit {}, []⟩
      (.ret res, (playFix late).2) := by
  have hr : Reach (modemReceiver.machine fixless Unit)
      (gnssModemWaitFix 120) _ (playFix late) := play_reach .init
  rw [← h]
  exact hr

/-- A valid frame, copied as it came. -/
theorem fix_sound_framed :
    (copied (playFix false).2.log).isSome = true ∧
      sound (fixOfPvt noPvt)
        (.ok (fixOfPvt { noPvt with fixValid := true }))
        (playFix false).2.log
      = newestValid none (playFix false).2.log :=
  ⟨by decide +kernel, (fix_sound_iff (fixOfPvt noPvt)
    (Statics.boot fixless 0 0) 120).1 _ _ _ (playFix_reach rfl)⟩

/-- A frame without a fix arrives between the give and the copy: the wait
returns zero and the converted frame is not valid. -/
theorem fix_of_invalid_frame :
    ∃ s m w', Reach (modemReceiver.machine fixless Unit)
      (gnssModemWaitFix 120) ⟨s, m, []⟩ (.ret (.ok (fixOfPvt noPvt)), w') ∧
      sound (fixOfPvt noPvt) (.ok (fixOfPvt noPvt)) w'.log = false :=
  ⟨_, _, _, playFix_reach (rfl : (playFix true).1 = _), by decide +kernel⟩

end GpsTracker
