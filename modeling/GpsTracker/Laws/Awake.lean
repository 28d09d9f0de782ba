/-
The awake time of a report (main.c).

`main` keeps the start of a cycle in 32 bits and `report_fix` subtracts it
from the whole clock, so what the narrowing has cut off is added to the
time awake. The division by 1000 and the cast that follow do not take it
out again: 2³² milliseconds are no whole number of seconds. The two meet
again only where the clock has wrapped a multiple of 1000 times.

# The record

The uptimes that the two functions read stand on record right behind their
entries, and the seconds reported stand in the message, behind the first
letter that only the member's name can bring.
-/
import GpsTracker.Laws.Forensics

namespace GpsTracker

open Proc

variable {cfg : Config}

-- ================================================================= statements

/-- The last call on record enters a function that `p` picks. -/
def entering (p : Fn → Bool) : Trace → Bool
  | [] => false
  | .env .. :: l => entering p l
  | .call _ _ (.enter f) _ :: _ => p f
  | .call .. :: _ => false

/-- The clock as it was first read in the last such function. -/
def readOn (p : Fn → Bool) : Trace → Option Int
  | [] => none
  | .call _ _ .kUptimeGet now :: l =>
      if entering p l then some now else readOn p l
  | _ :: l => readOn p l

def isCycle : Fn → Bool
  | .cycle _ => true
  | _ => false

def isReport : Fn → Bool
  | .reportFix _ => true
  | _ => false

/-- 2³² milliseconds, where a `uint32_t` of them wraps. -/
def uptimeWrapMs : Int := 4294967296

/-- 2³² seconds. -/
def awakeWrapMs : Int := uptimeWrapMs * 1000

/-- What a message begins with, whatever the report. -/
def messageHead (cfg : Config) : Text :=
  match cfg.cloudProvider with
  | .nrfcloud => "\x7b\"appId\":\"".toList ++ cfg.nrfCloudAppId
  | .hologram => "\x7b\"k\":\"".toList ++ Hologram.escape cfg.hologramDeviceKey

/-- The first number behind the first `w` of a text. -/
def awakeMember (text : Text) : Nat :=
  Nat.ofDigitChars 10 (((text.dropWhile (· != 'w')).dropWhile
    fun c => !c.isDigit).takeWhile Char.isDigit) 0

/-- The seconds awake that a message reports. -/
def awakeOf (cfg : Config) (text : Text) : Nat :=
  awakeMember (text.drop (messageHead cfg).length)

/-- A message reports the whole seconds from the start of its cycle to its
report, where they are few enough to fit. -/
def AwakeTold (cfg : Config) (e : Ev) (l : Trace) : Prop :=
  ∀ text, messageOf e = some text → ∃ s r, readOn isCycle l = some s ∧
    readOn isReport l = some r ∧ 0 ≤ s ∧ s ≤ r ∧
    (r - s < awakeWrapMs → (awakeOf cfg text : Int) = (r - s) / 1000)

/-- The cycle of a message began in the first of every thousand wraps of
the clock. -/
def EarlyStart (e : Ev) (l : Trace) : Prop :=
  ∀ text, messageOf e = some text → ∀ s r, readOn isCycle l = some s →
    readOn isReport l = some r → r - s < awakeWrapMs →
    s % awakeWrapMs < uptimeWrapMs

-- ============================================================= the arithmetic

/-- The seconds that `report_fix` computes are the right ones if and only
if the start lies in the first of every thousand wraps. -/
theorem awake_seconds_iff {s r : Int} (hs : 0 ≤ s) (hr : s ≤ r)
    (hawake : r - s < awakeWrapMs) :
    ((u32 ((r - u32 s).tdiv 1000) : Nat) : Int) = (r - s) / 1000 ↔
      s % awakeWrapMs < uptimeWrapMs := by
  unfold awakeWrapMs uptimeWrapMs at *
  have hstart : ((u32 s : Nat) : Int) = s % 4294967296 := by
    unfold u32
    omega
  have hpos : 0 ≤ r - s % 4294967296 := by omega
  rw [hstart, Int.tdiv_eq_ediv_of_nonneg hpos]
  unfold u32
  omega

-- ================================================================ the message

/-- A number behind the first `w`. -/
theorem awakeMember_read {mid gap : Text} (hmid : 'w' ∉ mid)
    (hgap : ∀ c ∈ gap, c.isDigit = false) (n : Nat) (tail : Text) :
    awakeMember (mid ++ ('w' :: gap ++ (fmtU n ++ ',' :: tail))) = n := by
  have hdigit : ∀ c ∈ fmtU n, c.isDigit = true := Json.toDigits_digit
  have hskip : (mid ++ ('w' :: gap ++ (fmtU n ++ ',' :: tail))).dropWhile
      (· != 'w') = 'w' :: gap ++ (fmtU n ++ ',' :: tail) := by
    rw [List.dropWhile_append_of_pos fun c hc => ?_]
    · rfl
    · rw [bne_iff_ne]
      rintro rfl
      exact hmid hc
  have hgap' : ∀ c ∈ 'w' :: gap, (!c.isDigit) = true := by
    intro c hc
    rcases List.mem_cons.mp hc with rfl | hc
    · rfl
    · rw [hgap c hc]
      rfl
  unfold awakeMember
  rw [hskip, List.dropWhile_append_of_pos hgap']
  obtain ⟨d, ds, hds⟩ : ∃ d ds, fmtU n = d :: ds :=
    List.exists_cons_of_ne_nil Nat.toDigits_ne_nil
  have hstop : (fmtU n ++ ',' :: tail).dropWhile (fun c => !c.isDigit)
      = fmtU n ++ ',' :: tail := by
    have hd : d.isDigit = true := hdigit d (by simp [hds])
    rw [hds]
    simp [hd]
  rw [hstop, List.takeWhile_append_of_pos hdigit]
  simp [fmtU]

/-- A text without digits, checked by evaluation. -/
theorem gap_clear {gap : Text} (h : (gap.all fun c => !c.isDigit) = true) :
    ∀ c ∈ gap, c.isDigit = false := by
  intro c hc
  have hc' := List.all_eq_true.mp h c hc
  simpa using hc'

/-- Digits hold no `w`, the first letter of `wdt` and the second of `awake`,
-/
theorem digits_clear {s : Text} (h : ∀ c ∈ s, c.isDigit = true) :
    'w' ∉ s := by
  intro hw
  have hdigit := h 'w' hw
  revert hdigit
  decide

/-- so neither does a number printed by `%d` -/
theorem fmtD_clear (i : Int) : 'w' ∉ fmtD i := by
  have hdigits : ∀ n, 'w' ∉ fmtU n := fun n => digits_clear Json.toDigits_digit
  unfold fmtD
  split
  · intro hw
    rcases List.mem_cons.mp hw with h | h
    · exact absurd h (by decide)
    · exact hdigits _ h
  · exact hdigits _

/-- nor one printed by `%.nf`, -/
theorem fmtF_clear (places : Nat) (q : Rat) : 'w' ∉ fmtF places q := by
  have hwhole : ∀ n, 'w' ∉ fmtU n := fun n => digits_clear Json.toDigits_digit
  have hfrac : ∀ k n, 'w' ∉ padded k n :=
    fun k n => digits_clear (padded_digit k n)
  unfold fmtF
  intro hw
  rcases List.mem_append.mp hw with hw | hw
  · rcases List.mem_append.mp hw with hw | hw
    · split at hw
      · revert hw
        decide
      · cases hw
    · exact hwhole _ hw
  · rcases List.mem_cons.mp hw with hw | hw
    · exact absurd hw (by decide)
    · exact hfrac _ _ hw

/-- A payload up to its `awake` member, which brings the first `w`. -/
theorem telemetryText_awake (cfg : Config) (phase : Nat) (t : Telemetry) :
    ∃ mid tail, 'w' ∉ mid ∧ telemetryText cfg phase t
      = mid ++ ('w' :: "ake\": ".toList ++ (fmtU t.awakeS ++ ',' :: tail)) := by
  have hlon := fmtF_clear 6 t.longitude
  have hlat := fmtF_clear 6 t.latitude
  have hhdop := fmtF_clear 2 t.hdop
  have hbatt : 'w' ∉ fmtU (telemetryBatteryPercent t.battMv) :=
    digits_clear Json.toDigits_digit
  have hvolt : 'w' ∉ fmtU t.battMv := digits_clear Json.toDigits_digit
  have hcharge := fmtD_clear t.charge.code
  have hsignal := fmtD_clear t.signalDbm
  unfold telemetryText
  -- from here on the texts of the members are opaque: all that counts is that
  -- none holds a `w`
  generalize fmtF 6 t.longitude = longitude at hlon ⊢
  generalize fmtF 6 t.latitude = latitude at hlat ⊢
  generalize fmtF 2 t.hdop = hdop at hhdop ⊢
  generalize fmtU (telemetryBatteryPercent t.battMv) = batt at hbatt ⊢
  generalize fmtU t.battMv = volt at hvolt ⊢
  generalize fmtD t.charge.code = charge at hcharge ⊢
  generalize fmtD t.signalDbm = signal at hsignal ⊢
  refine ⟨"\x7b\"coords\": [".toList ++ longitude ++ ", ".toList ++ latitude
    ++ "], \"hdop\": ".toList ++ hdop ++ ", \"batt\": ".toList ++ batt
    ++ ", \"volt\": ".toList ++ volt ++ ", \"charge\": ".toList ++ charge
    ++ ", \"signal\": ".toList ++ signal ++ ", \"a".toList,
    " \"wake\": \"".toList ++ wakeReasonName t.wake ++ "\", ".toList
    ++ wdtMember phase ++ "\"fw\": \"".toList ++ cfg.buildStamp
    ++ "\", \"hw\": \"".toList ++ cfg.hwRevision ++ "\"\x7d".toList, ?_, ?_⟩
  · simp only [List.mem_append, not_or]
    exact ⟨⟨⟨⟨⟨⟨⟨⟨⟨⟨⟨⟨⟨⟨by decide, hlon⟩, by decide⟩, hlat⟩, by decide⟩, hhdop⟩,
      by decide⟩, hbatt⟩, by decide⟩, hvolt⟩, by decide⟩, hcharge⟩, by decide⟩,
      hsignal⟩, by decide⟩
  · generalize fmtU t.awakeS = awake
    have hsplit : ", \"awake\": ".toList
        = ", \"a".toList ++ 'w' :: "ake\": ".toList := rfl
    have hcomma : ", \"wake\": \"".toList = ',' :: " \"wake\": \"".toList := rfl
    rw [hsplit, hcomma]
    simp only [List.append_assoc, List.cons_append]

/-- An escape brings no `w` of its own. -/
theorem escapeChar_clear {c : Char} (h : c ≠ 'w') :
    'w' ∉ Hologram.escapeChar c := by
  have hhex : ∀ n < 32, 'w' ∉ ['\\', 'u', '0', '0', Nat.digitChar (n / 16),
      Nat.digitChar (n % 16)] := by decide
  unfold Hologram.escapeChar
  repeat' split
  all_goals first
    | decide
    | exact hhex _ ‹_›
    | exact fun hw => h (List.mem_singleton.mp hw).symm

/-- and escaping a text brings none in. -/
theorem escape_clear {s : Text} (h : 'w' ∉ s) : 'w' ∉ Hologram.escape s := by
  intro hw
  obtain ⟨c, hc, hw⟩ := List.mem_flatMap.mp hw
  refine escapeChar_clear ?_ hw
  rintro rfl
  exact h hc

/-- Digits come through the escape as they are. -/
theorem escape_digits {s : Text} (h : ∀ c ∈ s, c.isDigit = true) :
    Hologram.escape s = s := by
  have hone : ∀ c ∈ s, Hologram.escapeChar c = [c] := by
    intro c hc
    have hd := h c hc
    have hlow : '0'.toNat ≤ c.toNat := (Char.isDigit_iff_toNat.mp hd).1
    rw [escapeChar_printed, if_neg]
    · rintro rfl
      cases hd
    · rintro rfl
      cases hd
    · exact Nat.le_trans (by decide) hlow
  unfold Hologram.escape
  rw [List.flatMap_congr hone]
  simp

/-- What stands around the payload of a device message. -/
theorem nrfEnvelope_around (cfg : Config) (ts : Option Int) (payload : Text) :
    ∃ front, 'w' ∉ front ∧ Nrf.envelope cfg ts payload
      = "\x7b\"appId\":\"".toList ++ cfg.nrfCloudAppId
        ++ (front ++ (payload ++ "\x7d".toList)) := by
  have hall : ∀ stamp : Text, 'w' ∉ stamp →
      'w' ∉ "\",\"messageType\":\"DATA\",".toList ++ stamp
        ++ "\"data\":".toList := by
    intro stamp hstamp
    simp only [List.mem_append, not_or]
    exact ⟨⟨by decide, hstamp⟩, by decide⟩
  unfold Nrf.envelope
  cases ts with
  | none =>
      refine ⟨_, hall [] List.not_mem_nil, ?_⟩
      simp only [List.append_assoc]
  | some ms =>
      have hms := fmtD_clear ms
      refine ⟨_, hall ("\"ts\":".toList ++ fmtD ms ++ ",".toList) ?_, ?_⟩
      · simp only [List.mem_append, not_or]
        exact ⟨⟨by decide, hms⟩, by decide⟩
      · simp only [List.append_assoc]

/-- And around the escaped payload of a Hologram message. -/
theorem hologramEnvelope_around (cfg : Config) (payload : Text)
    (topic list : Bool) :
    ∃ after, Hologram.envelope cfg payload topic list ++ "\n\n".toList
      = "\x7b\"k\":\"".toList ++ Hologram.escape cfg.hologramDeviceKey
        ++ ("\",\"d\":\"".toList ++ (Hologram.escape payload ++ after)) := by
  unfold Hologram.envelope
  generalize (if list then _ else _ : Text) = topics
  refine ⟨"\"".toList ++ (topics ++ ("\x7d".toList ++ "\n\n".toList)), ?_⟩
  simp only [List.append_assoc]

/-- A message reports the seconds of the record it was built of. -/
theorem awakeOf_wraps {phase : Nat} {t : Telemetry} {text : Text}
    (h : Wraps cfg (telemetryText cfg phase t) text) :
    awakeOf cfg text = t.awakeS := by
  obtain ⟨mid, tail, hmid, hpayload⟩ := telemetryText_awake cfg phase t
  -- however the message is shaped, what follows the first `w` is read
  have hread : ∀ front gap after, 'w' ∉ front →
      (∀ c ∈ gap, c.isDigit = false) →
      text = messageHead cfg ++
        (front ++ ('w' :: gap ++ (fmtU t.awakeS ++ ',' :: after))) →
      awakeOf cfg text = t.awakeS := by
    intro front gap after hfront hgap htext
    rw [awakeOf, htext, List.drop_left]
    exact awakeMember_read hfront hgap t.awakeS after
  rw [hpayload] at h
  cases hp : cfg.cloudProvider with
  | nrfcloud =>
      rw [Wraps, hp] at h
      obtain ⟨ts, htext⟩ := h
      obtain ⟨front, hfront, hshape⟩ := nrfEnvelope_around cfg ts
        (mid ++ ('w' :: "ake\": ".toList ++ (fmtU t.awakeS ++ ',' :: tail)))
      refine hread (front ++ mid) "ake\": ".toList (tail ++ "\x7d".toList) ?_
        (gap_clear (by decide)) ?_
      · simp only [List.mem_append, not_or]
        exact ⟨hfront, hmid⟩
      · rw [htext, hshape, messageHead, hp]
        simp only [List.append_assoc, List.cons_append]
  | hologram =>
      rw [Wraps, hp] at h
      obtain ⟨topic, list, htext⟩ := h
      obtain ⟨after, hshape⟩ := hologramEnvelope_around cfg
        (mid ++ ('w' :: "ake\": ".toList ++ (fmtU t.awakeS ++ ',' :: tail)))
        topic list
      -- escaping touches the quote behind the name, and neither the digits
      -- nor the comma
      have hescape : Hologram.escape (mid ++ ('w' :: "ake\": ".toList
            ++ (fmtU t.awakeS ++ ',' :: tail)))
          = Hologram.escape mid ++ ('w' :: "ake\\\": ".toList
            ++ (fmtU t.awakeS ++ ',' :: Hologram.escape tail)) := by
        have hdigits := escape_digits (s := fmtU t.awakeS) Json.toDigits_digit
        have hcomma : (',' :: tail).flatMap Hologram.escapeChar
            = ',' :: tail.flatMap Hologram.escapeChar := rfl
        have hname : ('w' :: "ake\": ".toList).flatMap Hologram.escapeChar
            = 'w' :: "ake\\\": ".toList := rfl
        unfold Hologram.escape at hdigits ⊢
        rw [List.flatMap_append, List.flatMap_append, List.flatMap_append,
          hdigits, hcomma, hname]
      refine hread ("\",\"d\":\"".toList ++ Hologram.escape mid)
        "ake\\\": ".toList (Hologram.escape tail ++ after) ?_
        (gap_clear (by decide)) ?_
      · simp only [List.mem_append, not_or]
        exact ⟨by decide, escape_clear hmid⟩
      · rw [htext, hshape, hescape, messageHead, hp]
        simp only [List.append_assoc, List.cons_append]

-- =============================================================== assertions

/-- The promise at every step. -/
def AwakeLaw (cfg : Config) (w : Tracker) : Prop :=
  Always (fun e l => AwakeTold cfg e l ↔ EarlyStart e l) w.log

/-- In a cycle that began at `s`, of which `u` is left. -/
structure Timing (cfg : Config) (u : Nat) (s : Int) (w : Tracker) :
    Prop where
  record : AwakeLaw cfg w
  began : readOn isCycle w.log = some s
  narrowed : u = u32 s
  first : 0 ≤ s
  past : s ≤ w.dev.now
  cycle : entering isCycle w.log = false
  report : entering isReport w.log = false

/-- And in a report that read the clock at `r`. -/
structure Clocked (cfg : Config) (u : Nat) (s r : Int) (w : Tracker) : Prop
    extends Timing cfg u s w where
  asked : readOn isReport w.log = some r
  late : s ≤ r

/-- An event that hands over no message keeps the promise. -/
theorem AwakeLaw.cons {w : Tracker} (h : AwakeLaw cfg w) {e : Ev}
    (he : messageOf e = none) :
    Always (fun e l => AwakeTold cfg e l ↔ EarlyStart e l) (e :: w.log) := by
  refine ⟨?_, h⟩
  constructor
  · intro _ text ht
    rw [he] at ht
    cases ht
  · intro _ text ht
    rw [he] at ht
    cases ht

/-- Only a send carries a message. -/
theorem messageOf_silent {o : Op} (h : group o ≠ .send) (s : Statics) (d : Dev)
    (r : o.Ret) : messageOf (.call s d o r) = none := by
  cases o with
  | jsonMessageSend text => exact absurd rfl h
  | sendSocket text => exact absurd rfl h
  | _ => rfl

/-- A call that enters no such function leaves what it read. -/
theorem readOn_called {p : Fn → Bool} {o : Op}
    (ho : ∀ f, o = .enter f → p f = false) (s : Statics) (d : Dev)
    (r : o.Ret) {l : Trace} (hl : entering p l = false) :
    readOn p (.call s d o r :: l) = readOn p l ∧
      entering p (.call s d o r :: l) = false := by
  cases o with
  | kUptimeGet =>
      refine ⟨?_, rfl⟩
      show (if entering p l = true then some r else readOn p l) = readOn p l
      rw [hl, if_neg Bool.false_ne_true]
  | enter f => exact ⟨rfl, ho f rfl⟩
  | _ => exact ⟨rfl, rfl⟩

/-- A call that begins neither a cycle nor a report. -/
def Continues (o : Op) : Prop :=
  ∀ f, o = .enter f → isCycle f = false ∧ isReport f = false

/-- A call that begins neither a cycle nor a report keeps what is known of the
start, -/
theorem Timing.called {u : Nat} {s : Int} {w : Tracker}
    (h : Timing cfg u s w) {o : Op} (ho : Continues o) {r : o.Ret}
    (hlaw : AwakeLaw cfg (w.called (device cfg) o r)) :
    Timing cfg u s (w.called (device cfg) o r) := by
  obtain ⟨hbegan, hcycle⟩ := readOn_called (fun f hf => (ho f hf).1) w.st w.dev
    r h.cycle
  obtain ⟨-, hreport⟩ := readOn_called (fun f hf => (ho f hf).2) w.st w.dev r
    h.report
  refine ⟨hlaw, hbegan.trans h.began, h.narrowed, h.first, ?_, hcycle, hreport⟩
  show s ≤ ((effect o r w.dev).now : Int)
  rw [effect_now]
  exact h.past

/-- and of the time that the report took for itself. -/
theorem Clocked.called {u : Nat} {s r : Int} {w : Tracker}
    (h : Clocked cfg u s r w) {o : Op} (ho : Continues o) {a : o.Ret}
    (hlaw : AwakeLaw cfg (w.called (device cfg) o a)) :
    Clocked cfg u s r (w.called (device cfg) o a) := by
  obtain ⟨hasked, -⟩ := readOn_called (fun f hf => (ho f hf).2) w.st w.dev a
    h.report
  exact ⟨h.toTiming.called ho hlaw, hasked.trans h.asked, h.late⟩

-- =================================================================== frames

/-- The groups that the law looks at. -/
abbrev clockGroups : List Group :=
  [.send, .mark (.cycle .boot), .mark (.cycle .timer), .mark (.cycle .vbus),
    .mark (.cycle .motion), .mark (.reportFix true), .mark (.reportFix false)]

/-- The calls off the clock groups are such calls. -/
theorem clockGroups_continue {o : Op} (h : Off clockGroups o) : Continues o := by
  rintro f rfl
  unfold Off at h
  cases f with
  | cycle wr => cases wr <;> exact absurd h (by simp)
  | reportFix b => cases b <;> exact absurd h (by simp)
  | _ => exact ⟨rfl, rfl⟩

/-- The law itself depends on sends only. -/
theorem awake_frame :
    Frame (device cfg) Free (AwakeLaw cfg) (AwakeLaw cfg) (Off [.send])
      (Keep []) where
  stable := fun w a h _ _ => h.cons rfl
  calls := fun w o r ho h _ _ =>
    h.cons (messageOf_silent (ho.ne (by simp)) w.st w.dev r)
  writes := fun _ _ _ h => h
  gives := fun _ h => h

/-- The start of the cycle outlasts every call but the clock marks, -/
theorem timing_frame (u : Nat) (s : Int) :
    Frame (device cfg) Free (AwakeLaw cfg) (Timing cfg u s) (Off clockGroups)
      (Keep []) where
  stable := fun w a h _ _ =>
    ⟨h.record.cons rfl, h.began, h.narrowed, h.first,
      Int.le_trans h.past (Int.ofNat_le.mpr (move_drifts cfg a w.dev).now),
      h.cycle, h.report⟩
  calls := fun w o r ho h _ _ => h.called (clockGroups_continue ho)
    (h.record.cons (messageOf_silent (ho.ne (by simp)) w.st w.dev r))
  writes := fun _ _ _ h => ⟨h.record, h.began, h.narrowed, h.first, h.past,
    h.cycle, h.report⟩
  gives := fun _ h => h.record

/-- so does the pair of start and report time, -/
theorem clocked_frame (u : Nat) (s r : Int) :
    Frame (device cfg) Free (AwakeLaw cfg) (Clocked cfg u s r)
      (Off clockGroups) (Keep []) where
  stable := fun w a h hcan hG =>
    ⟨(timing_frame u s).stable w a h.toTiming hcan hG, h.asked, h.late⟩
  calls := fun w o r ho h _ _ => h.called (clockGroups_continue ho)
    (h.record.cons (messageOf_silent (ho.ne (by simp)) w.st w.dev r))
  writes := fun w f hf h =>
    ⟨(timing_frame u s).writes w f hf h.toTiming, h.asked, h.late⟩
  gives := fun _ h => h.record

/-- In a cycle of whose start `u` is left. -/
abbrev Along (cfg : Config) (u : Nat) (w : Tracker) : Prop :=
  ∃ s, Timing cfg u s w

/-- and so does a start of which only the low word is known. -/
theorem along_frame (u : Nat) :
    Frame (device cfg) Free (AwakeLaw cfg) (Along cfg u) (Off clockGroups)
      (Keep []) := Frame.exists (timing_frame u)

-- =============================================================== the clocks

/-- The cycle begins at the uptime it reads. -/
theorem topOfCycle_along (wr : WakeReason) :
    Triple (device cfg) Free (AwakeLaw cfg) (AwakeLaw cfg) (topOfCycle wr)
      fun u => Along cfg u := by
  have hentered : Stable (device cfg) Free fun w =>
      AwakeLaw cfg w ∧ entering isCycle w.log = true :=
    fun w a h _ _ => ⟨h.1.cons rfl, h.2⟩
  have henter : Triple (device cfg) Free (AwakeLaw cfg) (AwakeLaw cfg)
      (call (.enter (.cycle wr))) fun _ w =>
        AwakeLaw cfg w ∧ entering isCycle w.log = true :=
    Triple.op awake_frame.stable fun w r h _ _ =>
      ⟨h.cons rfl, h.cons rfl, rfl⟩
  -- the clock is read next, and what the cycle keeps of it is the low word
  have hread : Triple (device cfg) Free (AwakeLaw cfg)
      (fun w => AwakeLaw cfg w ∧ entering isCycle w.log = true)
      (call .kUptimeGet) fun now => Timing cfg (u32 now) now := by
    refine Triple.op hentered fun w now h hok _ => ?_
    have hlaw : AwakeLaw cfg (w.called (device cfg) .kUptimeGet now) :=
      h.1.cons rfl
    have hnow : now = (w.dev.now : Int) := eq_of_beq hok
    refine ⟨hlaw, hlaw, if_pos h.2, rfl, ?_, ?_, rfl, rfl⟩
    · rw [hnow]
      exact Int.natCast_nonneg _
    · exact Int.le_of_eq hnow
  refine henter.bind fun _ => hread.bind fun now => ?_
  have F := @timing_frame cfg (u32 now) now
  have hrest : Triple (device cfg) Free (AwakeLaw cfg)
      (Timing cfg (u32 now) now) (do
        watchdogPhase .wake
        watchdogFeed
        pure (u32 now) : P Nat) fun u => Along cfg u :=
    (part F (watchdogPhase_foot _) (by simp) (by simp)).bind fun _ =>
      (part F watchdogFeed_foot (by simp) (by simp)).bind fun _ =>
      Triple.ret fun w h => ⟨now, h⟩
  refine Triple.ite (fun _ => ?_) fun _ => hrest
  exact (part F (g := []) (v := [.batterySleeps]) (by simp [Var.forall])
    (by simp) (by simp)).bind fun _ => hrest

/-- A report begins with a look at the clock. -/
theorem reportFix_reads (u : Nat) (s : Int) (b : Bool) :
    Triple (device cfg) Free (AwakeLaw cfg) (Timing cfg u s) (do
      call (.enter (.reportFix b))
      call .kUptimeGet : P Int) fun r => Clocked cfg u s r := by
  have hlaw : ∀ {w : Tracker} {o : Op} {r : o.Ret}, group o ≠ .send →
      AwakeLaw cfg w → AwakeLaw cfg (w.called (device cfg) o r) :=
    fun ho h => h.cons (messageOf_silent ho _ _ _)
  -- between the entry and the reading
  let Entered : Tracker → Prop := fun w => AwakeLaw cfg w ∧
    readOn isCycle w.log = some s ∧ u = u32 s ∧ 0 ≤ s ∧ s ≤ w.dev.now ∧
    entering isCycle w.log = false ∧ entering isReport w.log = true
  have hstable : Stable (device cfg) Free Entered := by
    rintro w a ⟨h, hbegan, hu, hfirst, hpast, hcycle, hreport⟩ _ _
    exact ⟨h.cons rfl, hbegan, hu, hfirst,
      Int.le_trans hpast (Int.ofNat_le.mpr (move_drifts cfg a w.dev).now),
      hcycle, hreport⟩
  refine Triple.bind (R := fun _ => Entered)
    (Triple.op (timing_frame u s).stable fun w r h _ _ => ?_) fun _ =>
    Triple.op hstable fun w now h hok _ => ?_
  · have hrecord := hlaw (o := .enter (.reportFix b)) (r := r) (by simp)
      h.record
    exact ⟨hrecord, hrecord, h.began, h.narrowed, h.first, h.past, rfl, rfl⟩
  · obtain ⟨hw, hbegan, hu, hfirst, hpast, hcycle, hreport⟩ := h
    have hrecord := hlaw (o := .kUptimeGet) (r := now) (by simp) hw
    have hnow : now = (w.dev.now : Int) := eq_of_beq hok
    have hkept : readOn isCycle (.call w.st w.dev .kUptimeGet now :: w.log)
        = some s := by
      rw [readOn, hcycle, if_neg Bool.false_ne_true]
      exact hbegan
    refine ⟨hrecord, ⟨hrecord, hkept, hu, hfirst, hpast, rfl, rfl⟩,
      if_pos hreport, ?_⟩
    rw [hnow]
    exact hpast

/-- What a report of that clock hands over keeps the promise. -/
theorem message_clocked {u : Nat} {s r : Int} {phase : Nat} {t : Telemetry}
    (ht : t.awakeS = u32 ((r - u).tdiv 1000)) {o : Op} {text : Text}
    (ho : ∀ st d a, messageOf (.call st d o a) = some text)
    (hne : ∀ f, o ≠ .enter f)
    (htext : Wraps cfg (telemetryText cfg phase t) text) :
    Triple (device cfg) Free (AwakeLaw cfg) (Clocked cfg u s r) (call o)
      fun _ => Clocked cfg u s r := by
  refine Triple.op (clocked_frame u s r).stable fun w a h _ _ => ?_
  have hseconds : r - s < awakeWrapMs →
      ((awakeOf cfg text : Int) = (r - s) / 1000 ↔
        s % awakeWrapMs < uptimeWrapMs) := by
    intro hlong
    rw [awakeOf_wraps htext, ht, h.narrowed]
    exact awake_seconds_iff h.first h.late hlong
  have hlaw : AwakeTold cfg (.call w.st w.dev o a) w.log
      ↔ EarlyStart (.call w.st w.dev o a) w.log := by
    constructor
    -- the start and the reading on record are the ones the record was built
    -- of
    · intro htold text' he s' r' hs' hr' hlong
      obtain ⟨s₁, r₁, hs₁, hr₁, -, -, hright⟩ := htold text' he
      rw [ho] at he
      cases he
      rw [h.began] at hs' hs₁
      rw [h.asked] at hr' hr₁
      cases hs'
      cases hr'
      cases hs₁
      cases hr₁
      exact (hseconds hlong).mp (hright hlong)
    · intro hearly text' he
      refine ⟨s, r, h.began, h.asked, h.first, h.late, fun hlong => ?_⟩
      have hstart := hearly text' he s r h.began h.asked hlong
      rw [ho] at he
      cases he
      exact (hseconds hlong).mpr hstart
  have hrecord : AwakeLaw cfg (w.called (device cfg) o a) := ⟨hlaw, h.record⟩
  exact ⟨hrecord, h.called (fun f hf => absurd hf (hne f)) hrecord⟩

/-- The part of a report after its clock reading. -/
theorem reportBody_times (fix : Option TrackerFix) (u : Nat) (s r : Int)
    (wr : WakeReason) :
    Triple (device cfg) Free (AwakeLaw cfg) (Clocked cfg u s r) (do
      let power ← powerRead
      let rsrp ← call .rsrpGet
      watchdogPhase .report
      let st ← Prog.get
      match telemetryBuildJson cfg st.phaseAtReset
          (telemetryOf fix r u wr power rsrp) 256 with
      | .error _ => pure (-ENOMEM)
      | .ok payload => deliver cfg fix payload : P Int)
      fun _ => Timing cfg u s := by
  have F := @clocked_frame cfg u s r
  refine (part F powerRead_foot (by simp) (by simp)).bind fun power =>
    (part F (g := [.rsrp]) (v := []) (by simp) (by simp) (by simp)).bind
    fun rsrp => (part F (watchdogPhase_foot _) (by simp) (by simp)).bind
    fun _ => Triple.get fun st => ?_
  -- a record that does not fit is not sent
  cases hbuilt : telemetryBuildJson cfg st.phaseAtReset
      (telemetryOf fix r u wr power rsrp) 256 with
  | error err => exact Triple.ret fun w h => h.1.toTiming
  | ok payload =>
      obtain ⟨hpayload, -⟩ := telemetryBuildJson_ok hbuilt
      have hsend : Triple (device cfg) Free (AwakeLaw cfg)
          (Clocked cfg u s r) (cloudSendTelemetry cfg payload)
          fun _ => Clocked cfg u s r := by
        rw [hpayload]
        exact telemetry_sends
          (fun o ho => plain_keeps F ho (by simp))
          (fun text htext => message_clocked rfl (fun _ _ _ => rfl)
            (by simp) htext)
          fun text htext => message_clocked rfl (fun _ _ _ => rfl)
            (by simp) htext
      have hresume := part F (cloudResume_foot cfg) (by simp) (by simp)
      have hmark : ∀ f, f = .firstSend ∨ f = .retrySend →
          Group.mark f ∉ clockGroups := by
        rintro f (rfl | rfl) <;> simp
      -- either send of a report carries the same record
      exact (deliver_keeps F (by simp) (by simp)
        (sendReport_sends F (by simp) hmark hsend hresume) fun fix =>
        part F (cloudSendLocation_foot cfg fix) (by simp) (by simp)).conseq
        (fun w h => h.1) fun _ w h => h.toTiming

/-- A report, with or without a fix, in whichever place of the cycle. -/
theorem reportFix_along (fix : Option TrackerFix) (u : Nat)
    (wr : WakeReason) :
    Triple (device cfg) Free (AwakeLaw cfg) (Along cfg u)
      (reportFix cfg fix u wr) fun _ => Along cfg u := by
  rintro w ⟨s, hw⟩
  revert w
  show Triple (device cfg) Free (AwakeLaw cfg) (Timing cfg u s)
    (reportFix cfg fix u wr) fun _ => Along cfg u
  have hleave : ∀ r : Int, Triple (device cfg) Free (AwakeLaw cfg)
      (Timing cfg u s) (do
        call (.leave (.reportFix fix.isSome) r)
        pure r : P Int) fun _ => Along cfg u := by
    intro r
    refine Triple.bind (R := fun _ => Timing cfg u s)
      (Triple.op (timing_frame u s).stable fun w a h _ _ => ?_)
      fun _ => Triple.ret fun w h => ⟨s, h⟩
    have hrecord : AwakeLaw cfg
        (w.called (device cfg) (.leave (.reportFix fix.isSome) r) a) :=
      h.record.cons rfl
    exact ⟨hrecord, h.called (o := .leave (.reportFix fix.isSome) r)
      (by simp [Continues]) hrecord⟩
  exact (reportFix_reads u s fix.isSome).bind fun r =>
    (reportBody_times fix u s r wr).bind hleave

-- =================================================================== main

/-- From the receiver on, the start of the cycle stays known at every mark. -/
theorem awake_receiving (u : Nat) (wr : WakeReason) :
    Receiving cfg Free (AwakeLaw cfg) (Along cfg u) (Along cfg u)
      (Along cfg u) (Along cfg u) u wr := by
  have F := @along_frame cfg u
  have hquiet : Frame (device cfg) Free (AwakeLaw cfg) (Along cfg u) Unguarded
      (Touch [.phase]) :=
    F.mono (fun o h => by
      unfold Off
      rw [h.1]
      simp) fun _ _ _ => by simp [Keep]
  have hbrisk : Frame (device cfg) Free (AwakeLaw cfg) (Along cfg u) Brisk
      (Touch [.phase]) := hquiet.mono (fun _ h => h.1) fun _ _ h => h
  exact
    { runs := hbrisk
      tolds := hbrisk
      passes := hbrisk
      request := request_keeps hquiet
      fetch := (part F (agnssFetchAndInject_foot cfg) (by simp) (by simp)).pre
        fun _ h => h.1
      wait := fun t => part F (gnssWaitFix_foot cfg t) (by simp) (by simp)
      fallback := part F (gnssFallback_foot cfg) (by simp) (by simp)
      report := fun fix => reportFix_along fix u wr
      unreported := fun _ h => h
      ledTold := fun b => part F (statusLedReport_foot cfg b) (by simp)
        (by simp)
      keepIf := (part F (keepReporting_foot cfg _ _) (by simp)
        (by simp)).post fun _ _ h => by split <;> exact h
      logLine := part F (powerVbusPresent_foot _) (by simp) (by simp)
      keepWhile := (part F (keepReporting_foot cfg _ _) (by simp)
        (by simp)).post fun _ _ h => by split <;> exact h
      holdOff := part F (holdOffMotion_foot cfg) (by simp) (by simp) }

/-- Only within a cycle is its start time at hand. -/
abbrev awakeAt (cfg : Config) : Place → Tracker → Prop
  | .during u _ _ => Along cfg u
  | _ => AwakeLaw cfg

/-- Main walked through, with the start of the cycle from its head on. -/
theorem awake_walk : Walk cfg Free (AwakeLaw cfg) (awakeAt cfg) where
  gives := fun _ h => h
  phase pl p := by
    cases pl with
    | during u wr st =>
        exact part (along_frame u) (watchdogPhase_foot p) (by simp) (by simp)
    | _ => exact part awake_frame (watchdogPhase_foot p) (by simp) (by simp)
  setUp := (part awake_frame (setUp_foot) (by simp) (by simp)).post
    fun _ _ h _ => h
  topOfCycle wr := topOfCycle_along wr
  network u wr := by
    have F := @along_frame cfg u
    refine Triple.ite (fun _ => Triple.ret fun w h => h) fun _ => ?_
    refine (part F (recoverIfSilent_foot cfg) (by simp) (by simp)).bind
      fun _ => (part F (watchdogPhase_foot _) (by simp) (by simp)).bind
      fun _ => (part F (lteEnsureConnected_foot cfg) (by simp) (by simp)).bind
      fun r => Triple.ret fun w h => ?_
    split
    · exact h
    · exact (along_frame u).gives w h
  ledCut := part awake_frame (statusLedSet_foot cfg _) (by simp) (by simp)
  guardStart u _ := part (along_frame u) (watchdogGuardStart_foot _) (by simp)
    (by simp)
  resume u _ := part (along_frame u) (cloudResume_foot cfg) (by simp) (by simp)
  guardStop u _ := part (along_frame u) watchdogGuardStop_foot (by simp)
    (by simp)
  ledOn u _ := part (along_frame u) (statusLedReport_foot cfg _) (by simp)
    (by simp)
  start u _ := (part (along_frame u) (gnssStart_foot cfg) (by simp)
    (by simp)).post fun r w h => by
      split
      · exact h
      · exact (along_frame u).gives w h
  acquire u wr := (awake_receiving u wr).acquire
  firstReport u wr fix := (awake_receiving u wr).firstReport fix
  keepIf u wr := (awake_receiving u wr).keepIf
  logLine u wr := (awake_receiving u wr).logLine
  keepWhile u wr := (awake_receiving u wr).keepWhile
  frequentPass u wr := (awake_receiving u wr).frequentPass
  stop u _ := (part (along_frame u) (gnssStop_foot cfg) (by simp)
    (by simp)).post fun _ => (along_frame u).gives
  pause _ := part awake_frame (cloudPause_foot cfg) (by simp) (by simp)
  sleep site := part awake_frame (batterySleep_foot cfg site) (by simp)
    (by simp)

-- ===================================================================== the law

/-- Each message of every run reports the whole seconds from the start of its
cycle to its report if and only if the cycle began in the first of a thousand
wraps of the clock. -/
theorem awake_told_iff {w : Tracker} (hw : Booted cfg w) {n fuel : Nat}
    {c : P Int × Tracker} (hr : Reach (device cfg) (main cfg n fuel) w c) :
    Always (fun e l => AwakeTold cfg e l ↔ EarlyStart e l) c.2.log := by
  have hboot : AwakeLaw cfg w := by
    unfold AwakeLaw
    rw [hw.log]
    trivial
  exact awake_walk.reach hboot hr (always_free _)

/-- A clock that passes 2³² milliseconds while the first fix is awaited. -/
def aged : Script Statics Dev Move Calls := fun w o =>
  match o with
  | .semTake .modemFix ms =>
      (if w.dev.now < 4294967296 then [.tick 4294967296] else [.tick ms],
        -EAGAIN)
  | o => calm w o

/-- A first cycle, whose start no wrap has touched. -/
theorem awake_told_iff_first :
    ((playMain fixless calm 1 9 230).2.log.filterMap messageOf).map
      (awakeOf fixless) = [120] ∧
    Always (fun e l => AwakeTold fixless e l ↔ EarlyStart e l)
      (playMain fixless calm 1 9 230).2.log :=
  ⟨by decide +kernel, awake_told_iff (start_booted fixless)
    (playMain_reach fixless calm 1 9 230)⟩

/-- A cycle that began at 4295507296 and reported at 4295627296 told not of
120 seconds but of 4295087. -/
theorem awake_wrapped :
    ∃ cfg w n fuel c, Booted cfg w ∧
      Reach (device cfg) (main cfg n fuel) w c ∧
      ¬Always (AwakeTold cfg) c.2.log := by
  have hmiss : ∀ l : Trace, readOn isCycle l.tail = some 4295507296 →
      readOn isReport l.tail = some 4295627296 →
      (l.head?.bind messageOf).map (awakeOf fixless) = some 4295087 →
      ¬Always (AwakeTold fixless) l := by
    intro l hs hr hawake htold
    cases l with
    | nil => cases hawake
    | cons e l =>
        have hmessage : (messageOf e).map (awakeOf fixless) = some 4295087 :=
          hawake
        obtain ⟨text, htext, htells⟩ := Option.map_eq_some_iff.mp hmessage
        obtain ⟨s', r', hs', hr', -, -, hright⟩ := htold.1 text htext
        rw [List.tail_cons] at hs hr
        rw [hs] at hs'
        rw [hr] at hr'
        cases hs'
        cases hr'
        have hwhole := hright (by decide)
        rw [htells] at hwhole
        revert hwhole
        decide
  exact ⟨fixless, start fixless, 2, 9, playMain fixless aged 2 9 312,
    start_booted fixless, playMain_reach fixless aged 2 9 312,
    hmiss _ (by decide +kernel) (by decide +kernel) (by decide +kernel)⟩

end GpsTracker
