/-
Both transports carry the payload unaltered (cloud_nrf.c, hologram.c).

The nRF envelope splices the payload in as the value of its `data` member;
the Hologram envelope holds it as a string. Escaping a payload adds one
backslash for each of its quotes and nothing else, and a payload has at
most 28 of them, so neither buffer can overflow and either backend ends up
with the same object.
-/
import GpsTracker.Laws.Payload
import GpsTracker.Run.Script

namespace GpsTracker

open Proc
open Json (Reads Plain)

-- ================================================================ escaping

/-- `\u00XX` stands for the control character it names. -/
private theorem control_hex : ∀ n < 32,
    Json.hex4 '0' '0' (Nat.digitChar (n / 16)) (Nat.digitChar (n % 16))
      = some n := by decide

/-- What `hologram_escape` writes for a character reads back as it, whichever
of its four branches wrote it. -/
theorem escapeChar_encodes (c : Char) :
    Json.Encodes (Hologram.escapeChar c) [c] := by
  have hof : ∀ n, c.toNat = n → Char.ofNat n = c := by
    rintro n rfl
    exact Char.ofNat_toNat c
  unfold Hologram.escapeChar
  split
  next h => exact Json.Encodes.short (by decide) (by rw [h]; rfl)
  next hq =>
  split
  next h => exact Json.Encodes.short (by decide) (by rw [h]; rfl)
  next hb =>
  split
  next h => exact Json.Encodes.short (by decide) (congrArg some (hof 8 h))
  split
  next h => exact Json.Encodes.short (by decide) (congrArg some (hof 9 h))
  split
  next h => exact Json.Encodes.short (by decide) (congrArg some (hof 10 h))
  split
  next h => exact Json.Encodes.short (by decide) (congrArg some (hof 12 h))
  split
  next h => exact Json.Encodes.short (by decide) (congrArg some (hof 13 h))
  split
  next h =>
    have hu := Json.Encodes.unicode (control_hex c.toNat h) (by omega)
    rwa [hof c.toNat rfl] at hu
  next h => exact Json.Encodes.char hq hb (by omega)

/-- An escaped text stands for the text, whatever its characters. -/
theorem escape_encodes (s : Text) : Json.Encodes (Hologram.escape s) s := by
  induction s with
  | nil => exact Json.Encodes.nil
  | cons c s ih => exact (escapeChar_encodes c).append ih

/-- A character that only as a quote needs escaping. -/
def Printed (s : Text) : Prop := ∀ c ∈ s, c ≠ '\\' ∧ 32 ≤ c.toNat

instance (s : Text) : Decidable (Printed s) := List.decidableBAll _ s

/-- Printed texts join. -/
theorem Printed.append {s s' : Text} (h : Printed s) (h' : Printed s') :
    Printed (s ++ s') := by
  intro c hc
  rcases List.mem_append.mp hc with hc | hc
  · exact h c hc
  · exact h' c hc

/-- A plain text is printed in particular. -/
theorem Printed.plain {s : Text} (h : Plain s) : Printed s :=
  fun c hc => (h c hc).2

/-- Of what snprintf and cJSON print, only the quote gets an escape: the other
branches of `hologram_escape` have nothing to do there. -/
theorem escapeChar_printed {c : Char} (hb : c ≠ '\\') (h : 32 ≤ c.toNat) :
    Hologram.escapeChar c = if c = '"' then ['\\', '"'] else [c] := by
  have hne : ∀ n < 32, c.toNat ≠ n := by
    intro n hn
    omega
  unfold Hologram.escapeChar
  rw [if_neg hb, if_neg (hne 8 (by decide)), if_neg (hne 9 (by decide)),
    if_neg (hne 10 (by decide)), if_neg (hne 12 (by decide)),
    if_neg (hne 13 (by decide)), if_neg (Nat.not_lt.mpr h)]

/-- Escaping costs one character for each quote. -/
theorem escape_length {s : Text} (h : Printed s) :
    (Hologram.escape s).length = s.length + s.count '"' := by
  induction s with
  | nil => rfl
  | cons c s ih =>
      obtain ⟨hb, hc⟩ := h c (by simp)
      have hs := ih fun d hd => h d (List.mem_cons_of_mem _ hd)
      show (Hologram.escapeChar c ++ Hologram.escape s).length = _
      rw [List.length_append, hs, escapeChar_printed hb hc, List.count_cons,
        List.length_cons]
      by_cases hq : c = '"'
      · subst hq
        simp
        omega
      · simp [hq]
        omega

/-- And leaves no control character. -/
theorem escape_newline {s : Text} (h : Printed s) :
    '\n' ∉ Hologram.escape s := by
  intro hm
  obtain ⟨c, hc, hm⟩ := List.mem_flatMap.mp hm
  obtain ⟨hb, hlt⟩ := h c hc
  rw [escapeChar_printed hb hlt] at hm
  split at hm
  next => exact absurd hm (by decide)
  next =>
    rw [← List.mem_singleton.mp hm] at hlt
    exact absurd hlt (by decide)

-- ============================================================== the payload

private theorem digit_plain {c : Char} (h : c.isDigit = true) :
    c ≠ '"' ∧ c ≠ '\\' ∧ 32 ≤ c.toNat := by
  refine ⟨?_, ?_, ?_⟩
  · rintro rfl
    cases h
  · rintro rfl
    cases h
  · have h0 : '0'.toNat ≤ c.toNat := (Char.isDigit_iff_toNat.mp h).1
    exact Nat.le_trans (by decide) h0

/-- The number formats print digits, signs and points, and none of them needs
an escape: `%u`, -/
theorem fmtU_plain (n : Nat) : Plain (fmtU n) := fun c hc =>
  digit_plain (Json.toDigits_digit c hc)

/-- `%d`, -/
theorem fmtD_plain (i : Int) : Plain (fmtD i) := by
  unfold fmtD
  split
  · exact Plain.append (s := ['-']) (by decide) (fmtU_plain _)
  · exact fmtU_plain _

/-- and `%.nf`. -/
theorem fmtF_plain (places : Nat) (q : Rat) : Plain (fmtF places q) := by
  have hfrac : ∀ k n, Plain (padded k n) := fun k n c hc =>
    digit_plain (padded_digit k n c hc)
  refine Plain.append (Plain.append ?_ (fmtU_plain _))
    (Plain.append (s := ['.']) (by decide) (hfrac _ _))
  split <;> decide

/-- A payload needs no escape but for its quotes, of which there are at
most 28. -/
theorem telemetryText_printed {cfg : Config} (hfw : Plain cfg.buildStamp)
    (hhw : Plain cfg.hwRevision) (p : Phase) (t : Telemetry) :
    Printed (telemetryText cfg p.code t)
      ∧ (telemetryText cfg p.code t).count '"' ≤ 28 := by
  have hwake : Plain (wakeReasonName t.wake) := by
    cases t.wake <;> decide
  have hwdt : Printed (wdtMember p.code)
      ∧ (wdtMember p.code).count '"' ≤ 2 := by
    cases p <;> decide
  have hlon := fmtF_plain 6 t.longitude
  have hlat := fmtF_plain 6 t.latitude
  have hhdop := fmtF_plain 2 t.hdop
  have hbatt := fmtU_plain (telemetryBatteryPercent t.battMv)
  have hvolt := fmtU_plain t.battMv
  have hcharge := fmtD_plain t.charge.code
  have hsignal := fmtD_plain t.signalDbm
  have hawake := fmtU_plain t.awakeS
  unfold telemetryText
  generalize fmtF 6 t.longitude = longitude at hlon ⊢
  generalize fmtF 6 t.latitude = latitude at hlat ⊢
  generalize fmtF 2 t.hdop = hdop at hhdop ⊢
  generalize fmtU (telemetryBatteryPercent t.battMv) = batt at hbatt ⊢
  generalize fmtU t.battMv = volt at hvolt ⊢
  generalize fmtD t.charge.code = charge at hcharge ⊢
  generalize fmtD t.signalDbm = signal at hsignal ⊢
  generalize fmtU t.awakeS = awake at hawake ⊢
  generalize wakeReasonName t.wake = wake at hwake ⊢
  generalize wdtMember p.code = wdt at hwdt ⊢
  constructor
  · repeat' apply Printed.append
    all_goals first
      | exact hwdt.1
      | exact Printed.plain ‹_›
      | decide
  · simp only [List.count_append, hlon.count, hlat.count, hhdop.count,
      hbatt.count, hvolt.count, hcharge.count, hsignal.count, hawake.count,
      hwake.count, hfw.count, hhw.count]
    have := hwdt.2
    simp
    omega

-- ============================================================ the envelopes

private theorem blank_nil : Json.Blank [] := by decide

private theorem quoted_reads {s : Text} (h : Plain s) :
    Reads ('"' :: s ++ ['"']) (.str s) := Reads.str (Json.Encodes.plain h)

private theorem escaped_reads (s : Text) :
    Reads ('"' :: Hologram.escape s ++ ['"']) (.str s) :=
  Reads.str (escape_encodes s)

/-- The members of a device message, each with its text. -/
def messageTexts (cfg : Config) (ts : Option Int) (payload : Text) :
    List (Text × Text) :=
  [("appId".toList, '"' :: cfg.nrfCloudAppId ++ ['"']),
    ("messageType".toList, '"' :: "DATA".toList ++ ['"'])]
  ++ (match ts with
      | some ms => [("ts".toList, fmtD ms)]
      | none => [])
  ++ [("data".toList, payload)]

/-- The members of a device message, each with its value. -/
def messageValues (cfg : Config) (ts : Option Int) (j : Json) :
    List (Text × Json) :=
  [("appId".toList, .str cfg.nrfCloudAppId),
    ("messageType".toList, .str "DATA".toList)]
  ++ (match ts with
      | some ms => [("ts".toList, .num ms)]
      | none => [])
  ++ [("data".toList, j)]

/-- The format string of `cloud_nrf.c` writes out one JSON object. -/
theorem nrfEnvelope_eq (cfg : Config) (ts : Option Int) (payload : Text) :
    Nrf.envelope cfg ts payload
      = Json.objectText [] (messageTexts cfg ts payload) := by
  unfold Nrf.envelope messageTexts
  generalize cfg.nrfCloudAppId = appId
  cases ts with
  | none => simp [Json.objectText, Json.listed, Json.member]
  | some ms =>
      generalize fmtD ms = stamp
      simp [Json.objectText, Json.listed, Json.member]

/-- A device message is an object whose `data` is the payload's value. -/
theorem nrfEnvelope_reads {cfg : Config} (happ : Plain cfg.nrfCloudAppId)
    (ts : Option Int) {payload : Text} {j : Json} (h : Reads payload j) :
    Reads (Nrf.envelope cfg ts payload) (.obj (messageValues cfg ts j)) := by
  rw [nrfEnvelope_eq]
  refine Reads.object blank_nil (List.rel_append (List.rel_append ?_ ?_) ?_)
  · exact .cons ((quoted_reads happ).named (by decide))
      (.cons ((quoted_reads (by decide)).named (by decide)) .nil)
  · cases ts with
    | none => exact .nil
    | some ms => exact .cons ((fmtD_reads ms).named (by decide)) .nil
  · exact .cons (h.named (by decide)) .nil

/-- The members of a Hologram message, each with its text. -/
def hologramTexts (cfg : Config) (payload : Text) (topic list : Bool) :
    List (Text × Text) :=
  [("k".toList, '"' :: Hologram.escape cfg.hologramDeviceKey ++ ['"']),
    ("d".toList, '"' :: Hologram.escape payload ++ ['"'])]
  ++ (if list then
        [("t".toList, Json.arrayText [] (if topic then
          ['"' :: Hologram.escape cfg.hologramTopic ++ ['"']] else []))]
      else [])

/-- The members of a Hologram message, each with its value. -/
def hologramValues (cfg : Config) (payload : Text) (topic list : Bool) :
    List (Text × Json) :=
  [("k".toList, .str cfg.hologramDeviceKey), ("d".toList, .str payload)]
  ++ (if list then
        [("t".toList, .arr (if topic then [.str cfg.hologramTopic] else []))]
      else [])

/-- And so does the one of `cloud_hologram.c`, with or without topic and list.
-/
theorem hologramEnvelope_eq (cfg : Config) (payload : Text)
    (topic list : Bool) :
    Hologram.envelope cfg payload topic list
      = Json.objectText [] (hologramTexts cfg payload topic list) := by
  unfold Hologram.envelope hologramTexts
  generalize Hologram.escape cfg.hologramDeviceKey = key
  generalize Hologram.escape cfg.hologramTopic = name
  generalize Hologram.escape payload = data
  cases list <;> cases topic <;>
    simp [Json.objectText, Json.arrayText, Json.listed, Json.member]

/-- A Hologram message is an object whose `d` is the payload itself, as a
string. -/
theorem hologramEnvelope_reads (cfg : Config) (payload : Text)
    (topic list : Bool) :
    Reads (Hologram.envelope cfg payload topic list)
      (.obj (hologramValues cfg payload topic list)) := by
  rw [hologramEnvelope_eq]
  refine Reads.object blank_nil (List.rel_append ?_ ?_)
  · exact .cons ((escaped_reads _).named (by decide))
      (.cons ((escaped_reads _).named (by decide)) .nil)
  · cases list with
    | false => exact .nil
    | true =>
        refine .cons ((Reads.array blank_nil ?_).named (by decide)) .nil
        cases topic with
        | false => exact .nil
        | true => exact .cons (escaped_reads _) .nil

-- ================================================================== sizes

/-- `telemetry_build_json` accepts what is shorter than its buffer. -/
theorem telemetryBuildJson_ok {cfg : Config} {phase len : Nat}
    {t : Telemetry} {payload : Text}
    (h : telemetryBuildJson cfg phase t len = .ok payload) :
    payload = telemetryText cfg phase t ∧ payload.length < len := by
  simp only [telemetryBuildJson] at h
  generalize telemetryText cfg phase t = text at h ⊢
  split at h
  next => cases h
  next hlen =>
    cases h
    exact ⟨rfl, Nat.lt_of_not_ge hlen⟩

/-- The names a message goes under: those of the build's defaults, and any
key of the eight characters a build insists on. -/
structure Config.Addressed (cfg : Config) : Prop where
  appId : cfg.nrfCloudAppId = "GPSTRACKER".toList
  topic : cfg.hologramTopic = "TRACKER".toList
  key_length : cfg.hologramDeviceKey.length = 8
  key_plain : Plain cfg.hologramDeviceKey

/-- A time in milliseconds as the clock gives it, an `int64_t`. -/
def Int64 (ms : Int) : Prop := -2 ^ 63 ≤ ms ∧ ms < 2 ^ 63

/-- A payload that main can hold never fills the envelope of nRF Cloud: the
longest prefix and time stamp are counted in. -/
theorem nrfEnvelope_length {cfg : Config} (hcfg : cfg.Addressed)
    {ts : Option Int} (hts : ∀ ms ∈ ts, Int64 ms) {payload : Text}
    (h : payload.length < 256) :
    (Nrf.envelope cfg ts payload).length < Nrf.ENVELOPE_MAX := by
  unfold Nrf.envelope Nrf.ENVELOPE_MAX
  rw [hcfg.appId]
  cases ts with
  | none =>
      simp
      omega
  | some ms =>
      obtain ⟨hge, hlt⟩ := hts ms rfl
      have hms : (fmtD ms).length ≤ 20 :=
        fmtD_length (k := 19) (by decide) (by omega)
      simp
      omega

/-- A plain text is escaped to one of its own length. -/
theorem escape_plain_length {s : Text} (h : Plain s) :
    (Hologram.escape s).length = s.length := by
  rw [escape_length (Printed.plain h), h.count, Nat.add_zero]

/-- The print of a Hologram message needs 322 bytes at most. -/
theorem hologramEnvelope_length {cfg : Config} (hcfg : cfg.Addressed)
    {payload : Text} (h : payload.length < 256) (hp : Printed payload)
    (hq : payload.count '"' ≤ 28) (topic list : Bool) :
    (Hologram.envelope cfg payload topic list).length ≤ 322 := by
  have hkey := escape_plain_length hcfg.key_plain
  have hdata := escape_length hp
  have hname : (Hologram.escape cfg.hologramTopic).length = 7 := by
    rw [hcfg.topic]
    rfl
  rw [hcfg.key_length] at hkey
  unfold Hologram.envelope
  cases list <;> cases topic <;> simp <;> omega

/-- And has no newline. -/
theorem hologramEnvelope_newline {cfg : Config} (hcfg : cfg.Addressed)
    {payload : Text} (hp : Printed payload) (topic list : Bool) :
    '\n' ∉ Hologram.envelope cfg payload topic list := by
  have hkey := escape_newline (Printed.plain hcfg.key_plain)
  have hdata := escape_newline hp
  have hname : '\n' ∉ Hologram.escape cfg.hologramTopic := by
    rw [hcfg.topic]
    decide
  unfold Hologram.envelope
  cases list <;> cases topic <;> simp [hkey, hdata, hname]

-- ================================================================= the law

/-- The device message that a log ends with. -/
def lastMessage : Trace → Option Text
  | .call _ _ (.jsonMessageSend text) _ :: _ => some text
  | _ => none

/-- A time the clock gives is a 64-bit one. -/
def Dated : Ev → Trace → Prop
  | .call _ _ .dateTimeNow r, _ => Int64 r.2
  | _, _ => True

/-- What nRF Cloud hands on of a device message. -/
def ofNrf (text : Text) : Option Json :=
  (Json.parse text).bind (Json.find "data".toList)

/-- What Hologram hands on of a message: its string, to be parsed. -/
def ofHologram (text : Text) : Option Json := do
  let d ← (Json.parse text).bind (Json.find "d".toList)
  Json.parse (← asText d)

/-- A payload that fits is sent, unless the build is offline. -/
theorem nrf_sends {cfg : Config} (hcfg : cfg.Addressed) {payload : Text}
    (h : payload.length < 256) :
    Triple (device cfg) Dated (fun _ => True) (fun _ => True)
      (Nrf.cloudSendTelemetry cfg payload) fun _ w =>
        cfg.offlineDebug = true ∨ ∃ ts : Option Int,
          (∀ ms ∈ ts, Int64 ms) ∧
          lastMessage w.log = some (Nrf.envelope cfg ts payload) := by
  have hstable : ∀ P : Prop, Stable (device cfg) Dated fun _ => P :=
    fun _ _ _ h _ _ => h
  refine Triple.bind (R := fun (r : Int × Int) _ => Int64 r.2)
    (Triple.op (fun _ _ h _ _ => h) fun w r _ _ hG => ⟨trivial, hG.1⟩) ?_
  rintro ⟨err, tsMs⟩
  apply Triple.pre (P := fun _ => True ∧ Int64 tsMs) ?_ fun _ h => ⟨trivial, h⟩
  apply Triple.pure_pre
  intro hms
  have hts : ∀ ms ∈ (if err = 0 then some tsMs else none), Int64 ms := by
    intro ms hm
    split at hm
    next =>
      cases hm
      exact hms
    next => cases hm
  have hlen := nrfEnvelope_length hcfg hts h
  refine Triple.ite (fun hge => absurd hlen (Nat.not_lt.mpr hge)) fun _ => ?_
  refine Triple.ite (fun hoff => Triple.ret fun _ _ => .inl hoff) fun _ => ?_
  refine Triple.bind (R := fun _ w => lastMessage w.log = some _)
    (Triple.op (hstable _) fun w r _ _ _ => ⟨trivial, rfl⟩) fun err => ?_
  exact Triple.ret fun _ hw => .inr ⟨_, hts, hw⟩

/-- What `build_envelope` gives is a print with two newlines behind, and it
keeps what library calls keep. -/
theorem hologram_prints {G : Ev → Trace → Prop} {J X : Tracker → Prop}
    (cfg : Config) (payload : Text)
    (hlib : ∀ f, Triple (device cfg) G J X (call (.lib f)) fun _ => X) :
    Triple (device cfg) G J X (Hologram.buildEnvelope cfg payload)
      fun r w => X w ∧ ∀ text, r = .ok text → ∃ topic list, text
        = Hologram.envelope cfg payload topic list ++ "\n\n".toList := by
  have hfail : Triple (device cfg) G J X
      (pure (.error (-ENOMEM)) : P (Except Int Text)) fun r w => X w ∧
        ∀ text, r = .ok text → ∃ topic list, text
          = Hologram.envelope cfg payload topic list ++ "\n\n".toList :=
    Triple.ret fun _ hw => ⟨hw, fun _ h => nomatch h⟩
  refine (hlib _).bind fun _ => Triple.ite (fun _ => hfail) fun _ => ?_
  refine (hlib _).bind fun _ => Triple.ite (fun _ => hfail) fun _ => ?_
  refine (hlib _).bind fun _ => Triple.ite (fun _ => hfail) fun _ => ?_
  refine (hlib _).bind fun _ => Triple.ite (fun _ => hfail) fun _ => ?_
  refine (hlib _).bind fun topic => (hlib _).bind fun list => ?_
  refine (hlib _).bind fun _ => Triple.ite (fun _ => hfail) fun _ => ?_
  exact Triple.ret fun _ hw => ⟨hw, fun text h =>
    ⟨_, _, (Except.ok.inj h).symm⟩⟩

/-- What `build_envelope` returns, if it returns a text, is the envelope and
two newlines. The calls on the way only need to keep the invariant of the
caller. -/
theorem hologram_builds {G : Ev → Trace → Prop} {J X : Tracker → Prop}
    (cfg : Config) (payload : Text)
    (hcall : ∀ o, group o = .plain →
      Triple (device cfg) G J X (call o) fun _ => X) :
    Triple (device cfg) G J X (Hologram.buildEnvelope cfg payload)
      fun r w => X w ∧ ∀ text, r = .ok text → ∃ topic list, text
        = Hologram.envelope cfg payload topic list ++ "\n\n".toList :=
  hologram_prints cfg payload fun _ => hcall _ rfl

/-- The device message around a payload: it fits, and what is handed on of
it is the payload's value. -/
theorem nrf_carries {cfg : Config} (hcfg : cfg.Addressed) {payload : Text}
    {j : Json} (h : payload.length < 256) (hj : Reads payload j)
    {ts : Option Int} (hts : ∀ ms ∈ ts, Int64 ms) :
    (Nrf.envelope cfg ts payload).length < Nrf.ENVELOPE_MAX ∧
      ofNrf (Nrf.envelope cfg ts payload) = some j := by
  have happ : Plain cfg.nrfCloudAppId := by
    rw [hcfg.appId]
    decide
  refine ⟨nrfEnvelope_length hcfg hts h, ?_⟩
  rw [ofNrf, (nrfEnvelope_reads happ ts hj).parse]
  cases ts with
  | none => rfl
  | some ms => rfl

/-- A Hologram message: room for it and its terminators, one double newline
at its end, and the payload itself as its string. -/
structure Carried (payload text : Text) : Prop where
  fits : text.length + 1 ≤ Hologram.ENVELOPE_MAX
  ends : ∃ body, text = body ++ "\n\n".toList ∧ '\n' ∉ body
  string : ∃ k, Json.parse text = some k ∧
    k.find "d".toList = some (.str payload)

/-- The Hologram message around a payload of printed characters. Each of its
quotes costs one more, so there is room for 28 of them. -/
theorem hologram_carries {cfg : Config} (hcfg : cfg.Addressed)
    {payload : Text} (h : payload.length < 256) (hp : Printed payload)
    (hq : payload.count '"' ≤ 28) (topic list : Bool) :
    Carried payload
      (Hologram.envelope cfg payload topic list ++ "\n\n".toList) where
  fits := by
    have hlen := hologramEnvelope_length hcfg h hp hq topic list
    rw [List.length_append]
    unfold Hologram.ENVELOPE_MAX
    exact Nat.le_trans (Nat.add_le_add_right
      (Nat.add_le_add_right hlen _) 1) (by decide)
  ends := ⟨_, rfl, hologramEnvelope_newline hcfg hp topic list⟩
  string := ⟨_, (hologramEnvelope_reads cfg payload topic list).parse_gap
    (by decide), rfl⟩

/-- What the backend hands on of it is the value of the payload. -/
theorem Carried.handedOn {payload text : Text} {j : Json}
    (h : Carried payload text) (hj : Json.parse payload = some j) :
    ofHologram text = some j := by
  obtain ⟨k, hk, hd⟩ := h.string
  simp only [ofHologram, hk, Option.bind_some, hd, asText,
    Option.bind_eq_bind, hj]

/-- A payload gets through either transport as it is, and both backends are
handed the same value `j`. -/
structure Carries (cfg : Config) (payload : Text) (j : Json) : Prop where
  value : Json.parse payload = some j
  /-- Every device message fits, and `j` is its `data`. -/
  nrf : ∀ ts : Option Int, (∀ ms ∈ ts, Int64 ms) →
    (Nrf.envelope cfg ts payload).length < Nrf.ENVELOPE_MAX ∧
      ofNrf (Nrf.envelope cfg ts payload) = some j
  /-- `cloud_send_telemetry` ends with one on its way. -/
  sent : ∀ w r w',
    Reach (device cfg) (Nrf.cloudSendTelemetry cfg payload) w (.ret r, w') →
    Always Dated w'.log → cfg.offlineDebug = true ∨ ∃ ts : Option Int,
      (∀ ms ∈ ts, Int64 ms) ∧
      lastMessage w'.log = some (Nrf.envelope cfg ts payload)
  /-- The print has room, with the five spare bytes it asks for. -/
  printed : ∀ topic list,
    (Hologram.envelope cfg payload topic list).length + 5
      ≤ Hologram.ENVELOPE_MAX - 3
  /-- Whatever `build_envelope` gives carries the payload. -/
  hologram : ∀ w text w',
    Reach (device cfg) (Hologram.buildEnvelope cfg payload) w
      (.ret (.ok text), w') →
    Carried payload text ∧ ofHologram text = some j

/-- No payload that `telemetry_build_json` accepts is altered by its
transport or lost to its size. -/
theorem envelopes_carry {cfg : Config} (hcfg : cfg.Addressed)
    (hfw : Plain cfg.buildStamp) (hhw : Plain cfg.hwRevision) {p : Phase}
    {t : Telemetry} {payload : Text}
    (h : telemetryBuildJson cfg p.code t 256 = .ok payload) :
    ∃ j, Carries cfg payload j := by
  obtain ⟨htext, hlen⟩ := telemetryBuildJson_ok h
  have hreads := telemetryText_reads hfw hhw p t
  obtain ⟨hp, hq⟩ := telemetryText_printed hfw hhw p t
  rw [← htext] at hreads hp hq
  refine ⟨_, hreads.parse, fun ts hts => nrf_carries hcfg hlen hreads hts, ?_,
    ?_, ?_⟩
  · intro w r w' hr hG
    exact (nrf_sends hcfg hlen).result trivial trivial hr hG
  · intro topic list
    have := hologramEnvelope_length hcfg hlen hp hq topic list
    unfold Hologram.ENVELOPE_MAX
    omega
  · intro w text w' hr
    have hcall : ∀ o : Op, Triple (device cfg) Free (fun _ => True)
        (fun _ => True) (call o) fun _ _ => True := fun o =>
      Triple.op (fun _ _ h _ _ => h) fun _ _ _ _ _ => ⟨trivial, trivial⟩
    obtain ⟨-, htext⟩ := (hologram_builds cfg payload
      fun o _ => hcall o).result trivial trivial hr (always_free _)
    obtain ⟨topic, list, rfl⟩ := htext text rfl
    have hc := hologram_carries hcfg hlen hp hq topic list
    exact ⟨hc, hc.handedOn hreads.parse⟩

/-- The roomy build goes under the names of the defaults, -/
theorem roomy_addressed : roomy.Addressed where
  appId := rfl
  topic := rfl
  key_length := rfl
  key_plain := by decide

/-- and the longest record passes its builder. -/
theorem longest_accepted :
    telemetryBuildJson roomy Phase.noNetwork.code longest 256
      = .ok (telemetryText roomy Phase.noNetwork.code longest) := by
  have hfw : roomy.buildStamp.length = 17 := by decide
  have hhw : roomy.hwRevision.length ≤ 47 := by decide
  have hlen := telemetryText_length longest_measured hfw hhw .noNetwork
  simp only [telemetryBuildJson]
  exact if_neg (by omega)

/-- So is the longest one. -/
theorem envelopes_carry_longest :
    ∃ j, Carries roomy (telemetryText roomy Phase.noNetwork.code longest) j :=
  envelopes_carry roomy_addressed (by decide) (by decide) longest_accepted

end GpsTracker
