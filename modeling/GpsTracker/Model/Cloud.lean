/-
The transports: cloud_nrf.c, hologram.c with cloud_hologram.c, and
cloud.h, which is whichever of the two was compiled in.
-/
import GpsTracker.Model.Gnss

namespace GpsTracker

open Proc

-- ============================================================ cloud_nrf.c

namespace Nrf

/-- `ENVELOPE_MAX`. -/
def ENVELOPE_MAX : Nat := 384

/-- `MODEM_TIME_POLL_S`. -/
def MODEM_TIME_POLL_S : Nat := 3

/-- `normalize`: a positive result is a CoAP response code. -/
def normalize (err : Int) : Int := if err > 0 then - EIO else err

/-- The polls left of `modem_time_wait`. -/
def modemTimePoll : Nat → P Unit
  | 0 => pure ()
  | n + 1 => do
      if (← call (.lib .nrfModemAtCmd)) = 0 then
        Prog.modify fun s => { s with modemTimeReady := true }
      else
        call (.kSleep (MODEM_TIME_POLL_S * 1000))
        watchdogFeed
        modemTimePoll n

def modemTimeWait (cfg : Config) : P Unit := do
  let s ← Prog.get
  if s.modemTimeReady then
    pure ()
  else
    modemTimePoll ((cfg.modemTimeWaitSeconds + MODEM_TIME_POLL_S - 1)
      / MODEM_TIME_POLL_S)

def credentialsOk : P Bool := do
  let (err, cs) ← call .credentialsCheck
  if err ≠ 0 then
    pure false
  else
    pure (cs.ca && cs.caAws && cs.prvKey)

def cloudInit (cfg : Config) : P Int := do
  if cfg.skipLte then
    pure 0
  else
    let _ ← call (.lib .nrfCloudClientIdGet)
    let credsOk ← credentialsOk
    Prog.modify fun s => { s with credsOk := credsOk }
    if cfg.offlineDebug then
      pure 0
    else if !credsOk then
      pure (-EACCES)
    else
      let err ← call (.lib .nrfCloudCoapInit)
      if err ≠ 0 then pure err else pure 0

def setLink (l : LinkState) : P Unit :=
  Prog.modify fun s => { s with linkState := l }

/-- The handshake at the end of `cloud_resume`. -/
def connect (cfg : Config) : P Int := do
  modemTimeWait cfg
  let err ← call .coapConnect
  if err ≠ 0 then
    let _ ← call .coapDisconnect
    setLink .disconnected
    pure err
  else
    setLink .connected
    pure 0

def cloudResume (cfg : Config) : P Int := do
  if cfg.skipLte then
    pure (-ENOTCONN)
  else if cfg.offlineDebug then
    setLink .connected
    pure 0
  else
    let s ← Prog.get
    if !s.credsOk then
      pure (-EACCES)
    else if s.linkState = .connected then
      pure 0
    else if s.linkState = .paused then
      if (← call .coapResume) = 0 then
        setLink .connected
        pure 0
      else
        setLink .disconnected
        connect cfg
    else
      connect cfg

def cloudPause (cfg : Config) : P Unit := do
  let s ← Prog.get
  if s.linkState ≠ .connected || cfg.offlineDebug then
    pure ()
  else if !(← call .keepopenIsSupported) then
    pure ()
  else if (← call .coapPause) ≠ 0 then
    pure ()
  else
    setLink .paused

def cloudIsReady : P Bool := do
  let s ← Prog.get
  pure (s.linkState == .connected)

/-- The device-message envelope, with or without a timestamp. -/
def envelope (cfg : Config) (ts : Option Int) (innerJson : Text) : Text :=
  "\x7b\"appId\":\"".toList ++ cfg.nrfCloudAppId
    ++ "\",\"messageType\":\"DATA\",".toList
    ++ (match ts with
        | some ms => "\"ts\":".toList ++ fmtD ms ++ ",".toList
        | none => [])
    ++ "\"data\":".toList ++ innerJson ++ "\x7d".toList

def cloudSendTelemetry (cfg : Config) (innerJson : Text) : P Int := do
  let (err, tsMs) ← call .dateTimeNow
  let text := envelope cfg (if err = 0 then some tsMs else none) innerJson
  if text.length ≥ ENVELOPE_MAX then
    pure (-ENOMEM)
  else if cfg.offlineDebug then
    pure 0
  else
    let err ← call (.jsonMessageSend text)
    pure (normalize err)

def cloudSendLocation (cfg : Config) (fix : TrackerFix) : P Int := do
  if !cfg.nrfCloudPortalLocation then
    pure 0
  else if cfg.offlineDebug then
    pure 0
  else
    let (err, tsMs) ← call .dateTimeNow
    let err ← call (.locationSend
      { tsMs := if err = 0 then some tsMs else none
        lat := fix.latitude
        lon := fix.longitude
        accuracy := fix.accuracy
        alt := fix.altitude
        speed := fix.speed
        heading := fix.heading })
    pure (normalize err)

end Nrf

-- =========================================== hologram.c, cloud_hologram.c

namespace Hologram

def ENVELOPE_MAX : Nat := 512
def REPLY_MAX : Nat := 32

/-- One character of a JSON string as cJSON prints it. -/
def escapeChar (c : Char) : Text :=
  if c = '"' then ['\\', '"']
  else if c = '\\' then ['\\', '\\']
  else if c.toNat = 8 then ['\\', 'b']
  else if c.toNat = 9 then ['\\', 't']
  else if c.toNat = 10 then ['\\', 'n']
  else if c.toNat = 12 then ['\\', 'f']
  else if c.toNat = 13 then ['\\', 'r']
  else if c.toNat < 32 then
    ['\\', 'u', '0', '0', Nat.digitChar (c.toNat / 16),
     Nat.digitChar (c.toNat % 16)]
  else [c]

/-- A JSON string's text between its quotes. -/
def escape (text : Text) : Text := text.flatMap escapeChar

/-- The printed envelope; a failed `cJSON_CreateString` leaves the topic
list empty, a failed `cJSON_AddItemToObject` leaves it out. -/
def envelope (cfg : Config) (innerJson : Text) (topic list : Bool) :
    Text :=
  "\x7b\"k\":\"".toList ++ escape cfg.hologramDeviceKey
    ++ "\",\"d\":\"".toList ++ escape innerJson ++ "\"".toList
    ++ (if list then
          ",\"t\":[".toList
            ++ (if topic then
                  "\"".toList ++ escape cfg.hologramTopic ++ "\"".toList
                else [])
            ++ "]".toList
        else [])
    ++ "\x7d".toList

/-- `build_envelope`; a cJSON call answers 0 for success. -/
def buildEnvelope (cfg : Config) (innerJson : Text) :
    P (Except Int Text) := do
  if (← call (.lib .cjsonCreateObject)) ≠ 0 then
    pure (.error (-ENOMEM))
  else if (← call (.lib .cjsonCreateArray)) ≠ 0 then
    pure (.error (-ENOMEM))
  else if (← call (.lib .cjsonAddString)) ≠ 0 then
    pure (.error (-ENOMEM))
  else if (← call (.lib .cjsonAddString)) ≠ 0 then
    pure (.error (-ENOMEM))
  else
    let topic ← call (.lib .cjsonCreateString)
    let list ← call (.lib .cjsonAddItem)
    if (← call (.lib .cjsonPrintPreallocated)) ≠ 0 then
      pure (.error (-ENOMEM))
    else
      pure (.ok (envelope cfg innerJson (topic == 0) (list == 0)
        ++ "\n\n".toList))

/-- `strstr`: whether `pat` occurs in `text`. -/
def contains (pat : Text) : Text → Bool
  | [] => pat.isEmpty
  | c :: cs => pat.isPrefixOf (c :: cs) || contains pat cs

/-- The exchange on an open socket, from `send` on. -/
def exchange (envelope : Text) : P Int := do
  let sent ← call (.sendSocket envelope)
  if sent < 0 then
    pure sent
  else
    let (rx, reply) ← call (.recv (REPLY_MAX - 1))
    if rx > 0 && contains "[0,0]".toList (cstr reply) then pure 0
    else pure (- EIO)

/-- `socket_send_envelope`; a failing socket call answers `-errno`. -/
def socketSendEnvelope (envelope : Text) : P Int := do
  if (← call (.lib .getaddrinfo)) ≠ 0 then
    pure (- EIO)
  else
    let fd ← call (.lib .socket)
    if fd < 0 then
      pure fd
    else
      let err ← call (.lib .connect)
      let err ← if err ≠ 0 then pure err else do
        let _ ← call (.lib .setsockopt)
        let _ ← call (.lib .setsockopt)
        exchange envelope
      let _ ← call (.lib .close)
      pure err

def hologramSend (cfg : Config) (innerJson : Text) : P Int := do
  match ← buildEnvelope cfg innerJson with
  | .error err => pure err
  | .ok envelope =>
      if cfg.offlineDebug then
        pure 0
      else if cfg.hologramDeviceKey = "CHANGEME".toList then
        pure (-EACCES)
      else
        socketSendEnvelope envelope

end Hologram

-- ================================================================ cloud.h

def cloudInit (cfg : Config) : P Int :=
  scope .cloudInit <|
    match cfg.cloudProvider with
    | .nrfcloud => Nrf.cloudInit cfg
    | .hologram => pure 0

def cloudResume (cfg : Config) : P Int :=
  scope .cloudResume <|
    match cfg.cloudProvider with
    | .nrfcloud => Nrf.cloudResume cfg
    | .hologram => pure 0

def cloudPause (cfg : Config) : P Unit :=
  scope .cloudPause <|
    match cfg.cloudProvider with
    | .nrfcloud => Nrf.cloudPause cfg
    | .hologram => pure ()

def cloudIsReady (cfg : Config) : P Bool :=
  match cfg.cloudProvider with
  | .nrfcloud => Nrf.cloudIsReady
  | .hologram => pure true

def cloudSendTelemetry (cfg : Config) (innerJson : Text) : P Int :=
  match cfg.cloudProvider with
  | .nrfcloud => Nrf.cloudSendTelemetry cfg innerJson
  | .hologram => Hologram.hologramSend cfg innerJson

def cloudSendLocation (cfg : Config) (fix : TrackerFix) : P Int :=
  match cfg.cloudProvider with
  | .nrfcloud => Nrf.cloudSendLocation cfg fix
  | .hologram => pure 0

def cloudSupportsAgnss (cfg : Config) : Bool :=
  match cfg.cloudProvider with
  | .nrfcloud => true
  | .hologram => false

end GpsTracker
