/-
The assistance fetch (agnss.c).
-/
import GpsTracker.Model.Cloud

namespace GpsTracker

open Proc

-- ================================================================ strtol

/-- The value of a digit in `base`, if it is one. -/
def digitValue (base : Nat) (c : Char) : Option Nat :=
  let v :=
    if '0' ≤ c ∧ c ≤ '9' then some (c.toNat - '0'.toNat)
    else if 'a' ≤ c ∧ c ≤ 'z' then some (c.toNat - 'a'.toNat + 10)
    else if 'A' ≤ c ∧ c ≤ 'Z' then some (c.toNat - 'A'.toNat + 10)
    else none
  v.filter (· < base)

/-- The longest run of digits at the head of a text, as a number. -/
def digitsValue (base : Nat) : Nat → Text → Nat
  | acc, [] => acc
  | acc, c :: cs =>
      match digitValue base c with
      | some v => digitsValue base (acc * base + v) cs
      | none => acc

/-- `strtol` to a 32-bit `long`: blanks, a sign, `0x` in base 16, then
digits, saturating. -/
def strtol (base : Nat) (text : Text) : Int :=
  let text := text.dropWhile fun c => c = ' ' || c.toNat - 9 < 5 && 9 ≤ c.toNat
  let (neg, text) :=
    match text with
    | '-' :: cs => (true, cs)
    | '+' :: cs => (false, cs)
    | cs => (false, cs)
  let digits :=
    match base, text with
    | 16, '0' :: 'x' :: c :: cs | 16, '0' :: 'X' :: c :: cs =>
        if (digitValue 16 c).isSome then c :: cs else text
    | _, _ => text
  let v : Int := digitsValue base 0 digits
  if neg then max (-v) (-2147483648) else min v 2147483647

-- ================================================================ agnss.c

/-- `NRF_MODEM_GNSS_AGNSS_*_REQUEST` for UTC, Klobuchar, NeQuick, system
time, position and integrity, all set. -/
def AGNSS_ALL_FLAGS : Nat := 0x3f

/-- A C string written at the head of a buffer. -/
def strPut (buf text : Text) : Text :=
  text ++ NUL :: buf.drop (text.length + 1)

/-- The cell that three responses in one reused buffer give: `id` and
`tac` in hexadecimal, the MCC before the fourth character of the
operator and the MNC from there on. -/
def cellOfResponses (resp cellid area operator : Text) : LteCell :=
  let resp₁ := strPut resp cellid
  let resp₂ := strPut resp₁ area
  let resp₃ := strPut resp₂ operator
  { id := strtol 16 (cstr resp₁)
    tac := strtol 16 (cstr resp₂)
    mnc := strtol 10 (cstr (resp₃.drop 3))
    mcc := strtol 10 (cstr (resp₃.set 3 NUL)) }

/-- `serving_cell_info_get`, `none` where a modem query fails. -/
def servingCellInfoGet : P (Option LteCell) := do
  let resp ← call .uninitialised
  let (err, cellid) ← call (.modemInfoString .cellid)
  if err < 0 then
    pure none
  else
    let (err, area) ← call (.modemInfoString .areaCode)
    if err < 0 then
      pure none
    else
      let (err, operator) ← call (.modemInfoString .operator)
      if err < 0 then
        pure none
      else
        pure (some (cellOfResponses resp cellid area operator))

/-- `synthesize_request`. -/
def synthesizeRequest : AgnssDataFrame :=
  { dataFlags := AGNSS_ALL_FLAGS
    systems := [(0xffffffff, 0xffffffff)] }

def rateLimited (cfg : Config) : P Bool := do
  let s ← Prog.get
  if s.lastFetchUptimeMs = 0 then
    pure false
  else
    let now ← call .kUptimeGet
    let ageS := (now - s.lastFetchUptimeMs).tdiv 1000
    pure (decide (ageS < cfg.agnssMinIntervalSeconds))

/-- The request frame of `fetch_and_inject`: the modem's own, asking for
every item where it asks for any, or the full set. -/
def agnssFrame (cfg : Config) (asked : Option AgnssDataFrame) :
    Option AgnssDataFrame :=
  match asked with
  | none =>
      if cfg.agnssFullRequestFallback then some synthesizeRequest else none
  | some req =>
      if req.dataFlags ≠ 0 then some { req with dataFlags := AGNSS_ALL_FLAGS }
      else some req

def fetchAndInject (cfg : Config) : P Int := do
  match agnssFrame cfg (← gnssModemAgnssRequestGet) with
  | none => pure (-EAGAIN)
  | some req =>
      let cell ← servingCellInfoGet
      let err ← call (.agnssDataGet
        { agnssReq := req
          netInfo := cell
          filtered := cfg.agnssFiltered
          maskAngle := cfg.agnssElevationMask })
      if err ≠ 0 then
        pure (if err < 0 then err else - EIO)
      else
        let err ← call .agnssProcess
        if err ≠ 0 then
          pure err
        else
          let now ← call .kUptimeGet
          Prog.modify fun s => { s with lastFetchUptimeMs := now }
          pure 0

def agnssFetchAndInject (cfg : Config) : P Int :=
  scope .agnssFetchAndInject do
    if !cfg.agnss then
      pure (-ENOTSUP)
    else if ← rateLimited cfg then
      pure (-EAGAIN)
    else
      if cfg.agnssStopGnssDuringFetch then
        gnssModemStop
      watchdogGuardStart cfg.agnssBudgetSeconds
      let err ← fetchAndInject cfg
      watchdogGuardStop
      if cfg.agnssStopGnssDuringFetch then
        if (← gnssModemStart cfg .assistance) ≠ 0 then
          pure (- EIO)
        else
          pure err
      else
        pure err

end GpsTracker
