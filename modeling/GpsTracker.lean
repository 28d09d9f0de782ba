import GpsTracker.Lib.Prog
import GpsTracker.Lib.Safe
import GpsTracker.Lib.Mailbox
import GpsTracker.Lib.Json
import GpsTracker.Lib.Polyline
import GpsTracker.Lib.Protocol
import GpsTracker.Lib.Cost
import GpsTracker.Lib.Handler
import GpsTracker.Lib.Shadow
import GpsTracker.Model.Main
import GpsTracker.Run.Footprint
import GpsTracker.Run.Outline
import GpsTracker.Run.Script
import GpsTracker.Run.Carry
import GpsTracker.Laws.Link
import GpsTracker.Laws.Session
import GpsTracker.Laws.Transport
import GpsTracker.Laws.Restart
import GpsTracker.Laws.Silence
import GpsTracker.Laws.Wakeup
import GpsTracker.Laws.Waiting
import GpsTracker.Laws.Jolt
import GpsTracker.Laws.Arming
import GpsTracker.Laws.Fixes
import GpsTracker.Laws.Assistance
import GpsTracker.Laws.Receivers
import GpsTracker.Laws.Power
import GpsTracker.Laws.Escalation
import GpsTracker.Laws.Cause
import GpsTracker.Laws.Heartbeat
import GpsTracker.Laws.Breadcrumb
import GpsTracker.Laws.Payload
import GpsTracker.Laws.Envelope
import GpsTracker.Laws.Forensics
import GpsTracker.Laws.Retained
import GpsTracker.Laws.Guard
import GpsTracker.Laws.Registration
import GpsTracker.Laws.Exchange
import GpsTracker.Laws.Allocation
import GpsTracker.Laws.Led
import GpsTracker.Laws.Settle
import GpsTracker.Laws.Hang
import GpsTracker.Laws.Margin
import GpsTracker.Laws.Awake
import GpsTracker.Laws.Curve
import GpsTracker.Laws.Full
import GpsTracker.Laws.Cell
import GpsTracker.Laws.Torn
import GpsTracker.Laws.Degraded
import GpsTracker.Laws.Blink
import GpsTracker.Laws.Schedule
import GpsTracker.Laws.Ledger
import GpsTracker.Laws.Provenance
import GpsTracker.Laws.Receipt
import GpsTracker.Laws.Traffic
import GpsTracker.Laws.Shelf
import GpsTracker.Laws.Request
import GpsTracker.Laws.Duty
import GpsTracker.Laws.Patience
import GpsTracker.Laws.Handles
import GpsTracker.Laws.Fresh
import GpsTracker.Laws.Need
