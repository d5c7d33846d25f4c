import Gilbreth.Core.Action
import Gilbreth.Library.Machine

/-!
# The session timebase and the sequencer

One sequencer numbers and dates the events and the actions of a session. The
timebase projects capture instants onto the wall clock and is moved by a drift
correction; the stamp clamps the projection to the last one given.
-/

set_option autoImplicit false

namespace Gilbreth.Core

structure SessionTimebase where
  baseInstant : Instant
  baseUtcMs : I64
deriving DecidableEq

structure DriftCorrection where
  oldBaseUtcMs : I64
  newBaseUtcMs : I64
  measuredDriftMs : I64
  clampMs : I64
  thresholdMs : I64
deriving DecidableEq

namespace SessionTimebase

def timestampFor (timebase : SessionTimebase) (capturedAt : Instant) : I64 :=
  match checkedDurationSince capturedAt timebase.baseInstant with
  | some delta => timebase.baseUtcMs.satAdd (durationMsI64 delta)
  | none =>
      timebase.baseUtcMs.satSub
        (durationMsI64 (timebase.baseInstant.nanos - capturedAt.nanos).toNat)

def resync (timebase : SessionTimebase) (nowInstant : Instant) (nowUtcMs thresholdMs : I64)
    (minTimestampMs : Option I64) : SessionTimebase × Option DriftCorrection :=
  let threshold := max thresholdMs (I64.ofInt 0)
  let measuredDriftMs := nowUtcMs.satSub (timebase.timestampFor nowInstant)
  -- The magnitude is taken in 128 bits, so it cannot overflow.
  if (measuredDriftMs.val.natAbs : Int) ≤ threshold.val then (timebase, none)
  else
    let newBaseUtcMs := minTimestampMs.elim nowUtcMs (max nowUtcMs)
    (⟨nowInstant, newBaseUtcMs⟩,
      some
        { oldBaseUtcMs := timebase.baseUtcMs
          newBaseUtcMs := newBaseUtcMs
          measuredDriftMs := measuredDriftMs
          clampMs := newBaseUtcMs.satSub nowUtcMs
          thresholdMs := threshold })

end SessionTimebase

/-- `u64::MAX`. -/
def u64Max : Nat := 18446744073709551615

structure Sequencer where
  sessionId : Int
  nextSeq : Nat
  timebase : SessionTimebase
  lastTsUnixMs : Option I64
deriving DecidableEq

namespace Sequencer

def new (sessionId : Int) (timebase : SessionTimebase) : Sequencer :=
  ⟨sessionId, 1, timebase, none⟩

def startedAt (sequencer : Sequencer) : I64 := sequencer.timebase.baseUtcMs

def clampTimestamp (sequencer : Sequencer) (tsUnixMs : I64) : I64 :=
  sequencer.lastTsUnixMs.elim tsUnixMs (max tsUnixMs)

def timestampFor (sequencer : Sequencer) (instant : Instant) : I64 :=
  sequencer.clampTimestamp (sequencer.timebase.timestampFor instant)

/-- The projection without the clamp to the last stamp, which privacy
boundaries use. -/
def projectedTimestampFor (sequencer : Sequencer) (instant : Instant) : I64 :=
  sequencer.timebase.timestampFor instant

def resync (sequencer : Sequencer) (nowInstant : Instant) (nowUtcMs thresholdMs : I64) :
    Sequencer × Option DriftCorrection :=
  let result :=
    sequencer.timebase.resync nowInstant nowUtcMs thresholdMs sequencer.lastTsUnixMs
  ({ sequencer with timebase := result.1 }, result.2)

/-- What a stamp leaves behind, whichever kind of row it numbers. -/
def advance (sequencer : Sequencer) (capturedAt : Instant) : Sequencer :=
  { sequencer with
    nextSeq := min u64Max (sequencer.nextSeq + 1)
    lastTsUnixMs := some (sequencer.timestampFor capturedAt) }

def stamp (sequencer : Sequencer) (captured : Captured) : Sequencer × EventEnvelope :=
  (sequencer.advance captured.capturedAt,
    { schemaVersion := schemaVersion
      sessionId := sequencer.sessionId
      seq := sequencer.nextSeq
      tsUnixMs := sequencer.timestampFor captured.capturedAt
      source := captured.source
      isSensitive := false
      payload := captured.payload })

def stampAction (sequencer : Sequencer) (capture : ActionCapture) : Sequencer × StampedAction :=
  (sequencer.advance capture.capturedAt,
    { sessionId := sequencer.sessionId
      seq := sequencer.nextSeq
      tsUnixMs := sequencer.timestampFor capture.capturedAt
      action := capture.action
      recordSessionId := capture.recordSessionId
      exe := capture.exe
      isSensitive := capture.isSensitive
      hasName := capture.hasName
      patternAction := capture.patternAction
      framework := capture.framework
      frameworkClass := capture.frameworkClass
      depth := capture.depth
      leafRect := capture.leafRect
      payload := capture.payload })

end Sequencer

end Gilbreth.Core
