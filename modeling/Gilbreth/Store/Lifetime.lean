import Gilbreth.Store.Open
import Gilbreth.Store.WriterMachine

/-!
# The life of a store

Between two runs there is only the database. A launch opens it, creates a
session and starts the writer; a run ends with a clean stop or with a crash,
which keeps what is committed and loses everything else. A crash between two
statements of a turn is a turn whose later statements fail and then the crash.
-/

set_option autoImplicit false

namespace Gilbreth.Store

open Gilbreth.Core

structure LaunchReadings where
  opening : OpenReadings
  timebase : SessionTimebase
  identity : SessionIdentity
  createFault : Option StoreError

/-- What the writer reads after its loop has ended. -/
structure ShutdownReadings where
  drain : DrainReadings
  clearFault : Option StoreError
  endedAt : Instant
  finalizeFault : Option StoreError
  endSessionFault : Option StoreError
  persist : PersistFaults

variable [Externals] [StoreExternals]

section Shutdown

variable (config : WriterConfig) (state : WriterState) (readings : ShutdownReadings)

/-- `run_writer_with_commands` after its loop, up to the last persist of the
counters. An error returns early. -/
def WriterState.endRun : WriterState × Except StoreError Unit :=
  let state := (state.drainAndFlush config readings.drain).clearFocus readings.clearFault
  let endedAt := state.sequencer.timestampFor readings.endedAt
  match state.store.finalizeOpenRecordSessions readings.finalizeFault .appShutdown endedAt with
  | .error error => (state, .error error)
  | .ok db =>
      match db.endSession readings.endSessionFault state.sequencer.sessionId endedAt with
      | .error error => ({ state with store := db }, .error error)
      | .ok db => ({ state with store := db }, .ok ())

def WriterState.shutDown : WriterState × Except StoreError WriterReport :=
  match state.endRun config readings with
  | (state, .error error) => (state, .error error)
  | (state, .ok ()) => (state.persistDiagnosticsCounters readings.persist, .ok state.report)

end Shutdown

inductive Lifetime where
  | closed (store : Database)
  | running (state : WriterState)

def Lifetime.store : Lifetime → Database
  | closed store => store
  | running state => state.store

/-- The start of the app, up to the writer thread. A failure ends it. -/
def launch (readings : LaunchReadings) (policy : Policy) (store : Database) : Lifetime :=
  match store.openStore readings.opening with
  | (store, .error _) => .closed store
  | (store, .ok ()) =>
      match store.createSessionWithIdentity readings.createFault readings.timebase.baseUtcMs
          readings.identity with
      | .error _ => .closed store
      | .ok (store, sessionId) =>
          .running (.started store (.new sessionId readings.timebase) policy)

/-- What another connection does to the store, at any time. -/
def Lifetime.mapStore (change : Database → Database) : Lifetime → Lifetime
  | closed store => .closed (change store)
  | running state => .running { state with store := change state.store }

inductive LifetimeTurn where
  | launch (readings : LaunchReadings) (policy : Policy)
  | writer (turn : WriterTurn)
  | stop (readings : ShutdownReadings)
  | crash
  | requestRecording (fault : Option StoreError) (nowMs : I64) (candidateKind : Option String)
      (candidateJson : String)

inductive LifetimeReply where
  | silent
  | writer (reply : WriterReply)
  | stopped (result : Except StoreError WriterReport)
  | requested (result : Except StoreError Int)

/-- The store with a request, if it was accepted. -/
def Database.requested (fault : Option StoreError) (nowMs : I64) (candidateKind : Option String)
    (candidateJson : String) (db : Database) : Database :=
  ((db.requestRecording fault nowMs candidateKind candidateJson).map Prod.fst).toOption.getD db

omit [Externals] in
theorem requested_cases (fault : Option StoreError) (nowMs : I64) (candidateKind : Option String)
    (candidateJson : String) (db : Database) :
    db.requested fault nowMs candidateKind candidateJson = db ∨
      ∃ row, RequestCreated db (db.requested fault nowMs candidateKind candidateJson) row := by
  unfold Database.requested Database.requestRecording
  cases created : db.createRecordRequest fault nowMs (nowMs.satAdd Database.dayMs) candidateKind
      candidateJson with
  | error error => exact Or.inl rfl
  | ok result => exact Or.inr ⟨_, create_record_request_ok created⟩

/-- A turn that does not apply changes nothing: there is one writer at a time. -/
def lifetimeMachine (config : WriterConfig) : Machine Lifetime LifetimeTurn LifetimeReply where
  step life turn :=
    match life, turn with
    | .closed store, .launch readings policy => (launch readings policy store, .silent)
    | .running state, .writer turn =>
        let result := state.turn config turn
        (.running result.1, .writer result.2)
    | .running state, .stop readings =>
        let result := state.shutDown config readings
        (.closed result.1.store, .stopped result.2)
    | .running state, .crash => (.closed state.store, .silent)
    | life, .requestRecording fault nowMs candidateKind candidateJson =>
        (life.mapStore (Database.requested fault nowMs candidateKind candidateJson),
          .requested ((life.store.requestRecording fault nowMs candidateKind candidateJson).map
            Prod.snd))
    | life, _ => (life, .silent)

end Gilbreth.Store
