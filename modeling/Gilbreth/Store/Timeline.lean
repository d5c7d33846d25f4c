import Gilbreth.Store.Database

/-!
# The timeline of a database

What the repair at startup is about: when sessions and recordings started and
ended, and when their events and actions happened. The rules here are about
timelines only. A writer adds marks to the one session that is open, opens and
ends recordings of it, and never touches a session that has ended.
-/

set_option autoImplicit false

namespace Gilbreth.Store

open Gilbreth.Core

structure SessionSpan where
  sessionId : Int
  startedAt : I64
  endedAt : Option I64

structure RecordingSpan where
  recordSessionId : Int
  sessionId : Int
  startedTs : I64
  endedTs : Option I64

/-- An event, or an action of a recording. -/
structure Mark where
  sessionId : Int
  recordSessionId : Option Int
  ts : I64

structure Timeline where
  sessions : List SessionSpan
  recordings : List RecordingSpan
  marks : List Mark

/-- Not after the newest timestamp given. -/
def Reached (newest : Option I64) (ts : I64) : Prop := ∃ last, newest = some last ∧ ts ≤ last

theorem Reached.mono {newest later : Option I64} {ts : I64} (reached : Reached newest ts)
    (advanced : ∀ last, newest = some last → Reached later last) : Reached later ts := by
  obtain ⟨last, known, below⟩ := reached
  obtain ⟨next, same, above⟩ := advanced last known
  exact ⟨next, same, below.trans above⟩

/-- Everything that belongs to a session, a recording still open by its start. -/
structure SessionSpan.CoveredBy (session : SessionSpan) (timeline : Timeline) (ended : I64) :
    Prop where
  started : session.startedAt ≤ ended
  marks : ∀ mark ∈ timeline.marks, mark.sessionId = session.sessionId → mark.ts ≤ ended
  recordings : ∀ recording ∈ timeline.recordings, recording.sessionId = session.sessionId →
    recording.endedTs.getD recording.startedTs ≤ ended

namespace Timeline

def sessionIds (timeline : Timeline) : List Int := timeline.sessions.map SessionSpan.sessionId

/-- No session ended before anything that belongs to it. -/
def Covered (timeline : Timeline) : Prop :=
  ∀ session ∈ timeline.sessions, ∀ ended, session.endedAt = some ended →
    session.CoveredBy timeline ended

/-- What holds of the store between two runs. -/
structure Sound (timeline : Timeline) : Prop where
  markSession : ∀ mark ∈ timeline.marks, mark.sessionId ∈ timeline.sessionIds
  recordingSession : ∀ recording ∈ timeline.recordings,
    recording.sessionId ∈ timeline.sessionIds
  markRecorded : ∀ mark ∈ timeline.marks, ∀ recordSessionId,
    mark.recordSessionId = some recordSessionId →
      ∃ recording ∈ timeline.recordings, recording.recordSessionId = recordSessionId
  markShares : ∀ mark ∈ timeline.marks, ∀ recording ∈ timeline.recordings,
    mark.recordSessionId = some recording.recordSessionId → mark.sessionId = recording.sessionId
  recordingEnd : ∀ recording ∈ timeline.recordings, ∀ ended, recording.endedTs = some ended →
    recording.startedTs ≤ ended ∧ ∀ mark ∈ timeline.marks,
      mark.recordSessionId = some recording.recordSessionId → mark.ts ≤ ended

/-- What holds while a writer runs: only its session is open, and the sequencer
has reached every mark of it. -/
structure Live (sessionId : Int) (newest : Option I64) (timeline : Timeline) : Prop extends
    Sound timeline where
  open_iff : ∀ session ∈ timeline.sessions,
    (session.endedAt = none ↔ session.sessionId = sessionId)
  reached : ∀ mark ∈ timeline.marks, mark.sessionId = sessionId → Reached newest mark.ts
  openRecording : ∀ recording ∈ timeline.recordings, recording.endedTs = none →
    recording.sessionId = sessionId

section Rules

variable {sessionId : Int} {newest : Option I64} {timeline after : Timeline}

theorem Live.ended_ne (live : timeline.Live sessionId newest) {session : SessionSpan} {ended : I64}
    (member : session ∈ timeline.sessions) (closed : session.endedAt = some ended) :
    session.sessionId ≠ sessionId := by
  intro same
  have unended := (live.open_iff session member).mpr same
  cases closed.symm.trans unended

theorem Live.advance {later : Option I64} (live : timeline.Live sessionId newest)
    (advanced : ∀ last, newest = some last → Reached later last) :
    timeline.Live sessionId later where
  toSound := live.toSound
  open_iff := live.open_iff
  reached mark member own := (live.reached mark member own).mono advanced
  openRecording := live.openRecording

theorem Live.add_mark (live : timeline.Live sessionId newest) (added : Mark)
    (sessions : after.sessions = timeline.sessions)
    (recordings : after.recordings = timeline.recordings)
    (marks : ∀ mark ∈ after.marks, mark ∈ timeline.marks ∨ mark = added)
    (own : added.sessionId = sessionId) (known : sessionId ∈ timeline.sessionIds)
    (reached : Reached newest added.ts)
    (recorded : ∀ recordSessionId, added.recordSessionId = some recordSessionId →
      (∃ recording ∈ timeline.recordings, recording.recordSessionId = recordSessionId) ∧
      ∀ recording ∈ timeline.recordings, recording.recordSessionId = recordSessionId →
        recording.endedTs = none) :
    after.Live sessionId newest ∧ (timeline.Covered → after.Covered) := by
  have ids : after.sessionIds = timeline.sessionIds := by rw [sessionIds, sessionIds, sessions]
  refine ⟨⟨⟨?_, ?_, ?_, ?_, ?_⟩, ?_, ?_, ?_⟩, ?_⟩
  · intro mark member
    rw [ids]
    rcases marks mark member with old | rfl
    · exact live.markSession mark old
    · exact own ▸ known
  · rw [ids, recordings]
    exact live.recordingSession
  · intro mark member recordSessionId acts
    rw [recordings]
    rcases marks mark member with old | rfl
    · exact live.markRecorded mark old recordSessionId acts
    · exact (recorded recordSessionId acts).1
  · intro mark member recording stored acts
    rw [recordings] at stored
    rcases marks mark member with old | rfl
    · exact live.markShares mark old recording stored acts
    · have unended := (recorded _ acts).2 recording stored rfl
      exact own.trans (live.openRecording recording stored unended).symm
  · intro recording stored ended closed
    rw [recordings] at stored
    obtain ⟨started, covers⟩ := live.recordingEnd recording stored ended closed
    refine ⟨started, fun mark member acts => ?_⟩
    rcases marks mark member with old | rfl
    · exact covers mark old acts
    · have unended := (recorded _ acts).2 recording stored rfl
      cases closed.symm.trans unended
  · rw [sessions]
    exact live.open_iff
  · intro mark member same
    rcases marks mark member with old | rfl
    · exact live.reached mark old same
    · exact reached
  · rw [recordings]
    exact live.openRecording
  · intro covered session member ended closed
    rw [sessions] at member
    have other := live.ended_ne member closed
    obtain ⟨started, earlier, ends⟩ := covered session member ended closed
    refine ⟨started, fun mark stored same => ?_, ?_⟩
    · rcases marks mark stored with old | rfl
      · exact earlier mark old same
      · exact absurd (same.symm.trans own) other
    · rw [recordings]
      exact ends

theorem Sound.add_event (sound : timeline.Sound) (added : Mark)
    (sessions : after.sessions = timeline.sessions)
    (recordings : after.recordings = timeline.recordings)
    (marks : ∀ mark ∈ after.marks, mark ∈ timeline.marks ∨ mark = added)
    (event : added.recordSessionId = none) (known : added.sessionId ∈ timeline.sessionIds)
    (unended : ∀ session ∈ timeline.sessions, session.sessionId = added.sessionId →
      session.endedAt = none) :
    after.Sound ∧ (timeline.Covered → after.Covered) := by
  have ids : after.sessionIds = timeline.sessionIds := by rw [sessionIds, sessionIds, sessions]
  have acting : ∀ mark ∈ after.marks, ∀ recordSessionId,
      mark.recordSessionId = some recordSessionId → mark ∈ timeline.marks := by
    intro mark member recordSessionId acts
    rcases marks mark member with old | rfl
    · exact old
    · cases event.symm.trans acts
  refine ⟨⟨?_, ?_, ?_, ?_, ?_⟩, ?_⟩
  · intro mark member
    rw [ids]
    rcases marks mark member with old | rfl
    · exact sound.markSession mark old
    · exact known
  · rw [ids, recordings]
    exact sound.recordingSession
  · intro mark member recordSessionId acts
    rw [recordings]
    exact sound.markRecorded mark (acting mark member _ acts) recordSessionId acts
  · intro mark member recording stored acts
    rw [recordings] at stored
    exact sound.markShares mark (acting mark member _ acts) recording stored acts
  · intro recording stored ended closed
    rw [recordings] at stored
    obtain ⟨started, covers⟩ := sound.recordingEnd recording stored ended closed
    exact ⟨started, fun mark member acts => covers mark (acting mark member _ acts) acts⟩
  · intro covered session member ended closed
    rw [sessions] at member
    obtain ⟨started, earlier, ends⟩ := covered session member ended closed
    refine ⟨started, fun mark stored same => ?_, recordings ▸ ends⟩
    rcases marks mark stored with old | rfl
    · exact earlier mark old same
    · cases closed.symm.trans (unended session member same.symm)

theorem Live.open_recording (live : timeline.Live sessionId newest) (added : RecordingSpan)
    (sessions : after.sessions = timeline.sessions) (marks : after.marks = timeline.marks)
    (recordings : after.recordings = timeline.recordings ++ [added])
    (own : added.sessionId = sessionId) (known : sessionId ∈ timeline.sessionIds)
    (unended : added.endedTs = none)
    (fresh : ∀ recording ∈ timeline.recordings,
      recording.recordSessionId ≠ added.recordSessionId) :
    after.Live sessionId newest ∧ (timeline.Covered → after.Covered) := by
  have ids : after.sessionIds = timeline.sessionIds := by rw [sessionIds, sessionIds, sessions]
  have split : ∀ recording ∈ after.recordings,
      recording ∈ timeline.recordings ∨ recording = added := by
    intro recording stored
    rw [recordings, List.mem_append, List.mem_singleton] at stored
    exact stored
  have unnamed : ∀ mark ∈ timeline.marks,
      mark.recordSessionId ≠ some added.recordSessionId := by
    intro mark member acts
    obtain ⟨recording, stored, same⟩ := live.markRecorded mark member _ acts
    exact fresh recording stored same
  refine ⟨⟨⟨?_, ?_, ?_, ?_, ?_⟩, ?_, ?_, ?_⟩, ?_⟩
  · rw [ids, marks]
    exact live.markSession
  · intro recording stored
    rw [ids]
    rcases split recording stored with old | rfl
    · exact live.recordingSession recording old
    · exact own ▸ known
  · intro mark member recordSessionId acts
    rw [marks] at member
    obtain ⟨recording, stored, same⟩ := live.markRecorded mark member recordSessionId acts
    exact ⟨recording, recordings ▸ List.mem_append_left _ stored, same⟩
  · intro mark member recording stored acts
    rw [marks] at member
    rcases split recording stored with old | rfl
    · exact live.markShares mark member recording old acts
    · exact absurd acts (unnamed mark member)
  · intro recording stored ended closed
    rw [marks]
    rcases split recording stored with old | rfl
    · exact live.recordingEnd recording old ended closed
    · cases closed.symm.trans unended
  · rw [sessions]
    exact live.open_iff
  · rw [marks]
    exact live.reached
  · intro recording stored opened
    rcases split recording stored with old | rfl
    · exact live.openRecording recording old opened
    · exact own
  · intro covered session member ended closed
    rw [sessions] at member
    have other := live.ended_ne member closed
    obtain ⟨started, earlier, ends⟩ := covered session member ended closed
    refine ⟨started, marks ▸ earlier, fun recording stored same => ?_⟩
    rcases split recording stored with old | rfl
    · exact ends recording old same
    · exact absurd (same.symm.trans own) other

end Rules

end Timeline

/-- End an open recording that matches, not before it started. -/
def RecordingSpan.endAt (matching : RecordingSpan → Bool) (endedTs : RecordingSpan → I64)
    (recording : RecordingSpan) : RecordingSpan :=
  if matching recording && recording.endedTs.isNone then
    { recording with endedTs := some (max recording.startedTs (endedTs recording)) }
  else recording

theorem RecordingSpan.end_at_cases (matching : RecordingSpan → Bool)
    (endedTs : RecordingSpan → I64) (recording : RecordingSpan) :
    recording.endedTs = none ∧ recording.endAt matching endedTs =
        { recording with endedTs := some (max recording.startedTs (endedTs recording)) } ∨
      recording.endAt matching endedTs = recording := by
  unfold endAt
  split_ifs with matched
  · rw [Bool.and_eq_true] at matched
    exact Or.inl ⟨Option.isNone_iff_eq_none.mp matched.2, rfl⟩
  · exact Or.inr rfl

theorem RecordingSpan.end_at_keeps (matching : RecordingSpan → Bool)
    (endedTs : RecordingSpan → I64) (recording : RecordingSpan) :
    (recording.endAt matching endedTs).recordSessionId = recording.recordSessionId ∧
      (recording.endAt matching endedTs).sessionId = recording.sessionId ∧
      (recording.endAt matching endedTs).startedTs = recording.startedTs := by
  unfold endAt
  split_ifs <;> exact ⟨rfl, rfl, rfl⟩

theorem RecordingSpan.end_at_le_iff (recording : RecordingSpan) (ended : I64) :
    (recording.endAt (fun _ => true) fun _ => ended).endedTs.getD
        (recording.endAt (fun _ => true) fun _ => ended).startedTs ≤ ended ↔
      recording.endedTs.getD recording.startedTs ≤ ended := by
  rw [(recording.end_at_keeps (fun _ => true) fun _ => ended).2.2]
  unfold endAt
  cases closed : recording.endedTs with
  | none => exact max_le_iff.trans (and_iff_left le_rfl)
  | some earlier =>
      rw [show ((fun _ => true) recording && (some earlier).isNone) = false from rfl,
        if_neg Bool.false_ne_true, closed]

def SessionSpan.endAt (matching : SessionSpan → Bool) (endedAt : SessionSpan → I64)
    (session : SessionSpan) : SessionSpan :=
  if matching session then { session with endedAt := some (endedAt session) } else session

theorem SessionSpan.end_at_id (matching : SessionSpan → Bool) (endedAt : SessionSpan → I64)
    (session : SessionSpan) : (session.endAt matching endedAt).sessionId = session.sessionId := by
  unfold endAt
  split_ifs <;> rfl

namespace Timeline

section Ends

variable {timeline after : Timeline} {matching : RecordingSpan → Bool}
  {endedTs : RecordingSpan → I64}

theorem Sound.end_recordings (sound : timeline.Sound)
    (sessions : after.sessions = timeline.sessions)
    (marks : after.marks = timeline.marks)
    (recordings : after.recordings = timeline.recordings.map (RecordingSpan.endAt matching endedTs))
    (covers : ∀ recording ∈ timeline.recordings, recording.endedTs = none →
      ∀ mark ∈ timeline.marks, mark.recordSessionId = some recording.recordSessionId →
        mark.ts ≤ max recording.startedTs (endedTs recording)) : after.Sound := by
  have ids : after.sessionIds = timeline.sessionIds := by rw [sessionIds, sessionIds, sessions]
  have same := RecordingSpan.end_at_keeps matching endedTs
  refine ⟨?_, ?_, ?_, ?_, ?_⟩
  · rw [ids, marks]
    exact sound.markSession
  · intro ended stored
    rw [recordings] at stored
    obtain ⟨recording, member, rfl⟩ := List.mem_map.mp stored
    rw [ids, (same recording).2.1]
    exact sound.recordingSession recording member
  · intro mark member recordSessionId acts
    rw [marks] at member
    obtain ⟨recording, stored, named⟩ := sound.markRecorded mark member recordSessionId acts
    rw [recordings]
    exact ⟨_, List.mem_map_of_mem stored, (same recording).1.trans named⟩
  · intro mark member ended stored acts
    rw [marks] at member
    rw [recordings] at stored
    obtain ⟨recording, found, rfl⟩ := List.mem_map.mp stored
    rw [(same recording).1] at acts
    rw [(same recording).2.1]
    exact sound.markShares mark member recording found acts
  · intro ended stored closed_at closed
    rw [recordings] at stored
    rw [marks]
    obtain ⟨recording, found, rfl⟩ := List.mem_map.mp stored
    rcases recording.end_at_cases matching endedTs with ⟨unended, ends⟩ | kept
    · rw [ends] at closed ⊢
      obtain rfl := Option.some.inj closed
      exact ⟨le_max_left _ _, covers recording found unended⟩
    · rw [kept] at closed ⊢
      exact sound.recordingEnd recording found closed_at closed

/-- A session that has ended stays covered if what is ended of it ended in time. -/
theorem Covered.end_recordings (covered : timeline.Covered)
    (sessions : after.sessions = timeline.sessions) (marks : after.marks = timeline.marks)
    (recordings : after.recordings = timeline.recordings.map (RecordingSpan.endAt matching endedTs))
    (bounded : ∀ recording ∈ timeline.recordings, recording.endedTs = none →
      ∀ session ∈ timeline.sessions, session.sessionId = recording.sessionId →
        ∀ ended, session.endedAt = some ended →
          max recording.startedTs (endedTs recording) ≤ ended) : after.Covered := by
  intro session member ended closed
  rw [sessions] at member
  obtain ⟨started, earlier, ends⟩ := covered session member ended closed
  refine ⟨started, marks ▸ earlier, fun ended_recording stored own => ?_⟩
  rw [recordings] at stored
  obtain ⟨recording, found, rfl⟩ := List.mem_map.mp stored
  rcases recording.end_at_cases matching endedTs with ⟨unended, ends_at⟩ | kept
  · rw [ends_at] at own ⊢
    exact bounded recording found unended session member own.symm ended closed
  · rw [kept] at own ⊢
    exact ends recording found own

theorem Covered.of_end_recordings (covered : after.Covered)
    (sessions : after.sessions = timeline.sessions) (marks : after.marks = timeline.marks)
    (recordings : after.recordings =
      timeline.recordings.map (RecordingSpan.endAt matching endedTs)) : timeline.Covered := by
  intro session member ended closed
  obtain ⟨started, earlier, ends⟩ := covered session (sessions ▸ member) ended closed
  refine ⟨started, marks ▸ earlier, fun recording stored own => ?_⟩
  have after_end := ends (recording.endAt matching endedTs)
    (recordings ▸ List.mem_map_of_mem stored)
  rcases recording.end_at_cases matching endedTs with ⟨unended, ends_at⟩ | kept
  · rw [ends_at] at after_end
    rw [unended]
    exact (le_max_left _ _).trans (after_end own)
  · rw [kept] at after_end
    exact after_end own

theorem Live.end_recordings {sessionId : Int} {newest : Option I64}
    (live : timeline.Live sessionId newest) (sessions : after.sessions = timeline.sessions)
    (marks : after.marks = timeline.marks)
    (recordings : after.recordings = timeline.recordings.map (RecordingSpan.endAt matching endedTs))
    (passed : ∀ recording ts, Reached newest ts → ts ≤ endedTs recording) :
    after.Live sessionId newest ∧ (timeline.Covered → after.Covered) := by
  have sound : after.Sound := by
    refine live.toSound.end_recordings sessions marks recordings ?_
    intro recording stored unended mark member acts
    have own := (live.markShares mark member recording stored acts).trans
      (live.openRecording recording stored unended)
    exact (passed recording mark.ts (live.reached mark member own)).trans (le_max_right _ _)
  refine ⟨⟨sound, ?_, ?_, ?_⟩, fun covered => covered.end_recordings sessions marks recordings ?_⟩
  · rw [sessions]
    exact live.open_iff
  · rw [marks]
    exact live.reached
  · intro ended stored opened
    rw [recordings] at stored
    obtain ⟨recording, found, rfl⟩ := List.mem_map.mp stored
    rcases recording.end_at_cases matching endedTs with ⟨_, ends⟩ | kept
    · rw [ends] at opened
      cases opened
    · rw [kept] at opened ⊢
      exact live.openRecording recording found opened
  · intro recording stored unended session member same ended closed
    exact absurd (same.trans (live.openRecording recording stored unended))
      (live.ended_ne member closed)

variable {matchingSession : SessionSpan → Bool} {endedAt : SessionSpan → I64}

theorem session_ids_end (sessions : after.sessions =
    timeline.sessions.map (SessionSpan.endAt matchingSession endedAt)) :
    after.sessionIds = timeline.sessionIds := by
  rw [sessionIds, sessionIds, sessions, List.map_map]
  exact List.map_congr_left fun session _ => session.end_at_id matchingSession endedAt

theorem Sound.end_sessions (sound : timeline.Sound) (sessions : after.sessions =
      timeline.sessions.map (SessionSpan.endAt matchingSession endedAt))
    (marks : after.marks = timeline.marks) (recordings : after.recordings = timeline.recordings) :
    after.Sound where
  markSession := by
    rw [session_ids_end sessions, marks]
    exact sound.markSession
  recordingSession := by
    rw [session_ids_end sessions, recordings]
    exact sound.recordingSession
  markRecorded := by
    rw [marks, recordings]
    exact sound.markRecorded
  markShares := by
    rw [marks, recordings]
    exact sound.markShares
  recordingEnd := by
    rw [marks, recordings]
    exact sound.recordingEnd

theorem covered_end_sessions_iff (covered : timeline.Covered) (sessions : after.sessions =
      timeline.sessions.map (SessionSpan.endAt matchingSession endedAt))
    (marks : after.marks = timeline.marks) (recordings : after.recordings = timeline.recordings) :
    after.Covered ↔ ∀ session ∈ timeline.sessions, matchingSession session = true →
      session.CoveredBy timeline (endedAt session) := by
  have same : ∀ session ended, SessionSpan.CoveredBy session after ended ↔
      session.CoveredBy timeline ended := by
    intro session ended
    constructor
    · rintro ⟨started, earlier, ends⟩
      exact ⟨started, marks ▸ earlier, recordings ▸ ends⟩
    · rintro ⟨started, earlier, ends⟩
      exact ⟨started, marks ▸ earlier, recordings ▸ ends⟩
  constructor
  · intro all session member matched
    have ends := all _ (sessions ▸ List.mem_map_of_mem member) (endedAt session)
    unfold SessionSpan.endAt at ends
    rw [if_pos matched] at ends
    obtain ⟨started, earlier, recorded⟩ := (same _ _).mp (ends rfl)
    exact ⟨started, earlier, recorded⟩
  · intro each ended_session stored ended closed
    rw [sessions] at stored
    obtain ⟨session, member, rfl⟩ := List.mem_map.mp stored
    unfold SessionSpan.endAt at closed ⊢
    split_ifs at closed ⊢ with matched
    · obtain rfl := Option.some.inj closed
      obtain ⟨started, earlier, recorded⟩ := (same _ _).mpr (each session member matched)
      exact ⟨started, earlier, recorded⟩
    · exact (same _ _).mpr (covered session member ended closed)

theorem Sound.begin_session (sound : timeline.Sound) (added : SessionSpan)
    (sessions : after.sessions = timeline.sessions ++ [added])
    (marks : after.marks = timeline.marks) (recordings : after.recordings = timeline.recordings)
    (unended : added.endedAt = none) (fresh : added.sessionId ∉ timeline.sessionIds)
    (ended : ∀ session ∈ timeline.sessions, session.endedAt ≠ none)
    (recorded : ∀ recording ∈ timeline.recordings, recording.endedTs ≠ none) :
    after.Live added.sessionId none ∧ (timeline.Covered ↔ after.Covered) := by
  have known : ∀ id ∈ timeline.sessionIds, id ∈ after.sessionIds := by
    intro id member
    rw [sessionIds, sessions, List.map_append]
    exact List.mem_append_left _ member
  refine ⟨⟨⟨?_, ?_, ?_, ?_, ?_⟩, ?_, ?_, ?_⟩, ?_, ?_⟩
  · rw [marks]
    exact fun mark member => known _ (sound.markSession mark member)
  · rw [recordings]
    exact fun recording stored => known _ (sound.recordingSession recording stored)
  · rw [marks, recordings]
    exact sound.markRecorded
  · rw [marks, recordings]
    exact sound.markShares
  · rw [marks, recordings]
    exact sound.recordingEnd
  · intro session member
    rw [sessions, List.mem_append, List.mem_singleton] at member
    rcases member with old | rfl
    · refine iff_of_false (ended session old) fun same => fresh ?_
      exact same ▸ List.mem_map_of_mem old
    · exact iff_of_true unended rfl
  · intro mark member same
    rw [marks] at member
    exact absurd (same ▸ sound.markSession mark member) fresh
  · intro recording stored opened
    rw [recordings] at stored
    exact absurd opened (recorded recording stored)
  · intro covered session member ended_at closed
    rw [sessions, List.mem_append, List.mem_singleton] at member
    rcases member with old | rfl
    · obtain ⟨started, earlier, ends⟩ := covered session old ended_at closed
      exact ⟨started, marks ▸ earlier, recordings ▸ ends⟩
    · cases closed.symm.trans unended
  · intro covered session member ended_at closed
    obtain ⟨started, earlier, ends⟩ :=
      covered session (sessions ▸ List.mem_append_left _ member) ended_at closed
    exact ⟨started, marks ▸ earlier, recordings ▸ ends⟩

end Ends

end Timeline

end Gilbreth.Store
