import Gilbreth.Library.BatchUpdate
import Gilbreth.Library.JsonText
import Gilbreth.Store.Prune
import Gilbreth.Store.Statements

/-!
# The title retention

`scrub_titles_before` blanks the window titles of old events in batches: it selects
rows by the text of their payload and takes two elements out of it. A row whose
payload has the text in another place is selected again and again.
-/

set_option autoImplicit false

namespace Gilbreth.Store

open Gilbreth.Core

/-- A row of the `events` table with its payload as the JSON it is stored as. -/
structure StoredEvent where
  id : Int
  sessionId : Int
  seq : I64
  ts : I64
  source : String
  kind : String
  isSensitive : Int
  hwnd : Option String
  exe : Option String
  title : Option String
  pid : Option Int
  prevExe : Option String
  prevTitle : Option String
  key : Option String
  modShift : Option Int
  modCtrl : Option Int
  modAlt : Option Int
  modWin : Option Int
  button : Option String
  posX : Option Int
  posY : Option Int
  durationMs : Option I64
  payload : JsonText

section Statements

/-- `payload LIKE '%"title"%'`: ASCII letters match in either case. -/
def likeTitle (payload : JsonText) : Bool :=
  contains (String.ofList (payload.render.map Char.toLower)) "\"title\""

def windowTitle : List String := ["window", "title"]

def prevTitle : List String := ["prev", "title"]

/-- `json_remove(payload, '$.window.title', '$.prev.title')` -/
def removeTitles (payload : JsonText) : JsonText :=
  .remove prevTitle (.remove windowTitle payload)

/-- The rows a batch of the scrub selects from. -/
def titledBefore (cutoffMs : I64) (row : StoredEvent) : Bool :=
  decide (row.ts < cutoffMs) &&
    (row.title.isSome || row.prevTitle.isSome || likeTitle row.payload)

def StoredEvent.scrubbed (row : StoredEvent) : StoredEvent :=
  { row with title := none, prevTitle := none, payload := removeTitles row.payload }

def scrubBatch : Nat := 20000

/-- What fails around the batches, and which batch. -/
structure ScrubFaults where
  setting : Option StoreError
  batch : Nat → Option StoreError
  restore : Option StoreError

def ScrubFaults.none : ScrubFaults := ⟨Option.none, fun _ => Option.none, Option.none⟩

variable (engine : SqlEngine) (cutoffMs : I64)

/-- The loop from the given batch on, for at most so many batches. Every batch is a
transaction of its own. -/
def scrubTitleBatches (faults : Nat → Option StoreError) :
    Nat → Nat → Nat → Table StoredEvent.id →
      Option (Table StoredEvent.id × Except StoreError Nat)
  | 0, _, _, _ => none
  | fuel + 1, batch, total, events =>
      match faults batch with
      | some error => some (events, .error error)
      | none =>
          let picked := (engine.scan (titledBefore cutoffMs) scrubBatch).pick events.rows
          let after := events.updateRows picked StoredEvent.scrubbed fun _ => rfl
          if picked.length < scrubBatch then some (after, .ok (total + picked.length))
          else scrubTitleBatches faults fuel (batch + 1) (total + picked.length) after

/-- `scrub_titles_before`. The checkpoint at its end reports by a warning only. -/
def scrubTitlesBefore (faults : ScrubFaults) (fuel : Nat) (events : Table StoredEvent.id) :
    Option (Table StoredEvent.id × Except StoreError Nat) :=
  match faults.setting with
  | some error => some (events, .error error)
  | none =>
      (scrubTitleBatches engine cutoffMs faults.batch fuel 0 0 events).map fun ended =>
        (ended.1, ended.2.bind fun total => faults.restore.elim (.ok total) .error)

end Statements

section Batches

variable (engine : SqlEngine) (cutoffMs : I64)

theorem scrub_title_batches_eq (fuel batch total : Nat) (events : Table StoredEvent.id) :
    scrubTitleBatches engine cutoffMs (fun _ => none) fuel batch total events =
      (Table.updateBatched (engine.scan (titledBefore cutoffMs) scrubBatch) StoredEvent.scrubbed
        (fun _ => rfl) fuel events).map fun ended => (ended.1, .ok (total + ended.2)) := by
  induction fuel generalizing batch total events with
  | zero => rfl
  | succ fuel induction =>
      simp only [scrubTitleBatches, Table.updateBatched]
      split_ifs with short
      · rfl
      · rw [induction, Option.map_map]
        congr 1
        funext result
        rw [Function.comp_apply, Nat.add_assoc]

theorem scrub_titles_before_eq (fuel : Nat) (events : Table StoredEvent.id) :
    scrubTitlesBefore engine cutoffMs .none fuel events =
      (Table.updateBatched (engine.scan (titledBefore cutoffMs) scrubBatch) StoredEvent.scrubbed
        (fun _ => rfl) fuel events).map fun ended => (ended.1, .ok ended.2) := by
  rw [scrubTitlesBefore]
  change Option.map _ (scrubTitleBatches engine cutoffMs (fun _ => none) fuel 0 0 events) = _
  rw [scrub_title_batches_eq, Option.map_map]
  congr 1
  funext result
  rw [Function.comp_apply, Nat.zero_add]
  rfl

end Batches

section Exact

/-- What the retention promises of the table it leaves. -/
structure TitlesScrubbed (cutoffMs : I64) (before after : Table StoredEvent.id) : Prop where
  blank : ∀ row ∈ after.rows, row.ts < cutoffMs → row.title = none ∧ row.prevTitle = none ∧
    row.payload.element windowTitle = none ∧ row.payload.element prevTitle = none
  rest : List.Forall₂ (fun row later => (cutoffMs ≤ row.ts → later = row) ∧
    later = { row with
      title := later.title, prevTitle := later.prevTitle, payload := later.payload })
    before.rows after.rows

/-- The loop ends, and whenever it has ended the old rows have no title, the other
rows and columns are as they were, and a second call ends and reports no row. -/
def ScrubExact (engine : SqlEngine) (cutoffMs : I64) (events : Table StoredEvent.id) : Prop :=
  (∃ fuel, scrubTitlesBefore engine cutoffMs .none fuel events ≠ none) ∧
    ∀ fuel after result, scrubTitlesBefore engine cutoffMs .none fuel events =
      some (after, result) →
        (∃ changed, result = .ok changed) ∧ TitlesScrubbed cutoffMs events after ∧
        (∃ fuel, scrubTitlesBefore engine cutoffMs .none fuel after ≠ none) ∧
        ∀ fuel left again, scrubTitlesBefore engine cutoffMs .none fuel after =
          some (left, again) → again = .ok 0

/-- Without the two elements the payload has neither of them nor the text any more, and
a row the scrub does not select has neither to begin with. -/
structure TitleSettles (cutoffMs : I64) (row : StoredEvent) : Prop where
  text : likeTitle (removeTitles row.payload) = false
  window : (removeTitles row.payload).element windowTitle = none
  prev : (removeTitles row.payload).element prevTitle = none
  selected : titledBefore cutoffMs row = true ∨ removeTitles row.payload = row.payload

/-- An old row whose payload has the text, but neither element. -/
def titleElsewhere (cutoffMs : I64) (row : StoredEvent) : Bool :=
  decide (row.ts < cutoffMs) && likeTitle row.payload &&
    (row.payload.element windowTitle).isNone && (row.payload.element prevTitle).isNone

variable {engine : SqlEngine} {cutoffMs : I64} {events : Table StoredEvent.id}

theorem remove_titles_absent {payload : JsonText} (window : payload.element windowTitle = none)
    (prev : payload.element prevTitle = none) : removeTitles payload = payload := by
  rw [removeTitles, JsonText.remove_absent window, JsonText.remove_absent prev]

theorem titled_scrubbed (row : StoredEvent) (old : row.ts < cutoffMs) :
    titledBefore cutoffMs row.scrubbed = likeTitle (removeTitles row.payload) := by
  simp [titledBefore, StoredEvent.scrubbed, old]

theorem old_of_titled {row : StoredEvent} (titled : titledBefore cutoffMs row = true) :
    row.ts < cutoffMs := by
  rw [titledBefore, Bool.and_eq_true] at titled
  exact of_decide_eq_true titled.1

theorem untitled {row : StoredEvent} (old : row.ts < cutoffMs)
    (untitled : titledBefore cutoffMs row = false) :
    row.title = none ∧ row.prevTitle = none ∧ likeTitle row.payload = false := by
  simpa [titledBefore, old, and_assoc] using untitled

/-- The table after an update of all titled rows keeps every other row and column. -/
theorem scrubbed_rest (keeps : ∀ row : StoredEvent, row.scrubbed.id = row.id) :
    List.Forall₂ (fun row later => (cutoffMs ≤ row.ts → later = row) ∧
      later = { row with
        title := later.title, prevTitle := later.prevTitle, payload := later.payload })
      events.rows (events.updateWhere (titledBefore cutoffMs) StoredEvent.scrubbed keeps).rows := by
  change List.Forall₂ _ events.rows (events.rows.map _)
  rw [List.forall₂_map_right_iff, List.forall₂_same]
  intro row _
  split_ifs with titled
  · have old := old_of_titled titled
    exact ⟨fun recent => absurd old (not_lt.mpr recent), rfl⟩
  · exact ⟨fun _ => rfl, rfl⟩

variable (engine) in
theorem scrub_ended_iff {fuel : Nat} {after : Table StoredEvent.id}
    {result : Except StoreError Nat} :
    scrubTitlesBefore engine cutoffMs .none fuel events = some (after, result) ↔
      ∃ changed, Table.updateBatched (engine.scan (titledBefore cutoffMs) scrubBatch)
        StoredEvent.scrubbed (fun _ => rfl) fuel events = some (after, changed) ∧
        result = .ok changed := by
  rw [scrub_titles_before_eq, Option.map_eq_some_iff]
  constructor
  · rintro ⟨⟨left, changed⟩, ended, same⟩
    cases same
    exact ⟨changed, ended, rfl⟩
  · rintro ⟨changed, ended, rfl⟩
    exact ⟨_, ended, rfl⟩

theorem scrub_batch_pos : 0 < scrubBatch := by decide

theorem scrub_exact_of_settles
    (settles : ∀ row ∈ events.rows, row.ts < cutoffMs → TitleSettles cutoffMs row) :
    ScrubExact engine cutoffMs events := by
  have unmatched : ∀ row ∈ events.rows, titledBefore cutoffMs row = true →
      titledBefore cutoffMs row.scrubbed = false := by
    intro row member titled
    have old := old_of_titled titled
    rw [titled_scrubbed row old]
    exact (settles row member old).text
  rcases Table.update_batched_settles (engine.scan (titledBefore cutoffMs) scrubBatch)
    StoredEvent.scrubbed (fun _ => rfl) scrub_batch_pos unmatched with ⟨fuel, ended⟩
  have run := (scrub_ended_iff engine).mpr ⟨_, ended, rfl⟩
  refine ⟨⟨fuel, by rw [run]; exact Option.some_ne_none _⟩, ?_⟩
  intro other after result reached
  rcases (scrub_ended_iff engine).mp reached with ⟨changed, again, rfl⟩
  have one := Table.update_batched_agree _ _ _ ended again
  cases one
  have left : ∀ row ∈ (events.updateWhere (titledBefore cutoffMs) StoredEvent.scrubbed
      fun _ => rfl).rows, row.ts < cutoffMs → row.title = none ∧ row.prevTitle = none ∧
        row.payload.element windowTitle = none ∧ row.payload.element prevTitle = none ∧
        titledBefore cutoffMs row = false := by
    intro later member
    rcases List.mem_map.mp member with ⟨row, listed, rfl⟩
    intro old
    cases titled : titledBefore cutoffMs row with
    | true =>
        rw [titled] at old
        have settled := settles row listed old
        exact ⟨rfl, rfl, settled.window, settled.prev, unmatched row listed titled⟩
    | false =>
        rw [titled] at old
        have settled := settles row listed old
        have blank := untitled old titled
        have same : removeTitles row.payload = row.payload := by
          rcases settled.selected with selected | same
          · rw [titled] at selected
            cases selected
          · exact same
        have window := settled.window
        have prev := settled.prev
        rw [same] at window prev
        exact ⟨blank.1, blank.2.1, window, prev, titled⟩
  refine ⟨⟨_, rfl⟩, ⟨?_, scrubbed_rest fun _ => rfl⟩, ?_⟩
  · intro row member old
    have blank := left row member old
    exact ⟨blank.1, blank.2.1, blank.2.2.1, blank.2.2.2.1⟩
  have spared : ∀ row ∈ (events.updateWhere (titledBefore cutoffMs) StoredEvent.scrubbed
      fun _ => rfl).rows, titledBefore cutoffMs row = false := by
    intro row member
    cases titled : titledBefore cutoffMs row with
    | true => exact titled.symm.trans (left row member (old_of_titled titled)).2.2.2.2
    | false => rfl
  have nothing := Table.count_where_none spared
  constructor
  · rcases Table.update_batched_settles (engine.scan (titledBefore cutoffMs) scrubBatch)
      StoredEvent.scrubbed (fun _ => rfl) scrub_batch_pos (fun row member titled =>
        absurd titled (Bool.eq_false_iff.mp (spared row member))) with ⟨second, ran⟩
    refine ⟨second, ?_⟩
    rw [(scrub_ended_iff engine).mpr ⟨_, ran, rfl⟩]
    exact Option.some_ne_none _
  · intro second further again reported
    rcases (scrub_ended_iff engine).mp reported with ⟨changed, ran, rfl⟩
    rw [(Table.update_batched_none _ _ _ scrub_batch_pos ran).mpr nothing]

/-- Where the scrub is exact, every old row settles, if removing the elements twice is
removing them once or one batch takes every row selected. -/
theorem settles_of_scrub_exact
    (twice : (∀ row ∈ events.rows, titledBefore cutoffMs row = true →
        removeTitles (removeTitles row.payload) = removeTitles row.payload) ∨
      events.countWhere (titledBefore cutoffMs) < scrubBatch)
    (scrubbedAll : ScrubExact engine cutoffMs events) :
    ∀ row ∈ events.rows, row.ts < cutoffMs → TitleSettles cutoffMs row := by
  rcases scrubbedAll with ⟨⟨fuel, ran⟩, always⟩
  rcases Option.ne_none_iff_exists'.mp ran with ⟨⟨after, result⟩, ended⟩
  rcases always fuel after result ended with ⟨_, scrubbed, ⟨second, ranAgain⟩, reports⟩
  rcases Option.ne_none_iff_exists'.mp ranAgain with ⟨⟨further, again⟩, endedAgain⟩
  rcases (scrub_ended_iff engine).mp endedAgain with ⟨changed, batched, rfl⟩
  have zero := reports second further _ endedAgain
  cases zero
  have done := (Table.update_batched_none _ _ _ scrub_batch_pos batched).mp rfl
  rcases (scrub_ended_iff engine).mp ended with ⟨total, first, rfl⟩
  have unmatched : ∀ row ∈ events.rows, titledBefore cutoffMs row = true →
      titledBefore cutoffMs row.scrubbed = false := by
    rcases twice with twice | few
    · apply Table.settles_of_update_batched _ _ _ _ first done
      intro row member titled
      rw [StoredEvent.scrubbed, StoredEvent.scrubbed, twice row member titled]
    · exact Table.settles_of_one_batch _ _ _ few first done
  rcases Table.update_batched_settles (engine.scan (titledBefore cutoffMs) scrubBatch)
    StoredEvent.scrubbed (fun _ => rfl) scrub_batch_pos unmatched with ⟨other, whole⟩
  cases Table.update_batched_agree _ _ _ whole first
  intro row member old
  have image : (if titledBefore cutoffMs row then row.scrubbed else row) ∈
      (events.updateWhere (titledBefore cutoffMs) StoredEvent.scrubbed fun _ => rfl).rows :=
    List.mem_map_of_mem member
  cases titled : titledBefore cutoffMs row with
  | true =>
      rw [titled] at image
      have blank := scrubbed.blank row.scrubbed image old
      have text := unmatched row member titled
      rw [titled_scrubbed row old] at text
      exact ⟨text, blank.2.2.1, blank.2.2.2, Or.inl titled⟩
  | false =>
      rw [titled] at image
      have blank := scrubbed.blank row image old
      have same := remove_titles_absent blank.2.2.1 blank.2.2.2
      refine ⟨?_, ?_, ?_, Or.inr same⟩ <;> rw [same]
      · exact (untitled old titled).2.2
      · exact blank.2.2.1
      · exact blank.2.2.2

/-- With twenty thousand old rows that have the text elsewhere the loop never ends. -/
theorem scrub_never_ends (many : scrubBatch ≤ events.countWhere (titleElsewhere cutoffMs))
    (fuel : Nat) : scrubTitlesBefore engine cutoffMs .none fuel events = none := by
  have parts : ∀ row, titleElsewhere cutoffMs row = true ↔ row.ts < cutoffMs ∧
      likeTitle row.payload = true ∧ row.payload.element windowTitle = none ∧
        row.payload.element prevTitle = none := by
    intro row
    simp [titleElsewhere, and_assoc]
  have never : Table.updateBatched (engine.scan (titledBefore cutoffMs) scrubBatch)
      StoredEvent.scrubbed (fun _ => rfl) fuel events = none := by
    refine Table.update_batched_never_ends _ _ _ ?_ ?_ many fuel
    · intro row elsewhere
      rcases (parts row).mp elsewhere with ⟨old, text, _⟩
      simp [titledBefore, old, text]
    · intro row elsewhere
      rcases (parts row).mp elsewhere with ⟨old, text, window, prev⟩
      have same := remove_titles_absent window prev
      rw [parts, StoredEvent.scrubbed]
      dsimp only
      rw [same]
      exact ⟨old, text, window, prev⟩
  rw [scrub_titles_before_eq, never]
  rfl

/-- The scrub is exact where every old row settles; it is exact only there, unless a
title that is removed twice hides behind a later batch; and twenty thousand old rows
with the text in another place keep it from ending at all. -/
theorem title_scrub_exact_iff (engine : SqlEngine) (cutoffMs : I64)
    (events : Table StoredEvent.id) :
    ((∀ row ∈ events.rows, row.ts < cutoffMs → TitleSettles cutoffMs row) →
        ScrubExact engine cutoffMs events) ∧
      ((∀ row ∈ events.rows, titledBefore cutoffMs row = true →
            removeTitles (removeTitles row.payload) = removeTitles row.payload) ∨
          events.countWhere (titledBefore cutoffMs) < scrubBatch →
        (ScrubExact engine cutoffMs events ↔
          ∀ row ∈ events.rows, row.ts < cutoffMs → TitleSettles cutoffMs row)) ∧
      (scrubBatch ≤ events.countWhere (titleElsewhere cutoffMs) →
        ∀ fuel, scrubTitlesBefore engine cutoffMs .none fuel events = none) := by
  refine ⟨scrub_exact_of_settles, fun twice => ?_, scrub_never_ends⟩
  exact ⟨settles_of_scrub_exact twice, scrub_exact_of_settles⟩

private def storedEvent (title : Option String) (payload : JsonText) : Table StoredEvent.id where
  rows := [{
    id := 1, sessionId := 1, seq := .ofInt 1, ts := .ofInt 1, source := "", kind := ""
    isSensitive := 0, hwnd := none, exe := none, title := title, pid := none, prevExe := none
    prevTitle := none, key := none, modShift := none, modCtrl := none, modAlt := none
    modWin := none, button := none, posX := none, posY := none, durationMs := none
    payload := payload }]
  distinct := List.nodup_singleton _

private def firstRows : SqlEngine := ⟨fun matching limit => .first matching limit⟩

private def focusPayload : JsonText :=
  .object [("kind", .string "focus_changed"),
    ("window", .object [("exe", .string "notes.exe"), ("title", .string "Draft")]),
    ("prev", .literal "null")]

theorem title_scrub_exact_focus :
    ScrubExact firstRows (.ofInt 9) (storedEvent (some "Draft") focusPayload) := by
  apply (title_scrub_exact_iff firstRows (.ofInt 9) _).1
  intro row member _
  rcases List.mem_singleton.mp member with rfl
  exact ⟨by decide, rfl, rfl, Or.inl (by decide)⟩

/-- A notification of an application that is called Title is scrubbed by every call. -/
theorem notification_is_scrubbed_again :
    ¬∀ (engine : SqlEngine) (cutoffMs : I64) (events : Table StoredEvent.id),
      ScrubExact engine cutoffMs events := by
  intro all
  let payload : JsonText := .object [("kind", .string "notifications_received"),
    ("app", .string "Title"), ("count", .literal "1")]
  have settled := settles_of_scrub_exact (Or.inr (by decide))
    (all firstRows (.ofInt 9) (storedEvent none payload)) _ List.mem_cons_self (by decide)
  exact absurd settled.text (by decide)

end Exact

end Gilbreth.Store
