import PackageSearch.Proofs.Clock.Timestamp
import PackageSearch.Proofs.Server.Debug

/-!
# Capture times

A debug report tells when its snapshot was captured. The time is computed anew for every report,
from the present and the age of the snapshot, but it does not depend on when the report is made.
-/

namespace PackageSearch.Server

variable {settings : Settings} {world : World} {last : State} {journal : List JournalEntry}
  {time : Nat} {report : DebugReport} {snapshot : Snapshot}

/-- The report is made at the time, on a snapshot that a detection has found by then. -/
structure Reports (settings : Settings) (world : World) (journal : List JournalEntry)
    (report : DebugReport) (time : Nat) (snapshot : Snapshot) : Prop where
  made : ∃ made : State, made.now = time ∧ report = made.debug settings world snapshot
  detected : ∃ source captured, captured ≤ time ∧ ⟨captured, source, .detected snapshot⟩ ∈ journal

/-- The capture time of the report is the time. The text for it is in UTC, and a reader of dates and
times makes the same time of it if it is before the year 10000. -/
structure TellsTime (report : DebugReport) (time : Nat) : Prop where
  capturedAt : report.capturedAt = some time
  written : ∃ members, report.toJson = .object members ∧
    ("capturedAt", .string (String.ofList (Clock.rfc3339 time))) ∈ members
  isUtc : ∃ inUtc, Clock.rfc3339 time = inUtc ++ "+00:00".toList
  isReadBack : time < Clock.daysBeforeYear 10000 * Clock.millisecondsPerDay →
    Toml.instantOf? (Clock.rfc3339 time) = some (time : Int)

theorem tellsTime_of_capturedAt (shown : report.capturedAt = some time) :
    TellsTime report time where
  capturedAt := shown
  written := by
    refine ⟨_, rfl, ?_⟩
    rw [shown]
    simp
  isUtc := ⟨_, rfl⟩
  isReadBack := Clock.instantOf?_rfc3339

theorem capturedAt_debug {made : State} {captured : Nat}
    (capturedAt : snapshot.capturedAt = some captured) (past : captured ≤ made.now) :
    (made.debug settings world snapshot).capturedAt = some (settings.epoch + captured) := by
  simp only [State.debug, Snapshot.age?, capturedAt, Option.map_some, Option.some.injEq]
  omega

/-- A report says when the detection that found its snapshot ended. -/
theorem Reports.tellsTime (reports : Reports settings world journal report time snapshot)
    (sound : SoundJournal settings journal) {source : TaskId} {captured : Nat}
    (detected : ⟨captured, source, .detected snapshot⟩ ∈ journal) :
    TellsTime report (settings.epoch + captured) := by
  obtain ⟨made, rfl, rfl⟩ := reports.made
  obtain ⟨other, ended, past, found⟩ := reports.detected
  have capturedAt := sound.capturedAt _ _ _ detected
  obtain rfl := Option.some.inj (capturedAt.symm.trans (sound.capturedAt _ _ _ found))
  exact tellsTime_of_capturedAt (capturedAt_debug capturedAt past)

/-- A debug request is answered with a report on the snapshot that its call for the current one is
served with, which a detection has found by then. Such a report says when the detection ended, in
wall clock time. Reports on the same snapshot say the same, whenever they are made. -/
theorem debug_tells_capture_time (settings : Settings) (world : World) :
    (∀ state task next last answer time, Reachable settings world state →
      Begins settings world state .debug task next → Leads settings world next last →
      last.answer? task = some (answer, time) →
        ∃ report snapshot more asked, answer = .debug report ∧
          Reports settings world last.journal report time snapshot ∧
          last.journal = state.journal ++ more ∧ state.now ≤ asked ∧ asked ≤ time ∧
          Serves settings asked more task snapshot) ∧
    (∀ last report time snapshot, Reachable settings world last →
      Reports settings world last.journal report time snapshot →
        ∀ source captured, ⟨captured, source, .detected snapshot⟩ ∈ last.journal →
          TellsTime report (settings.epoch + captured)) ∧
    (∀ last report time later again timeAgain snapshot, Reachable settings world last →
      Reachable settings world later →
      Reports settings world last.journal report time snapshot →
      Reports settings world later.journal again timeAgain snapshot →
        again.capturedAt = report.capturedAt) := by
  refine ⟨?_, ?_, ?_⟩
  · intro state task next last answer time reachable begins leads answered
    obtain ⟨made, snapshot, more, atEnd, isReport, grown, ⟨detected, asked, since, past, serves⟩⟩ :=
      begins.exists_report reachable leads answered
    exact ⟨_, snapshot, more, asked, isReport, ⟨⟨made, atEnd, rfl⟩, detected⟩, grown, since, past,
      serves⟩
  · intro last report time snapshot reachable reports source captured
    exact reports.tellsTime reachable.sound.common.2
  · intro last report time later again timeAgain snapshot reachable reachableAgain reports
      reportsAgain
    have sound : SoundJournal settings last.journal := reachable.sound.common.2
    have soundAgain : SoundJournal settings later.journal := reachableAgain.sound.common.2
    obtain ⟨source, captured, -, detected⟩ := reports.detected
    obtain ⟨sourceAgain, capturedAgain, -, detectedAgain⟩ := reportsAgain.detected
    have sameTime := (sound.capturedAt _ _ _ detected).symm.trans
      (soundAgain.capturedAt _ _ _ detectedAgain)
    obtain rfl := Option.some.inj sameTime
    have told := reports.tellsTime sound detected
    have toldAgain := reportsAgain.tellsTime soundAgain detectedAgain
    rw [told.capturedAt, toldAgain.capturedAt]

/-- The clock of the server shows zero in the last second of the 29th of February 2000. -/
def leapDaySettings : Settings :=
  { smallSettings with epoch := 951868799123 }

/-- A debug request has been answered. -/
def inspectedOnce : State :=
  (State.initial.spawn leapDaySettings (smallWorld 0 0) .debug).resume leapDaySettings
    (smallWorld 0 0) 0

/-- Later, but before the snapshot is stale, another one has been. -/
def inspectedTwice : State :=
  ({ inspectedOnce with now := 49 }.spawn leapDaySettings (smallWorld 0 0) .debug).resume
    leapDaySettings (smallWorld 0 0) 1

theorem leapDay_told :
    let snapshot : Snapshot := ⟨NameSet.empty, some 0⟩
    let first := inspectedOnce.debug leapDaySettings (smallWorld 0 0) snapshot
    let second := inspectedTwice.debug leapDaySettings (smallWorld 0 0) snapshot
    (∃ report served, inspectedTwice.answer? 1 = some (.debug report, 49) ∧
      Reports leapDaySettings (smallWorld 0 0) inspectedTwice.journal report 49 served) ∧
    TellsTime first 951868799123 ∧ second.capturedAt = first.capturedAt ∧
    Clock.rfc3339 951868799123 = "2000-02-29T23:59:59.123+00:00".toList ∧
    Toml.instantOf? (Clock.rfc3339 951868799123) = some 951868799123 := by
  intro snapshot first second
  obtain ⟨answers, tells, sameTime⟩ := debug_tells_capture_time leapDaySettings (smallWorld 0 0)
  have begun : Reachable leapDaySettings (smallWorld 0 0) inspectedOnce :=
    .step (.step .initial (.arrive .debug)) (.resume (by decide))
  have waited : Reachable leapDaySettings (smallWorld 0 0) { inspectedOnce with now := 49 } :=
    .step begun (.pass (by decide))
  have goesOn : Step leapDaySettings (smallWorld 0 0)
      ({ inspectedOnce with now := 49 }.spawn leapDaySettings (smallWorld 0 0) .debug)
      inspectedTwice :=
    .resume (by decide)
  have reachable : Reachable leapDaySettings (smallWorld 0 0) inspectedTwice :=
    .step (.step waited (.arrive .debug)) goesOn
  have detected : ⟨0, 0, .detected snapshot⟩ ∈ inspectedTwice.journal := by decide
  have reportsFirst : Reports leapDaySettings (smallWorld 0 0) inspectedTwice.journal first 0
      snapshot :=
    ⟨⟨inspectedOnce, rfl, rfl⟩, 0, 0, by decide, detected⟩
  have reportsSecond : Reports leapDaySettings (smallWorld 0 0) inspectedTwice.journal second 49
      snapshot :=
    ⟨⟨inspectedTwice, rfl, rfl⟩, 0, 0, by decide, detected⟩
  have told : TellsTime first 951868799123 := tells _ _ _ _ reachable reportsFirst 0 0 detected
  refine ⟨?_, told, ?_, by decide, told.isReadBack ?_⟩
  · have answered : ∃ answer, inspectedTwice.answer? 1 = some (answer, 49) := ⟨_, rfl⟩
    obtain ⟨answer, answered⟩ := answered
    obtain ⟨report, served, -, -, rfl, reports, -⟩ :=
      answers _ 1 _ _ answer 49 waited .arriving (.single goesOn) answered
    exact ⟨report, served, answered, reports⟩
  · exact sameTime _ _ _ _ _ _ snapshot reachable reachable reportsFirst reportsSecond
  · have days := Clock.daysBeforeYear_add 10000 (by decide)
    have value : Clock.daysBeforeMarch (10000 - 1) = 3652059 := rfl
    unfold Clock.daysBeforeEpoch at days
    unfold Clock.millisecondsPerDay
    omega

end PackageSearch.Server
