import PalletTypes.Proofs.Aggregation.Quiet
import PalletTypes.Proofs.Session.Delivery
import PalletTypes.Proofs.Settings.Defaults
import PalletTypes.Session.Run

/-!
# How a run ends

A run with the default settings says quietly what it does until it comes to its
end: it fails because the path of the directory above has too many bytes, or it
ends as the aggregation does.
-/

namespace PalletTypes.Session

open Aggregation (Ready)

/-- From one session to another only quiet records have been made, and what is
said still goes to the console at most. -/
structure StaysQuiet (before after : Session) : Prop where
  speaks : after.SpeaksToConsole
  made : ∃ records, (∀ record ∈ records, record.IsQuiet) ∧
    after.made = before.made ++ records

/-- A run that started in a session has this exit status, and it has made only
quiet records before the last ones. -/
structure Ends (before : Session) (ending : Session × Nat) (status : Nat)
    (last : List Log.Record) : Prop where
  status_eq : ending.2 = status
  made : ∃ records, (∀ record ∈ records, record.IsQuiet) ∧
    ending.1.made = before.made ++ records ++ last

/-- The record of a run that a failure has ended. -/
def Start.failureRecord (start : Start) : Failure → Log.Record
  | .types error =>
      start.say .error ("Type aggregation failed: " ++ error.message)
  | failure => start.unhandledRecord failure

section

variable {before middle after session : Session}

namespace StaysQuiet

theorem of_tells {records : List Log.Record}
    (speaks : before.SpeaksToConsole) (tells : before.Tells records after)
    (quiet : ∀ record ∈ records, record.IsQuiet) : before.StaysQuiet after where
  speaks := tells.speaksToConsole speaks
  made := ⟨records, quiet, tells.made_eq⟩

theorem trans (first : before.StaysQuiet middle)
    (second : middle.StaysQuiet after) : before.StaysQuiet after := by
  obtain ⟨records, quiet, made⟩ := first.made
  obtain ⟨later, quietLater, madeLater⟩ := second.made
  refine ⟨second.speaks, records ++ later, ?_, ?_⟩
  · exact List.forall_mem_append.mpr ⟨quiet, quietLater⟩
  · rw [madeLater, made, List.append_assoc]

/-- What a run has made quietly can be counted to its beginning. -/
theorem ends {ending : Session × Nat} {status : Nat}
    {last : List Log.Record} (first : before.StaysQuiet middle)
    (rest : middle.Ends ending status last) :
    before.Ends ending status last := by
  obtain ⟨records, quiet, made⟩ := first.made
  obtain ⟨later, quietLater, madeLater⟩ := rest.made
  refine ⟨rest.status_eq, records ++ later, ?_, ?_⟩
  · exact List.forall_mem_append.mpr ⟨quiet, quietLater⟩
  · rw [madeLater, made]
    simp only [List.append_assoc]

end StaysQuiet

/-- The last record of a run is told by what it has made. -/
theorem Ends.last_unique {ending : Session × Nat} {status other : Nat}
    {first second : Log.Record} (endsFirst : before.Ends ending status [first])
    (endsSecond : before.Ends ending other [second]) : first = second := by
  obtain ⟨records, _, made⟩ := endsFirst.made
  obtain ⟨later, _, madeAgain⟩ := endsSecond.made
  have sameLast := made.symm.trans madeAgain
  simp only [← List.concat_eq_append] at sameLast
  exact (List.concat_inj.mp sameLast).2

/-- Saying one more record ends a run with this record. -/
theorem ends_emit (speaks : session.SpeaksToConsole) (record : Log.Record)
    (status : Nat) :
    session.Ends (session.emit record, status) status [record] := by
  have made := (emit_tells speaks record).made_eq
  exact ⟨rfl, [], List.forall_mem_nil _, by rw [made, List.append_nil]⟩

theorem fail_ends (speaks : session.SpeaksToConsole) (start : Start)
    (failure : Failure) :
    session.Ends (session.fail start failure) exitFailure
      [start.failureRecord failure] := by
  cases failure <;> exact ends_emit speaks _ _

/-- Whatever an aggregation in a session says is quiet. -/
theorem aggregate_staysQuiet (speaks : session.SpeaksToConsole)
    (settings : Settings) :
    session.StaysQuiet (session.aggregate settings).1 := by
  have ready : session.StaysQuiet session.readyLoader :=
    .of_tells speaks (emit_tells speaks _)
      (List.forall_mem_singleton.mpr (.of_debug rfl))
  have quiet := Aggregation.quiet_aggregate settings session.readyLoader.files
    session.readyLoader.place (session.readyLoader.pickName
      session.readyLoader.files session.readyLoader.place settings.outputPath)
  simp only [aggregate]
  generalize Aggregation.aggregate _ _ _ _ = outcome at quiet ⊢
  have written : session.StaysQuiet
      { session.readyLoader with files := outcome.files } :=
    ⟨ready.speaks, ready.made⟩
  exact written.trans (.of_tells written.speaks
    (emitAll_tells written.speaks _) quiet)

theorem aggregate_result (speaks : session.SpeaksToConsole)
    (settings : Settings) :
    (session.aggregate settings).2 =
      (Aggregation.aggregate settings session.files session.place
        (session.pickName session.files session.place
          settings.outputPath)).result := by
  have ready : session.Tells [TypesFile.readyRecord] session.readyLoader :=
    emit_tells speaks _
  rw [aggregate, ready.files_eq, ready.place_eq, ready.pickName_eq]

/-- A run with validated settings ends as the aggregation does. -/
theorem runAggregation_ends (speaks : session.SpeaksToConsole) (start : Start)
    (settings : Settings) :
    match (session.aggregate settings).2 with
    | .ok _ =>
        session.Ends (session.runAggregation start settings) exitSuccess []
    | .error failure =>
        session.Ends (session.runAggregation start settings) exitFailure
          [start.failureRecord failure] := by
  have quiet := aggregate_staysQuiet speaks settings
  unfold runAggregation
  generalize session.aggregate settings = ran at quiet
  obtain ⟨after, result⟩ := ran
  cases result with
  | ok path =>
      have completed := emit_tells quiet.speaks
        (start.say .info "Type aggregation completed")
      have said := StaysQuiet.of_tells quiet.speaks completed
        (List.forall_mem_singleton.mpr (.of_info rfl))
      obtain ⟨records, areQuiet, made⟩ := (quiet.trans said).made
      exact ⟨rfl, records, areQuiet, by rw [made, List.append_nil]⟩
  | error failure => exact quiet.ends (fail_ends quiet.speaks start failure)

theorem makeSettings_defaults (present : session.place.removed = 0) :
    session.makeSettings {} =
      (session.emit (Settings.defaults session.place).madeRecord,
        .ok (Settings.defaults session.place)) := by
  simp [makeSettings, SettingsRequest.make, SettingsRequest.base, Place.path?,
    present, Settings.assignAll, emitAll, Settings.defaults]

/-- Before validation a run with the default settings only says quietly what it
does. -/
theorem run_reaches_validation (here : session.place.Exists session.files)
    (speaks : session.SpeaksToConsole) (start : Start) :
    ∃ ready, session.run start {} =
        ready.runValidated start (Settings.defaults session.place) ∧
      ready.files = session.files ∧ ready.place = session.place ∧
      ready.pickName = session.pickName ∧ session.StaysQuiet ready := by
  let made := session.emit (Settings.defaults session.place).madeRecord
  have makes : session.Tells _ made := emit_tells speaks _
  have madeQuiet : session.StaysQuiet made :=
    .of_tells speaks makes (List.forall_mem_singleton.mpr (.of_debug rfl))
  -- The handlers of before are gone from here on, whatever they were.
  let console := made.setupConsole {}
  have speaksConsole : console.SpeaksToConsole :=
    List.forall_mem_singleton.mpr trivial
  have consoleQuiet : session.StaysQuiet console :=
    ⟨speaksConsole, madeQuiet.made⟩
  let records := setupRecords {} none ++
    [start.say .info ("Starting subsocial-types " ++ Settings.version)]
  have recordsQuiet : ∀ record ∈ records, record.IsQuiet := by
    simp only [records, setupRecords, if_true, List.append_nil,
      List.forall_mem_append, List.forall_mem_singleton]
    exact ⟨⟨.of_debug rfl, .of_debug rfl⟩, .of_info rfl⟩
  have tells := emitAll_tells speaksConsole records
  refine ⟨console.emitAll records, ?_, ?_, ?_, ?_, ?_⟩
  · rw [run, makeSettings_defaults here.leads.present]
    simp only [emitAll, records, List.foldl_append]
    rfl
  · rw [tells.files_eq]
    exact makes.files_eq
  · rw [tells.place_eq]
    exact makes.place_eq
  · rw [tells.pickName_eq]
    exact makes.pickName_eq
  · exact consoleQuiet.trans (.of_tells speaksConsole tells recordsQuiet)

/-- Validation lets a run with the default settings go on, unless the file
system refuses to answer for the directory above. -/
theorem runValidated_defaults (here : session.place.Exists session.files)
    (start : Start) :
    session.runValidated start (Settings.defaults session.place) =
      if (Settings.defaults session.place).outputPath.parent.isTooLong then
        session.fail start (.refused .nameTooLong
          (Settings.defaults session.place).outputPath.parent)
      else
        session.runAggregation start (Settings.defaults session.place) := by
  rw [runValidated, Settings.validate_defaults here]
  by_cases long : (Settings.defaults session.place).outputPath.parent.isTooLong
  · simp only [if_pos long]
  · simp only [if_neg long]
    rfl

/-- A run with the default settings says quietly what it does, and then either
fails because of the directory above or aggregates. -/
theorem run_defaults (here : session.place.Exists session.files)
    (speaks : session.SpeaksToConsole) (start : Start) :
    ∃ ready, session.run start {} =
        (if (Settings.defaults session.place).outputPath.parent.isTooLong then
          ready.fail start (.refused .nameTooLong
            (Settings.defaults session.place).outputPath.parent)
        else
          ready.runAggregation start (Settings.defaults session.place)) ∧
      ready.files = session.files ∧ ready.place = session.place ∧
      ready.pickName = session.pickName ∧ session.StaysQuiet ready := by
  obtain ⟨ready, runs, files, place, pickName, quiet⟩ :=
    run_reaches_validation here speaks start
  have hereReady : ready.place.Exists ready.files := by
    rw [files, place]
    exact here
  have validated := runValidated_defaults hereReady start
  rw [place] at validated
  exact ⟨ready, runs.trans validated, files, place, pickName, quiet⟩

/-- Where the path of the directory above has too many bytes, no pallet can be
read. -/
theorem not_ready_of_isTooLong {settings : Settings} {files : FileSystem}
    {place : Place} (nonempty : settings.pallets ≠ [])
    (long : settings.outputPath.parent.isTooLong = true) :
    ¬Ready settings files place := by
  intro ready
  obtain ⟨pallet, listed⟩ := List.exists_mem_of_ne_nil _ nonempty
  -- Every pallet has a longer path than the directory above.
  have accepted :=
    Aggregation.refusal?_palletPath_of_isReadable (ready.readable pallet listed)
  have short := Aggregation.isTooLong_parent_outputPath
    (Path.refusal?_eq_none_iff.mp accepted).2
  exact nomatch long.symm.trans short

/-- Where the path of the directory above has too many bytes, a run with the
default settings ends with an error that blames this directory. -/
theorem run_ends_of_isTooLong (here : session.place.Exists session.files)
    (speaks : session.SpeaksToConsole) (start : Start)
    (long : (Settings.defaults session.place).outputPath.parent.isTooLong =
      true) :
    session.Ends (session.run start {}) exitFailure
      [start.unhandledRecord (.refused .nameTooLong
        (Settings.defaults session.place).outputPath.parent)] := by
  obtain ⟨ready, runs, _, _, _, quiet⟩ := run_defaults here speaks start
  rw [runs, if_pos long]
  exact quiet.ends (fail_ends quiet.speaks start _)

/-- Otherwise it ends as the aggregation does. -/
theorem run_ends_of_short (here : session.place.Exists session.files)
    (speaks : session.SpeaksToConsole) (start : Start)
    (short : ¬(Settings.defaults session.place).outputPath.parent.isTooLong =
      true) :
    match (Aggregation.aggregate (Settings.defaults session.place)
        session.files session.place
        (session.pickName session.files session.place
          (Settings.defaults session.place).outputPath)).result with
    | .ok _ => session.Ends (session.run start {}) exitSuccess []
    | .error failure =>
        session.Ends (session.run start {}) exitFailure
          [start.failureRecord failure] := by
  obtain ⟨ready, runs, files, place, pickName, quiet⟩ :=
    run_defaults here speaks start
  have ends := runAggregation_ends quiet.speaks start
    (Settings.defaults session.place)
  rw [aggregate_result quiet.speaks, files, place, pickName] at ends
  rw [runs, if_neg short]
  generalize (Aggregation.aggregate _ _ _ _).result = result at ends
  cases result with
  | ok path => exact quiet.ends ends
  | error failure => exact quiet.ends ends

/-- If nothing can be collected, it ends with this failure. -/
theorem run_ends_of_collect (here : session.place.Exists session.files)
    (speaks : session.SpeaksToConsole) (start : Start)
    (short : ¬(Settings.defaults session.place).outputPath.parent.isTooLong =
      true) {failure : Failure}
    (failed : (Aggregation.collect (Settings.defaults session.place)
      session.files session.place).2 = .error failure) :
    session.Ends (session.run start {}) exitFailure
      [start.failureRecord failure] := by
  have ends := run_ends_of_short here speaks start short
  rw [Aggregation.result_aggregate, failed] at ends
  exact ends

end

end PalletTypes.Session
