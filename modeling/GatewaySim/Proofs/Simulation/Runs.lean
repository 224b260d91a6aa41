import GatewaySim.Proofs.Simulation.Files
import GatewaySim.Proofs.Simulation.Steps

/-! # Runs and what they leave in files

A run that ends at an unknown sender has done everything for the scenarios before it: their events
are printed and their cascades are recorded. No other file has changed, but for the statistics after
a run that succeeds (`run_effects`).
-/

namespace GatewaySim

/-- The place of the record of a scenario, if scenarios are recorded and its record can be
written. -/
def Settings.recordPlace? (settings : Settings) (workspace : Workspace) (number : Nat)
    (scenario : Scenario) : Option (List String) :=
  settings.recordFolder.bind fun folder =>
    workspace.place? (Simulation.recordPath folder number scenario)

def Settings.statisticsPlace? (settings : Settings) (workspace : Workspace) :
    Option (List String) :=
  settings.statisticsFile.bind workspace.place?

namespace Simulation

variable {settings : Settings} {simulation : Simulation} {scenarios : List Scenario}
  {workspace : Workspace} {place : List String}

/-! ## Records -/

/-- A record stands in a place that bears its name. -/
theorem getLast?_of_recordPlace? {number : Nat} {scenario : Scenario}
    (found : settings.recordPlace? workspace number scenario = some place) :
    place.getLast? = some (scenario.recordName number) := by
  obtain ⟨folder, _, addressed⟩ := Option.bind_eq_some_iff.mp found
  exact Workspace.getLast?_of_place?_recordPath addressed

/-- Records of different numbers stand in different places, whatever their scenarios are called. -/
theorem number_eq_of_recordPlace? {m n : Nat} {scenario other : Scenario}
    (found : settings.recordPlace? workspace m scenario = some place)
    (again : place.getLast? = some (other.recordName n)) : m = n := by
  rw [getLast?_of_recordPlace? found] at again
  exact (Scenario.recordName_inj (Option.some.inj again)).1

theorem mem_recordsFrom_iff {entries : List (Scenario × Cascade)} {writing : Writing} :
    writing ∈ recordsFrom settings 0 entries ↔
      ∃ i scenario cascade folder, entries[i]? = some (scenario, cascade) ∧
        settings.recordFolder = some folder ∧
        writing = ⟨recordPath folder i scenario, cascade.recordText⟩ := by
  constructor
  · intro member
    obtain ⟨⟨⟨scenario, cascade⟩, i⟩, entry, recorded⟩ := List.mem_flatMap.mp member
    obtain ⟨folder, kept, rfl⟩ := List.mem_map.mp recorded
    exact ⟨i, scenario, cascade, folder, List.mem_zipIdx_iff_getElem?.mp entry,
      Option.mem_toList.mp kept, rfl⟩
  · rintro ⟨i, scenario, cascade, folder, entry, kept, rfl⟩
    refine List.mem_flatMap.mpr
      ⟨((scenario, cascade), i), List.mem_zipIdx_iff_getElem?.mpr entry, ?_⟩
    exact List.mem_map.mpr ⟨folder, Option.mem_toList.mpr kept, rfl⟩

/-- The records of a run lie in one folder, each named by its number and its scenario's slug. -/
theorem recordsFrom_zero (settings : Settings) (entries : List (Scenario × Cascade)) :
    recordsFrom settings 0 entries =
      settings.recordFolder.toList.flatMap fun folder =>
        let separator := if folder.isEmpty || folder.endsWith "/" then "" else "/"
        entries.mapIdx fun i entry =>
          { path := folder ++ separator ++ (toString i ++ "-" ++ entry.1.slug ++ ".json")
            content := (Json.Document.object
              [("events", .array (entry.2.events.map Event.document))]).prettyText } := by
  unfold recordsFrom recordsOf
  cases settings.recordFolder with
  | none => simp
  | some folder =>
    simp only [Option.toList_some, List.map_singleton, List.flatMap_singleton,
      List.mapIdx_eq_zipIdx_map]
    rw [← List.map_eq_flatMap]
    rfl

/-! ## What a run returns, prints and writes -/

theorem result_run_of_eq (coherent : simulation.Coherent)
    (whole : simulation.observed.bus.reach scenarios = scenarios.length) :
    (simulation.run scenarios).1 = .ok ((simulation.observed.bus.ran scenarios).map Prod.snd) := by
  rw [run_eq coherent, Bus.runResult_of_eq whole]

theorem result_run_of_some (coherent : simulation.Coherent) {failed : Scenario}
    (found : scenarios[simulation.observed.bus.reach scenarios]? = some failed) :
    (simulation.run scenarios).1 = .error (.notRegistered failed.sender) := by
  rw [run_eq coherent, Bus.runResult, found]

theorem written_run (coherent : simulation.Coherent) :
    (simulation.run scenarios).2.instruments.console.written =
      simulation.instruments.console.written ++
        if simulation.settings.traced then simulation.observed.bus.runText scenarios else "" := by
  rw [run_eq coherent, written_extended coherent]

theorem writings_run (coherent : simulation.Coherent) :
    (simulation.run scenarios).2.writings =
      simulation.writings ++ simulation.runFiles scenarios := by
  rw [run_eq coherent, writings_extended]

/-- The statistics that a run leaves behind are those that it writes if it succeeds. -/
theorem runFiles_eq (coherent : simulation.Coherent) :
    simulation.runFiles scenarios =
      recordsFrom simulation.settings 0 (simulation.observed.bus.ran scenarios) ++
        if simulation.observed.bus.reach scenarios = scenarios.length then
          simulation.settings.statisticsFile.toList.map fun output =>
            ⟨output, (simulation.run scenarios).2.instruments.statistics.fileText⟩
        else [] := by
  rw [runFiles, statisticsFiles]
  cases kept : simulation.settings.statisticsFile with
  | none => rfl
  | some output => rw [run_eq coherent, statistics_extended (Option.isSome_of_eq_some kept)]

/-! ## Files of a run -/

theorem addressed_of_mem_runFiles {writing : Writing}
    (member : writing ∈ simulation.runFiles scenarios)
    (found : workspace.place? writing.path = some place) :
    (∃ i scenario cascade,
      (simulation.observed.bus.ran scenarios)[i]? = some (scenario, cascade) ∧
        simulation.settings.recordPlace? workspace i scenario = some place ∧
        writing.content = cascade.recordText) ∨
      simulation.observed.bus.reach scenarios = scenarios.length ∧
        simulation.settings.statisticsPlace? workspace = some place := by
  rw [runFiles, List.mem_append] at member
  rcases member with record | statistics
  · obtain ⟨i, scenario, cascade, folder, entry, kept, rfl⟩ := mem_recordsFrom_iff.mp record
    refine .inl ⟨i, scenario, cascade, entry, ?_, rfl⟩
    rw [Settings.recordPlace?, kept, Option.bind_some, found]
  · split at statistics
    · obtain ⟨output, kept, rfl⟩ := List.mem_map.mp statistics
      refine .inr ⟨‹_›, ?_⟩
      rw [Settings.statisticsPlace?, Option.mem_toList.mp kept, Option.bind_some, found]
    · cases statistics

/-- The record of each scenario that was run holds its cascade. -/
theorem file?_record {i : Nat} {scenario : Scenario} {cascade : Cascade}
    (entry : (simulation.observed.bus.ran scenarios)[i]? = some (scenario, cascade))
    (placed : simulation.settings.recordPlace? workspace i scenario = some place)
    (apart : simulation.settings.statisticsPlace? workspace ≠ some place) :
    (workspace.store (simulation.runFiles scenarios)).file? place = some cascade.recordText := by
  apply Workspace.file?_store_of_agree
  · obtain ⟨folder, kept, found⟩ := Option.bind_eq_some_iff.mp placed
    refine ⟨⟨recordPath folder i scenario, cascade.recordText⟩, ?_, found⟩
    exact List.mem_append_left _
      (mem_recordsFrom_iff.mpr ⟨i, scenario, cascade, folder, entry, kept, rfl⟩)
  · intro writing member found
    rcases addressed_of_mem_runFiles member found with record | ⟨_, statistics⟩
    · obtain ⟨j, other, behind, same, here, content⟩ := record
      have number := number_eq_of_recordPlace? placed (getLast?_of_recordPlace? here)
      rw [← number, entry] at same
      cases same
      exact content
    · exact absurd statistics apart

/-- The statistics, if they are written at all, are written last. -/
theorem file?_statistics (coherent : simulation.Coherent)
    (whole : simulation.observed.bus.reach scenarios = scenarios.length)
    (placed : simulation.settings.statisticsPlace? workspace = some place) :
    (workspace.store (simulation.runFiles scenarios)).file? place =
      some (simulation.run scenarios).2.instruments.statistics.fileText := by
  obtain ⟨output, kept, found⟩ := Option.bind_eq_some_iff.mp placed
  have counted : simulation.settings.statisticsFile.isSome := by rw [kept, Option.isSome_some]
  rw [run_eq coherent, statistics_extended counted, runFiles, if_pos whole, statisticsFiles, kept]
  exact Workspace.file?_store_of_last found (by simp)

theorem file?_elsewhere
    (unrecorded : ∀ i scenario cascade,
      (simulation.observed.bus.ran scenarios)[i]? = some (scenario, cascade) →
        simulation.settings.recordPlace? workspace i scenario ≠ some place)
    (apart : simulation.observed.bus.reach scenarios = scenarios.length →
      simulation.settings.statisticsPlace? workspace ≠ some place) :
    (workspace.store (simulation.runFiles scenarios)).file? place = workspace.file? place := by
  apply Workspace.file?_store_of_unaddressed
  intro writing member found
  rcases addressed_of_mem_runFiles member found with record | ⟨whole, statistics⟩
  · obtain ⟨i, scenario, cascade, entry, here, _⟩ := record
    exact unrecorded i scenario cascade entry here
  · exact apart whole statistics

/-- A run leaves alone what bears the name of a record that it does not get to. -/
theorem file?_unreached {path : List String} {i : Nat} {scenario : Scenario}
    (later : simulation.observed.bus.reach scenarios ≤ i)
    (apart : simulation.settings.statisticsPlace? workspace ≠
      some (path ++ [scenario.recordName i])) :
    (workspace.store (simulation.runFiles scenarios)).file? (path ++ [scenario.recordName i]) =
      workspace.file? (path ++ [scenario.recordName i]) := by
  refine file?_elsewhere (fun j other cascade found here => ?_) (fun _ => apart)
  have number : j = i := number_eq_of_recordPlace? here List.getLast?_concat
  have early := (Bus.getElem?_ran found).1
  rw [number] at early
  exact absurd early (Nat.not_lt.mpr later)

/-- A run of a simulation, whatever has been done with it before. Let `k` be the index of the first
scenario whose sender is not registered, if there is one. The run prints, for the scenarios before
it, a heading and the events, and then the heading of scenario `k`; it records the cascades of the
scenarios before it and nothing else. If there is no such scenario, the result is the cascades and
the statistics are written; otherwise it is the failure of scenario `k`, and they are not. -/
theorem run_effects (config : Config) (isFolder : String → Bool) (steps : List Step)
    (scenarios : List Scenario) :
    let settings := Settings.ofConfig config isFolder
    let before := (create config isFolder).performAll steps
    let bus := before.observed.bus
    let k := bus.reach scenarios
    let after := (before.run scenarios).2
    ∃ cascades : List Cascade,
      let entries := (scenarios.take k).zip cascades
      let records : List Writing := settings.recordFolder.toList.flatMap fun folder =>
        let separator := if folder.isEmpty || folder.endsWith "/" then "" else "/"
        entries.mapIdx fun i entry =>
          { path := folder ++ separator ++ (toString i ++ "-" ++ entry.1.slug ++ ".json")
            content := (Json.Document.object
              [("events", .array (entry.2.events.map Event.document))]).prettyText }
      let statistics := Json.Document.object (after.instruments.statistics.entries.map fun entry =>
        (entry.1, .object
          [("published", .number entry.2.published), ("received", .number entry.2.received),
            ("rejected", .number entry.2.rejected)]))
      let reports : List Writing :=
        if k = scenarios.length then
          settings.statisticsFile.toList.map fun output => ⟨output, statistics.prettyText⟩
        else []
      cascades.map some = (scenarios.take k).map bus.cascade? ∧
      (k = scenarios.length → (before.run scenarios).1 = .ok cascades) ∧
      (∀ failed, scenarios[k]? = some failed →
        ∃ failure, (before.run scenarios).1 = .error failure ∧
          failure.message = "No module named " ++ failed.sender ++ " is registered") ∧
      after.instruments.console.written = before.instruments.console.written ++
        (if settings.traced then
          String.join (entries.map fun entry =>
            "\n" ++ entry.1.name ++ "\n\n" ++
              String.join (entry.2.events.map fun event => event.traceLine ++ "\n")) ++
            scenarios[k]?.elim "" fun failed => "\n" ++ failed.name ++ "\n\n"
        else "") ∧
      after.writings = before.writings ++ (records ++ reports) ∧
      ∀ workspace : Workspace,
        let stored := workspace.store (records ++ reports)
        (∀ folder path i scenario cascade, settings.recordFolder = some folder →
          workspace.Recordable folder path i scenario →
          settings.statisticsPlace? workspace ≠ some (path ++ [scenario.recordName i]) →
          entries[i]? = some (scenario, cascade) →
          stored.file? (path ++ [scenario.recordName i]) = some cascade.document.prettyText) ∧
        (∀ path i (scenario : Scenario), k ≤ i →
          settings.statisticsPlace? workspace ≠ some (path ++ [scenario.recordName i]) →
          stored.file? (path ++ [scenario.recordName i]) =
            workspace.file? (path ++ [scenario.recordName i])) ∧
        (∀ place, (∀ i scenario, i < k → scenarios[i]? = some scenario →
            settings.recordPlace? workspace i scenario ≠ some place) →
          stored.file? place =
            if settings.statisticsPlace? workspace = some place ∧ k = scenarios.length then
              some statistics.prettyText
            else workspace.file? place) := by
  intro settings before bus k after
  have life := leadsTo_performAll (coherent_create config isFolder) steps
  have coherent : before.Coherent := life.coherent
  have same : before.settings = settings := life.settings
  have zipped : (scenarios.take k).zip ((bus.ran scenarios).map Prod.snd) = bus.ran scenarios :=
    (List.zip_of_prod (Bus.fst_ran scenarios) rfl).symm
  refine ⟨(bus.ran scenarios).map Prod.snd, ?_⟩
  intro entries records statistics reports
  have ran : entries = bus.ran scenarios := zipped
  have files : records ++ reports = before.runFiles scenarios := by
    rw [runFiles_eq coherent, recordsFrom_zero, same, ← ran]
    rfl
  -- cascades, result, text, then the files: records, later records, everything else
  refine ⟨Bus.map_some_snd_ran scenarios, result_run_of_eq coherent, fun failed found => ?_, ?_, ?_,
    fun workspace => ?_⟩
  · exact ⟨_, result_run_of_some coherent found, rfl⟩
  · rw [ran, ← same, ← Bus.runText_eq]
    exact written_run coherent
  · rw [files]
    exact writings_run coherent
  intro stored
  have disk : stored = workspace.store (before.runFiles scenarios) := by rw [← files]
  rw [disk, ← same]
  refine ⟨?_, ?_, ?_⟩
  · intro folder path i scenario cascade kept recordable apart found
    refine file?_record (ran ▸ found) ?_ apart
    rw [Settings.recordPlace?, kept, Option.bind_some, recordable.place?_eq]
  · exact fun path i scenario later apart => file?_unreached later apart
  · intro place unrecorded
    split
    next written => exact file?_statistics coherent written.2 written.1
    next unwritten =>
      refine file?_elsewhere (fun i scenario cascade found => ?_) (fun whole found => ?_)
      · exact unrecorded i scenario (Bus.getElem?_ran found).1 (Bus.getElem?_ran found).2
      · exact unwritten ⟨found, whole⟩

/-- Two scenarios whose names have the same slug, and a third that fails, recorded in a folder below
the root. -/
theorem run_effects_namesakes :
    let twin : Module := { name := "twin", receive := fun _ => [] }
    let config : Config := ⟨.table none
      [("record", .table none [("path", .scalar none (.text "/records"))])]⟩
    let first : Scenario := ⟨"DM path", "twin", .empty⟩
    let second : Scenario := ⟨"dm-path", "twin", .empty⟩
    let before := (create config fun _ => true).performAll [.register twin]
    let after := (before.run [first, second, ⟨"late", "nobody", .empty⟩]).2
    let workspace : Workspace := { folders := [["records"]] }
    ∃ cascade other : Cascade,
      before.observed.bus.cascade? first = some cascade ∧
      before.observed.bus.cascade? second = some other ∧
      after.writings = [⟨"/records/0-dm-path.json", cascade.document.prettyText⟩,
        ⟨"/records/1-dm-path.json", other.document.prettyText⟩] ∧
      (workspace.store after.writings).file? ["records", "0-dm-path.json"] =
        some cascade.document.prettyText ∧
      (workspace.store after.writings).file? ["records", "1-dm-path.json"] =
        some other.document.prettyText ∧
      (workspace.store after.writings).file? ["records", "2-late.json"] = none := by
  intro twin config first second before after workspace
  obtain ⟨cascades, found, _, _, _, written, disk⟩ :=
    run_effects config (fun _ => true) [.register twin]
      [first, second, ⟨"late", "nobody", .empty⟩]
  have bus : before.observed.bus = (Bus.register (Bus.ofConfig (config.part "bus")) twin).2 := rfl
  have reached : before.observed.bus.reach [first, second, ⟨"late", "nobody", .empty⟩] = 2 := by
    simp [bus, Bus.register, Bus.reach, modules_ofConfig, twin, first, second]
    rfl
  obtain ⟨records, later, _⟩ := disk workspace
  have apart (place : List String) :
      (Settings.ofConfig config fun _ => true).statisticsPlace? workspace ≠ some place :=
    Option.some_ne_none place |>.symm
  have firstName : first.recordName 0 = "0-dm-path.json" := by cbv
  have secondName : second.recordName 1 = "1-dm-path.json" := by cbv
  have lateName : Scenario.recordName ⟨"late", "nobody", .empty⟩ 2 = "2-late.json" := by cbv
  rw [reached] at found
  obtain ⟨cascade, other, rfl⟩ := List.length_eq_two.mp (by simpa using congrArg List.length found)
  obtain ⟨here, there⟩ : some cascade = _ ∧ some other = _ := by simpa using found
  refine ⟨cascade, other, here.symm, there.symm, ?_, ?_, ?_, ?_⟩
  · have firstPath : recordPath "/records" 0 first = "/records/0-dm-path.json" := by cbv
    have secondPath : recordPath "/records" 1 second = "/records/1-dm-path.json" := by cbv
    rw [written, ← firstPath, ← secondPath, reached]
    rfl
  · rw [written, ← firstName]
    exact records "/records" ["records"] 0 first cascade rfl
      ⟨by cbv, by cbv, by cbv, by cbv⟩ (apart _) (by rw [reached]; rfl)
  · rw [written, ← secondName]
    exact records "/records" ["records"] 1 second other rfl
      ⟨by cbv, by cbv, by cbv, by cbv⟩ (apart _) (by rw [reached]; rfl)
  · rw [written, ← lateName]
    exact later ["records"] 2 ⟨"late", "nobody", .empty⟩ (Nat.le_of_eq reached) (apart _)

end Simulation

end GatewaySim
