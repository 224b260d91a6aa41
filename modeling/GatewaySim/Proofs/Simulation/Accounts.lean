import GatewaySim.Proofs.Report.Totals
import GatewaySim.Proofs.Simulation.Runs
import GatewaySim.Proofs.Text.ByteOrder

/-! # Statistics over the life of a simulation

The statistics that a successful run writes account for every event since the simulation was
created, whatever steps led to it: those of earlier runs, of runs that failed later, and of messages
that were published on their own (`run_statistics`).
-/

namespace GatewaySim.Simulation

/-- The object that says for each of some names how many publications, receipts and rejections among
some events are under that name. -/
def account (events : List Event) (names : List String) : Json.Document :=
  .object (names.map fun name =>
    (name, .object
      [("published", .number
          ((events.filterMap Event.publication?).countP fun p => p.senderName = name)),
        ("received", .number
          ((events.filterMap Event.receipt?).countP fun r => r.receiverName = name)),
        ("rejected", .number
          ((events.filterMap Event.rejection?).countP fun r => r.senderName = name))]))

theorem document_foldl_count (events : List Event) :
    (events.foldl Statistics.count {}).document = account events (Statistics.names events) := by
  rw [Statistics.document, Statistics.entries_foldl_count, Statistics.entriesOf, List.map_map]
  rfl

/-- A run that succeeds, after any steps of any outcome, ends with writing an account of every event
since the simulation was created: it has an entry for each name that occurs in one, in strictly
increasing order of bytes. -/
theorem run_statistics {config : Config} {isFolder : String → Bool} {steps : List Step}
    {scenarios : List Scenario} {output : String} {cascades : List Cascade}
    (kept : (Settings.ofConfig config isFolder).statisticsFile = some output)
    (succeeded : (((create config isFolder).performAll steps).run scenarios).1 = .ok cascades) :
    let after := (((create config isFolder).performAll steps).run scenarios).2
    let events := Step.emitted (Bus.ofConfig (config.part "bus")) (steps ++ [.run scenarios])
    ∃ names : List String,
      names.Pairwise (fun name other => Text.bytes name < Text.bytes other) ∧
      (∀ name, name ∈ names ↔ ∃ event, event ∈ events ∧ event.moduleName = name) ∧
      after.writings.getLast? = some ⟨output, (account events names).prettyText⟩ ∧
      ∀ (workspace : Workspace) (place : List String),
        workspace.place? output = some place →
        (workspace.store after.writings).file? place =
          some (account events names).prettyText := by
  intro after events
  have start := coherent_create config isFolder
  have life := leadsTo_performAll start steps
  have settings : ((create config isFolder).performAll steps).settings =
      Settings.ofConfig config isFolder := life.settings
  -- the run itself is the last step of the life
  have counted : after.instruments.statistics = events.foldl Statistics.count {} := by
    have whole := (leadsTo_performAll start (steps ++ [.run scenarios])).statistics
      (Option.isSome_of_eq_some kept)
    rw [performAll, List.foldl_concat] at whole
    exact whole
  have text : after.instruments.statistics.fileText =
      (account events (Statistics.names events)).prettyText := by
    rw [counted, Statistics.fileText, document_foldl_count]
  rw [run_eq life.coherent] at succeeded
  have reached := Bus.reach_eq_length_of_ok succeeded
  have last : after.writings.getLast? =
      some ⟨output, (account events (Statistics.names events)).prettyText⟩ := by
    rw [writings_run life.coherent, runFiles_eq life.coherent, if_pos reached, settings, kept,
      Option.toList_some, List.map_singleton, ← List.append_assoc, List.getLast?_concat, text]
  exact ⟨Statistics.names events, (Statistics.sorted_names events).imp Text.bytes_lt_bytes,
    fun name => Statistics.mem_names_iff, last,
    fun workspace place placed => Workspace.file?_store_of_getLast? last placed⟩

/-- Two modules of one name, a message that is published on its own, and a run that fails at its
second scenario. -/
theorem run_statistics_twins :
    let twin : Module := { name := "twin", receive := fun _ => [Reaction.report "seen"] }
    let config : Config := ⟨.table none
      [("monitor", .table none [("output", .scalar none (.text "/stats.json"))])]⟩
    let steps : List Step :=
      [.register twin, .publishAs "twin" .empty, .register twin,
        .run [⟨"first", "twin", .empty⟩, ⟨"second", "nobody", .empty⟩]]
    let scenarios : List Scenario := [⟨"third", "twin", .empty⟩]
    let before := (create config fun _ => false).performAll steps
    let after := (before.run scenarios).2
    let events := Step.emitted (Bus.ofConfig (config.part "bus")) (steps ++ [.run scenarios])
    (Settings.ofConfig config fun _ => false).statisticsFile = some "/stats.json" ∧
      ∃ cascades, (before.run scenarios).1 = .ok cascades ∧
        ∃ names : List String,
          names.Pairwise (fun name other => Text.bytes name < Text.bytes other) ∧
          (∀ name, name ∈ names ↔ ∃ event, event ∈ events ∧ event.moduleName = name) ∧
          after.writings.getLast? = some ⟨"/stats.json", (account events names).prettyText⟩ ∧
          (({} : Workspace).store after.writings).file? ["stats.json"] =
            some (account events names).prettyText := by
  intro twin config steps scenarios before after events
  have life := leadsTo_performAll (coherent_create config fun _ => false) steps
  have kept : (Settings.ofConfig config fun _ => false).statisticsFile = some "/stats.json" := rfl
  have reached : before.observed.bus.reach scenarios = scenarios.length := by
    rw [life.bus]
    simp [steps, scenarios, twin, Step.grow, Bus.register, Bus.reach, create, observe,
      modules_ofConfig]
  have succeeded : (before.run scenarios).1 =
      .ok ((before.observed.bus.ran scenarios).map Prod.snd) :=
    result_run_of_eq life.coherent reached
  have addressed : ({} : Workspace).place? "/stats.json" = some ["stats.json"] := by cbv
  obtain ⟨names, sorted, members, last, file⟩ := run_statistics kept succeeded
  have stored := file {} ["stats.json"] addressed
  exact ⟨kept, _, succeeded, names, sorted, members, last, stored⟩

end GatewaySim.Simulation
