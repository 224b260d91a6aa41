import GatewaySim.Proofs.Report.RecordNames
import GatewaySim.Simulation.Workspace

/-! # Files in a workspace

A file holds what was last written to its place (`file?_store_of_last`), and a place that nothing is
written to keeps its file (`file?_store_of_unaddressed`). A record stands in its folder under its
own name (`Recordable.place?_eq`), and wherever it stands, it bears that name
(`getLast?_of_place?_recordPath`).
-/

namespace GatewaySim

namespace Workspace

def file? (workspace : Workspace) (place : List String) : Option String :=
  workspace.files.lookup place

def store (workspace : Workspace) (writings : List Writing) : Workspace :=
  writings.foldl write workspace

variable {workspace : Workspace} {place : List String}

/-! ## One file -/

theorem lookup_putFile (written place : List String) (content : String)
    (files : List (List String × String)) :
    (putFile written content files).lookup place =
      if written = place then some content else files.lookup place := by
  induction files with
  | nil =>
    by_cases here : written = place
    · simp [putFile, here]
    · simp [putFile, List.lookup_cons, beq_false_of_ne (Ne.symm here), here]
  | cons file rest ih =>
    obtain ⟨other, old⟩ := file
    by_cases same : other = written
    · subst same
      by_cases here : other = place
      · simp [putFile, here]
      · simp [putFile, List.lookup_cons, beq_false_of_ne (Ne.symm here), here]
    · by_cases here : other = place
      · subst here
        simp [putFile, same, Ne.symm same]
      · simp [putFile, List.lookup_cons, beq_false_of_ne (Ne.symm here), same, ih]

theorem folders_write (workspace : Workspace) (writing : Writing) :
    (workspace.write writing).folders = workspace.folders := by
  unfold write
  split <;> rfl

theorem working_write (workspace : Workspace) (writing : Writing) :
    (workspace.write writing).working = workspace.working := by
  unfold write
  split <;> rfl

/-- Writing files opens and closes no paths. -/
theorem place?_congr {other : Workspace} (begin : workspace.working = other.working)
    (same : workspace.folders = other.folders) (path : String) :
    workspace.place? path = other.place? path := by
  have folder : ∀ place, workspace.hasFolder place = other.hasFolder place := by
    intro place
    simp only [hasFolder, begin, same]
  have enter : workspace.enter = other.enter := by
    funext place part
    simp only [Workspace.enter, folder]
  simp only [place?, start, folder, enter, begin]

theorem place?_write (writing : Writing) (path : String) :
    (workspace.write writing).place? path = workspace.place? path :=
  place?_congr (working_write workspace writing) (folders_write workspace writing) path

theorem file?_write (writing : Writing) (place : List String) :
    (workspace.write writing).file? place =
      if workspace.place? writing.path = some place then some writing.content
      else workspace.file? place := by
  unfold write
  cases workspace.place? writing.path with
  | none => simp
  | some written => simp only [file?, lookup_putFile, Option.some.injEq]

/-! ## Files one after the other -/

theorem store_append (writings others : List Writing) :
    workspace.store (writings ++ others) = (workspace.store writings).store others := by
  rw [store, List.foldl_append]
  rfl

theorem place?_store (writings : List Writing) (path : String) :
    (workspace.store writings).place? path = workspace.place? path := by
  induction writings generalizing workspace with
  | nil => rfl
  | cons writing rest ih => rw [store, List.foldl_cons, ← store, ih, place?_write]

theorem file?_store_of_unaddressed {writings : List Writing}
    (elsewhere : ∀ writing, writing ∈ writings → workspace.place? writing.path ≠ some place) :
    (workspace.store writings).file? place = workspace.file? place := by
  induction writings generalizing workspace with
  | nil => rfl
  | cons writing rest ih =>
    rw [List.forall_mem_cons] at elsewhere
    rw [store, List.foldl_cons, ← store, ih, file?_write, if_neg elsewhere.1]
    intro other member
    rw [place?_write]
    exact elsewhere.2 other member

/-- The last file that is written to a place is the one that stays there. -/
theorem file?_store_of_last {before after : List Writing} {writing : Writing}
    (addressed : workspace.place? writing.path = some place)
    (last : ∀ other, other ∈ after → workspace.place? other.path ≠ some place) :
    (workspace.store (before ++ writing :: after)).file? place = some writing.content := by
  rw [store_append, store, List.foldl_cons, ← store, file?_store_of_unaddressed, file?_write,
    place?_store, if_pos addressed]
  intro other member
  rw [place?_write, place?_store]
  exact last other member

theorem file?_store_of_getLast? {writings : List Writing} {writing : Writing}
    (last : writings.getLast? = some writing)
    (addressed : workspace.place? writing.path = some place) :
    (workspace.store writings).file? place = some writing.content := by
  obtain ⟨before, rfl⟩ := List.getLast?_eq_some_iff.mp last
  exact file?_store_of_last addressed (by simp)

/-- Where all that is written to a place is the same, the place ends up holding it. -/
theorem file?_store_of_agree {writings : List Writing} {content : String}
    (addressed : ∃ writing, writing ∈ writings ∧ workspace.place? writing.path = some place)
    (agree : ∀ writing, writing ∈ writings → workspace.place? writing.path = some place →
      writing.content = content) :
    (workspace.store writings).file? place = some content := by
  induction writings generalizing workspace with
  | nil => simp at addressed
  | cons writing rest ih =>
    rw [List.forall_mem_cons] at agree
    rw [store, List.foldl_cons, ← store]
    -- the first file stays only if no later one goes to the same place
    by_cases again : ∃ other, other ∈ rest ∧ workspace.place? other.path = some place
    · apply ih
      · simpa only [place?_write] using again
      · simpa only [place?_write] using agree.2
    · have here : workspace.place? writing.path = some place := by
        obtain ⟨other, member, found⟩ := addressed
        rcases List.mem_cons.mp member with rfl | behind
        · exact found
        · exact absurd ⟨other, behind, found⟩ again
      rw [file?_store_of_unaddressed, file?_write, if_pos here, agree.1 here]
      intro other member found
      exact again ⟨other, member, by rwa [place?_write] at found⟩

/-! ## Places of records -/

theorem parts?_eq_some_iff {path : String} {parts : List String} :
    parts? path = some parts ↔
      segments path = parts ∧ path ≠ "" ∧ '\x00' ∉ path.toList ∧ path.utf8ByteSize < pathLimit := by
  unfold parts?
  simp only [Bool.or_eq_true, String.isEmpty_iff, String.contains_char_eq, decide_eq_true_eq]
  split <;> grind

/-- A place ends with the last name of the path that leads there. -/
theorem getLast?_of_place? {path : String} (found : workspace.place? path = some place) :
    place.getLast? = (segments path).getLast? := by
  simp only [place?, Option.bind_eq_bind, Option.bind_eq_some_iff] at found
  obtain ⟨parts, split, name, last, folder, _, found⟩ := found
  obtain ⟨rfl, _⟩ := parts?_eq_some_iff.mp split
  split at found
  · cases found
  · cases found
    rw [List.getLast?_concat, last]

theorem segments_append_slash (folder : String) {name : String} (plain : '/' ∉ name.toList) :
    segments (folder ++ "/" ++ name) = segments folder ++ [name] := by
  have text : (folder ++ "/" ++ name).toList = folder.toList ++ '/' :: name.toList := by simp
  rw [segments, text, List.splitOn_append_cons_self, List.splitOn_eq_singleton plain,
    List.map_append, List.map_singleton, String.ofList_toList]
  rfl

theorem exists_front_of_endsWith {folder : String} (closed : folder.endsWith "/") :
    ∃ front, folder = front ++ "/" := by
  have ends : "/".toList <:+ folder.toSlice.copy.toList :=
    String.Slice.endsWith_string_iff.mp closed
  rw [String.copy_toSlice] at ends
  obtain ⟨front, letters⟩ := ends
  refine ⟨String.ofList front, String.toList_injective ?_⟩
  rw [String.toList_append, String.toList_ofList, letters]

/-- The path of a record in a folder is the folder's, with one slash behind it. -/
theorem exists_recordPath_eq {folder : String} (named : folder ≠ "") (number : Nat)
    (scenario : Scenario) :
    ∃ front, Simulation.recordPath folder number scenario =
        front ++ "/" ++ scenario.recordName number ∧
      (folder = front ∨ folder = front ++ "/") := by
  have notEmpty : folder.isEmpty = false := by simpa using named
  unfold Simulation.recordPath
  by_cases closed : folder.endsWith "/"
  · obtain ⟨front, text⟩ := exists_front_of_endsWith closed
    refine ⟨front, ?_, .inr text⟩
    simp only [notEmpty, closed, Bool.false_or, if_true, ← text, String.append_empty]
  · exact ⟨folder, by simp [notEmpty, closed], .inl rfl⟩

/-- The path of a record ends with its name. -/
theorem getLast?_segments_recordPath (folder : String) (number : Nat) (scenario : Scenario) :
    (segments (Simulation.recordPath folder number scenario)).getLast? =
      some (scenario.recordName number) := by
  have plain := Scenario.slash_notMem_recordName scenario number
  by_cases named : folder = ""
  · have path : Simulation.recordPath folder number scenario = scenario.recordName number := by
      simp [Simulation.recordPath, named]
    rw [path, segments, List.splitOn_eq_singleton plain, List.map_singleton, String.ofList_toList,
      List.getLast?_singleton]
  · obtain ⟨front, path, _⟩ := exists_recordPath_eq named number scenario
    rw [path, segments_append_slash front plain, List.getLast?_concat]

/-- A record stands in a place that bears its name. -/
theorem getLast?_of_place?_recordPath {folder : String} {number : Nat} {scenario : Scenario}
    (found : workspace.place? (Simulation.recordPath folder number scenario) = some place) :
    place.getLast? = some (scenario.recordName number) := by
  rw [getLast?_of_place? found, getLast?_segments_recordPath]

/-! ## Records in a folder -/

/-- What follows in a path does not change where it begins. -/
theorem start_append {folder : String} (named : folder ≠ "") (more : String) :
    workspace.start (folder ++ more) = workspace.start folder := by
  have same : (folder ++ more).startsWith "/" = folder.startsWith "/" := by
    rw [Bool.eq_iff_iff, String.startsWith_string_iff, String.startsWith_string_iff,
      String.toList_append]
    cases letters : folder.toList with
    | nil => exact absurd (String.toList_eq_nil_iff.mp letters) named
    | cons first rest => simp [List.cons_prefix_cons]
  rw [start, start, same]

/-- The slash at the end of a folder's path leads nowhere else. -/
theorem foldlM_enter_append_slash (front : String) (start : List String) :
    (segments (front ++ "/")).foldlM workspace.enter start =
      (segments front).foldlM workspace.enter start := by
  have through : segments (front ++ "/") = segments front ++ [""] := by
    have split := @segments_append_slash front "" (by simp)
    rwa [String.append_empty] at split
  have stay : ∀ place, workspace.enter place "" = some place := by
    intro place
    simp [enter]
  simp [through, List.foldlM_append, stay]

theorem parts?_append_slash {front name : String} (plain : '\x00' ∉ front.toList)
    (noSlash : '/' ∉ name.toList) (noZero : '\x00' ∉ name.toList)
    (fits : (front ++ "/" ++ name).utf8ByteSize < pathLimit) :
    parts? (front ++ "/" ++ name) = some (segments front ++ [name]) := by
  refine parts?_eq_some_iff.mpr ⟨segments_append_slash front noSlash, ?_, ?_, fits⟩
  · simp
  · simp [plain, noZero]

/-- A record can be written to a folder: neither its name nor its path is too long, and no folder
has its name. -/
structure Recordable (workspace : Workspace) (folder : String) (path : List String) (number : Nat)
    (scenario : Scenario) : Prop where
  found : workspace.folder? folder = some path
  short : (scenario.recordName number).utf8ByteSize ≤ greatestName
  fits : (Simulation.recordPath folder number scenario).utf8ByteSize < pathLimit
  free : workspace.hasFolder (path ++ [scenario.recordName number]) = false

/-- A record that can be written stands in its folder under its own name. -/
theorem Recordable.place?_eq {folder : String} {path : List String} {number : Nat}
    {scenario : Scenario} (recordable : workspace.Recordable folder path number scenario) :
    workspace.place? (Simulation.recordPath folder number scenario) =
      some (path ++ [scenario.recordName number]) := by
  obtain ⟨parts, split, entered⟩ := Option.bind_eq_some_iff.mp recordable.found
  obtain ⟨rfl, named, plain, _⟩ := parts?_eq_some_iff.mp split
  obtain ⟨front, whole, closed⟩ := exists_recordPath_eq named number scenario
  -- whether or not a slash ends the folder's path, the same folders are entered
  have through : (segments front).foldlM workspace.enter (workspace.start folder) = some path := by
    rcases closed with rfl | rfl
    · exact entered
    · rwa [foldlM_enter_append_slash] at entered
  have begins : workspace.start (Simulation.recordPath folder number scenario) =
      workspace.start folder := by
    rw [Simulation.recordPath, String.append_assoc, start_append named]
  have frontPlain : '\x00' ∉ front.toList := by
    rcases closed with rfl | rfl
    · exact plain
    · exact fun member => plain (by simp [member])
  have noZero : '\x00' ∉ (scenario.recordName number).toList := fun member =>
    absurd (Scenario.isAlphanum_or_mark_of_mem_recordName member) (by decide)
  have parts := parts?_append_slash frontPlain (Scenario.slash_notMem_recordName scenario number)
    noZero (whole ▸ recordable.fits)
  have proper := Scenario.recordName_proper scenario number
  simp only [place?, begins]
  simp only [whole, parts, Option.bind_eq_bind, Option.bind_some, List.getLast?_concat,
    List.dropLast_concat, through]
  exact if_neg (by simp [proper, recordable.short, recordable.free])

example : ({ folders := [["records"]] } : Workspace).Recordable "../records" ["records"] 0
    ⟨"DM path", "DMHUB", .empty⟩ :=
  ⟨by cbv, by cbv, by cbv, by cbv⟩

example : ({ folders := [["records"]] } : Workspace).Recordable "/records/" ["records"] 0
    ⟨"DM path", "DMHUB", .empty⟩ :=
  ⟨by cbv, by cbv, by cbv, by cbv⟩

end Workspace

end GatewaySim
