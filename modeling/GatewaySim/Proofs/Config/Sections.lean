import GatewaySim.Proofs.Config.Parts
import GatewaySim.Proofs.Config.Sources
import Mathlib

/-! # A part answers like the whole

A part is built anew from the entries of a table, each of them set under its key. What is found in
it is therefore a copy of what is found in the whole configuration behind the path of the table
(`Value.Copy`): tables are made anew and lose the note where they were read, all else is the same.
So a query of the part comes to the same as a query of the whole with the two paths joined by a dot
(`part_answers`).
-/

namespace GatewaySim.Config

/-! ## Paths one behind the other -/

theorem takeWhile_append_stop {p : Char → Bool} {c : Char} (stop : p c = false)
    (text more : List Char) : (text ++ c :: more).takeWhile p = text.takeWhile p := by
  induction text with
  | nil => simp [stop]
  | cons first text ih =>
    rw [List.cons_append, List.takeWhile_cons, List.takeWhile_cons, ih]

theorem dropWhile_append_stop {p : Char → Bool} {c : Char} (stop : p c = false)
    (text more : List Char) :
    (text ++ c :: more).dropWhile p = text.dropWhile p ++ c :: more := by
  induction text with
  | nil => simp [stop]
  | cons first text ih =>
    rw [List.cons_append, List.dropWhile_cons, List.dropWhile_cons, ih]
    split <;> rfl

namespace Path

variable {text rest more : List Char}

theorem readKey_append {key : String} (read : readKey text = some (key, rest)) :
    readKey (text ++ '.' :: more) = some (key, rest ++ '.' :: more) := by
  have stop : isKeyChar '.' = false := by decide
  unfold readKey at read ⊢
  rw [takeWhile_append_stop stop, dropWhile_append_stop stop]
  dsimp only at read ⊢
  split at read
  next => cases read
  next nonempty =>
    cases read
    rw [if_neg nonempty]

theorem readSign_append :
    readSign (text ++ '.' :: more) = ((readSign text).1, (readSign text).2 ++ '.' :: more) := by
  cases text with
  | nil => rfl
  | cons c text =>
    by_cases minus : c = '-'
    · subst minus
      rfl
    · unfold readSign
      grind

theorem readIndex_append {position : Int} (read : readIndex text = some (position, rest)) :
    readIndex (text ++ '.' :: more) = some (position, rest ++ '.' :: more) := by
  have blank : isBlank '.' = false := by decide
  have digit : Char.isDigit '.' = false := by decide
  unfold readIndex at read ⊢
  rw [dropWhile_append_stop blank, readSign_append]
  dsimp only at read ⊢
  rw [takeWhile_append_stop digit, dropWhile_append_stop digit, dropWhile_append_stop blank]
  split at read
  next closed =>
    rw [closed]
    dsimp only [List.cons_append]
    split at read
    next => cases read
    next valid =>
      cases read
      exact if_neg valid
  next => cases read

theorem readSteps_key {key : String} (read : readKey text = some (key, rest)) :
    readSteps ('.' :: text) = (readSteps rest).map (.key key :: ·) := by
  rw [readSteps]
  split
  next failed => cases read.symm.trans failed
  next found =>
    cases read.symm.trans found
    rfl

theorem readSteps_index {position : Int} (read : readIndex text = some (position, rest)) :
    readSteps ('[' :: text) = (readSteps rest).map (.index position :: ·) := by
  rw [readSteps]
  split
  next failed => cases read.symm.trans failed
  next found =>
    cases read.symm.trans found
    rfl

theorem readSteps_append {steps : List Step} (read : readSteps text = some steps) :
    readSteps (text ++ '.' :: more) = (readSteps ('.' :: more)).map (steps ++ ·) := by
  fun_induction readSteps text generalizing steps with
  | case1 =>
    cases read
    simp
  | case3 text key behind named ih =>
    obtain ⟨onward, found, rfl⟩ := Option.map_eq_some_iff.mp read
    rw [List.cons_append, readSteps_key (readKey_append named), ih found, Option.map_map]
    rfl
  | case5 text position behind placed ih =>
    obtain ⟨onward, found, rfl⟩ := Option.map_eq_some_iff.mp read
    rw [List.cons_append, readSteps_index (readIndex_append placed), ih found, Option.map_map]
    rfl
  | case2 | case4 | case6 => cases read

def onward (path next : Path) : Path := ⟨path.root, path.steps ++ .key next.root :: next.steps⟩

/-- A dot between two paths joins them. -/
theorem ofText?_join {first second : String} {path next : Path} (before : ofText? first = some path)
    (behind : ofText? second = some next) :
    ofText? (first ++ "." ++ second) = some (path.onward next) := by
  have chars : (first ++ "." ++ second).toList = first.toList ++ '.' :: second.toList := by
    simp
  unfold ofText? at before behind ⊢
  rw [chars]
  cases root : readKey first.toList with
  | none =>
    rw [root] at before
    cases before
  | some read =>
    obtain ⟨key, left⟩ := read
    rw [root] at before
    obtain ⟨steps, found, rfl⟩ := Option.map_eq_some_iff.mp before
    cases inner : readKey second.toList with
    | none =>
      rw [inner] at behind
      cases behind
    | some read =>
      obtain ⟨name, last⟩ := read
      rw [inner] at behind
      obtain ⟨others, there, rfl⟩ := Option.map_eq_some_iff.mp behind
      rw [readKey_append root]
      dsimp only
      rw [readSteps_append found, readSteps_key inner, there]
      rfl

end Path

/-! ## Copies -/

mutual

/-- A value and what it was copied from: the same but for the notes where tables were read. -/
inductive Value.Copy : Value → Value → Prop where
  | same (value : Value) : Value.Copy value value
  | table (origin other : Option Origin) {entries others : Entries}
      (each : Entries.Copy entries others) :
      Value.Copy (.table origin entries) (.table other others)

inductive Entries.Copy : Entries → Entries → Prop where
  | nil : Entries.Copy [] []
  | cons (key : String) {value other : Value} {rest others : Entries}
      (here : Value.Copy value other) (behind : Entries.Copy rest others) :
      Entries.Copy ((key, value) :: rest) ((key, other) :: others)

end

theorem Entries.Copy.refl (entries : Entries) : entries.Copy entries := by
  induction entries with
  | nil => exact .nil
  | cons entry rest ih => exact .cons entry.1 (.same entry.2) ih

theorem Entries.Copy.get? {entries others : Entries} (copy : entries.Copy others) (key : String) :
    Option.Rel Value.Copy (entries.get? key) (others.get? key) := by
  induction entries generalizing others with
  | nil =>
    cases copy with
    | nil => exact .none
  | cons entry rest ih =>
    cases copy with
    | cons name here behind =>
      simp only [Entries.get?]
      split
      next => exact .some here
      next => exact ih behind

namespace Value

variable {copy value : Value}

theorem Copy.step (copied : copy.Copy value) (step : Step) :
    Option.Rel Copy (copy.step? step) (value.step? step) := by
  cases copied with
  | same =>
    cases copy.step? step with
    | none => exact .none
    | some inner => exact .some (.same inner)
  | table origin other each =>
    cases step with
    | key name => exact each.get? name
    | index position => simp [step?, Value.items, place?_zero]

theorem Copy.follow (copied : copy.Copy value) (steps : List Step) :
    Option.Rel Copy (copy.follow steps) (value.follow steps) := by
  induction steps generalizing copy value with
  | nil => exact .some copied
  | cons step rest ih =>
    rw [follow_cons, follow_cons]
    have here := copied.step step
    generalize copy.step? step = found, value.step? step = original at here ⊢
    cases here with
    | none => exact .none
    | some inner => exact ih inner

theorem follow_append (value : Value) (steps rest : List Step) :
    value.follow (steps ++ rest) = (value.follow steps).bind (follow · rest) := by
  simp [follow, List.foldlM_append]

/-! ## Laying a value over nothing -/

mutual

/-- A value that is laid over nothing is copied. -/
theorem copy_merge_nil (value : Value) (keyed : value.Keyed) : (value.merge nil).Copy value := by
  cases value with
  | table origin entries =>
    obtain ⟨nodup, each⟩ := keyed_table_iff.mp keyed
    obtain ⟨copies, laid, copied⟩ := exists_mergeEntries_eq entries [] nodup each
    rw [merge, show nil.asTable = table none [] from rfl, laid]
    exact .table none origin copied
  | scalar | array => simpa [merge] using Copy.same _

/-- Entries under new keys are appended as copies. -/
theorem exists_mergeEntries_eq (entries : List (String × Value)) (before : Entries)
    (nodup : ((before ++ entries).map Prod.fst).Nodup)
    (each : ∀ entry, entry ∈ entries → entry.2.Keyed) :
    ∃ copies, mergeEntries entries (.table none before) = .table none (before ++ copies) ∧
      Entries.Copy copies entries := by
  cases entries with
  | nil => exact ⟨[], by rw [mergeEntries, List.append_nil], .nil⟩
  | cons entry rest =>
    obtain ⟨key, value⟩ := entry
    rw [List.forall_mem_cons] at each
    have fresh : key ∉ before.map Prod.fst := by
      rw [List.map_append, List.nodup_append'] at nodup
      exact fun member => nodup.2.2 member List.mem_cons_self
    have appended : (before ++ (key, value.merge nil) :: rest).map Prod.fst =
        ((before ++ [(key, value.merge nil)]) ++ rest).map Prod.fst := by simp
    obtain ⟨copies, laid, copied⟩ :=
      exists_mergeEntries_eq rest (before ++ [(key, value.merge nil)]) (by simpa using nodup) each.2
    refine ⟨(key, value.merge nil) :: copies, ?_, .cons key (copy_merge_nil value each.1) copied⟩
    rw [mergeEntries, change_key]
    change mergeEntries rest (table none (before.change key _)) = _
    rw [Entries.change_of_notMem fresh, laid, List.append_assoc, List.singleton_append]

end

end Value

/-! ## Parts -/

theorem root_setAll_roots (config : Config) (entries : Entries) :
    (config.setAll (entries.map fun entry => (⟨entry.1, []⟩, entry.2))).root =
      Value.mergeEntries entries config.root := by
  induction entries generalizing config with
  | nil => rw [Value.mergeEntries]; rfl
  | cons entry rest ih =>
    rw [List.map_cons, setAll_cons, ih, Value.mergeEntries]
    rfl

/-- What is made of a table with identifiers as its keys is a copy of it. -/
theorem exists_ofEntries_copy {origin : Option Origin} {entries : Entries}
    (keyed : (Value.table origin entries).Keyed)
    (identifiers : ∀ key, key ∈ entries.map Prod.fst → IsIdentifier key) :
    ∃ part, ofEntries entries = .ok part ∧ part.root.Copy (.table origin entries) := by
  obtain ⟨nodup, each⟩ := Value.keyed_table_iff.mp keyed
  obtain ⟨copies, laid, copied⟩ := Value.exists_mergeEntries_eq entries [] nodup each
  refine ⟨_, ofEntries_eq_of_identifiers identifiers nodup, ?_⟩
  rw [root_setAll_roots, laid]
  exact .table none origin copied

theorem toOption_mapError {ε δ α : Type} (answer : Except ε α) (f : ε → δ) :
    (answer.mapError f).toOption = answer.toOption := by
  cases answer <;> rfl

theorem get_of_path {α : Type} {config : Config} {key : String} {path : Path}
    (denoted : Path.ofText? key = some path) (convert : Value → Except Mismatch α) :
    (config.get convert key).toOption =
      (config.value? path).bind fun value => (convert value).toOption := by
  unfold get
  rw [denoted]
  dsimp only
  cases config.value? path with
  | none => rfl
  | some value => exact toOption_mapError _ _

theorem getTable_eq_ok_iff {config : Config} {key : String} {entries : Entries} :
    config.getTable key = .ok entries ↔
      ∃ path origin, Path.ofText? key = some path ∧
        config.value? path = some (.table origin entries) := by
  unfold getTable get
  cases Path.ofText? key with
  | none => simp
  | some path =>
    cases found : config.value? path with
    | none => simp [found]
    | some value => cases value <;> simp [found, Value.toTable, Except.mapError]

/-- What is found in a configuration behind the path of a copied table is found in the copy. -/
theorem copy_value? {config part : Config} {path : Path} {table : Value}
    (found : config.value? path = some table) (copied : part.root.Copy table) (next : Path) :
    Option.Rel Value.Copy (part.value? next) (config.value? (path.onward next)) := by
  have inner : config.value? (path.onward next) =
      table.follow (.key next.root :: next.steps) := by
    rw [value?, Path.onward, ← List.cons_append, Value.follow_append]
    rw [value?] at found
    rw [found, Option.bind_some]
  rw [inner]
  exact copied.follow _

/-! ## Queries -/

/-- A configuration answers at a key as another one does at another key: both fail, or both give
the same value. A table may be a copy. -/
structure AnswersAs (part : Config) (key : String) (whole : Config) (place : String) : Prop where
  integer : (part.getInteger key).toOption = (whole.getInteger place).toOption
  boolean : (part.getBoolean key).toOption = (whole.getBoolean place).toOption
  text : (part.getText key).toOption = (whole.getText place).toOption
  table : Option.Rel Entries.Copy (part.getTable key).toOption (whole.getTable place).toOption
  array : (part.getArray key).toOption = (whole.getArray place).toOption

/-- What cannot be converted if it is a table is converted from a copy as from the original. -/
theorem Value.Copy.convert_eq {α : Type} {convert : Value → Except Mismatch α}
    (tables : ∀ origin entries, (convert (.table origin entries)).toOption = none)
    {copy value : Value} (copied : copy.Copy value) :
    (convert copy).toOption = (convert value).toOption := by
  cases copied with
  | same => rfl
  | table origin other => rw [tables, tables]

theorem Value.Copy.toTable {copy value : Value} (copied : copy.Copy value) :
    Option.Rel Entries.Copy copy.toTable.toOption value.toTable.toOption := by
  cases copied with
  | same =>
    cases copy with
    | scalar | array => exact .none
    | table origin entries => exact .some (.refl entries)
  | table origin other each => exact .some each

theorem answersAs_of_copy {config part : Config} {key place : String} {next there : Path}
    (denoted : Path.ofText? key = some next) (denotedThere : Path.ofText? place = some there)
    (copied : Option.Rel Value.Copy (part.value? next) (config.value? there)) :
    part.AnswersAs key config place := by
  have same : ∀ {α : Type} (convert : Value → Except Mismatch α),
      (∀ origin entries, (convert (.table origin entries)).toOption = none) →
        (part.get convert key).toOption = (config.get convert place).toOption := by
    intro α convert tables
    rw [get_of_path denoted, get_of_path denotedThere]
    generalize part.value? next = copy?, config.value? there = value? at copied ⊢
    cases copied with
    | none => rfl
    | some inner => exact inner.convert_eq tables
  refine ⟨same _ fun _ _ => rfl, same _ fun _ _ => rfl, same _ fun _ _ => rfl, ?_,
    same _ fun _ _ => rfl⟩
  rw [getTable, getTable, get_of_path denoted, get_of_path denotedThere]
  generalize part.value? next = copy?, config.value? there = value? at copied ⊢
  cases copied with
  | none => exact .none
  | some inner => exact inner.toTable

/-- An empty configuration answers no query. -/
theorem get_empty_toOption {α : Type} (convert : Value → Except Mismatch α) (key : String) :
    (({} : Config).get convert key).toOption = none := by
  unfold get
  cases Path.ofText? key with
  | none => rfl
  | some path => rfl

theorem part_eq_of_getTable_error {config : Config} {path : String} {error : Error}
    (failed : config.getTable path = .error error) : config.part path = {} := by
  simp only [part, part?, failed]

/-- The part at a path answers every query as the whole configuration does behind that path, if the
table there has identifiers as its keys. Where there is no table, it answers none. That no table
repeats a key is so for every configuration from sources (`keyed_ofSources`). -/
theorem part_answers {config : Config} (keyed : config.root.Keyed) (path : String) :
    (∀ entries, config.getTable path = .ok entries →
      (∀ key, key ∈ entries.map Prod.fst → IsIdentifier key) →
      ∀ key, (Path.ofText? key).isSome →
        (config.part path).AnswersAs key config (path ++ "." ++ key)) ∧
    (∀ error, config.getTable path = .error error →
      ∀ {α : Type} (convert : Value → Except Mismatch α) (key : String),
        ((config.part path).get convert key).toOption = none) := by
  constructor
  · intro entries table identifiers key valid
    obtain ⟨next, denotedKey⟩ := Option.isSome_iff_exists.mp valid
    obtain ⟨place, origin, denoted, found⟩ := getTable_eq_ok_iff.mp table
    obtain ⟨part, taken, copied⟩ := exists_ofEntries_copy (keyed.follow found) identifiers
    have part_eq : config.part path = part := by
      simp only [Config.part, Config.part?, table, taken]
    rw [part_eq]
    exact answersAs_of_copy denotedKey (Path.ofText?_join denoted denotedKey)
      (copy_value? found copied next)
  · intro error failed α convert key
    rw [part_eq_of_getTable_error failed]
    exact get_empty_toOption convert key

def siteVariables : List (String × String) :=
  [("GATEWAY_SITE[1].LIMITS.TAGS[0].X", "7"), ("PATH", "/bin"),
    ("Gateway_Site[-1].limits.hops", "3")]

def siteConfig : Config :=
  ⟨.table none [("site", .array none [.nil, .table none [
    ("limits", .table none [
      ("tags", .array none [.table none [("x", .scalar (some .environment) (.text "7"))]]),
      ("hops", .scalar (some .environment) (.text "3"))])]])]⟩

theorem ofSources_siteVariables :
    ofSources [.environment siteVariables] = .ok siteConfig := by
  have read : (Source.environment siteVariables).entries =
      .ok [("site[1].limits.tags[0].x", .scalar (some .environment) (.text "7")),
        ("site[-1].limits.hops", .scalar (some .environment) (.text "3"))] := rfl
  have laid : ({} : Config).addEntries
      [("site[1].limits.tags[0].x", .scalar (some .environment) (.text "7")),
        ("site[-1].limits.hops", .scalar (some .environment) (.text "3"))] = siteConfig := by
    cbv
  simp [ofSources, read, laid, bind, Except.bind, pure, Except.pure]

theorem part_answers_site :
    siteConfig.root.Keyed ∧
      (∃ entries, siteConfig.getTable "site[-1]" = .ok entries ∧
        ∀ key, key ∈ entries.map Prod.fst → IsIdentifier key) ∧
      (siteConfig.part "site[-1]").AnswersAs "limits.tags[ -1 ].x" siteConfig
        "site[-1].limits.tags[ -1 ].x" ∧
      siteConfig.getInteger "site[-1].limits.tags[ -1 ].x" = .ok 7 ∧
      siteConfig.getTable "site[0]" =
        .error (.wrongKind ⟨.scalar .nil, .table, some "site[0]", none⟩) ∧
      ((siteConfig.part "site[0]").getTable "limits").toOption = none := by
  have keyed := keyed_ofSources ofSources_siteVariables
  have table : (siteConfig.getTable "site[-1]").map (List.map Prod.fst) = .ok ["limits"] := by cbv
  have missing : siteConfig.getTable "site[0]" =
      .error (.wrongKind ⟨.scalar .nil, .table, some "site[0]", none⟩) := by cbv
  have valid : (Path.ofText? "limits.tags[ -1 ].x").isSome := by cbv
  cases found : siteConfig.getTable "site[-1]" with
  | error cause =>
    rw [found] at table
    cases table
  | ok entries =>
    rw [found] at table
    have keys : entries.map Prod.fst = ["limits"] := Except.ok.inj table
    have identifiers : ∀ key, key ∈ entries.map Prod.fst → IsIdentifier key := by
      rw [keys]
      decide
    refine ⟨keyed, ⟨entries, rfl, identifiers⟩, ?_, by cbv, missing, ?_⟩
    · exact (part_answers keyed "site[-1]").1 entries found identifiers _ valid
    · exact (part_answers keyed "site[0]").2 _ missing Value.toTable "limits"

end GatewaySim.Config
