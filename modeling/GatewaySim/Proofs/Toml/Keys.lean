import GatewaySim.Toml.Reader
import GatewaySim.Proofs.Config.Keys

/-! # No key of a TOML table occurs twice

Tables under construction do not repeat keys, since a key is looked for before it is added
(`Nodes.keyed_alter?`). So every line that is added leaves them without repeated keys, and the table
that a whole text stands for has none either (`keyed_read`).
-/

namespace GatewaySim.Toml

open Config (Origin Value Entries)

/-- What a key stands for, with no key repeated in a table or a value. -/
inductive Node.Keyed : Node → Prop where
  | value {value : Value} (keyed : value.Keyed) : Keyed (.value value)
  | table (form : Form) {entries : Nodes} (nodup : (entries.map Prod.fst).Nodup)
      (each : ∀ entry, entry ∈ entries → Keyed entry.2) : Keyed (.table form entries)
  | tables {items : List Nodes} (nodup : ∀ item, item ∈ items → (item.map Prod.fst).Nodup)
      (each : ∀ item, item ∈ items → ∀ entry, entry ∈ item → Keyed entry.2) :
      Keyed (.tables items)

structure Nodes.Keyed (nodes : Nodes) : Prop where
  nodup : (nodes.map Prod.fst).Nodup
  each : ∀ entry, entry ∈ nodes → entry.2.Keyed

theorem Node.keyed_table_iff {form : Form} {entries : Nodes} :
    (Node.table form entries).Keyed ↔ entries.Keyed := by
  constructor
  · rintro (_ | ⟨_, nodup, each⟩)
    exact ⟨nodup, each⟩
  · rintro ⟨nodup, each⟩
    exact .table form nodup each

theorem Node.keyed_tables_iff {items : List Nodes} :
    (Node.tables items).Keyed ↔ ∀ item, item ∈ items → Nodes.Keyed item := by
  constructor
  · rintro (_ | _ | ⟨nodup, each⟩)
    exact fun item member => ⟨nodup item member, each item member⟩
  · intro keyed
    exact .tables (fun item member => (keyed item member).nodup)
      fun item member => (keyed item member).each

namespace Nodes

variable {nodes changed : Nodes} {key : String} {f : Option Node → Option Node}

theorem keyed_nil : Keyed [] := ⟨List.nodup_nil, by simp⟩

theorem keyed_cons_iff {node : Node} :
    Keyed ((key, node) :: nodes) ↔
      key ∉ nodes.map Prod.fst ∧ node.Keyed ∧ nodes.Keyed := by
  constructor
  · rintro ⟨nodup, each⟩
    rw [List.map_cons, List.nodup_cons] at nodup
    rw [List.forall_mem_cons] at each
    exact ⟨nodup.1, each.1, nodup.2, each.2⟩
  · rintro ⟨fresh, node, nodup, each⟩
    exact ⟨List.nodup_cons.mpr ⟨fresh, nodup⟩, List.forall_mem_cons.mpr ⟨node, each⟩⟩

theorem mem_keys_alter? (altered : nodes.alter? f key = some changed) {name : String}
    (member : name ∈ changed.map Prod.fst) : name = key ∨ name ∈ nodes.map Prod.fst := by
  induction nodes generalizing changed with
  | nil =>
    obtain ⟨node, _, rfl⟩ := Option.map_eq_some_iff.mp altered
    exact .inl (by simpa using member)
  | cons entry rest ih =>
    obtain ⟨other, node⟩ := entry
    rw [alter?] at altered
    split at altered
    next =>
      obtain ⟨node, _, rfl⟩ := Option.map_eq_some_iff.mp altered
      exact .inr member
    next =>
      obtain ⟨behind, found, rfl⟩ := Option.map_eq_some_iff.mp altered
      rcases List.mem_cons.mp member with rfl | there
      · exact .inr List.mem_cons_self
      · exact (ih found there).imp_right (List.mem_cons_of_mem _)

theorem keyed_alter? (keyed : nodes.Keyed)
    (kept : ∀ node? node, (∀ old, node? = some old → old.Keyed) →
      f node? = some node → node.Keyed)
    (altered : nodes.alter? f key = some changed) : changed.Keyed := by
  induction nodes generalizing changed with
  | nil =>
    obtain ⟨node, found, rfl⟩ := Option.map_eq_some_iff.mp altered
    exact keyed_cons_iff.mpr ⟨by simp, kept none node nofun found, keyed_nil⟩
  | cons entry rest ih =>
    obtain ⟨other, node⟩ := entry
    obtain ⟨fresh, here, behind⟩ := keyed_cons_iff.mp keyed
    rw [alter?] at altered
    split at altered
    next =>
      obtain ⟨result, found, rfl⟩ := Option.map_eq_some_iff.mp altered
      have became := kept (some node) result (fun old same => Option.some.inj same ▸ here) found
      exact keyed_cons_iff.mpr ⟨fresh, became, behind⟩
    next apart =>
      obtain ⟨after, found, rfl⟩ := Option.map_eq_some_iff.mp altered
      refine keyed_cons_iff.mpr ⟨fun member => ?_, here, ih behind found⟩
      exact (mem_keys_alter? found member).elim apart fresh

/-- A table that is opened is one of its own, or the last one of an array. -/
theorem keyed_within? {g : Nodes → Option Nodes}
    (kept : ∀ before after : Nodes, before.Keyed → g before = some after → after.Keyed)
    (path : List String) (keyed : nodes.Keyed) (altered : within? g path nodes = some changed) :
    changed.Keyed := by
  induction path generalizing nodes changed with
  | nil => exact kept nodes changed keyed altered
  | cons key path ih =>
    rw [within?] at altered
    refine keyed_alter? keyed (fun node? node old became => ?_) altered
    split at became
    next =>
      obtain ⟨inner, found, rfl⟩ := Option.map_eq_some_iff.mp became
      exact Node.keyed_table_iff.mpr (ih keyed_nil found)
    next =>
      obtain ⟨inner, found, rfl⟩ := Option.map_eq_some_iff.mp became
      exact Node.keyed_table_iff.mpr (ih (Node.keyed_table_iff.mp (old _ rfl)) found)
    next last before =>
      obtain ⟨inner, found, rfl⟩ := Option.map_eq_some_iff.mp became
      have items := List.forall_mem_cons.mp (Node.keyed_tables_iff.mp (old _ rfl))
      exact Node.keyed_tables_iff.mpr (List.forall_mem_cons.mpr ⟨ih items.1 found, items.2⟩)
    next => cases became

theorem keyed_addTable? {key : DottedKey} (keyed : nodes.Keyed)
    (added : nodes.addTable? key = some changed) : changed.Keyed := by
  refine keyed_within? (fun before after keyed altered => ?_) key.path keyed added
  refine keyed_alter? keyed (fun node? node old became => ?_) altered
  split at became
  next =>
    cases became
    exact Node.keyed_table_iff.mpr keyed_nil
  next =>
    cases became
    exact Node.keyed_table_iff.mpr (Node.keyed_table_iff.mp (old _ rfl))
  next => cases became

theorem keyed_addItem? {key : DottedKey} (keyed : nodes.Keyed)
    (added : nodes.addItem? key = some changed) : changed.Keyed := by
  refine keyed_within? (fun before after keyed altered => ?_) key.path keyed added
  refine keyed_alter? keyed (fun node? node old became => ?_) altered
  split at became
  next =>
    cases became
    exact Node.keyed_tables_iff.mpr (by simp [keyed_nil])
  next =>
    cases became
    exact Node.keyed_tables_iff.mpr
      (List.forall_mem_cons.mpr ⟨keyed_nil, Node.keyed_tables_iff.mp (old _ rfl)⟩)
  next => cases became

theorem keyed_putAt? {value : Value} {name : String} (keyed_value : value.Keyed)
    (path : List String) (keyed : nodes.Keyed)
    (added : putAt? value name path nodes = some changed) : changed.Keyed := by
  induction path generalizing nodes changed with
  | nil =>
    refine keyed_alter? keyed (fun node? node old became => ?_) added
    split at became
    next =>
      cases became
      exact .value keyed_value
    next => cases became
  | cons key path ih =>
    rw [putAt?] at added
    refine keyed_alter? keyed (fun node? node old became => ?_) added
    split at became
    next =>
      obtain ⟨inner, found, rfl⟩ := Option.map_eq_some_iff.mp became
      exact Node.keyed_table_iff.mpr (ih keyed_nil found)
    next =>
      obtain ⟨inner, found, rfl⟩ := Option.map_eq_some_iff.mp became
      exact Node.keyed_table_iff.mpr (ih (Node.keyed_table_iff.mp (old _ rfl)) found)
    next =>
      obtain ⟨inner, found, rfl⟩ := Option.map_eq_some_iff.mp became
      exact Node.keyed_table_iff.mpr (ih (Node.keyed_table_iff.mp (old _ rfl)) found)
    next last before =>
      split at became
      next => cases became
      next =>
        obtain ⟨inner, found, rfl⟩ := Option.map_eq_some_iff.mp became
        have items := List.forall_mem_cons.mp (Node.keyed_tables_iff.mp (old _ rfl))
        exact Node.keyed_tables_iff.mpr (List.forall_mem_cons.mpr ⟨ih items.1 found, items.2⟩)
    next => cases became

end Nodes

theorem keys_finishEntries (origin : Option Origin) (nodes : Nodes) :
    (finishEntries origin nodes).map Prod.fst = nodes.map Prod.fst := by
  induction nodes with
  | nil => rfl
  | cons entry rest ih => rw [finishEntries, List.map_cons, List.map_cons, ih]

mutual

theorem Node.keyed_finish (origin : Option Origin) (node : Node) (keyed : node.Keyed) :
    (node.finish origin).Keyed := by
  cases node with
  | value value =>
    cases keyed with
    | value keyed => exact keyed
  | table form entries =>
    obtain ⟨nodup, each⟩ := Node.keyed_table_iff.mp keyed
    exact .table origin (by rwa [keys_finishEntries]) (keyed_finishEntries origin entries each)
  | tables items =>
    refine .array origin fun item member => ?_
    exact keyed_finishItems origin items (Node.keyed_tables_iff.mp keyed) item
      (List.mem_reverse.mp member)

theorem keyed_finishEntries (origin : Option Origin) (entries : List (String × Node))
    (each : ∀ entry, entry ∈ entries → entry.2.Keyed) :
    ∀ entry, entry ∈ finishEntries origin entries → entry.2.Keyed := by
  cases entries with
  | nil => simp [finishEntries]
  | cons entry rest =>
    obtain ⟨key, node⟩ := entry
    rw [List.forall_mem_cons] at each
    rw [finishEntries, List.forall_mem_cons]
    exact ⟨Node.keyed_finish origin node each.1, keyed_finishEntries origin rest each.2⟩

theorem keyed_finishItems (origin : Option Origin) (items : List (List (String × Node)))
    (each : ∀ item, item ∈ items → Nodes.Keyed item) :
    ∀ item, item ∈ finishItems origin items → item.Keyed := by
  cases items with
  | nil => simp [finishItems]
  | cons entries rest =>
    rw [List.forall_mem_cons] at each
    rw [finishItems, List.forall_mem_cons]
    refine ⟨.table origin (by rw [keys_finishEntries]; exact each.1.nodup) ?_,
      keyed_finishItems origin rest each.2⟩
    exact keyed_finishEntries origin entries each.1.each

end

/-! ## Reading -/

def KeyedReader (reader : Reader Value) : Prop :=
  ∀ text value rest, reader text = some (value, rest) → value.Keyed

variable {readItem : Reader Value} {text : List Char} {origin : Option Origin}

theorem KeyedReader.readBelow (keyed : KeyedReader readItem) :
    KeyedReader (readBelow readItem) := by
  intro text value rest read
  obtain ⟨⟨item, behind⟩, found, same⟩ := Option.map_eq_some_iff.mp read
  cases same
  exact keyed _ _ _ found

theorem keyed_readItems (keyed : KeyedReader readItem) {before items : List Value}
    {rest : Rest text} (each : ∀ item, item ∈ before → item.Keyed)
    (read : readItems readItem before text = some (items, rest)) :
    ∀ item, item ∈ items → item.Keyed := by
  fun_induction readItems readItem before text with
  | case1 =>
    cases read
    simpa using each
  | case2 before text _ ih =>
    obtain ⟨⟨item, behind⟩, found, read⟩ := Option.bind_eq_some_iff.mp read
    have longer := List.forall_mem_cons.mpr ⟨keyed.readBelow _ _ _ found, each⟩
    dsimp only at read
    split at read
    next comma _ =>
      obtain ⟨⟨others, last⟩, onward, read⟩ := Option.bind_eq_some_iff.mp read
      cases read
      exact ih item behind comma longer onward
    next =>
      obtain ⟨close, _, read⟩ := Option.bind_eq_some_iff.mp read
      cases read
      exact fun item member => longer item (List.mem_reverse.mp member)

theorem keyed_readInlineEntry (keyed : KeyedReader readItem) {key : DottedKey} {value : Value}
    {rest : Rest text} (read : readInlineEntry readItem text = some ((key, value), rest)) :
    value.Keyed := by
  obtain ⟨⟨name, behind⟩, _, read⟩ := Option.bind_eq_some_iff.mp read
  obtain ⟨start, _, read⟩ := Option.bind_eq_some_iff.mp read
  obtain ⟨⟨item, last⟩, found, read⟩ := Option.bind_eq_some_iff.mp read
  cases read
  exact keyed.readBelow _ _ _ found

theorem keyed_readEntry (keyed : KeyedReader readItem) {key : DottedKey} {value : Value}
    {rest : Rest text} (read : readEntry readItem text = some ((key, value), rest)) :
    value.Keyed := by
  obtain ⟨⟨name, behind⟩, _, read⟩ := Option.bind_eq_some_iff.mp read
  obtain ⟨start, _, read⟩ := Option.bind_eq_some_iff.mp read
  obtain ⟨⟨item, last⟩, found, read⟩ := Option.bind_eq_some_iff.mp read
  cases read
  exact keyed _ _ _ found

theorem keyed_readInline (keyed : KeyedReader readItem) {before nodes : Nodes}
    {rest : Rest text} (table : before.Keyed)
    (read : readInline readItem before text = some (nodes, rest)) : nodes.Keyed := by
  fun_induction readInline readItem before text with
  | case1 =>
    cases read
    exact table
  | case2 before text _ ih =>
    obtain ⟨⟨⟨key, value⟩, behind⟩, found, read⟩ := Option.bind_eq_some_iff.mp read
    obtain ⟨⟨⟨key', value'⟩, start⟩, entry, same⟩ := Option.map_eq_some_iff.mp found
    cases same
    obtain ⟨longer, added, read⟩ := Option.bind_eq_some_iff.mp read
    have grown := Nodes.keyed_putAt? (keyed_readInlineEntry keyed entry) key.path table added
    dsimp only at read
    split at read
    next comma _ =>
      obtain ⟨⟨others, last⟩, onward, read⟩ := Option.bind_eq_some_iff.mp read
      cases read
      exact ih _ longer comma grown onward
    next =>
      obtain ⟨close, _, read⟩ := Option.bind_eq_some_iff.mp read
      cases read
      exact grown

theorem keyed_readWord {value : Value} {rest : Rest text}
    (read : readWord origin text = some (value, rest)) : value.Keyed := by
  cases text with
  | nil => cases read
  | cons c text =>
    rw [readWord] at read
    split at read
    next =>
      obtain ⟨content, _, same⟩ := Option.map_eq_some_iff.mp read
      cases same
      exact .scalar origin content
    next => cases read

theorem keyed_readUnquoted {value : Value} {rest : Rest text}
    (read : readUnquoted origin text = some (value, rest)) : value.Keyed := by
  unfold readUnquoted at read
  split at read
  next =>
    cases read
    exact .scalar ..
  next => exact keyed_readWord read

theorem keyed_readValue (origin : Option Origin) (depth : Nat) :
    KeyedReader (readValue origin depth) := by
  induction depth with
  | zero =>
    intro text value rest read
    rw [readValue] at read
    split at read
    next => cases read
    next => cases read
    next =>
      split at read
      next =>
        cases read
        exact .scalar ..
      next => exact keyed_readUnquoted read
  | succ depth ih =>
    intro text value rest read
    rw [readValue] at read
    split at read
    next =>
      obtain ⟨⟨items, behind⟩, found, same⟩ := Option.map_eq_some_iff.mp read
      cases same
      exact .array origin (keyed_readItems ih (by simp) found)
    next =>
      obtain ⟨⟨nodes, behind⟩, found, same⟩ := Option.map_eq_some_iff.mp read
      cases same
      exact Node.keyed_finish origin (.table .header nodes)
        (Node.keyed_table_iff.mpr (keyed_readInline ih Nodes.keyed_nil found))
    next =>
      split at read
      next =>
        cases read
        exact .scalar ..
      next => exact keyed_readUnquoted read

def Line.Keyed : Line → Prop
  | .entry _ value => value.Keyed
  | .table _ | .item _ => True

theorem keyed_readContents {line : Line} {rest : Rest text}
    (read : readContents origin text = some (line, rest)) : line.Keyed := by
  unfold readContents at read
  split at read
  next =>
    obtain ⟨⟨⟨key, value⟩, behind⟩, found, same⟩ := Option.map_eq_some_iff.mp read
    cases same
    exact keyed_readEntry (keyed_readValue origin greatestDepth) found
  next =>
    split at read
    next =>
      obtain ⟨⟨key, behind⟩, _, same⟩ := Option.map_eq_some_iff.mp read
      cases same
      trivial
    next =>
      obtain ⟨⟨key, behind⟩, _, read⟩ := Option.bind_eq_some_iff.mp read
      obtain ⟨last, _, read⟩ := Option.bind_eq_some_iff.mp read
      cases read
      trivial

theorem keyed_add? {draft after : Draft} {line : Line} (keyed : draft.nodes.Keyed)
    (line_keyed : line.Keyed) (added : draft.add? line = some after) : after.nodes.Keyed := by
  cases line with
  | table key =>
    obtain ⟨nodes, found, rfl⟩ := Option.map_eq_some_iff.mp added
    exact Nodes.keyed_addTable? keyed found
  | item key =>
    obtain ⟨nodes, found, rfl⟩ := Option.map_eq_some_iff.mp added
    exact Nodes.keyed_addItem? keyed found
  | entry key value =>
    obtain ⟨nodes, found, rfl⟩ := Option.map_eq_some_iff.mp added
    exact Nodes.keyed_within?
      (fun before after keyed put => Nodes.keyed_putAt? line_keyed key.path keyed put)
      draft.current keyed found

theorem keyed_readLines {draft after : Draft} (keyed : draft.nodes.Keyed)
    (read : readLines origin draft text = some after) : after.nodes.Keyed := by
  fun_induction readLines origin draft text with
  | case1 =>
    cases read
    exact keyed
  | case2 draft text _ ih =>
    obtain ⟨⟨line, rest⟩, contents, read⟩ := Option.bind_eq_some_iff.mp read
    obtain ⟨behind, _, read⟩ := Option.bind_eq_some_iff.mp read
    obtain ⟨longer, added, read⟩ := Option.bind_eq_some_iff.mp read
    exact ih rest behind longer (keyed_add? keyed (keyed_readContents contents) added) read

/-- No key of a TOML text is repeated in the table that it stands for. -/
theorem keyed_read {text : String} {entries : Entries}
    (read : Toml.read origin text = some entries) :
    (Value.table origin entries).Keyed := by
  obtain ⟨draft, found, rfl⟩ := Option.map_eq_some_iff.mp read
  have keyed : draft.nodes.Keyed := keyed_readLines Nodes.keyed_nil found
  exact Node.keyed_finish origin (.table .header draft.nodes) (Node.keyed_table_iff.mpr keyed)

end GatewaySim.Toml
