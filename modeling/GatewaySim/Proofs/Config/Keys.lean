import GatewaySim.Proofs.Config.Alike
import Mathlib.Data.List.Nodup

/-! # Tables in which no key occurs twice

A table is a map, so none of its keys may occur twice, however deep in a value the table is
(`Value.Keyed`). What is looked up in such a value is one again (`Value.Keyed.follow`), and laying
values over each other and setting them at paths keeps the property (`Config.keyed_set`).
-/

namespace GatewaySim.Config

/-- A value in whose tables no key occurs twice. -/
inductive Value.Keyed : Value → Prop where
  | scalar (origin : Option Origin) (content : Scalar) : Keyed (.scalar origin content)
  | array (origin : Option Origin) {items : List Value}
      (each : ∀ item, item ∈ items → Keyed item) : Keyed (.array origin items)
  | table (origin : Option Origin) {entries : Entries} (nodup : (entries.map Prod.fst).Nodup)
      (each : ∀ entry, entry ∈ entries → Keyed entry.2) : Keyed (.table origin entries)

namespace Entries

variable {entries : Entries} {key : String} {f : Value → Value}

theorem keys_change (entries : Entries) (key : String) (f : Value → Value) :
    (entries.change key f).map Prod.fst =
      if key ∈ entries.map Prod.fst then entries.map Prod.fst
      else entries.map Prod.fst ++ [key] := by
  induction entries with
  | nil => rfl
  | cons entry rest ih =>
    obtain ⟨name, value⟩ := entry
    by_cases here : name = key
    · simp [change, here]
    · rw [change, if_neg here, List.map_cons, List.map_cons, ih]
      have there : key ∈ name :: rest.map Prod.fst ↔ key ∈ rest.map Prod.fst := by
        rw [List.mem_cons, or_iff_right (Ne.symm here)]
      simp only [there]
      split <;> rfl

theorem change_of_notMem (fresh : key ∉ entries.map Prod.fst) :
    entries.change key f = entries ++ [(key, f .nil)] := by
  induction entries with
  | nil => rfl
  | cons entry rest ih =>
    rw [List.map_cons, List.mem_cons, not_or] at fresh
    rw [change, if_neg (Ne.symm fresh.1), ih fresh.2, List.cons_append]

theorem nodup_keys_change (nodup : (entries.map Prod.fst).Nodup) :
    ((entries.change key f).map Prod.fst).Nodup := by
  rw [keys_change]
  split
  next => exact nodup
  next fresh =>
    rw [← List.concat_eq_append]
    exact nodup.concat fresh

/-- A change leaves the other entries as they are. -/
theorem mem_change {entry : String × Value} (member : entry ∈ entries.change key f) :
    entry ∈ entries ∨ ∃ old, entry.2 = f old ∧ (old = .nil ∨ (key, old) ∈ entries) := by
  induction entries with
  | nil =>
    rw [change, List.mem_singleton] at member
    exact .inr ⟨.nil, by rw [member], .inl rfl⟩
  | cons first rest ih =>
    obtain ⟨name, value⟩ := first
    rw [change] at member
    split at member
    next here =>
      rcases List.mem_cons.mp member with rfl | behind
      · exact .inr ⟨value, rfl, .inr (here ▸ List.mem_cons_self)⟩
      · exact .inl (List.mem_cons_of_mem _ behind)
    next =>
      rcases List.mem_cons.mp member with rfl | behind
      · exact .inl List.mem_cons_self
      · rcases ih behind with kept | ⟨old, changed, source⟩
        · exact .inl (List.mem_cons_of_mem _ kept)
        · exact .inr ⟨old, changed, source.imp_right (List.mem_cons_of_mem _)⟩

theorem mem_of_get? {value : Value} (found : entries.get? key = some value) :
    (key, value) ∈ entries := by
  induction entries with
  | nil => cases found
  | cons entry rest ih =>
    obtain ⟨name, content⟩ := entry
    rw [get?] at found
    split at found
    next here =>
      cases found
      exact here ▸ List.mem_cons_self
    next => exact List.mem_cons_of_mem _ (ih found)

end Entries

namespace Value

variable {value under : Value} {origin : Option Origin} {entries : Entries} {items : List Value}
  {f : Value → Value}

theorem keyed_nil : nil.Keyed := .scalar none .nil

theorem keyed_table_iff :
    (table origin entries).Keyed ↔
      (entries.map Prod.fst).Nodup ∧ ∀ entry, entry ∈ entries → entry.2.Keyed := by
  constructor
  · rintro (_ | _ | ⟨_, nodup, each⟩)
    exact ⟨nodup, each⟩
  · rintro ⟨nodup, each⟩
    exact .table origin nodup each

theorem Keyed.nodup_keys (keyed : value.Keyed) : (value.entries.map Prod.fst).Nodup := by
  cases keyed with
  | scalar | array => exact List.nodup_nil
  | table _ nodup => exact nodup

theorem Keyed.entry (keyed : value.Keyed) {entry : String × Value}
    (member : entry ∈ value.entries) : entry.2.Keyed := by
  cases keyed with
  | scalar | array => cases member
  | table _ _ each => exact each entry member

theorem Keyed.item (keyed : value.Keyed) {item : Value} (member : item ∈ value.items) :
    item.Keyed := by
  cases keyed with
  | scalar | table => cases member
  | array _ each => exact each item member

/-! ## Looking up -/

theorem Keyed.step? (keyed : value.Keyed) {step : Step} {inner : Value}
    (found : value.step? step = some inner) : inner.Keyed := by
  cases step with
  | key name => exact keyed.entry (Entries.mem_of_get? found)
  | index position =>
    obtain ⟨place, _, there⟩ := Option.bind_eq_some_iff.mp found
    exact keyed.item (List.mem_of_getElem? there)

theorem Keyed.follow (keyed : value.Keyed) {steps : List Step} {inner : Value}
    (found : value.follow steps = some inner) : inner.Keyed := by
  induction steps generalizing value with
  | nil =>
    cases found
    exact keyed
  | cons step rest ih =>
    rw [follow_cons] at found
    obtain ⟨next, here, onward⟩ := Option.bind_eq_some_iff.mp found
    exact ih (keyed.step? here) onward

/-! ## Changing -/

theorem mem_changeItem {position : Int} {item : Value}
    (member : item ∈ changeItem items position f) :
    ∃ old, (item = old ∨ item = f old) ∧ (old = nil ∨ old ∈ items) := by
  have forward : ∀ (items : List Value) (position : Nat),
      item ∈ changeItem items position f →
        ∃ old, (item = old ∨ item = f old) ∧ (old = nil ∨ old ∈ items) := by
    intro items position member
    obtain ⟨place, there⟩ := List.mem_iff_getElem?.mp member
    have source : items[place]?.getD nil = nil ∨ items[place]?.getD nil ∈ items := by
      cases found : items[place]? with
      | none => exact .inl rfl
      | some old => exact .inr (List.mem_of_getElem? found)
    rw [getElem?_changeItem] at there
    refine ⟨_, ?_, source⟩
    grind
  cases position with
  | ofNat position => exact forward items position member
  | negSucc position =>
    rw [changeItem_negSucc, List.mem_reverse] at member
    simpa using forward items.reverse position member

theorem keyed_change (kept : ∀ old : Value, old.Keyed → (f old).Keyed)
    (keyed : value.Keyed) (steps : List Step) : (change f steps value).Keyed := by
  induction steps generalizing value with
  | nil => simpa [change] using kept value keyed
  | cons step rest ih =>
    rw [change_cons]
    cases step with
    | key name =>
      rw [change_key]
      refine .table _ (Entries.nodup_keys_change keyed.nodup_keys) fun entry member => ?_
      rcases Entries.mem_change member with kept | ⟨old, changed, source⟩
      · exact keyed.entry kept
      · rw [changed]
        rcases source with rfl | inside
        · exact ih keyed_nil
        · exact ih (keyed.entry inside)
    | index position =>
      rw [change_index]
      refine .array _ fun item member => ?_
      obtain ⟨old, became, source⟩ := mem_changeItem member
      have keyedOld : old.Keyed := by
        rcases source with rfl | inside
        · exact keyed_nil
        · exact keyed.item inside
      rcases became with rfl | rfl
      · exact keyedOld
      · exact ih keyedOld

theorem keyed_asTable (keyed : value.Keyed) : value.asTable.Keyed := by
  cases keyed with
  | scalar | array => exact .table none List.nodup_nil nofun
  | table origin nodup each => exact .table origin nodup each

mutual

theorem keyed_merge (value under : Value) (keyed : value.Keyed) (below : under.Keyed) :
    (value.merge under).Keyed := by
  cases value with
  | table origin entries =>
    rw [merge]
    exact keyed_mergeEntries entries _ (keyed_table_iff.mp keyed).2 (keyed_asTable below)
  | scalar | array => simpa [merge] using keyed

theorem keyed_mergeEntries (entries : List (String × Value)) (under : Value)
    (each : ∀ entry, entry ∈ entries → entry.2.Keyed) (below : under.Keyed) :
    (mergeEntries entries under).Keyed := by
  cases entries with
  | nil => simpa [mergeEntries] using below
  | cons entry rest =>
    obtain ⟨key, value⟩ := entry
    rw [List.forall_mem_cons] at each
    rw [mergeEntries]
    exact keyed_mergeEntries rest _ each.2
      (keyed_change (fun old => keyed_merge value old each.1) below [.key key])

end

end Value

/-! ## Configurations -/

theorem keyed_set {config : Config} {value : Value} (keyed : config.root.Keyed)
    (value_keyed : value.Keyed) (path : Path) : (config.set path value).root.Keyed :=
  Value.keyed_change (fun old below => Value.keyed_merge value old value_keyed below) keyed _

theorem keyed_empty : ({} : Config).root.Keyed := .table none List.nodup_nil nofun

end GatewaySim.Config
