import GatewaySim.Proofs.Config.Overrides
import GatewaySim.Proofs.Config.Sections
import GatewaySim.Simulation.Basic
import Mathlib

/-! # The hop limit in a section

A section is used as a whole or not at all: an integer in it is found, whatever the other entries
are, as long as all keys are paths; one key that is no path makes the section an empty one
(`part_keeps_integer`). So a simulation may run with the default hop limit though another one is
configured (`part_loses_integer`).
-/

namespace GatewaySim

namespace Bus

/-- An integer that is a hop limit is taken as it is. -/
theorem toNat_hopLimitOf {wanted : Int} (positive : 0 ≤ wanted) (small : wanted < UInt32.size) :
    ((hopLimitOf wanted).toNat : Int) = wanted := by
  have size : UInt32.size = 4294967296 := rfl
  rw [hopLimitOf, UInt32.toNat_ofNat']
  omega

theorem hopLimit_ofConfig_ok {part : Config} {wanted : Int}
    (given : part.getInteger "hop-limit" = .ok wanted) :
    (ofConfig part).hopLimit = hopLimitOf wanted := by
  simp only [ofConfig, given]

theorem hopLimit_ofConfig_error {part : Config} {cause : Config.Error}
    (failed : part.getInteger "hop-limit" = .error cause) :
    (ofConfig part).hopLimit = hopLimitOf defaultHopLimit := by
  simp only [ofConfig, failed]

end Bus

theorem Simulation.bus_create (config : Config) (isFolder : String → Bool) :
    (create config isFolder).observed.bus = Bus.ofConfig (config.part "bus") := rfl

namespace Config

variable {config : Config} {path : String} {entries : Entries}

/-- A section serves as a configuration exactly if all its keys are paths. -/
theorem part?_of_getTable (table : config.getTable path = .ok entries) :
    config.part? path =
      if entries.ArePaths then .ok (({} : Config).setAll (Overrides.noteAll [] entries))
      else .error .badPath := by
  simp only [part?, table, ofEntries_eq]

theorem part_eq_empty (table : config.getTable path = .ok entries) (spoiled : ¬ entries.ArePaths) :
    config.part path = {} := by
  simp only [part, part?_of_getTable table, if_neg spoiled]

theorem toInteger_of_fits {origin : Option Origin} {number : Int} (fits : Signed64.fits number) :
    (Value.scalar origin (.integer number)).toInteger = .ok number := by
  rw [Signed64.fits, Bool.and_eq_true, decide_eq_true_eq, decide_eq_true_eq] at fits
  rw [Value.toInteger, if_pos fits.2]

theorem getInteger_empty {key : String} (identifier : IsIdentifier key) :
    ({} : Config).getInteger key = .error (.missing key) := by
  simp only [getInteger, get, Path.ofText?_of_isIdentifier identifier]
  rfl

/-- An integer that stands alone in a section is found in the part that is made of it if all keys
of the section are paths; if not, nothing is found there. The hop limit of a simulation follows. -/
theorem part_keeps_integer (keyed : config.root.Keyed) (table : config.getTable path = .ok entries)
    {key : String} (identifier : IsIdentifier key) {origin : Option Origin} {number : Int}
    (member : (key, Value.scalar origin (.integer number)) ∈ entries)
    (fits : Signed64.fits number) (alone : entries.Alone key) :
    (config.part path).getInteger key =
        (if entries.ArePaths then .ok number else .error (.missing key)) ∧
      (¬ entries.ArePaths → config.part path = {}) ∧
      (path = "bus" → key = "hop-limit" → 0 ≤ number → number < UInt32.size →
        ∀ isFolder, ((Simulation.create config isFolder).observed.bus.hopLimit.toNat : Int) =
          if entries.ArePaths then number else Bus.defaultHopLimit) := by
  have found : (config.part path).getInteger key =
      if entries.ArePaths then .ok number else .error (.missing key) := by
    by_cases paths : entries.ArePaths
    · obtain ⟨place, tableOrigin, denoted, there⟩ := getTable_eq_ok_iff.mp table
      have nodup := (Value.keyed_table_iff.mp (keyed.follow there)).1
      obtain ⟨part, taken, value⟩ :=
        value?_ofEntries nodup paths identifier member (fun _ => by simp [Value.merge]) alone
      have part_eq : config.part path = part := by
        simp only [Config.part, Config.part?, table, taken]
      rw [if_pos paths, part_eq, getInteger, get_of_value? identifier value, toInteger_of_fits fits]
      rfl
    · rw [if_neg paths, part_eq_empty table paths, getInteger_empty identifier]
  refine ⟨found, part_eq_empty table, ?_⟩
  rintro rfl rfl positive small isFolder
  rw [Simulation.bus_create]
  by_cases paths : entries.ArePaths
  · rw [if_pos paths] at found ⊢
    rw [Bus.hopLimit_ofConfig_ok found, Bus.toNat_hopLimitOf positive small]
  · rw [if_neg paths] at found ⊢
    rw [Bus.hopLimit_ofConfig_error found]
    exact Bus.toNat_hopLimitOf (by decide) (by decide)

/-- The entries of a section with a hop limit, and with a key that is a path of two steps. -/
def busEntries : Entries :=
  [("hop-limit", .scalar none (.integer 3)), ("queue.depth", .scalar none (.text "deep"))]

/-- The same entries beside one whose key is no path. -/
def spoiledEntries : Entries := busEntries ++ [("bad key", .scalar none (.boolean true))]

def configOfBus (entries : Entries) : Config := ⟨.table none [("bus", .table none entries)]⟩

theorem getTable_configOfBus (entries : Entries) :
    (configOfBus entries).getTable "bus" = .ok entries :=
  getTable_eq_ok_iff.mpr ⟨⟨"bus", []⟩, none, Path.ofText?_of_isIdentifier (by decide), rfl⟩

theorem ofText?_queue_depth : Path.ofText? "queue.depth" = some ⟨"queue", [.key "depth"]⟩ := by
  cbv

theorem ofText?_bad_key : Path.ofText? "bad key" = none := by
  cbv

theorem arePaths_busEntries : Entries.ArePaths busEntries := by
  simp [Entries.ArePaths, busEntries, ofText?_queue_depth,
    Path.ofText?_of_isIdentifier (show IsIdentifier "hop-limit" by decide)]

theorem not_arePaths_spoiledEntries : ¬ Entries.ArePaths spoiledEntries := by
  intro paths
  have bad := paths ("bad key", .scalar none (.boolean true)) (by simp [spoiledEntries])
  rw [ofText?_bad_key] at bad
  cases bad

theorem alone_spoiledEntries : Entries.Alone spoiledEntries "hop-limit" := by
  simp [Entries.Alone, spoiledEntries, busEntries, ofText?_queue_depth, ofText?_bad_key]

theorem alone_busEntries : Entries.Alone busEntries "hop-limit" :=
  fun entry member => alone_spoiledEntries entry (List.mem_append_left _ member)

theorem keyed_configOfBus {entries : Entries} (keyed : (Value.table none entries).Keyed) :
    (configOfBus entries).root.Keyed :=
  .table none (List.nodup_singleton _) fun _ member => List.mem_singleton.mp member ▸ keyed

theorem keyed_spoiledEntries : (Value.table none spoiledEntries).Keyed := by
  refine .table none (by decide) fun entry member => ?_
  simp only [spoiledEntries, busEntries, List.cons_append, List.nil_append, List.mem_cons,
    List.not_mem_nil, or_false] at member
  rcases member with rfl | rfl | rfl <;> exact .scalar ..

theorem keyed_busEntries : (Value.table none busEntries).Keyed :=
  .table none (by decide) fun _ member =>
    keyed_spoiledEntries.entry (List.mem_append_left _ member)

/-- The hop limit 3 is taken from the section, and lost beside a key that is no path. -/
theorem part_keeps_integer_bus :
    (("hop-limit", .scalar none (.integer 3)) ∈ busEntries ∧
      (configOfBus busEntries).root.Keyed ∧ Entries.Alone busEntries "hop-limit" ∧
      ((configOfBus busEntries).part "bus").getInteger "hop-limit" = .ok 3 ∧
      ∀ isFolder,
        (Simulation.create (configOfBus busEntries) isFolder).observed.bus.hopLimit = 3) ∧
    (("hop-limit", .scalar none (.integer 3)) ∈ spoiledEntries ∧
      (configOfBus spoiledEntries).root.Keyed ∧ Entries.Alone spoiledEntries "hop-limit" ∧
      (configOfBus spoiledEntries).part "bus" = {} ∧
      ∀ isFolder,
        (Simulation.create (configOfBus spoiledEntries) isFolder).observed.bus.hopLimit = 16) := by
  have member : ("hop-limit", .scalar none (.integer 3)) ∈ busEntries := List.mem_cons_self
  have memberSpoiled := List.mem_append_left [("bad key", Value.scalar none (.boolean true))] member
  have keyed := keyed_configOfBus keyed_busEntries
  have keyedSpoiled := keyed_configOfBus keyed_spoiledEntries
  obtain ⟨found, _, limit⟩ := part_keeps_integer keyed (getTable_configOfBus busEntries)
    (by decide) member (by decide) alone_busEntries
  obtain ⟨_, empty, limitSpoiled⟩ := part_keeps_integer keyedSpoiled
    (getTable_configOfBus spoiledEntries) (by decide) memberSpoiled (by decide)
    alone_spoiledEntries
  rw [if_pos arePaths_busEntries] at found limit
  rw [if_neg not_arePaths_spoiledEntries] at limitSpoiled
  have size : (3 : Int) < UInt32.size := by decide
  refine ⟨⟨member, keyed, alone_busEntries, found, fun isFolder => ?_⟩, memberSpoiled, keyedSpoiled,
    alone_spoiledEntries, empty not_arePaths_spoiledEntries, fun isFolder => ?_⟩
  · exact UInt32.toNat_inj.mp (Int.ofNat.inj (limit rfl rfl (by decide) size isFolder))
  · exact UInt32.toNat_inj.mp (Int.ofNat.inj (limitSpoiled rfl rfl (by decide) size isFolder))

/-- Not every integer that stands alone in a section is found in the part, nor is every hop limit
that stands there that of the bus. -/
theorem part_loses_integer :
    ¬ (∀ (config : Config) (path key : String) (entries : Entries) (origin : Option Origin)
        (number : Int), config.root.Keyed → config.getTable path = .ok entries →
      IsIdentifier key → (key, .scalar origin (.integer number)) ∈ entries →
      Signed64.fits number → entries.Alone key →
        (config.part path).getInteger key = .ok number) ∧
    ¬ (∀ (config : Config) (entries : Entries) (origin : Option Origin) (number : Int)
        (isFolder : String → Bool), config.root.Keyed → config.getTable "bus" = .ok entries →
      ("hop-limit", .scalar origin (.integer number)) ∈ entries →
      0 ≤ number → number < UInt32.size → entries.Alone "hop-limit" →
        ((Simulation.create config isFolder).observed.bus.hopLimit.toNat : Int) = number) := by
  have keyed := keyed_configOfBus keyed_spoiledEntries
  have table := getTable_configOfBus spoiledEntries
  have member : ("hop-limit", .scalar none (.integer 3)) ∈ spoiledEntries := List.mem_cons_self
  have empty := part_eq_empty table not_arePaths_spoiledEntries
  constructor
  · intro always
    have found := always _ _ _ _ none 3 keyed table (by decide) member (by decide)
      alone_spoiledEntries
    rw [empty, getInteger_empty (by decide)] at found
    cases found
  · intro always
    have limit := always _ _ none 3 (fun _ => false) keyed table member (by decide) (by decide)
      alone_spoiledEntries
    rw [Simulation.bus_create, empty,
      Bus.hopLimit_ofConfig_error (getInteger_empty (by decide))] at limit
    exact absurd limit (by decide)

end Config

end GatewaySim
