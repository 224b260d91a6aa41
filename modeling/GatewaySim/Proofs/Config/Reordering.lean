import GatewaySim.Proofs.Config.Parts
import GatewaySim.Proofs.Config.Writes
import Mathlib

/-! # The order of the entries of a part

Two entries of a table may write to one place of the configuration that is made of it, and then the
one that is set last wins (`ofEntries_order_matters`). The order does not matter where entries are
pairwise independent: they are at different paths, and their writes can change places
(`ofEntries_reordered`). Entries under different roots always are, so the order of a table with
plain identifiers as its keys never matters (`independent_of_identifiers`).
-/

namespace GatewaySim.Config

def Path.walk (path : Path) : List Step := .key path.root :: path.steps

def entryWrites (entry : String × Value) : List Write :=
  entry.2.writes.map fun write => write.within (Path.ofKey entry.1).walk

/-- Entries at different paths whose writes can change places. -/
structure Independent (first second : String × Value) : Prop where
  paths : Path.ofKey first.1 ≠ Path.ofKey second.1
  writes : ∀ write, write ∈ entryWrites first → ∀ other, other ∈ entryWrites second →
    write.Compatible other

theorem Independent.symm {first second : String × Value} (independent : Independent first second) :
    Independent second first where
  paths := independent.paths.symm
  writes write member other member' := (independent.writes other member' write member).symm

theorem independent_of_perm {entries others : Entries} (independent : entries.Pairwise Independent)
    (reordered : entries.Perm others) : others.Pairwise Independent :=
  (reordered.pairwise_iff Independent.symm).mp independent

/-- Entries under different roots are independent, whatever their values. -/
theorem independent_of_roots {first second : String × Value}
    (roots : (Path.ofKey first.1).root ≠ (Path.ofKey second.1).root) :
    Independent first second where
  paths same := roots (congrArg Path.root same)
  writes write member other member' := by
    obtain ⟨inner, _, rfl⟩ := List.mem_map.mp member
    obtain ⟨inner', _, rfl⟩ := List.mem_map.mp member'
    exact .apart (.here (.key roots) _ _)

/-- Entries under different identifiers are independent. -/
theorem independent_of_identifiers {entries : Entries}
    (identifiers : ∀ key, key ∈ entries.map Prod.fst → IsIdentifier key)
    (nodup : (entries.map Prod.fst).Nodup) : entries.Pairwise Independent := by
  refine (List.pairwise_map.mp nodup).imp_of_mem fun {first second} member member' different => ?_
  apply independent_of_roots
  rwa [Path.ofKey_of_isIdentifier (identifiers _ (List.mem_map_of_mem member)),
    Path.ofKey_of_isIdentifier (identifiers _ (List.mem_map_of_mem member'))]

/-! ## Entries as writes -/

theorem root_set (config : Config) (entry : String × Value) :
    (config.set (override entry).1 (override entry).2).root =
      Write.applyAll (entryWrites entry) config.root :=
  congrFun (Value.change_merge entry.2 (Path.ofKey entry.1).walk) config.root

theorem root_setAll (config : Config) (entries : Entries) :
    (config.setAll (entries.map override)).root =
      Write.applyAll (entries.flatMap entryWrites) config.root := by
  induction entries generalizing config with
  | nil => rfl
  | cons entry rest ih =>
    rw [List.map_cons, setAll_cons, ih, root_set, List.flatMap_cons, Write.applyAll_append]

theorem agree_of_perm {entries others : Entries} (independent : entries.Pairwise Independent)
    (reordered : entries.Perm others) :
    Value.Agree (Write.applyAll (entries.flatMap entryWrites))
      (Write.applyAll (others.flatMap entryWrites)) := by
  have split : ∀ (entry : String × Value) (rest : Entries),
      Write.applyAll ((entry :: rest).flatMap entryWrites) =
        Write.applyAll (rest.flatMap entryWrites) ∘ Write.applyAll (entryWrites entry) :=
    fun entry rest => funext fun value => Write.applyAll_append _ _ value
  induction reordered with
  | nil => exact Value.agree_id
  | cons entry _ ih =>
    rw [split, split]
    exact (ih independent.of_cons).comp (Write.agree_applyAll _)
  | swap entry other rest =>
    rw [split, split, split entry (other :: rest), split other]
    have apart := List.rel_of_pairwise_cons independent List.mem_cons_self
    exact (Write.agree_applyAll _).comp (Write.commute_applyAll apart.writes).symm
  | trans reordered _ ih ih' =>
    exact (ih independent).trans (ih' (independent_of_perm independent reordered))

/-- Independent entries make up configurations that answer alike, in whatever order they are. -/
theorem ofEntries_reordered
    {entries others : Entries}
    (valid : ∀ entry, entry ∈ entries → (Path.ofText? entry.1).isSome)
    (independent : entries.Pairwise Independent)
    (reordered : entries.Perm others) :
    ∃ first second, ofEntries entries = .ok first ∧ ofEntries others = .ok second ∧
      first.AnswersLike second := by
  have paths : ∀ {entries : Entries}, entries.Pairwise Independent →
      (entries.map fun entry => Path.ofKey entry.1).Nodup :=
    fun independent => List.pairwise_map.mpr (independent.imp Independent.paths)
  have first := ofEntries_of_paths valid (paths independent)
  have second := ofEntries_of_paths (fun entry member => valid entry (reordered.mem_iff.mpr member))
    (paths (independent_of_perm independent reordered))
  refine ⟨_, _, first, second, answersLike_of_alike ?_⟩
  rw [root_setAll, root_setAll]
  exact agree_of_perm independent reordered _ _ (.refl _)

/-- Entries that meet at a table, and entries that meet at an array. -/
def meetingEntries : Entries :=
  [("a", .table none [("b", .table none [("x", .scalar none (.integer 1))])]),
    ("a.b.c", .scalar none (.integer 2)), ("d[0]", .scalar none (.integer 3)),
    ("d[2].e", .scalar none (.integer 4))]

theorem independent_meetingEntries : meetingEntries.Pairwise Independent := by
  have written : meetingEntries.map (fun entry => (Path.ofKey entry.1, entryWrites entry)) =
      [(⟨"a", []⟩, [⟨[.key "a"], .table⟩, ⟨[.key "a", .key "b"], .table⟩,
          ⟨[.key "a", .key "b", .key "x"], .leaf (.scalar none (.integer 1))⟩]),
        (⟨"a", [.key "b", .key "c"]⟩,
          [⟨[.key "a", .key "b", .key "c"], .leaf (.scalar none (.integer 2))⟩]),
        (⟨"d", [.index 0]⟩, [⟨[.key "d", .index 0], .leaf (.scalar none (.integer 3))⟩]),
        (⟨"d", [.index 2, .key "e"]⟩,
          [⟨[.key "d", .index 2, .key "e"], .leaf (.scalar none (.integer 4))⟩])] := by
    cbv
  have apart : (meetingEntries.map fun entry => (Path.ofKey entry.1, entryWrites entry)).Pairwise
      fun first second => first.1 ≠ second.1 ∧ ∀ write, write ∈ first.2 →
        ∀ other, other ∈ second.2 → write.Compatible other := by
    rw [written]
    simp only [List.pairwise_cons, List.forall_mem_cons, List.not_mem_nil, false_implies,
      implies_true, and_true, List.Pairwise.nil]
    and_intros
    -- Only the two tables of the first entry are above a write, the one of the second entry.
    all_goals first
      | decide
      | exact .apart (by decide)
      | exact .above [.key "a"] "b" [.key "c"] _
      | exact .above [.key "a", .key "b"] "c" [] _
  exact (List.pairwise_map.mp apart).imp fun separate => ⟨separate.1, separate.2⟩

theorem ofEntries_reordered_meetingEntries :
    meetingEntries.Perm meetingEntries.reverse ∧
      ∃ first second, ofEntries meetingEntries = .ok first ∧
        ofEntries meetingEntries.reverse = .ok second ∧ first.AnswersLike second := by
  have valid : meetingEntries.all fun entry => (Path.ofText? entry.1).isSome := by cbv
  have reversed := (List.reverse_perm meetingEntries).symm
  exact ⟨reversed,
    ofEntries_reordered (List.all_eq_true.mp valid) independent_meetingEntries reversed⟩

def stackedEntries : Entries :=
  [("a", .scalar none (.integer 1)), ("a.b", .scalar none (.integer 2))]

/-- In general the order of entries matters: of a value and what is to go below it, only the one
that is set last is there in the end. -/
theorem ofEntries_order_matters :
    ¬ ∀ entries others : Entries,
      (∀ entry, entry ∈ entries → (Path.ofText? entry.1).isSome) →
        (entries.map Prod.fst).Nodup → entries.Perm others →
          ∃ first second, ofEntries entries = .ok first ∧ ofEntries others = .ok second ∧
            first.AnswersLike second := by
  intro claimed
  have valid : stackedEntries.all fun entry => (Path.ofText? entry.1).isSome := by cbv
  obtain ⟨first, second, taken, reversed, alike⟩ :=
    claimed stackedEntries stackedEntries.reverse (List.all_eq_true.mp valid) (by decide)
      (List.reverse_perm _).symm
  have below : (ofEntries stackedEntries).bind (fun config => config.getInteger "a") =
      .error (.wrongKind ⟨.map, .integer, some "a", none⟩) := by cbv
  have above : (ofEntries stackedEntries.reverse).bind (fun config => config.getInteger "a") =
      .ok 1 := by cbv
  rw [taken, Except.bind, alike.integer] at below
  rw [reversed, Except.bind, below] at above
  cases above

end GatewaySim.Config
