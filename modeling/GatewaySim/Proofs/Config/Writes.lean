import GatewaySim.Proofs.Config.Alike

/-! # Setting a value write by write

A value is set by a list of writes: where it is a table, room is made for one, and what is not a
table is put in its place (`change_merge`). Writes that part ways at two keys of a table, or at two
positions of an array that are counted from the same end, can change places, and so can a table and
what goes below one of its keys (`Compatible.commute`). Nothing is said of positions counted from
different ends: whether they are those of one item depends on the length of the array.
-/

namespace GatewaySim.Config

theorem Entries.change_change (entries : Entries) (key : String) (f g : Value → Value) :
    (entries.change key f).change key g = entries.change key (g ∘ f) := by
  induction entries with
  | nil => simp [change]
  | cons entry rest ih =>
    obtain ⟨name, value⟩ := entry
    by_cases here : name = key
    · simp [change, here]
    · simp [change, here, ih]

namespace Value

variable {f g h : Value → Value}

/-! ## Changes at one place -/

theorem changeItem_changeItem (items : List Value) (position : Int) (f g : Value → Value) :
    changeItem (changeItem items position f) position g =
      changeItem items position (g ∘ f) := by
  have forward : ∀ (items : List Value) (position : Nat),
      changeItem (changeItem items position f) position g =
        changeItem items position (g ∘ f) := by
    intro items position
    apply List.ext_getElem?
    intro place
    simp only [getElem?_changeItem]
    grind
  cases position with
  | ofNat position => exact forward items position
  | negSucc position => simp only [changeItem_negSucc, List.reverse_reverse, forward]

theorem change_nil (f : Value → Value) : change f [] = f := by
  funext value
  rw [change]

theorem change_change (f g : Value → Value) (steps : List Step) :
    change g steps ∘ change f steps = change (g ∘ f) steps := by
  induction steps generalizing f g with
  | nil => simp only [change_nil]
  | cons step rest ih =>
    rw [change_cons f, change_cons g, change_cons (g ∘ f), ← ih]
    funext value
    cases step with
    | key name =>
      rw [Function.comp, change_key _ _ value, change_key _ _ value, ← Entries.change_change]
      rfl
    | index position =>
      rw [Function.comp, change_index _ _ value, change_index _ _ value, ← changeItem_changeItem]
      rfl

theorem change_append (f : Value → Value) (steps rest : List Step) :
    change f (steps ++ rest) = change (change f rest) steps := by
  induction steps with
  | nil => rw [List.nil_append, change_nil]
  | cons step steps ih =>
    rw [List.cons_append, change_cons, ih, ← change_cons]

/-! ## Changes that can be made in either order -/

def Commute (f g : Value → Value) : Prop := Agree (f ∘ g) (g ∘ f)

theorem Commute.symm (commute : Commute f g) : Commute g f := Agree.symm commute

theorem commute_self (agree : Agree f f) : Commute f f := agree.comp agree

theorem Commute.comp (second : Commute f g) (first : Commute f h) (agree : Agree g g)
    (within : Agree h h) : Commute f (g ∘ h) :=
  -- `f` passes `g` with `h` made before, then `h` with `g` made after.
  (Agree.comp second within).trans (agree.comp first)

theorem Commute.change (commute : Commute f g) (steps : List Step) :
    Commute (change f steps) (change g steps) := by
  rw [Commute, change_change, change_change]
  exact Agree.change commute steps

theorem agree_of_alike (alike : ∀ value, (f value).Alike (g value)) (agree : Agree g g) :
    Agree f g :=
  fun first second same => (alike first).trans (agree first second same)

end Value

/-- Steps to different parts of whatever they are taken in: to two keys of a table, or to two
positions of an array that are counted from the same end. -/
inductive Step.Parting : Step → Step → Prop where
  | key {name other : String} (different : name ≠ other) : Parting (.key name) (.key other)
  | index {position other : Int} (different : position ≠ other)
      (ends : 0 ≤ position ↔ 0 ≤ other) : Parting (.index position) (.index other)

inductive Apart : List Step → List Step → Prop where
  | here {step other : Step} (parting : step.Parting other) (steps others : List Step) :
      Apart (step :: steps) (other :: others)
  | behind (step : Step) {steps others : List Step} (apart : Apart steps others) :
      Apart (step :: steps) (step :: others)

theorem Step.Parting.symm {step other : Step} (parting : step.Parting other) :
    other.Parting step := by
  cases parting with
  | key different => exact .key different.symm
  | index different ends => exact .index different.symm ends.symm

theorem Apart.symm {steps others : List Step} (apart : Apart steps others) :
    Apart others steps := by
  induction apart with
  | here parting steps others => exact .here parting.symm others steps
  | behind step _ ih => exact .behind step ih

instance Step.decidableParting : DecidableRel Step.Parting
  | .key name, .key other =>
    decidable_of_iff (name ≠ other) ⟨.key, fun | .key different => different⟩
  | .index position, .index other =>
    decidable_of_iff (position ≠ other ∧ (0 ≤ position ↔ 0 ≤ other))
      ⟨fun parting => .index parting.1 parting.2, fun | .index different ends => ⟨different, ends⟩⟩
  | .key _, .index _ => .isFalse nofun
  | .index _, .key _ => .isFalse nofun

theorem apart_cons {step other : Step} {steps others : List Step} :
    Apart (step :: steps) (other :: others) ↔
      step.Parting other ∨ step = other ∧ Apart steps others := by
  constructor
  · rintro (⟨parting, _, _⟩ | ⟨_, apart⟩)
    · exact .inl parting
    · exact .inr ⟨rfl, apart⟩
  · rintro (parting | ⟨rfl, apart⟩)
    · exact .here parting steps others
    · exact .behind step apart

instance decidableApart : DecidableRel Apart
  | [], _ => .isFalse nofun
  | _ :: _, [] => .isFalse nofun
  | _ :: steps, _ :: others =>
    have := decidableApart steps others
    decidable_of_iff _ apart_cons.symm

namespace Value

variable {f g : Value → Value}

theorem changeItem_comm {position other : Int} (different : position ≠ other)
    (ends : 0 ≤ position ↔ 0 ≤ other) (items : List Value) (f g : Value → Value) :
    changeItem (changeItem items other g) position f =
      changeItem (changeItem items position f) other g := by
  have forward : ∀ {position other : Nat}, position ≠ other → ∀ items : List Value,
      changeItem (changeItem items other g) position f =
        changeItem (changeItem items position f) other g := by
    intro position other different items
    apply List.ext_getElem?
    intro place
    simp only [getElem?_changeItem]
    grind
  cases position with
  | ofNat position =>
    cases other with
    | ofNat other => exact forward (fun same => different (congrArg Int.ofNat same)) items
    | negSucc other => simp at ends
  | negSucc position =>
    cases other with
    | ofNat other => simp at ends
    | negSucc other =>
      have apart : position ≠ other := by simpa using different
      simp only [changeItem_negSucc, List.reverse_reverse, forward apart]

theorem commute_of_parting {step other : Step} (parting : step.Parting other) (agree : Agree f f)
    (agree' : Agree g g) : Commute (change f [step]) (change g [other]) := by
  refine agree_of_alike (fun value => ?_) ((agree'.step other).comp (agree.step step))
  cases parting with
  | key different =>
    simp only [Function.comp, change_key]
    refine alike_table.mpr ⟨rfl, Entries.alike_of_get?_eq fun key => ?_⟩
    simp only [entries, Entries.get?_change]
    grind
  | index different ends =>
    simp only [Function.comp, change_index, items, changeItem_comm different ends]
    exact .refl _

end Value

theorem Apart.commute {steps others : List Step} (apart : Apart steps others)
    {f g : Value → Value} (agree : Value.Agree f f) (agree' : Value.Agree g g) :
    Value.Commute (Value.change f steps) (Value.change g others) := by
  induction apart with
  | here parting steps others =>
    rw [Value.change_cons f, Value.change_cons g]
    exact Value.commute_of_parting parting (agree.change steps) (agree'.change others)
  | behind step _ ih =>
    rw [Value.change_cons f, Value.change_cons g]
    exact ih.change [step]

/-! ## Writes -/

inductive Content where
  /-- A table, the one that is there if there is one. -/
  | table
  /-- A value in the place of whatever is there. -/
  | leaf (value : Value)

def Content.lay : Content → Value → Value
  | .table, under => under.asTable
  | .leaf value, _ => value

/-- A place, as the steps to it, and what is left there. -/
structure Write where
  steps : List Step
  content : Content

namespace Write

def apply (write : Write) : Value → Value := Value.change write.content.lay write.steps

def within (write : Write) (steps : List Step) : Write :=
  { write with steps := steps ++ write.steps }

/-- Writes that can change places: one and the same, writes that part ways, and a table with what
goes below one of its keys. -/
inductive Compatible : Write → Write → Prop where
  | same (write : Write) : Compatible write write
  | apart {first second : Write} (apart : Apart first.steps second.steps) :
      Compatible first second
  | above (steps : List Step) (name : String) (rest : List Step) (content : Content) :
      Compatible ⟨steps, .table⟩ ⟨steps ++ .key name :: rest, content⟩
  | below (steps : List Step) (name : String) (rest : List Step) (content : Content) :
      Compatible ⟨steps ++ .key name :: rest, content⟩ ⟨steps, .table⟩

theorem Compatible.symm {first second : Write} (compatible : first.Compatible second) :
    second.Compatible first := by
  cases compatible with
  | same => exact .same first
  | apart apart => exact .apart apart.symm
  | above steps name rest content => exact .below steps name rest content
  | below steps name rest content => exact .above steps name rest content

theorem agree_lay (content : Content) : Value.Agree content.lay content.lay := by
  intro value other alike
  cases content with
  | table => exact alike.asTable
  | leaf value => exact .refl value

theorem agree_apply (write : Write) : Value.Agree write.apply write.apply :=
  (agree_lay write.content).change write.steps

theorem commute_asTable (f : Value → Value) (name : String) (steps : List Step)
    (agree : Value.Agree f f) :
    Value.Commute Value.asTable (Value.change f (.key name :: steps)) := by
  rw [Value.change_cons]
  refine Value.agree_of_alike (fun value => ?_)
    (((agree.change steps).step (.key name)).comp (agree_lay .table))
  cases value <;> exact .refl _

theorem Compatible.commute {first second : Write} (compatible : first.Compatible second) :
    Value.Commute first.apply second.apply := by
  have across : ∀ (steps : List Step) (name : String) (rest : List Step) (content : Content),
      Value.Commute (apply ⟨steps, .table⟩) (apply ⟨steps ++ .key name :: rest, content⟩) := by
    intro steps name rest content
    simp only [apply, Value.change_append]
    exact (commute_asTable content.lay name rest (agree_lay content)).change steps
  cases compatible with
  | same => exact Value.commute_self (agree_apply first)
  | apart apart => exact apart.commute (agree_lay first.content) (agree_lay second.content)
  | above steps name rest content => exact across steps name rest content
  | below steps name rest content => exact (across steps name rest content).symm

def applyAll (writes : List Write) (value : Value) : Value :=
  writes.foldl (fun value write => write.apply value) value

theorem applyAll_append (writes others : List Write) (value : Value) :
    applyAll (writes ++ others) value = applyAll others (applyAll writes value) :=
  List.foldl_append

theorem agree_applyAll (writes : List Write) :
    Value.Agree (applyAll writes) (applyAll writes) := by
  induction writes with
  | nil => exact Value.agree_id
  | cons write rest ih => exact ih.comp (agree_apply write)

theorem commute_applyAll {writes others : List Write}
    (compatible : ∀ write, write ∈ writes → ∀ other, other ∈ others →
      write.Compatible other) :
    Value.Commute (applyAll writes) (applyAll others) := by
  have one : ∀ (write : Write) (others : List Write),
      (∀ other, other ∈ others → write.Compatible other) →
        Value.Commute write.apply (applyAll others) := by
    intro write others compatible
    induction others with
    | nil => exact agree_apply write
    | cons other rest ih =>
      rw [List.forall_mem_cons] at compatible
      exact (ih compatible.2).comp compatible.1.commute (agree_applyAll rest) (agree_apply other)
  induction writes with
  | nil => exact agree_applyAll others
  | cons write rest ih =>
    rw [List.forall_mem_cons] at compatible
    exact ((ih compatible.2).symm.comp (one write others compatible.1).symm (agree_applyAll rest)
      (agree_apply write)).symm

end Write

/-! ## Values as writes -/

mutual

def Value.writes : Value → List Write
  | .table _ entries => ⟨[], .table⟩ :: entriesWrites entries
  | value => [⟨[], .leaf value⟩]

def entriesWrites : List (String × Value) → List Write
  | [] => []
  | (key, value) :: rest =>
    (Value.writes value).map (fun write => write.within [.key key]) ++ entriesWrites rest

end

namespace Value

theorem change_applyAll {writes : List Write} (nonempty : writes ≠ []) (steps : List Step) :
    change (Write.applyAll writes) steps =
      Write.applyAll (writes.map fun write => write.within steps) := by
  induction writes with
  | nil => exact absurd rfl nonempty
  | cons write rest ih =>
    have here : change write.apply steps = (write.within steps).apply :=
      (change_append write.content.lay steps write.steps).symm
    cases rest with
    | nil => exact here
    | cons next rest =>
      calc change (Write.applyAll (next :: rest) ∘ write.apply) steps
          = change (Write.applyAll (next :: rest)) steps ∘ change write.apply steps :=
            (change_change write.apply _ steps).symm
        _ = _ := by rw [ih (List.cons_ne_nil next rest), here]; rfl

theorem writes_ne_nil (value : Value) : value.writes ≠ [] := by
  cases value <;> simp [writes]

mutual

theorem merge_eq_applyAll (value under : Value) :
    value.merge under = Write.applyAll value.writes under := by
  cases value with
  | table origin entries =>
    rw [merge, mergeEntries_eq_applyAll, writes]
    rfl
  | scalar | array => simp [merge, writes, Write.applyAll, Write.apply, change, Content.lay]

theorem mergeEntries_eq_applyAll (entries : List (String × Value)) (under : Value) :
    mergeEntries entries under = Write.applyAll (entriesWrites entries) under := by
  cases entries with
  | nil => rfl
  | cons entry rest =>
    obtain ⟨key, value⟩ := entry
    have laid : (fun under => value.merge under) = Write.applyAll value.writes :=
      funext (merge_eq_applyAll value)
    rw [mergeEntries, laid, change_applyAll value.writes_ne_nil, mergeEntries_eq_applyAll rest,
      entriesWrites, Write.applyAll_append]

end

/-- A value that is set at a place is set by its writes there. -/
theorem change_merge (value : Value) (steps : List Step) :
    change value.merge steps =
      Write.applyAll (value.writes.map fun write => write.within steps) := by
  rw [← change_applyAll value.writes_ne_nil]
  exact congrArg (change · steps) (funext (merge_eq_applyAll value))

end Value

end GatewaySim.Config
