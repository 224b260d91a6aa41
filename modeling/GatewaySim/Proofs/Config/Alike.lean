import GatewaySim.Config.Query
import Mathlib.Data.List.Forall2

/-! # Values that differ in the order of their entries only

Two values are alike if every walk by keys and positions finds the same in both. Single values that
are alike are equal, arrays are alike if their items are (`alike_array`), and tables if they have
alike values under the same keys, in whatever order (`alike_table`). Changes that make alike values
of alike values do so at any place in a value (`Agree.change`), and configurations with alike roots
answer alike (`answersLike_of_alike`).
-/

namespace GatewaySim.Config

/-! ## The same answer -/

/-- Answers that are the same error, or values in a relation. -/
inductive SameAnswer {ε α : Type} (R : α → α → Prop) : Except ε α → Except ε α → Prop where
  | ok {first second : α} (related : R first second) : SameAnswer R (.ok first) (.ok second)
  | error (error : ε) : SameAnswer R (.error error) (.error error)

theorem sameAnswer_eq {ε α : Type} {first second : Except ε α} :
    SameAnswer Eq first second ↔ first = second := by
  constructor
  · rintro (⟨⟨⟩⟩ | _) <;> rfl
  · rintro rfl
    cases first with
    | ok => exact .ok rfl
    | error => exact .error _

theorem SameAnswer.mapError {ε δ α : Type} {R : α → α → Prop} {first second : Except ε α}
    (same : SameAnswer R first second) (f : ε → δ) :
    SameAnswer R (first.mapError f) (second.mapError f) := by
  cases same with
  | ok related => exact .ok related
  | error error => exact .error (f error)

/-! ## Lists item by item -/

theorem forall₂_iff_getElem? {α β : Type} {R : α → β → Prop} {items : List α} {rest : List β} :
    List.Forall₂ R items rest ↔ ∀ place : Nat, Option.Rel R items[place]? rest[place]? := by
  constructor
  · intro related
    induction related with
    | nil => simp
    | cons here _ ih =>
      intro place
      cases place with
      | zero => simpa using here
      | succ place => simpa using ih place
  · intro related
    induction items generalizing rest with
    | nil =>
      cases rest with
      | nil => exact .nil
      | cons item rest => simpa using related 0
    | cons item items ih =>
      cases rest with
      | nil => simpa using related 0
      | cons other rest =>
        exact .cons (by simpa using related 0) (ih fun place => by simpa using related (place + 1))

theorem reverse_modify {α : Type} (items : List α) {place : Nat} (inside : place < items.length)
    (f : α → α) :
    (items.modify place f).reverse = items.reverse.modify (items.length - 1 - place) f := by
  apply List.ext_getElem (by simp)
  intro index _ _
  grind

/-! ## Walks into values -/

def Value.face (value : Value) : Option Origin × Found := (value.origin, value.found)

/-- Values that show the same at the end of every walk into them. -/
def Value.Alike (first second : Value) : Prop :=
  ∀ steps, (first.follow steps).map face = (second.follow steps).map face

theorem Value.Alike.refl (value : Value) : value.Alike value := fun _ => rfl

def Entries.Alike (entries others : Entries) : Prop :=
  ∀ key, Option.Rel Value.Alike (entries.get? key) (others.get? key)

theorem Entries.alike_of_get?_eq {entries others : Entries}
    (same : ∀ key, entries.get? key = others.get? key) : entries.Alike others := by
  intro key
  rw [same]
  cases others.get? key with
  | none => exact .none
  | some value => exact .some (.refl value)

namespace Value

variable {first second third : Value} {f g h : Value → Value}

theorem Alike.symm (alike : first.Alike second) : second.Alike first :=
  fun steps => (alike steps).symm

theorem Alike.trans (alike : first.Alike second) (onward : second.Alike third) :
    first.Alike third := fun steps => (alike steps).trans (onward steps)

/-! ## One step at a time -/

@[simp] theorem follow_nil (value : Value) : value.follow [] = some value := rfl

theorem follow_cons (value : Value) (step : Step) (steps : List Step) :
    value.follow (step :: steps) = (value.step? step).bind (follow · steps) := rfl

theorem Alike.face_eq (alike : first.Alike second) : first.face = second.face := by
  simpa using alike []

theorem Alike.step (alike : first.Alike second) (step : Step) :
    Option.Rel Alike (first.step? step) (second.step? step) := by
  have within : ∀ steps, ((first.step? step).bind (follow · steps)).map face =
      ((second.step? step).bind (follow · steps)).map face := fun steps => alike (step :: steps)
  cases here : first.step? step <;> cases there : second.step? step <;>
    rw [here, there] at within
  next => exact .none
  next => simpa using within []
  next => simpa using within []
  next => exact .some within

theorem alike_of_steps (same : first.face = second.face)
    (steps : ∀ step, Option.Rel Alike (first.step? step) (second.step? step)) :
    first.Alike second := by
  intro walk
  cases walk with
  | nil => simpa using same
  | cons step rest =>
    rw [follow_cons, follow_cons]
    match first.step? step, second.step? step, steps step with
    | _, _, .some inner => exact inner rest
    | _, _, .none => rfl

/-! ## Tables and arrays -/

theorem place?_natCast (length place : Nat) :
    place? length place = if place < length then some place else none := by
  have forward : ¬ (place : Int) < 0 := by omega
  simp [place?, forward]

theorem place?_zero (position : Int) : place? 0 position = none := by
  unfold place?
  grind

variable {origin other : Option Origin} {entries others : Entries} {items rest : List Value}

theorem alike_table :
    (table origin entries).Alike (table other others) ↔
      origin = other ∧ entries.Alike others := by
  constructor
  · intro alike
    exact ⟨congrArg Prod.fst alike.face_eq, fun key => alike.step (.key key)⟩
  · rintro ⟨rfl, lookups⟩
    refine alike_of_steps rfl fun step => ?_
    cases step with
    | key name => exact lookups name
    | index position => simp [step?, Value.items, place?_zero]

theorem step?_natCast (value : Value) (place : Nat) :
    value.step? (.index place) = value.items[place]? := by
  rw [step?, place?_natCast]
  split
  next => rfl
  next outside => exact (List.getElem?_eq_none (Nat.le_of_not_lt outside)).symm

theorem Alike.items_alike (alike : first.Alike second) :
    List.Forall₂ Alike first.items second.items := by
  refine forall₂_iff_getElem?.mpr fun place => ?_
  have here := alike.step (.index place)
  rwa [step?_natCast, step?_natCast] at here

theorem alike_array :
    (array origin items).Alike (array other rest) ↔
      origin = other ∧ List.Forall₂ Alike items rest := by
  constructor
  · intro alike
    exact ⟨congrArg Prod.fst alike.face_eq, alike.items_alike⟩
  · rintro ⟨rfl, related⟩
    refine alike_of_steps rfl fun step => ?_
    cases step with
    | key name => simp [step?, Value.entries, Entries.get?]
    | index position =>
      simp only [step?, Value.items, related.length_eq]
      cases place? rest.length position with
      | none => exact .none
      | some place => exact forall₂_iff_getElem?.mp related place

/-! ## Items of an array -/

/-- Where a position counts from the start, everything up to it is there afterwards. -/
theorem getElem?_changeItem (items : List Value) (position place : Nat) (f : Value → Value) :
    (changeItem items position f)[place]? =
      if place = position then some (f (items[place]?.getD nil))
      else if place < position then some (items[place]?.getD nil)
      else items[place]? := by
  have forward : ¬ (position : Int) < 0 := by omega
  rw [changeItem, if_neg forward, Int.natAbs_natCast, List.getElem?_modify]
  grind

/-- Positions that count from the end are those of the reversed array. -/
theorem changeItem_negSucc (items : List Value) (position : Nat) (f : Value → Value) :
    changeItem items (.negSucc position) f =
      (changeItem items.reverse position f).reverse := by
  have forward : ¬ (position : Int) < 0 := by omega
  rw [changeItem, changeItem, if_pos (Int.negSucc_lt_zero position), if_neg forward,
    Int.natAbs_negSucc, Int.natAbs_natCast, reverse_modify _ (by grind)]
  simp only [Nat.succ_eq_add_one, List.length_append, List.length_replicate, List.length_reverse,
    List.reverse_append, List.reverse_replicate, List.reverse_reverse]
  congr 1
  omega

/-! ## Changes that agree -/

def Agree (f g : Value → Value) : Prop :=
  ∀ first second, first.Alike second → (f first).Alike (g second)

theorem agree_id : Agree id id := fun _ _ alike => alike

theorem Agree.symm (agree : Agree f g) : Agree g f :=
  fun first second alike => (agree second first alike.symm).symm

theorem Agree.trans (agree : Agree f g) (onward : Agree g h) : Agree f h :=
  fun first second alike =>
    (agree first first (.refl first)).trans (onward first second alike)

/-- Two changes one after the other. -/
theorem Agree.comp {f' g' : Value → Value} (outer : Agree f f') (inner : Agree g g') :
    Agree (f ∘ g) (f' ∘ g') :=
  fun first second alike => outer _ _ (inner first second alike)

theorem alike_getD {value? other? : Option Value} (related : Option.Rel Alike value? other?) :
    (value?.getD nil).Alike (other?.getD nil) := by
  cases related with
  | some alike => exact alike
  | none => exact .refl nil

theorem Agree.changeItem (agree : Agree f g) (position : Int)
    (related : List.Forall₂ Alike items rest) :
    List.Forall₂ Alike (changeItem items position f) (changeItem rest position g) := by
  have forward : ∀ (items rest : List Value) (position : Nat),
      List.Forall₂ Alike items rest →
        List.Forall₂ Alike (Value.changeItem items position f)
          (Value.changeItem rest position g) := by
    intro items rest position related
    refine forall₂_iff_getElem?.mpr fun place => ?_
    have here := forall₂_iff_getElem?.mp related place
    rw [getElem?_changeItem, getElem?_changeItem]
    split
    next => exact .some (agree _ _ (alike_getD here))
    next =>
      split
      next => exact .some (alike_getD here)
      next => exact here
  cases position with
  | ofNat position => exact forward items rest position related
  | negSucc position =>
    rw [changeItem_negSucc, changeItem_negSucc]
    exact List.rel_reverse (forward _ _ position (List.rel_reverse related))

/-- The value as an array: itself, or an empty array of no origin in its place. -/
def asArray : Value → Value
  | .array origin items => .array origin items
  | _ => .array none []

theorem change_key (f : Value → Value) (name : String) (value : Value) :
    change f [.key name] value =
      table value.asTable.origin (value.entries.change name f) := by
  cases value <;> rfl

theorem change_index (f : Value → Value) (position : Int) (value : Value) :
    change f [.index position] value =
      array value.asArray.origin (changeItem value.items position f) := by
  cases value <;> rfl

theorem Alike.asTable_origin (alike : first.Alike second) :
    first.asTable.origin = second.asTable.origin := by
  have same := alike.face_eq
  cases first <;> cases second <;> simp_all [face, found, asTable, Value.origin]

theorem Alike.asArray_origin (alike : first.Alike second) :
    first.asArray.origin = second.asArray.origin := by
  have same := alike.face_eq
  cases first <;> cases second <;> simp_all [face, found, asArray, Value.origin]

theorem Alike.asTable (alike : first.Alike second) : first.asTable.Alike second.asTable := by
  have inner := fun key => alike.step (.key key)
  have origin := alike.asTable_origin
  cases first <;> cases second <;>
    exact alike_table.mpr ⟨origin, inner⟩

/-- One step further out, changes that agree still do. -/
theorem Agree.step (agree : Agree f g) (step : Step) :
    Agree (change f [step]) (change g [step]) := by
  intro first second alike
  cases step with
  | key name =>
    rw [change_key, change_key]
    refine alike_table.mpr ⟨alike.asTable_origin, fun key => ?_⟩
    rw [Entries.get?_change, Entries.get?_change]
    split
    next => exact .some (agree _ _ (alike_getD (alike.step (.key name))))
    next => exact alike.step (.key key)
  | index position =>
    rw [change_index, change_index]
    exact alike_array.mpr ⟨alike.asArray_origin, agree.changeItem position alike.items_alike⟩

theorem change_cons (f : Value → Value) (step : Step) (steps : List Step) :
    change f (step :: steps) = change (change f steps) [step] := by
  funext value
  cases step <;> cases value <;> rfl

theorem Agree.change (agree : Agree f g) (steps : List Step) :
    Agree (change f steps) (change g steps) := by
  induction steps with
  | nil => exact agree
  | cons step rest ih =>
    rw [change_cons f, change_cons g]
    exact ih.step step

/-! ## Conversions -/

theorem Alike.mismatch_eq (alike : first.Alike second) (expected : Expected) :
    first.mismatch expected = second.mismatch expected := by
  have same := alike.face_eq
  simp only [face, Prod.mk.injEq] at same
  simp [mismatch, same]

/-- What cannot be converted unless it is a single value is converted alike. -/
theorem Alike.convert_eq {α : Type} {convert : Value → Except Mismatch α} {expected : Expected}
    (arrays : ∀ origin items,
      convert (.array origin items) = .error ((array origin items).mismatch expected))
    (tables : ∀ origin entries,
      convert (.table origin entries) = .error ((table origin entries).mismatch expected))
    (alike : first.Alike second) : convert first = convert second := by
  have same := alike.face_eq
  have mismatch := alike.mismatch_eq expected
  cases first <;> cases second <;> simp_all [face, found, Value.origin]

theorem Alike.toInteger_eq (alike : first.Alike second) : first.toInteger = second.toInteger :=
  alike.convert_eq (fun _ _ => rfl) (fun _ _ => rfl)

theorem Alike.toBoolean_eq (alike : first.Alike second) : first.toBoolean = second.toBoolean :=
  alike.convert_eq (fun _ _ => rfl) (fun _ _ => rfl)

theorem Alike.toText_eq (alike : first.Alike second) : first.toText = second.toText :=
  alike.convert_eq (fun _ _ => rfl) (fun _ _ => rfl)

theorem Alike.toTable_same (alike : first.Alike second) :
    SameAnswer Entries.Alike first.toTable second.toTable := by
  have mismatch := alike.mismatch_eq .table
  have same := alike.face_eq
  cases first <;> cases second
  case table.table => exact .ok (alike_table.mp alike).2
  all_goals simp_all [face, found, toTable, SameAnswer.error]

theorem Alike.toArray_same (alike : first.Alike second) :
    SameAnswer (List.Forall₂ Alike) first.toArray second.toArray := by
  have mismatch := alike.mismatch_eq .array
  have same := alike.face_eq
  cases first <;> cases second
  case array.array => exact .ok (alike_array.mp alike).2
  all_goals simp_all [face, found, toArray, SameAnswer.error]

end Value

/-! ## Answers -/

variable {first second : Config}

theorem Value.Alike.follow {first second : Value} (alike : first.Alike second)
    (steps : List Step) : Option.Rel Alike (first.follow steps) (second.follow steps) := by
  induction steps generalizing first second with
  | nil => exact .some alike
  | cons step rest ih =>
    rw [follow_cons, follow_cons]
    match first.step? step, second.step? step, alike.step step with
    | _, _, .some inner => exact ih inner
    | _, _, .none => exact .none

/-- Answers that agree, values up to the order of the entries of tables in them. -/
structure AnswersLike (first second : Config) : Prop where
  integer : ∀ key, first.getInteger key = second.getInteger key
  boolean : ∀ key, first.getBoolean key = second.getBoolean key
  text : ∀ key, first.getText key = second.getText key
  table : ∀ key, SameAnswer Entries.Alike (first.getTable key) (second.getTable key)
  array : ∀ key,
    SameAnswer (List.Forall₂ Value.Alike) (first.getArray key) (second.getArray key)

theorem sameAnswer_get {α : Type} {R : α → α → Prop} {convert : Value → Except Mismatch α}
    (converted : ∀ value other : Value, value.Alike other →
      SameAnswer R (convert value) (convert other))
    (alike : first.root.Alike second.root) (key : String) :
    SameAnswer R (first.get convert key) (second.get convert key) := by
  unfold get
  cases Path.ofText? key with
  | none => exact .error _
  | some path =>
    have found : Option.Rel Value.Alike (first.value? path) (second.value? path) := alike.follow _
    dsimp only
    match first.value? path, second.value? path, found with
    | _, _, .none => exact .error _
    | some value, some other, .some inner => exact (converted value other inner).mapError _

theorem get_eq_of_alike {α : Type} {convert : Value → Except Mismatch α}
    (converted : ∀ value other : Value, value.Alike other → convert value = convert other)
    (alike : first.root.Alike second.root) (key : String) :
    first.get convert key = second.get convert key :=
  sameAnswer_eq.mp <| sameAnswer_get
    (fun value other alike => sameAnswer_eq.mpr (converted value other alike)) alike key

theorem answersLike_of_alike (alike : first.root.Alike second.root) : first.AnswersLike second where
  integer := get_eq_of_alike (fun _ _ => Value.Alike.toInteger_eq) alike
  boolean := get_eq_of_alike (fun _ _ => Value.Alike.toBoolean_eq) alike
  text := get_eq_of_alike (fun _ _ => Value.Alike.toText_eq) alike
  table := sameAnswer_get (fun _ _ => Value.Alike.toTable_same) alike
  array := sameAnswer_get (fun _ _ => Value.Alike.toArray_same) alike

end GatewaySim.Config
