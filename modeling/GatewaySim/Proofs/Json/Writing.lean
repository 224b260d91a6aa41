import GatewaySim.Json.Document
import GatewaySim.Proofs.Json.Grammar

/-! # Documents are written as their values

What a document is written as on one line is a written form of the value that it stands for
(`Document.written_compact`): the escapes spell their characters, and the digits of a number make up
a numeral. It does stay on one line, because control characters are escaped wherever they occur
(`Document.printable_compact`).
-/

namespace GatewaySim.Json

/-! ## Strings -/

theorem unit16_of_control {value : Nat} (control : value < 0x20) (rest : List Char) :
    Unit16 value ('0' :: '0' :: hexDigit (value / 16) :: hexDigit (value % 16) :: rest) rest := by
  have digit : ∀ digit, digit < 16 → HexDigit digit (hexDigit digit) := by
    unfold HexDigit
    decide
  have unit : Unit16 (0 * 0x1000 + 0 * 0x100 + value / 16 * 0x10 + value % 16)
      ('0' :: '0' :: hexDigit (value / 16) :: hexDigit (value % 16) :: rest) rest :=
    .digits (digit 0 (by decide)) (digit 0 (by decide)) (digit _ (by omega)) (digit _ (by omega))
  have same : 0 * 0x1000 + 0 * 0x100 + value / 16 * 0x10 + value % 16 = value := by omega
  rwa [same] at unit

theorem spelledChar_escapeChar (c : Char) (rest : List Char) :
    SpelledChar c (escapeChar c ++ rest) rest := by
  by_cases letter : c ∈ ['"', '\\', '\x08', '\x0c', '\n', '\r', '\t']
  · simp only [List.mem_cons, List.not_mem_nil, or_false] at letter
    rcases letter with rfl | rfl | rfl | rfl | rfl | rfl | rfl <;> exact .letter (by decide)
  · simp only [List.mem_cons, List.not_mem_nil, or_false, not_or] at letter
    obtain ⟨quote, backslash, backspace, formFeed, lineFeed, carriage, tab⟩ := letter
    simp only [escapeChar, quote, backslash, backspace, formFeed, lineFeed, carriage, tab, if_false]
    by_cases control : c.toNat < 0x20
    · rw [if_pos control]
      exact .unit (unit16_of_control control rest)
    · rw [if_neg control]
      exact .plain quote backslash (Nat.not_lt.mp control)

theorem spelled_escape (s rest : List Char) : Spelled s (escape s ++ rest) rest := by
  induction s with
  | nil => exact .nil
  | cons c s ih =>
    rw [escape_cons, List.append_assoc]
    exact .cons (spelledChar_escapeChar c _) ih

/-! ## Numbers -/

theorem head_toDigits_ne_zero {value : Nat} (positive : 0 < value) :
    (Nat.toDigits 10 value).head? ≠ some '0' := by
  induction value using Nat.strongRecOn with
  | ind value ih =>
    by_cases small : value < 10
    · have table : ∀ digit, digit < 10 → 0 < digit → digit.digitChar ≠ '0' := by decide
      rw [Nat.toDigits_of_lt_base small, List.head?_cons]
      exact fun head => table value small positive (Option.some.inj head)
    · have shorter := ih (value / 10) (by omega) (by omega)
      obtain ⟨first, more, digits⟩ :=
        List.exists_cons_of_ne_nil (Nat.toDigits_ne_nil (n := value / 10) (b := 10))
      rw [Nat.toDigits_of_base_le (by decide) (Nat.not_lt.mp small)]
      rw [digits] at shorter ⊢
      exact shorter

theorem wholePart_toDigits (value : Nat) : WholePart (Nat.toDigits 10 value) := by
  refine ⟨⟨Nat.toDigits_ne_nil, fun c => Nat.isDigit_of_mem_toDigits (by decide) (by decide)⟩, ?_⟩
  intro leading
  rcases Nat.eq_zero_or_pos value with rfl | positive
  · rfl
  · exact absurd leading (head_toDigits_ne_zero positive)

theorem writtenNumeral_toDigits (value : Nat) (rest : List Char) :
    WrittenNumeral ⟨Nat.toDigits 10 value, [], none⟩ (Nat.toDigits 10 value ++ rest) rest :=
  .parts (wholePart_toDigits value) .absent .absent

/-! ## Documents -/

namespace Document

mutual

def tree : Document → Tree
  | .text value => .text value
  | .number value => .number false ⟨Nat.toDigits 10 value, [], none⟩
  | .array items => .array (trees items)
  | .object members => .object (memberTrees members)

def trees : List Document → List Tree
  | [] => []
  | item :: rest => tree item :: trees rest

def memberTrees : List (String × Document) → List (String × Tree)
  | [] => []
  | (key, value) :: rest => (key, tree value) :: memberTrees rest

end

theorem written_quoted (value : String) (rest : List Char) :
    Written (.value (.text value)) (quoted value ++ rest) rest := by
  simp only [quoted, List.cons_append, List.append_assoc, List.nil_append]
  exact .text (spelled_escape _ _)

theorem written_quotedMember (key : String) {tree : Tree} {text rest : List Char}
    (value : Written (.value tree) text rest) :
    Written (.member key tree) (quoted key ++ ':' :: text) rest := by
  simp only [quoted, List.cons_append, List.append_assoc, List.nil_append]
  exact .member .none (spelled_escape _ _) .none (.element .none value .none)

mutual

theorem written_compact : (document : Document) → (rest : List Char) →
    Written (.value document.tree) (document.compact ++ rest) rest
  | .text value, rest => by
    rw [tree, compact]
    exact written_quoted value rest
  | .number value, rest => by
    rw [tree, compact]
    exact .natural (writtenNumeral_toDigits value rest)
  | .array [], rest => .emptyArray .none
  | .array (item :: items), rest => by
    rw [tree, compact, List.cons_append, List.append_assoc]
    exact .array (written_compactItems (item :: items) (List.cons_ne_nil _ _) _)
  | .object [], rest => .emptyObject .none
  | .object (member :: members), rest => by
    rw [tree, compact, List.cons_append, List.append_assoc]
    exact .object (written_compactMembers (member :: members) (List.cons_ne_nil _ _) _)

theorem written_compactItems : (items : List Document) → items ≠ [] → (rest : List Char) →
    Written (.items (trees items)) (compactItems items ++ rest) rest
  | [], nonempty, _ => absurd rfl nonempty
  | [item], _, rest => .lastItem (.element .none (written_compact item rest) .none)
  | item :: next :: items, _, rest => by
    rw [trees, compactItems, List.append_assoc, List.cons_append]
    · exact .item (.element .none (written_compact item _) .none)
        (written_compactItems (next :: items) (List.cons_ne_nil _ _) rest)
    · simp

theorem written_compactMembers : (members : List (String × Document)) → members ≠ [] →
    (rest : List Char) →
    Written (.members (memberTrees members)) (compactMembers members ++ rest) rest
  | [], nonempty, _ => absurd rfl nonempty
  | [(key, value)], _, rest => by
    rw [memberTrees, memberTrees, compactMembers, List.append_assoc, List.cons_append]
    exact .lastMember (written_quotedMember key (written_compact value rest))
  | (key, value) :: next :: members, _, rest => by
    rw [memberTrees, compactMembers, List.append_assoc, List.cons_append, List.append_assoc,
      List.cons_append]
    · exact .moreMembers (written_quotedMember key (written_compact value _))
        (written_compactMembers (next :: members) (List.cons_ne_nil _ _) rest)
    · simp

end

/-- Items are written with commas between them. -/
theorem compactItems_eq_intercalate (items : List Document) :
    compactItems items = [','].intercalate (items.map compact) := by
  induction items with
  | nil => rfl
  | cons item rest ih =>
    cases rest with
    | nil => rw [compactItems, List.map_singleton, List.intercalate_singleton]
    | cons next rest =>
      rw [compactItems, ih]
      · simp [List.intercalate_cons_cons]
      · simp

/-- Members are written with commas between them, each as its key, a colon and its value. -/
theorem compactMembers_eq_intercalate (members : List (String × Document)) :
    compactMembers members =
      [','].intercalate (members.map fun member => quoted member.1 ++ ':' :: member.2.compact) := by
  induction members with
  | nil => rfl
  | cons member rest ih =>
    cases rest with
    | nil => rw [compactMembers, List.map_singleton, List.intercalate_singleton]
    | cons next rest =>
      rw [compactMembers, ih]
      · simp [List.intercalate_cons_cons]
      · simp

theorem writtenText_compactText (document : Document) :
    WrittenText document.tree document.compactText.toList := by
  have written := written_compact document []
  rw [List.append_nil] at written
  rw [compactText, String.toList_ofList]
  exact .element .none written .none

end Document

/-! ## Control characters -/

def Printable (text : List Char) : Prop := ∀ c, c ∈ text → 0x20 ≤ c.toNat

@[simp] theorem printable_nil : Printable [] := fun _ member => nomatch member

@[simp] theorem printable_cons {c : Char} {text : List Char} :
    Printable (c :: text) ↔ 0x20 ≤ c.toNat ∧ Printable text :=
  List.forall_mem_cons

@[simp] theorem printable_append {text more : List Char} :
    Printable (text ++ more) ↔ Printable text ∧ Printable more :=
  List.forall_mem_append

theorem printable_intercalate {parts : List (List Char)}
    (each : ∀ part, part ∈ parts → Printable part) : Printable ([','].intercalate parts) := by
  induction parts with
  | nil => exact printable_nil
  | cons part rest ih =>
    rw [List.forall_mem_cons] at each
    cases rest with
    | nil => simpa using each.1
    | cons next rest => simp [List.intercalate_cons_cons, each.1, ih each.2]

theorem printable_hexDigit (value : Nat) (small : value < 16) :
    0x20 ≤ (hexDigit value).toNat := by
  have each : ∀ digit, digit < 16 → 0x20 ≤ (hexDigit digit).toNat := by decide
  exact each value small

theorem printable_escapeChar (c : Char) : Printable (escapeChar c) := by
  by_cases letter : c ∈ ['"', '\\', '\x08', '\x0c', '\n', '\r', '\t']
  · simp only [List.mem_cons, List.not_mem_nil, or_false] at letter
    rcases letter with rfl | rfl | rfl | rfl | rfl | rfl | rfl <;> simp [escapeChar]
  · simp only [List.mem_cons, List.not_mem_nil, or_false, not_or] at letter
    obtain ⟨quote, backslash, backspace, formFeed, lineFeed, carriage, tab⟩ := letter
    simp only [escapeChar, quote, backslash, backspace, formFeed, lineFeed, carriage, tab, if_false]
    by_cases control : c.toNat < 0x20
    · have high := printable_hexDigit (c.toNat / 16) (by omega)
      have low := printable_hexDigit (c.toNat % 16) (by omega)
      simp [control, high, low]
    · simpa [control] using Nat.not_lt.mp control

theorem printable_quoted (s : String) : Printable (quoted s) := by
  have escaped : Printable (escape s.toList) := by
    intro c member
    obtain ⟨written, _, inside⟩ := List.mem_flatMap.mp member
    exact printable_escapeChar written c inside
  simp [quoted, escaped]

theorem printable_toDigits (value : Nat) : Printable (Nat.toDigits 10 value) := by
  intro c member
  have digit := Nat.isDigit_of_mem_toDigits (by decide) (by decide) member
  simp only [Char.isDigit, Bool.and_eq_true, decide_eq_true_eq] at digit
  exact Nat.le_trans (by decide) (UInt32.le_iff_toNat_le.mp digit.1)

namespace Document

/-- Induction over documents, with the hypothesis for each item and for the value of each member. -/
@[elab_as_elim]
theorem induct {motive : Document → Prop} (text : ∀ value, motive (.text value))
    (number : ∀ value, motive (.number value))
    (array : ∀ items, (∀ item, item ∈ items → motive item) → motive (.array items))
    (object : ∀ members, (∀ member, member ∈ members → motive member.2) →
      motive (.object members)) : ∀ document, motive document
  | .text value => text value
  | .number value => number value
  | .array items => array items fun item _ => induct text number array object item
  | .object members => object members fun member _ => induct text number array object member.2
termination_by document => document
decreasing_by
  · have := List.sizeOf_lt_of_mem ‹item ∈ items›
    simp only [Document.array.sizeOf_spec]
    omega
  · have := List.sizeOf_lt_of_mem ‹member ∈ members›
    obtain ⟨key, value⟩ := member
    simp only [Document.object.sizeOf_spec, Prod.mk.sizeOf_spec] at *
    omega

/-- A document on one line has no control characters. -/
theorem printable_compact (document : Document) : Printable document.compact := by
  induction document using induct with
  | text value => exact printable_quoted value
  | number value => exact printable_toDigits value
  | array items ih =>
    have parts := printable_intercalate (List.forall_mem_map.mpr ih)
    simp [compact, compactItems_eq_intercalate, parts]
  | object members ih =>
    have each : ∀ member, member ∈ members →
        Printable (quoted member.1 ++ ':' :: member.2.compact) := fun member inside => by
      simp [printable_quoted, ih member inside]
    have parts := printable_intercalate (List.forall_mem_map.mpr each)
    simp [compact, compactMembers_eq_intercalate, parts]

end Document

end GatewaySim.Json
