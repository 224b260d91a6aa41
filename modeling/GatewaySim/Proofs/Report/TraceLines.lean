import GatewaySim.Proofs.Json.Numerals
import GatewaySim.Proofs.Message.RoundTrip
import GatewaySim.Proofs.Report.Printing

/-! # Trace lines are unambiguous

The name of a module stands in its trace lines as it is, even where it looks like another part of a
line. The text of a message holds no control character, so what follows the last tab is the message,
and what stands before it gives away the rest. Without line breaks in the names, each event has one
line of the trace (`traceLines_unambiguous`).
-/

namespace GatewaySim

theorem Json.Printable.notMem {text : List Char} (printable : Printable text) {c : Char}
    (control : c.toNat < 0x20) : c ∉ text :=
  fun member => Nat.not_lt.mpr (printable c member) control

theorem Message.printable_text (m : Message) : Json.Printable m.text.toList := by
  rw [text, Json.Document.compactText, String.toList_ofList]
  exact m.document.printable_compact

theorem append_cons_inj_of_last {α : Type} {mark : α} {front other back rest : List α}
    (last : mark ∉ back) (lastToo : mark ∉ rest)
    (same : front ++ mark :: back = other ++ mark :: rest) : front = other ∧ back = rest := by
  rcases List.append_eq_append_iff.mp same with ⟨more, rfl, behind⟩ | ⟨more, rfl, behind⟩
  · cases more with
    | nil => simpa using behind
    | cons first more =>
      cases behind
      simp at last
  · cases more with
    | nil => simpa [eq_comm] using behind
    | cons first more =>
      cases behind
      simp at lastToo

/-! ## What a line shows -/

inductive Shown where
  | published (name : String) (message : Message)
  | received (name : String) (message : Message)
  | rejected (name : String) (limit : UInt32) (message : Message)
  deriving DecidableEq, Repr

def Event.shown : Event → Shown
  | .published publication => .published publication.senderName publication.message
  | .received receipt => .received receipt.receiverName receipt.message
  | .rejected rejection => .rejected rejection.senderName rejection.limit rejection.message

namespace Shown

def name : Shown → String
  | .published name _ | .received name _ | .rejected name _ _ => name

def message : Shown → Message
  | .published _ message | .received _ message | .rejected _ _ message => message

/-- A trace line up to its last tab, as characters. -/
def caption : Shown → List Char
  | .published name _ => "PUBLISHED by ".toList ++ name.toList
  | .received name _ => "RECEIVED at ".toList ++ name.toList
  | .rejected name limit _ =>
    "REJECTED from ".toList ++ (name.toList ++ '\t' ::
      ("Hop limit ".toList ++ (Nat.toDigits 10 limit.toNat ++ " exceeded".toList)))

def line (shown : Shown) : List Char :=
  shown.caption ++ '\t' :: ("Content: ".toList ++ shown.message.text.toList)

theorem toList_traceLine (event : Event) : event.traceLine.toList = event.shown.line := by
  cases event <;> unfold Event.traceLine Event.shown line caption message <;>
    simp [Nat.toList_repr]

theorem tab_notMem_content (shown : Shown) :
    '\t' ∉ "Content: ".toList ++ shown.message.text.toList := by
  have message := shown.message.printable_text.notMem (show '\t'.toNat < 0x20 by decide)
  simp [message]

theorem tab_notMem_limit (limit : Nat) :
    '\t' ∉ "Hop limit ".toList ++ (Nat.toDigits 10 limit ++ " exceeded".toList) := by
  have digits := (Json.printable_toDigits limit).notMem (show '\t'.toNat < 0x20 by decide)
  simp [digits]

/-- A caption says first of what kind the event is, then whose it is, and at last the limit. -/
theorem eq_of_caption_eq {shown other : Shown} (captions : shown.caption = other.caption)
    (messages : shown.message = other.message) : shown = other := by
  cases shown <;> cases other <;> unfold caption at captions <;> try simp at captions
  case published.published name m other n =>
    exact congrArg₂ published (String.toList_injective captions) messages
  case received.received name m other n =>
    exact congrArg₂ received (String.toList_injective captions) messages
  case rejected.rejected name limit m other limitToo n =>
    obtain ⟨names, limits⟩ :=
      append_cons_inj_of_last (tab_notMem_limit _) (tab_notMem_limit _) captions
    have stop : Json.NoDigit " exceeded".toList := Json.noDigit_cons rfl _
    have numbers := Json.toDigits_append_inj stop stop (List.append_cancel_left limits)
    rw [String.toList_injective names, UInt32.toNat_inj.mp numbers.1]
    exact congrArg (rejected other limitToo) messages

theorem line_injective : Function.Injective line := by
  intro shown other same
  obtain ⟨captions, contents⟩ :=
    append_cons_inj_of_last shown.tab_notMem_content other.tab_notMem_content same
  have texts := String.toList_injective (List.append_cancel_left contents)
  exact eq_of_caption_eq captions (Message.text_injective texts)

/-- Only the name of the module can bring a line break into a line. -/
theorem newLine_notMem_line {shown : Shown} (whole : '\n' ∉ shown.name.toList) :
    '\n' ∉ shown.line := by
  have control : '\n'.toNat < 0x20 := by decide
  have message := shown.message.printable_text.notMem control
  have before : '\n' ∉ shown.caption := by
    unfold caption
    cases shown with
    | published name m | received name m =>
      change '\n' ∉ name.toList at whole
      simpa using whole
    | rejected name limit m =>
      change '\n' ∉ name.toList at whole
      have digits := (Json.printable_toDigits limit.toNat).notMem control
      simp [digits, whole]
  simp [line, before, message]

end Shown

theorem Event.traceLine_eq_iff {event other : Event} :
    event.traceLine = other.traceLine ↔ event.shown = other.shown := by
  rw [← String.toList_inj, Shown.toList_traceLine, Shown.toList_traceLine,
    Shown.line_injective.eq_iff]

theorem Event.name_shown (event : Event) : event.shown.name = event.moduleName := by
  cases event <;> rfl

/-! ## Many lines -/

theorem splitOn_lines {lines : List (List Char)}
    (whole : ∀ line, line ∈ lines → '\n' ∉ line) :
    (lines.flatMap fun line => line ++ ['\n']).splitOn '\n' = lines ++ [[]] := by
  induction lines with
  | nil => rfl
  | cons line rest ih =>
    rw [List.forall_mem_cons] at whole
    rw [List.flatMap_cons, List.append_assoc, List.singleton_append,
      List.splitOn_append_cons_self_of_not_mem whole.1, ih whole.2, List.cons_append]

theorem toList_join_eventText (events : List Event) :
    (String.join (events.map Trace.eventText)).toList =
      (events.map fun event => event.shown.line).flatMap fun line => line ++ ['\n'] := by
  rw [String.toList_join, List.flatMap_map, List.flatMap_map]
  apply List.flatMap_congr
  intro event _
  rw [Trace.eventText, String.toList_append, Shown.toList_traceLine]
  rfl

/-- A trace without line breaks in its names has one line for each event. -/
theorem splitOn_join_eventText {events : List Event}
    (whole : ∀ event, event ∈ events → '\n' ∉ event.moduleName.toList) :
    (String.join (events.map Trace.eventText)).toList.splitOn '\n' =
      (events.map fun event => event.shown.line) ++ [[]] := by
  rw [toList_join_eventText, splitOn_lines]
  rw [List.forall_mem_map]
  intro event member
  exact Shown.newLine_notMem_line (event.name_shown ▸ whole event member)

/-- The trace line of an event gives away its kind, its module's name, its message and, for a
rejection, the limit. Messages bring no control characters into it, so what a console writes about
events without line breaks in their names splits into their lines and gives away all of them. -/
theorem traceLines_unambiguous :
    (∀ event other : Event, event.traceLine = other.traceLine ↔ event.shown = other.shown) ∧
    (∀ (m : Message) (c : Char), c ∈ m.text.toList → 0x20 ≤ c.toNat) ∧
    ∀ (console : Console) (events : List Event), console.working →
      (∀ event, event ∈ events → '\n' ∉ event.moduleName.toList) →
      ∃ text, (events.foldl Console.report console).written = console.written ++ text ∧
        text.toList.splitOn '\n' = (events.map fun event => event.traceLine.toList) ++ [[]] ∧
        ∀ others : List Event,
          (∀ event, event ∈ others → '\n' ∉ event.moduleName.toList) →
          (others.foldl Console.report console).written = console.written ++ text →
            events.map Event.shown = others.map Event.shown := by
  refine ⟨fun event other => Event.traceLine_eq_iff, fun m => m.printable_text, ?_⟩
  intro console events works whole
  refine ⟨String.join (events.map Trace.eventText), ?_, ?_, ?_⟩
  · rw [Console.foldl_report, Console.written_write works]
  · rw [splitOn_join_eventText whole]
    simp only [Shown.toList_traceLine]
  · intro others wholeToo written
    rw [Console.foldl_report, Console.written_write works, String.append_right_inj] at written
    have lines := congrArg (fun text : String => text.toList.splitOn '\n') written
    simp only [splitOn_join_eventText whole, splitOn_join_eventText wholeToo] at lines
    have each : (others.map Event.shown).map Shown.line =
        (events.map Event.shown).map Shown.line := by
      simpa [Function.comp_def] using lines
    exact (List.map_injective_iff.mpr Shown.line_injective each).symm

/-- Names and texts that look like other parts of a line. -/
theorem traceLines_unambiguous_imitated :
    let first : Event := .published ⟨0, 0, 0, "a\tHop limit 1 exceeded", .empty⟩
    let second : Event := .rejected ⟨1, 1, 0, "a\tContent: \x7b\x7d", { src := "\n\t" }⟩
    let written := ([first, second].foldl Console.report {}).written
    (∀ event, event ∈ [first, second] → '\n' ∉ event.moduleName.toList) ∧
      written.toList.splitOn '\n' =
        ["PUBLISHED by a\tHop limit 1 exceeded\tContent: \x7b\x7d".toList,
          ("REJECTED from a\tContent: \x7b\x7d\tHop limit 1 exceeded" ++
            "\tContent: \x7b\"src\":\"\\n\\t\"\x7d").toList, []] := by
  intro first second written
  have whole : ∀ event, event ∈ [first, second] → '\n' ∉ event.moduleName.toList := by
    decide
  obtain ⟨text, added, lines, _⟩ := traceLines_unambiguous.2.2 {} [first, second] rfl whole
  have all : written = text := added.trans String.empty_append
  refine ⟨whole, ?_⟩
  rw [all, lines]
  rfl

end GatewaySim
