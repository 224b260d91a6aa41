import GatewaySim.Report.Trace

/-! # Printing on a console

A console that works holds all that has been written to it, one text behind the other; reporting
events one by one writes their lines (`foldl_report`).
-/

namespace GatewaySim.Console

theorem write_write (console : Console) (text more : String) :
    (console.write text).write more = console.write (text ++ more) := by
  unfold write
  by_cases works : console.working <;> simp [works, String.append_assoc]

theorem write_empty (console : Console) : console.write "" = console := by
  unfold write
  split <;> simp

@[simp] theorem working_write (console : Console) (text : String) :
    (console.write text).working = console.working := by
  unfold write
  split <;> rfl

theorem written_write {console : Console} (works : console.working) (text : String) :
    (console.write text).written = console.written ++ text := by
  rw [write, if_pos works]

theorem foldl_report (console : Console) (events : List Event) :
    events.foldl report console = console.write (String.join (events.map Trace.eventText)) := by
  induction events generalizing console with
  | nil => exact (write_empty console).symm
  | cons event rest ih =>
    rw [List.foldl_cons, ih, report, write_write, List.map_cons, String.join_cons]

end GatewaySim.Console
