import GatewaySim.Report.Statistics
import GatewaySim.Report.Trace

/-! # Instruments

The console and the statistics that observe a bus.
-/

namespace GatewaySim

structure Instruments where
  console : Console := {}
  statistics : Statistics := {}
  deriving DecidableEq, Repr

namespace Instruments

def trace (instruments : Instruments) (event : Event) : Instruments :=
  { instruments with console := instruments.console.report event }

def watch (instruments : Instruments) (event : Event) : Instruments :=
  { instruments with statistics := instruments.statistics.count event }

def heading (instruments : Instruments) (name : String) : Instruments :=
  { instruments with console := instruments.console.heading name }

def flush (instruments : Instruments) : String × Instruments :=
  let (written, console) := instruments.console.flush
  (written, { instruments with console })

end Instruments

end GatewaySim
