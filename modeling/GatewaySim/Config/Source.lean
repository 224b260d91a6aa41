import GatewaySim.Config.Environment
import GatewaySim.Config.JsonSource
import GatewaySim.Toml.Reader

/-! # Sources of a configuration

A configuration is put together from sources, each laid over those before it: TOML and JSON texts,
and the variables of the environment.
-/

namespace GatewaySim.Config

inductive Source where
  | toml (origin : Option Origin) (text : String)
  | json (origin : Option Origin) (text : String)
  | environment (pairs : List (String × String))
  deriving DecidableEq, Repr

def Source.entries : Source → Except Error Entries
  | .toml origin text =>
    match Toml.read origin text with
    | some entries => .ok entries
    | none => .error .malformed
  | .json origin text => JsonSource.read origin text
  | .environment pairs => .ok (Environment.read pairs)

def ofSources (sources : List Source) : Except Error Config :=
  sources.foldlM (fun config source => do return config.addEntries (← source.entries)) {}

end GatewaySim.Config
