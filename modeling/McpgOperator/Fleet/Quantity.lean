import McpgOperator.Gateway.AuthorizationServer
import McpgOperator.Lib.Decimal

/-!
# Quantities the fleet agent reads

`parse_cpu_millicores` and `parse_memory_bytes` of `fleet_agent.rs`: what a
node can allocate and what a container requests, as numbers. A text that is not
understood counts as zero.
-/

namespace McpgOperator.Fleet

open McpgOperator.Text McpgOperator.Gateway Decimal

def parseCpuMillicores (q : String) : Int :=
  let q := trimMatches isWhitespace q.toList
  match stripSuffix ['m'] q with
  | some m => ((parse m).map F64.toI64).getD 0
  | none => ((parse q).map fun v => (v.scale 1000).toI64).getD 0

/-- `UNITS`; the binary forms are first. -/
def units : List (String × Int) :=
  [("Ki", 2 ^ 10), ("Mi", 2 ^ 20), ("Gi", 2 ^ 30), ("Ti", 2 ^ 40),
    ("Pi", 2 ^ 50), ("k", 1000), ("K", 1000), ("M", 1000000),
    ("G", 1000000000), ("T", 1000000000000)]

/-- What the first unit that fits leaves, and the unit. -/
def stripUnit (q : List Char) : Option (List Char × Int) :=
  units.findSome? fun u =>
    (stripSuffix u.1.toList q).map fun v => (v, u.2)

def parseMemoryBytes (q : String) : Int :=
  let q := trimMatches isWhitespace q.toList
  match stripUnit q with
  | some (v, mult) => ((parse v).map fun n => (n.scale mult).toI64).getD 0
  | none => ((parse q).map F64.toI64).getD 0

end McpgOperator.Fleet
