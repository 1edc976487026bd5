import Criteria.Log.Files
import Criteria.Log.Variables
import Criteria.Number.Numeral

/-!
# Routing of log records

Loggers are named after targets and decide about the records of these targets and of those below
them. Of several loggers the one with the longest name decides; what it lets through goes to its own
files, and on to those of the logger above it as long as loggers hand records on. One logger has no
name and stands above all others. What has been installed once stays.
-/

namespace Criteria.Log

structure Logger where
  name : String
  filter : Filter
  files : List Place := []
  handsOn : Bool := true
deriving DecidableEq, Repr

namespace Logger

def covers (l : Logger) (target : String) : Bool := isBelow target l.name

def depth (l : Logger) : Nat := (segments l.name.toList).length

end Logger

structure Routing where
  filter : Filter
  files : List Place
  loggers : List Logger
  /-- How many full files are kept beside each file that is being written. -/
  keep : UInt32
deriving DecidableEq, Repr

namespace Routing

def chain (r : Routing) (target : String) : List Logger :=
  (r.loggers.filter fun l => l.covers target).mergeSort fun a b => b.depth ≤ a.depth

def filterFor (r : Routing) (target : String) : Filter :=
  ((r.chain target).head?.map Logger.filter).getD r.filter

/-- The files that records reach along a chain. -/
def filesAlong (r : Routing) : List Logger → List Place
  | [] => r.files
  | l :: above => l.files ++ if l.handsOn then filesAlong r above else []

def enabled (r : Routing) (target : String) (level : Level) : Bool :=
  (r.filterFor target).admits level

def mostVerbose (r : Routing) : Filter := r.loggers.foldl (fun f l => f.max l.filter) r.filter

def destinations (r : Routing) (record : Record) : List Place :=
  if r.enabled record.target record.level then r.filesAlong (r.chain record.target) else []

end Routing

structure Settings where
  directory : Option String := none
  level : Option String := none
  retention : Option UInt64 := none
  traces : Bool := false
deriving DecidableEq, Repr

namespace Settings

def ofEnvironment (environment : List (String × String)) : Settings where
  directory := environment.lookup "DOCMATCH_LOG_DIR"
  level := environment.lookup "DOCMATCH_LOG_LEVEL"
  retention := (environment.lookup "DOCMATCH_LOG_RETENTION").bind fun s => readUInt64? s.toList
  traces :=
    let setting := (environment.lookup "DOCMATCH_TRACE").map fun s => s.toList.map Char.toLower
    setting == some ['1'] || setting == some ['t', 'r', 'u', 'e'] || setting == some ['y', 'e', 's']

end Settings

structure Logging where
  installed : Option Routing := none
  /-- Records above it are dropped before they are routed. -/
  ceiling : Filter := none
  files : FileTree := {}

namespace Logging

def admits (l : Logging) (level : Level) : Bool := l.ceiling.admits level

def enabled (l : Logging) (target : String) (level : Level) : Bool :=
  l.admits level && l.installed.any fun r => r.enabled target level

def destinations (l : Logging) (record : Record) : List Place :=
  if l.admits record.level then (l.installed.map fun r => r.destinations record).getD [] else []

def write (l : Logging) (record : Record) : Logging :=
  { l with files := (l.destinations record).foldl (fun t place => t.append record place) l.files }

def pathOf (environment : List (String × String)) (s : Settings) (name : String) : String :=
  expand environment (Path.join (s.directory.getD "") name)

/-- The loggers of settings. Counters and traces have loggers of their own, which hand nothing on.
Traces are off unless they are asked for, and then they pass at every level. -/
def routingOf (environment : List (String × String)) (s : Settings) : Routing :=
  let filter := Filter.ofSetting s.level
  let file := fun name => Path.place (pathOf environment s name)
  let metrics : Logger :=
    { name := metricsTarget, filter, files := [file "metrics.log"], handsOn := false }
  let traces : Logger :=
    if s.traces then
      { name := traceTarget, filter := some .trace, files := [file "trace.log"], handsOn := false }
    else { name := traceTarget, filter := none, handsOn := false }
  { filter, files := [file "app.log"], loggers := [metrics, traces]
    keep := UInt32.ofNatClamp (s.retention.getD 7).toNat }

def namesOf (s : Settings) : List String :=
  ["app.log", "metrics.log"] ++ if s.traces then ["trace.log"] else []

def prepare (environment : List (String × String)) (s : Settings) (t : FileTree) :
    FileTree × Bool :=
  match t.makePath (s.directory.getD "") with
  | (t, false) => (t, false)
  | (t, true) => t.openPaths ((namesOf s).map (pathOf environment s))

/-- Configures logging and says whether that worked. It works only once. A later attempt that gets
as far as its files leaves them behind, and moves the ceiling. -/
def configure (l : Logging) (environment : List (String × String)) (s : Settings) :
    Bool × Logging :=
  match prepare environment s l.files with
  | (files, false) => (false, { l with files := files })
  | (files, true) =>
    let routing := routingOf environment s
    let ceiling := routing.mostVerbose
    match l.installed with
    | some _ => (false, { l with ceiling := ceiling, files := files })
    | none => (true, { installed := some routing, ceiling := ceiling, files := files })

end Logging

end Criteria.Log
