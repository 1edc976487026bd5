import Criteria.Host
import Criteria.Operator.Library

/-!
# Sessions

A session is a list of steps on a host and on registries of its own, each of which gives one answer.
Captures, recordings and threads hold steps themselves. Registries are values: a copy does not
follow its model.
-/

namespace Criteria

inductive RegistryName where
  | shared
  | own (name : String)
deriving DecidableEq, Repr

inductive Source where
  | empty
  | builtin
  | copy (name : RegistryName)
deriving DecidableEq, Repr

inductive Step where
  | create (name : String) (source : Source)
  | register (registry : RegistryName) (name : String) (op : Operator)
  | unregister (registry : RegistryName) (name : String)
  | extend (registry : RegistryName) (name : String) (op : Operator) (into : String)
  | get (registry : RegistryName) (name : String)
  | contains (registry : RegistryName) (name : String)
  | names (registry : RegistryName)
  | size (registry : RegistryName)
  | isEmpty (registry : RegistryName)
  | show (registry : RegistryName)
  | reset
  | decide (registry : RegistryName) (query object : Document)
  | evaluate (registry : RegistryName) (operator : String) (body : Value) (object : Document)
  | counters
  | countersText
  | logCounters
  | setThreshold (us : UInt64)
  | threshold
  | defaultThreshold
  | capture (steps : List Step)
  | isCapturing
  | emit (line : String)
  | thread (registry : RegistryName) (query object : Document)
  | record (steps : List Step)
  | configure (settings : Log.Settings)
  | configureFromEnvironment
  | start
  /-- Configures logging from a file, which is never there. -/
  | configureFromFile
  | log (level : Log.Level) (target line : String)

inductive Answer where
  | nothing
  | done (worked : Bool)
  | flag (value : Bool)
  | number (value : Nat)
  | microseconds (value : UInt64)
  | text (value : String)
  | texts (values : List String)
  | operator (op : Option Operator)
  | replaced (op : Option Operator)
  | outcome (value : Outcome)
  | givenUp
  | counters (values : List UInt64)
  | captured (answers : List Answer) (lines : List String)
  | threadOutcome (capturing : Bool) (value : Outcome)
  | recorded (answers : List Answer) (records : List Log.Record)
  | noRegistry
deriving Inhabited

structure Session where
  host : Host
  registries : List (String × Registry) := []

namespace Session

def put (s : Session) (name : String) (r : Registry) : Session :=
  { s with registries := (name, r) :: s.registries.filter fun entry => entry.1 != name }

def find (s : Session) : RegistryName → Option Registry × Session
  | .shared =>
    match s.host.useShared with
    | (r, h) => (some r, { s with host := h })
  | .own name => (s.registries.lookup name, s)

def replace (s : Session) (name : RegistryName) (r : Registry) : Session :=
  match name with
  | .shared => { s with host := { s.host with shared := some r } }
  | .own name => s.put name r

def onHost (s : Session) (change : Host → Host) : Session := { s with host := change s.host }

def ask (s : Session) (name : RegistryName) (question : Registry → Answer) : Answer × Session :=
  match s.find name with
  | (some r, s) => (question r, s)
  | (none, s) => (.noRegistry, s)

def create (s : Session) (name : String) : Source → Answer × Session
  | .empty => (.number 0, s.put name .empty)
  | .builtin => (.number Registry.builtin.size, (s.onHost Host.reportBuiltin).put name .builtin)
  | .copy source =>
    match s.find source with
    | (some r, s) => (.number r.size, s.put name r)
    | (none, s) => (.noRegistry, s)

def register (s : Session) (registry : RegistryName) (name : String) (op : Operator) :
    Answer × Session :=
  match s.find registry with
  | (some r, s) =>
    let reported := s.onHost fun h => h.reportInsert name op
    (.replaced (r.get? name), reported.replace registry (r.insert name op))
  | (none, s) => (.noRegistry, s)

def unregister (s : Session) (registry : RegistryName) (name : String) : Answer × Session :=
  match s.find registry with
  | (some r, s) => (.replaced (r.get? name), s.replace registry (r.erase name))
  | (none, s) => (.noRegistry, s)

def extend (s : Session) (registry : RegistryName) (name : String) (op : Operator) (into : String) :
    Answer × Session :=
  match s.find registry with
  | (some r, s) =>
    let extended := r.insert name op
    (.texts extended.names, (s.onHost fun h => h.reportInsert name op).put into extended)
  | (none, s) => (.noRegistry, s)

/-- Moves the host with a registry; the move has an outcome unless it is given up. -/
def move (s : Session) (name : RegistryName) (shown : Outcome → Answer)
    (change : Host → Registry → Option Outcome × Host) : Answer × Session :=
  match s.find name with
  | (some r, s) =>
    match change s.host r with
    | (result, h) => (result.elim .givenUp shown, { s with host := h })
  | (none, s) => (.noRegistry, s)

def decide (s : Session) (registry : RegistryName) (query object : Document) (elapsed : UInt64) :
    Answer × Session :=
  s.move registry .outcome fun h r => h.decide r query object elapsed

def setUp (s : Session) (change : Host → Bool × Host) : Answer × Session :=
  match change s.host with
  | (worked, h) => (.done worked, { s with host := h })

def capturing {α : Type} (s : Session) (body : Session → α × Session) :
    (α × List String) × Session :=
  let before := s.host.captured
  let inner := body (s.onHost Host.beginCapture)
  let ended := inner.2.host.endCapture before
  ((inner.1, ended.1), { inner.2 with host := ended.2 })

/-- Carries something out on a thread of its own, whose captures are its own, and waits for it. -/
def onThread {α : Type} (s : Session) (body : Session → α × Session) : α × Session :=
  let inner := body (s.onHost Host.enterThread)
  (inner.1, inner.2.onHost fun h => h.leaveThread s.host.captured)

def decideOnThread (s : Session) (registry : RegistryName) (query object : Document) :
    Answer × Session :=
  s.move registry (.threadOutcome s.host.isCapturing) fun h r => h.decide r query object 0

mutual

def step (s : Session) : Step → Answer × Session
  | .create name source => s.create name source
  | .register registry name op => s.register registry name op
  | .unregister registry name => s.unregister registry name
  | .extend registry name op into => s.extend registry name op into
  | .get registry name => s.ask registry fun r => .operator (r.get? name)
  | .contains registry name => s.ask registry fun r => .flag (r.contains name)
  | .names registry => s.ask registry fun r => .texts r.names
  | .size registry => s.ask registry fun r => .number r.size
  | .isEmpty registry => s.ask registry fun r => .flag r.isEmpty
  | .show registry => s.ask registry fun r => .text r.text
  | .reset => (.nothing, s.onHost Host.resetShared)
  | .decide registry query object => s.decide registry query object 0
  | .evaluate registry operator body object =>
    s.move registry .outcome fun h r => h.evaluate r operator body object
  | .counters => (.counters s.host.counters.toList, s)
  | .countersText => (.text s.host.counters.text, s)
  | .logCounters => (.nothing, s.onHost Host.logCounters)
  | .setThreshold us => (.nothing, s.onHost fun h => { h with threshold := us })
  | .threshold => (.microseconds s.host.threshold, s)
  | .defaultThreshold => (.microseconds s.host.defaultThreshold, s)
  | .capture steps =>
    let ended := s.capturing fun s => run s steps
    (.captured ended.1.1 ended.1.2, ended.2)
  | .isCapturing => (.flag s.host.isCapturing, s)
  | .emit line => (.nothing, s.onHost fun h => h.emit line)
  | .thread registry query object => s.onThread fun s => s.decideOnThread registry query object
  | .record steps =>
    let before := s.host.recorded
    let inner := run (s.onHost fun h => { h with recorded := some [] }) steps
    (.recorded inner.1 ((inner.2.host.recorded.getD []).map Log.Record.shown),
      inner.2.onHost fun h => { h with recorded := before })
  | .configure settings => s.setUp fun h => h.configure settings
  | .configureFromEnvironment => s.setUp fun h => h.configure (.ofEnvironment h.environment)
  | .start => s.setUp Host.start
  | .configureFromFile => (.done false, s)
  | .log level target line => (.nothing, s.onHost fun h => h.log level target line)

def run (s : Session) : List Step → List Answer × Session
  | [] => ([], s)
  | first :: rest =>
    let answered := s.step first
    let following := run answered.2 rest
    (answered.1 :: following.1, following.2)

end

def firstRegistry : String := "r"

def fresh : Session where
  host := { threshold := UInt64.ofNat (Nat.pow 2 64 - 1), shared := some .builtin }
  registries := [(firstRegistry, .builtin)]

def ofEnvironment (environment : List (String × String)) : Session where
  host :=
    { environment := environment
      threshold :=
        match environment.lookup "DOCMATCH_SLOW_MATCH_US" with
        | some setting => Criteria.defaultThreshold setting
        | none => UInt64.ofNat (Nat.pow 2 64 - 1) }
  registries := [(firstRegistry, .builtin)]

def files (s : Session) : List (String × List String) :=
  s.host.logging.files.listing.map fun file => (file.1, file.2.map Log.shown)

end Session

end Criteria
