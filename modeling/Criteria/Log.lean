/-!
# Log records

A record has a level, a target and a message. Targets are names whose segments are joined by `::`,
and a filter lets records through up to a level.
-/

namespace Criteria.Log

inductive Level where
  | error
  | warn
  | info
  | debug
  | trace
deriving DecidableEq, Repr

namespace Level

def verbosity : Level → Nat
  | error => 1
  | warn => 2
  | info => 3
  | debug => 4
  | trace => 5

def text : Level → String
  | error => "ERROR"
  | warn => "WARN"
  | info => "INFO"
  | debug => "DEBUG"
  | trace => "TRACE"

end Level

structure Record where
  level : Level
  target : String
  message : String
deriving DecidableEq, Repr

def Record.text (r : Record) : String :=
  "[" ++ r.level.text ++ "] " ++ r.target ++ " - " ++ r.message

/-- The most verbose level that passes, or none if nothing does. -/
abbrev Filter := Option Level

namespace Filter

def verbosity (f : Filter) : Nat := f.elim 0 Level.verbosity

def admits (f : Filter) (level : Level) : Bool := level.verbosity ≤ f.verbosity

def max (f g : Filter) : Filter := if f.verbosity < g.verbosity then g else f

/-- The filter of a setting, which may be missing. Letter case does not matter, and what is not the
name of a level lets information through. -/
def ofSetting (setting : Option String) : Filter :=
  match (setting.getD "info").toList.map Char.toLower with
  | ['o', 'f', 'f'] => none
  | ['e', 'r', 'r', 'o', 'r'] => some .error
  | ['w', 'a', 'r', 'n'] => some .warn
  | ['d', 'e', 'b', 'u', 'g'] => some .debug
  | ['t', 'r', 'a', 'c', 'e'] => some .trace
  | _ => some .info

end Filter

def rejection : String := "rejected pattern:"

def elapsedMark : String := "\"elapsed_us\":"

def zeroElapsed (text : String) : String :=
  match text.toList with
  | [] => text
  | c :: rest => if c.isDigit then String.ofList ('0' :: rest.dropWhile Char.isDigit) else text

/-- A message as it is shown: without the reason of a rejection and without measured times. -/
def shown (message : String) : String :=
  let kept :=
    match message.splitOn rejection with
    | first :: _ :: _ => first ++ rejection
    | _ => message
  match kept.splitOn elapsedMark with
  | first :: rest => elapsedMark.intercalate (first :: rest.map zeroElapsed)
  | [] => kept

def Record.shown (r : Record) : Record := { r with message := Log.shown r.message }

def evaluationTarget : String := "docmatch::eval"

def traceTarget : String := "docmatch::trace"

def metricsTarget : String := "docmatch::metrics"

def segments : List Char → List (List Char)
  | ':' :: ':' :: rest => [] :: segments rest
  | c :: rest =>
    match segments rest with
    | first :: more => (c :: first) :: more
    | [] => [[c]]
  | [] => [[]]

def isBelow (target ancestor : String) : Bool :=
  (segments ancestor.toList).isPrefixOf (segments target.toList)

end Criteria.Log
