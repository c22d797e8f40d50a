import TextLog.Session

/-!
# Dispatching

Events go through a dispatcher to its active logger, if it has one.

Activation by default assumes the standard output: a prepared logger with
another sink is refused with a diagnostic, and nothing else happens. A logger
for a given stream, or any logger at all, can be made active by other means.

The place of an event in the source can be given by the caller; the parts that
are left out are taken from the stack of callers, but only when the event is
going to be logged.

A dispatcher has a method for each severity. Whatever the dispatcher that is there
from the start can do can be called without naming it. The shortcuts to its methods
take no level: they are not meant to be wrapped.

## Main definitions

* `Action.activate`: Activation by default.
* `Action.activateStream`: Activation of a logger for a stream.
* `Action.assignLogger`: Any logger, or none, is made active.
* `Action.dispatch`: An event goes through a dispatcher.
* `Session.isLogging`: Whether a dispatcher lets a severity through.
* `DispatcherId.method?`: The method of a dispatcher with a name.
* `Shortcut.named?`: The shortcut with a name.
-/

namespace TextLog

/-- A place in the source. -/
structure CallSite where
  function : Value
  line : Value
  file : Value

/-- The parts of a place that a caller gives. -/
structure GivenSite where
  function : Option Value
  line : Option Value
  file : Option Value

namespace GivenSite

/-- The place, if no part is missing. -/
def complete? (g : GivenSite) : Option CallSite := do
  return ⟨← g.function, ← g.line, ← g.file⟩

/-- The place, the missing parts taken from the stack of callers at a level
    counted from one. -/
def resolve (g : GivenSite) (level : Nat) (stack : List CallSite) : Except Failure CallSite :=
  match g.complete? with
  | some site => .ok site
  | none =>
    match stack[level - 1]? with
    | some c => .ok ⟨g.function.getD c.function, g.line.getD c.line, g.file.getD c.file⟩
    | none => .error .shallowStack

end GivenSite

/-- What is said when a prepared logger is refused. -/
def refusalDiagnostic (l : Logger) : Diagnostic where
  event := "Unable to activate a logger bound to a custom sink through use(). " ++
    "Use Dispatcher.use_stream() or assign Dispatcher.logger instead."
  level := "warning"
  sink := l.sink.kind

namespace Session

/-- A dispatcher lets events of a severity through. -/
def isLogging (s : Session) (id : DispatcherId) (severity : Severity) : Bool :=
  match s.activeLogger? id with
  | some l => l.isLogging severity
  | none => false

end Session

namespace Action

/-- Makes a logger, or none, the active one of a dispatcher. -/
def assignLogger (id : DispatcherId) (l : Option LoggerId) : Action Unit :=
  modify fun s => { s with dispatchers := s.dispatchers.setIfInBounds id.index ⟨l⟩ }

/-- Switches the standard output to writing through. -/
def unbufferStdout : Action Unit :=
  modify fun s => { s with stdout := s.stdout.unbuffer }

/-- Activates a prepared logger, or a new one for the standard output with a
    threshold. The answer is whether it was activated. -/
def activate (id : DispatcherId) (threshold : Value) (prepared : Option LoggerId) :
    Action Bool := do
  match prepared with
  | none =>
    let new ← makeLogger threshold .stdout {}
    unbufferStdout
    assignLogger id (some new)
    return true
  | some given =>
    let l ← logger given
    if l.sink.isDefault then
      unbufferStdout
      assignLogger id (some given)
      return true
    else
      modify fun s => { s with diagnostics := s.diagnostics ++ [refusalDiagnostic l] }
      return false

/-- Activates a new logger for a stream. -/
def activateStream (id : DispatcherId) (target : SinkTarget) (threshold : Value) :
    Action LoggerId := do
  let sink ← ofExcept target.toSink
  let new ← makeLogger threshold sink {}
  assignLogger id (some new)
  return new

/-- An event goes through a dispatcher. -/
def dispatch (id : DispatcherId) (severity : Severity) (message : Value) (given : GivenSite)
    (level : Nat) (stack : List CallSite) : Action Unit := do
  let s ← get
  match s.active? id, s.isLogging id severity with
  | some active, true =>
    -- The stack is only looked at now, so a shallow one does no harm before.
    let site ← ofExcept (given.resolve level stack)
    logEvent active ⟨severity, message, site.function, site.line, site.file⟩ []
  | _, _ => pure ()

end Action

/-- What is called for one severity: with a message, the parts of the place that
    are given, a level, and the stack of callers, whose first is that of the
    method. A method passes over itself. -/
abbrev Method := Value → GivenSite → Nat → List CallSite → Action Unit

namespace DispatcherId

/-! The methods of a dispatcher. -/

def entry (d : DispatcherId) : Method :=
  Action.dispatch d .entry

def exit (d : DispatcherId) : Method :=
  Action.dispatch d .exit

def trace (d : DispatcherId) : Method :=
  Action.dispatch d .trace

def debug (d : DispatcherId) : Method :=
  Action.dispatch d .debug

def verbose (d : DispatcherId) : Method :=
  Action.dispatch d .verbose

def info (d : DispatcherId) : Method :=
  Action.dispatch d .info

def notice (d : DispatcherId) : Method :=
  Action.dispatch d .notice

def warning (d : DispatcherId) : Method :=
  Action.dispatch d .warning

def error (d : DispatcherId) : Method :=
  Action.dispatch d .error

def critical (d : DispatcherId) : Method :=
  Action.dispatch d .critical

/-- The method with a name. -/
def method? (d : DispatcherId) : String → Option Method
  | "entry" => some d.entry
  | "exit" => some d.exit
  | "trace" => some d.trace
  | "debug" => some d.debug
  | "verbose" => some d.verbose
  | "info" => some d.info
  | "notice" => some d.notice
  | "warning" => some d.warning
  | "error" => some d.error
  | "critical" => some d.critical
  | _ => none

/-- The methods are named for the severities, in small letters, and each of them
    is dispatching with its own. -/
theorem method?_lower (d : DispatcherId) (s : Severity) :
    d.method? (Text.lower s.description) = some (Action.dispatch d s) := by
  cases s <;> rfl

end DispatcherId

/-- What is called for one severity on the dispatcher that is there from the
    start: with a message, the parts of the place that are given, and the stack of
    callers, whose first is that of the shortcut. -/
abbrev Shortcut := Value → GivenSite → List CallSite → Action Unit

namespace Shortcut

/-- Activation by default. -/
def activate : Value → Option LoggerId → Action Bool :=
  Action.activate Session.defaultDispatcher

/-- Activation of a logger for a stream. -/
def activateStream : SinkTarget → Value → Action LoggerId :=
  Action.activateStream Session.defaultDispatcher

/-- Any logger, or none, is made active. -/
def assignLogger : Option LoggerId → Action Unit :=
  Action.assignLogger Session.defaultDispatcher

/-- The reference to the active logger. -/
def active? (s : Session) : Option LoggerId :=
  s.active? Session.defaultDispatcher

/-- Events of a severity are let through. -/
def isLogging (s : Session) : Severity → Bool :=
  s.isLogging Session.defaultDispatcher

/-- The shortcut to a method, which passes over itself, too: the place of an event is
    that of its caller. -/
def ofMethod (m : DispatcherId → Method) : Shortcut := fun message given stack =>
  m Session.defaultDispatcher message given 1 stack

def entry : Shortcut :=
  ofMethod DispatcherId.entry

def exit : Shortcut :=
  ofMethod DispatcherId.exit

def trace : Shortcut :=
  ofMethod DispatcherId.trace

def debug : Shortcut :=
  ofMethod DispatcherId.debug

def verbose : Shortcut :=
  ofMethod DispatcherId.verbose

def info : Shortcut :=
  ofMethod DispatcherId.info

def notice : Shortcut :=
  ofMethod DispatcherId.notice

def warning : Shortcut :=
  ofMethod DispatcherId.warning

def error : Shortcut :=
  ofMethod DispatcherId.error

def critical : Shortcut :=
  ofMethod DispatcherId.critical

/-- The shortcut with a name. -/
def named? : String → Option Shortcut
  | "entry" => some entry
  | "exit" => some exit
  | "trace" => some trace
  | "debug" => some debug
  | "verbose" => some verbose
  | "info" => some info
  | "notice" => some notice
  | "warning" => some warning
  | "error" => some error
  | "critical" => some critical
  | _ => none

/-- The shortcuts have the names of the methods, and each of them is dispatching with
    the severity of its name. -/
theorem named?_lower (s : Severity) :
    named? (Text.lower s.description) =
      some (ofMethod fun d => Action.dispatch d s) := by
  cases s <;> rfl

end Shortcut

end TextLog
