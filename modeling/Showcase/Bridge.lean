import Showcase.Event
import Showcase.Log

/-!
# The event bridge

Demo sections report to a bridge, and the bridge passes the event on to the one observer
that is registered. It does not keep the observer alive: once the observer is gone, events
go unheard. An observer handles one event at a time, and while it is busy with one it is
not given another; so an observer that reports an event of its own while it handles one
never hears it.
-/

namespace Showcase

/-- An observer that can be registered. -/
structure Observer where
  /-- Whether it reports every event again while it handles it. -/
  echoes : Bool
  alive : Bool := true
  seen : List SectionEvent := []
  deriving DecidableEq, Repr, Inhabited

/-- A bridge and the observers it may be connected to. -/
structure Bridge where
  observers : Array Observer
  /-- The position of the registered observer. -/
  registered : Option Nat := none
  deriving DecidableEq, Repr, Inhabited

namespace Bridge

def ofObservers (observers : List Observer) : Bridge :=
  { observers := observers.toArray }

/-- Whether the observer at a position exists and is alive. -/
def isAlive (b : Bridge) (i : Nat) : Bool :=
  (b.observers[i]?).any (·.alive)

def isConnected (b : Bridge) : Bool :=
  b.registered.any b.isAlive

/-- Registers an observer in place of any other, provided that it is alive. -/
def register (b : Bridge) (i : Nat) : Bridge :=
  if b.isAlive i then { b with registered := some i } else b

def registeredLog : List LogEntry :=
  [⟨.debug, "demo observer registered"⟩]

def registerLog (b : Bridge) (i : Nat) : List LogEntry :=
  if b.isAlive i then registeredLog else []

def unregister (b : Bridge) : Bridge :=
  { b with registered := none }

def unregisterLog (b : Bridge) : List LogEntry :=
  if b.registered.isSome then [⟨.debug, "demo observer unregistered"⟩] else []

def drop (b : Bridge) (i : Nat) : Bridge :=
  { b with observers := b.observers.modify i fun o => { o with alive := false } }

/-- What becomes of an event. -/
inductive Delivery
  | unheard
  | refused
  /-- The observer at a position is given the event. -/
  | given (observer : Nat)
  deriving DecidableEq, Repr

/-- Where an event goes while the observers `busy` are busy. -/
def reach (b : Bridge) (busy : List Nat) : Delivery :=
  match b.registered with
  | none => .unheard
  | some i => if !b.isAlive i then .unheard else if i ∈ busy then .refused else .given i

/-- What becomes of an event, and then of the same event reported again by an observer that
is busy with it. -/
def deliveries (b : Bridge) (busy : List Nat) : List Delivery :=
  match b.reach busy with
  | .given i =>
    .given i :: if (b.observers[i]?).any (·.echoes) then [b.reach (i :: busy)] else []
  | d => [d]

def receive (e : SectionEvent) (b : Bridge) : Delivery → Bridge
  | .given i =>
    { b with observers := b.observers.modify i fun o => { o with seen := o.seen ++ [e] } }
  | _ => b

/-- Reports an event while the observers `busy` are busy. -/
def emit (b : Bridge) (busy : List Nat) (e : SectionEvent) : Bridge :=
  (b.deliveries busy).foldl (receive e) b

def emitLog (b : Bridge) (busy : List Nat) (e : SectionEvent) : List LogEntry :=
  (b.deliveries busy).filterMap fun
    | .unheard => some ⟨.trace, s!"no demo observer for {e.describe}"⟩
    | .refused => some ⟨.debug, s!"dropped re-entrant demo event {e.describe}"⟩
    | .given _ => none

end Bridge

/-- A step of what happens around a bridge. -/
inductive BridgeStep
  | register (observer : Nat)
  | unregister
  | drop (observer : Nat)
  /-- An event is reported while some observers are busy. -/
  | emit (busy : List Nat) (event : SectionEvent)
  deriving DecidableEq, Repr, Inhabited

namespace Bridge

/-- Whether a step can be taken. Only registering can fail, for want of a live observer. -/
def allows (b : Bridge) : BridgeStep → Bool
  | .register i => b.isAlive i
  | _ => true

def perform (b : Bridge) : BridgeStep → Bridge
  | .register i => b.register i
  | .unregister => b.unregister
  | .drop i => b.drop i
  | .emit busy e => b.emit busy e

def performLog (b : Bridge) : BridgeStep → List LogEntry
  | .register i => b.registerLog i
  | .unregister => b.unregisterLog
  | .drop _ => []
  | .emit busy e => b.emitLog busy e

def run (b : Bridge) (steps : List BridgeStep) : Bridge :=
  steps.foldl perform b

def describe (connected : Bool) : String :=
  s!"DemoBridge \x7b connected: {connected} \x7d"

end Bridge

end Showcase
