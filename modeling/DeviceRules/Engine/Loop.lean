import DeviceRules.Engine.Tick

/-! The loop that ticks until it is stopped. Whoever started it holds a handle, and may ask it to stop or let the
handle go. The request is a flag that the loop looks at between two ticks; a tick is never broken off. A pause is
cut short by the first request and by the loss of the handle. -/
namespace DeviceRules

inductive LoopPhase
  | checking
  | ticking
  | pausing
  | exited
  deriving DecidableEq, Repr

structure Loop where
  phase : LoopPhase
  stopRequested : Bool
  handleDropped : Bool
  deriving DecidableEq, Repr

/-- What can happen to the loop, by its own doing or by that of the holder of the handle. -/
inductive LoopMove
  | stop
  | drop
  | check
  | tickEnded (result : Except Outage TickReport)
  | pauseOver
  /-- The pause is cut short by the holder of the handle. -/
  | woken

namespace Loop

def start : Loop := ⟨.checking, false, false⟩

/-- The loop after a move, if the move is possible. A loop that is woken looks at the flag once more if it was
asked to stop, and leaves at once if the handle was lost without that. -/
def move? (loop : Loop) : LoopMove → Option Loop
  | .stop => if loop.handleDropped then none else some { loop with stopRequested := true }
  | .drop => if loop.handleDropped then none else some { loop with handleDropped := true }
  | .check =>
      if loop.phase = .checking then
        some { loop with phase := if loop.stopRequested then .exited else .ticking }
      else none
  | .tickEnded _ => if loop.phase = .ticking then some { loop with phase := .pausing } else none
  | .pauseOver => if loop.phase = .pausing then some { loop with phase := .checking } else none
  | .woken =>
      if loop.phase = .pausing then
        if loop.stopRequested then some { loop with phase := .checking }
        else if loop.handleDropped then some { loop with phase := .exited }
        else none
      else none

/-- Whether the holder of the handle has cut the pause short. -/
def isWoken (loop : Loop) : Bool := loop.stopRequested || loop.handleDropped

def isRunning (loop : Loop) : Bool := loop.phase != .exited

/-- The loop after some moves, if each was possible. -/
def run? (loop : Loop) : List LoopMove → Option Loop
  | [] => some loop
  | move :: rest => (loop.move? move).bind fun next => next.run? rest

end Loop

end DeviceRules
