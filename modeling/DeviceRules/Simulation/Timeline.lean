import DeviceRules.Engine.Loop
import DeviceRules.Simulation.World

/-! A run of the loop in simulated time. An observer lets time pass and looks at the loop in between. When
something falls due at the very moment at which the observer looks, the observer comes first. -/
namespace DeviceRules

structure Timeline where
  /-- Milliseconds since the start. -/
  now : Nat
  loop : Loop
  /-- When the loop is done with what it is doing. -/
  due : Nat
  scene : Scene World
  /-- The time that the world has come to. -/
  reached : Nat
  /-- What the tick in progress, or the last one, comes to. -/
  result : Except Outage TickReport
  ticks : Nat
  past : List Event
  /-- What is already certain to happen, and when. -/
  coming : List (Nat × Event)

namespace Timeline

/-- The loop at its start. It does nothing before the observer lets time pass. -/
def start (scene : Scene World) : Timeline where
  now := 0
  loop := .start
  due := 0
  scene := scene
  reached := 0
  result := .ok (.ofVerdicts 0 0 [])
  ticks := 0
  past := []
  coming := [(0, .engineStarted)]

def duration : Event → Nat
  | .attempted (.wait d) => World.pauseMillis d
  | _ => 0

def totalDuration (events : List Event) : Nat := events.foldr (fun event time => duration event + time) 0

/-- Events with the times at which they happen, the first of them at `time`. -/
def stamped (time : Nat) : List Event → List (Nat × Event)
  | [] => []
  | event :: rest => (time, event) :: stamped (time + duration event) rest

/-- Carries out a tick in a world that is brought up to the time first. -/
def beginTick (settings : EngineSettings) (t : Timeline) : Timeline :=
  let run := World.surroundings.tick settings
    { t.scene with world := t.scene.world.pass (t.due - t.reached) }
  let events := match run.value with
    | .ok _ => run.events
    | .error outage => run.events ++ [.tickSkipped outage]
  let stop := t.due + totalDuration run.events
  { t with
    due := stop, scene := run.world, reached := stop, result := run.value, ticks := t.ticks + 1
    coming := t.coming ++ stamped t.due events }

def nextMove (t : Timeline) : Option LoopMove :=
  match t.loop.phase with
  | .checking => some .check
  | .ticking => some (.tickEnded t.result)
  | .pausing => some (if t.loop.isWoken then .woken else .pauseOver)
  | .exited => none

/-- The timeline after the loop has gone over to `loop`. -/
def enter (settings : EngineSettings) (t : Timeline) (loop : Loop) : Timeline :=
  let t := { t with loop }
  match loop.phase with
  | .checking => t
  | .ticking => t.beginTick settings
  | .pausing => if loop.isWoken then t else { t with due := t.due + World.pauseMillis settings.tickInterval }
  | .exited => { t with coming := t.coming ++ [(t.due, .engineStopped)] }

/-- Lets the loop do what falls due before `limit`, at most `fuel` things. -/
def proceed (settings : EngineSettings) (limit : Nat) : Nat → Timeline → Timeline
  | 0, t => t
  | fuel + 1, t =>
      if t.due < limit then
        match t.nextMove.bind t.loop.move? with
        | some loop => proceed settings limit fuel (t.enter settings loop)
        | none => t
      else t

/-- Takes what happens before `limit` as having happened. -/
def settleEvents (limit : Nat) (t : Timeline) : Timeline :=
  { t with
    past := t.past ++ (t.coming.filter (·.1 < limit)).map (·.2)
    coming := t.coming.filter (limit ≤ ·.1) }

/-- Lets time pass. A round of the loop has three moves and lasts a millisecond or more. -/
def sleep (settings : EngineSettings) (millis : Nat) (t : Timeline) : Timeline :=
  let limit := t.now + millis
  let t := (t.proceed settings limit (3 * millis + 6)).settleEvents limit
  { t with now := limit }

/-- A move of the observer. One that ends a pause does so at once. -/
def act (move : LoopMove) (t : Timeline) : Timeline :=
  match t.loop.move? move with
  | some loop => { t with loop, due := if t.loop.phase = .pausing then min t.due t.now else t.due }
  | none => t

/-- Asks the loop to stop and waits until it has exited. -/
def shutdown (settings : EngineSettings) (t : Timeline) : Timeline :=
  let t := t.act .stop
  let t := t.proceed settings (t.due + 1) 4
  { t with past := t.past ++ t.coming.map (·.2), coming := [], now := max t.now t.due }

end Timeline

end DeviceRules
