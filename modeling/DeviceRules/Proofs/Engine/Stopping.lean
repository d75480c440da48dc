import DeviceRules.Engine.Loop
import Mathlib.Data.List.Basic

/-! How the loop comes to its end. A schedule is any order of what the loop does and of what the holder of the handle
does to it. The holder never moves the loop from one phase to another. A loop that was asked to stop has one way out,
along which no tick begins; a loop that was not, and whose handle is held, goes round for ever, whatever its ticks come
to. -/
namespace DeviceRules

/-- Whether the loop makes a move by itself; the other moves are those of the holder of the handle. -/
def LoopMove.isOwn : LoopMove → Bool
  | stop | drop => false
  | check | tickEnded _ | pauseOver | woken => true

namespace LoopPhase

/-- The phases that a loop which was asked to stop still comes to. -/
def wayOut : LoopPhase → List LoopPhase
  | ticking => [pausing, checking, exited]
  | pausing => [checking, exited]
  | checking => [exited]
  | exited => []

/-- The phase that follows in a loop which goes on. -/
def following : LoopPhase → LoopPhase
  | checking => ticking
  | ticking => pausing
  | pausing => checking
  | exited => exited

end LoopPhase

structure LoopStep where
  before : Loop
  move : LoopMove
  after : Loop
  possible : before.move? move = some after

def LoopStep.BeginsTick (step : LoopStep) : Prop := step.before.phase ≠ .ticking ∧ step.after.phase = .ticking

namespace Loop

/-- The steps that lead from one loop to another, one after the other. -/
inductive Steps : Loop → List LoopStep → Loop → Prop
  | refl (loop) : Steps loop [] loop
  | next (step : LoopStep) {later last} (rest : Steps step.after later last) : Steps step.before (step :: later) last

/-- What the loop does by itself in each phase, and the phase that it comes to. -/
inductive Goes (loop : Loop) : LoopMove → LoopPhase → Prop
  | exits (checking : loop.phase = .checking) (asked : loop.stopRequested = true) : Goes loop .check .exited
  | begins (checking : loop.phase = .checking) (free : loop.stopRequested = false) : Goes loop .check .ticking
  | ends {result} (ticking : loop.phase = .ticking) : Goes loop (.tickEnded result) .pausing
  | resumes (pausing : loop.phase = .pausing) : Goes loop .pauseOver .checking
  | wakes (pausing : loop.phase = .pausing) (asked : loop.stopRequested = true) : Goes loop .woken .checking
  | leaves (pausing : loop.phase = .pausing) (free : loop.stopRequested = false) (lost : loop.handleDropped = true) :
      Goes loop .woken .exited

/-- By itself the loop changes its phase only. -/
theorem goes_of_own {loop next : Loop} {move : LoopMove} (own : move.isOwn = true)
    (possible : loop.move? move = some next) :
    Goes loop move next.phase ∧ next = { loop with phase := next.phase } := by
  obtain ⟨phase, asked, lost⟩ := loop
  cases move with
  | stop | drop => contradiction
  | check =>
      simp only [move?] at possible
      split at possible
      · rename_i checking
        cases possible
        cases asked with
        | true => exact ⟨.exits checking rfl, rfl⟩
        | false => exact ⟨.begins checking rfl, rfl⟩
      · contradiction
  | tickEnded result =>
      simp only [move?] at possible
      split at possible
      · rename_i ticking
        cases possible
        exact ⟨.ends ticking, rfl⟩
      · contradiction
  | pauseOver =>
      simp only [move?] at possible
      split at possible
      · rename_i pausing
        cases possible
        exact ⟨.resumes pausing, rfl⟩
      · contradiction
  | woken =>
      simp only [move?] at possible
      split at possible
      · rename_i pausing
        cases asked with
        | true =>
            cases possible
            exact ⟨.wakes pausing rfl, rfl⟩
        | false =>
            cases lost with
            | true =>
                cases possible
                exact ⟨.leaves pausing rfl rfl, rfl⟩
            | false => contradiction
      · contradiction

/-- The holder of the handle sets flags only, and none that is set is taken back. -/
theorem holder_moves {loop next : Loop} {move : LoopMove} (foreign : move.isOwn = false)
    (possible : loop.move? move = some next) :
    next.phase = loop.phase ∧
      ((move = .stop ∧ next.stopRequested = true ∧ next.handleDropped = loop.handleDropped) ∨
        (move = .drop ∧ next.stopRequested = loop.stopRequested ∧ next.handleDropped = true)) := by
  cases move with
  | check | tickEnded result | pauseOver | woken => contradiction
  | stop =>
      simp only [move?] at possible
      split at possible
      · contradiction
      · cases possible
        exact ⟨rfl, .inl ⟨rfl, rfl, rfl⟩⟩
  | drop =>
      simp only [move?] at possible
      split at possible
      · contradiction
      · cases possible
        exact ⟨rfl, .inr ⟨rfl, rfl, rfl⟩⟩

/-- A loop that has not exited can go on. -/
theorem can_go_on {loop : Loop} (running : loop.phase ≠ .exited) :
    ∃ move, move.isOwn = true ∧ (loop.move? move).isSome = true := by
  cases phase : loop.phase with
  | checking => exact ⟨.check, rfl, by simp [move?, phase]⟩
  | ticking => exact ⟨.tickEnded (.ok (.ofVerdicts 0 0 [])), rfl, by simp [move?, phase]⟩
  | pausing => exact ⟨.pauseOver, rfl, by simp [move?, phase]⟩
  | exited => exact absurd phase running

end Loop

namespace LoopStep

variable {step : LoopStep}

/-- Only the end of a tick takes the loop out of it. -/
theorem ticks_on (step : LoopStep) (ticking : step.before.phase = .ticking) :
    step.after.phase = .ticking ∨ ∃ result, step.move = .tickEnded result := by
  cases own : step.move.isOwn with
  | false => exact .inl ((Loop.holder_moves own step.possible).1.trans ticking)
  | true =>
      obtain ⟨goes, -⟩ := Loop.goes_of_own own step.possible
      generalize step.move = move, step.after.phase = phase at goes
      cases goes with
      | ends => exact .inr ⟨_, rfl⟩
      | exits other | begins other | resumes other | wakes other | leaves other =>
          rw [other] at ticking
          contradiction

theorem stopRequested_after (asked : step.before.stopRequested = true) : step.after.stopRequested = true := by
  cases own : step.move.isOwn with
  | true =>
      rw [(Loop.goes_of_own own step.possible).2]
      exact asked
  | false =>
      obtain ⟨-, ⟨-, set, -⟩ | ⟨-, kept, -⟩⟩ := Loop.holder_moves own step.possible
      · exact set
      · exact kept.trans asked

theorem stopRequested_of_stop (stop : step.move = .stop) : step.after.stopRequested = true := by
  have foreign : step.move.isOwn = false := by rw [stop]; rfl
  obtain ⟨-, ⟨-, set, -⟩ | ⟨drop, -⟩⟩ := Loop.holder_moves foreign step.possible
  · exact set
  · rw [stop] at drop
    contradiction

/-- A loop that was asked to stop takes one more phase of its way out, or none. -/
theorem wayOut_before (asked : step.before.stopRequested = true) :
    step.before.phase.wayOut =
      (if step.move.isOwn then [step.after.phase] else []) ++ step.after.phase.wayOut := by
  cases own : step.move.isOwn with
  | false => rw [(Loop.holder_moves own step.possible).1]; rfl
  | true =>
      obtain ⟨goes, -⟩ := Loop.goes_of_own own step.possible
      generalize step.move = move, step.after.phase = phase at goes
      cases goes with
      | exits here | ends here | resumes here | wakes here =>
          rw [here]
          rfl
      | begins _ free | leaves _ free =>
          rw [asked] at free
          contradiction

theorem not_beginsTick (asked : step.before.stopRequested = true) : ¬step.BeginsTick := by
  rintro ⟨resting, begun⟩
  have way := wayOut_before asked
  rw [begun] at way
  cases phase : step.before.phase with
  | ticking => exact resting phase
  | checking | pausing | exited =>
      rw [phase] at way
      cases own : step.move.isOwn <;> simp [own, LoopPhase.wayOut] at way

theorem exits_at_check (asked : step.before.stopRequested = true) (check : step.move = .check) :
    step.after.phase = .exited := by
  have own : step.move.isOwn = true := by rw [check]; rfl
  obtain ⟨goes, -⟩ := Loop.goes_of_own own step.possible
  rw [check] at goes
  generalize step.after.phase = phase at goes
  cases goes with
  | exits => rfl
  | begins _ free =>
      rw [asked] at free
      contradiction

/-- A loop that nobody has touched goes on to the phase that follows, and nobody has touched it then. -/
theorem goes_on (untouched : step.before.stopRequested = false ∧ step.before.handleDropped = false)
    (leaves : step.move ≠ .stop ∧ step.move ≠ .drop) :
    step.after.phase = step.before.phase.following ∧ step.after.phase ≠ .exited ∧
      step.after.stopRequested = false ∧ step.after.handleDropped = false := by
  cases own : step.move.isOwn with
  | false =>
      obtain ⟨-, ⟨stop, -⟩ | ⟨drop, -⟩⟩ := Loop.holder_moves own step.possible
      · exact absurd stop leaves.1
      · exact absurd drop leaves.2
  | true =>
      obtain ⟨goes, same⟩ := Loop.goes_of_own own step.possible
      rw [same]
      refine ⟨?_, ?_, untouched⟩
      all_goals
        dsimp only
        generalize step.move = move, step.after.phase = phase at goes
        cases goes with
        | begins here | ends here | resumes here => simp [here, LoopPhase.following]
        | exits _ asked | wakes _ asked | leaves _ _ asked => simp [asked] at untouched

end LoopStep

namespace Loop.Steps

variable {loop middle last : Loop} {steps earlier later : List LoopStep}

theorem exists_of_run? {moves : List LoopMove} : ∀ {loop : Loop}, loop.run? moves = some last →
    ∃ steps, Steps loop steps last ∧ steps.map (·.move) = moves := by
  induction moves with
  | nil =>
      intro loop run
      cases run
      exact ⟨[], .refl _, rfl⟩
  | cons move rest ih =>
      intro loop run
      obtain ⟨next, possible, run⟩ := Option.bind_eq_some_iff.mp run
      obtain ⟨steps, others, moves⟩ := ih run
      exact ⟨⟨loop, move, next, possible⟩ :: steps, .next ⟨loop, move, next, possible⟩ others, congrArg _ moves⟩

theorem split (run : Steps loop (earlier ++ later) last) :
    ∃ middle, Steps loop earlier middle ∧ Steps middle later last := by
  induction earlier generalizing loop with
  | nil => exact ⟨loop, .refl _, run⟩
  | cons step rest ih =>
      cases run with
      | next step run =>
          obtain ⟨middle, before, after⟩ := ih run
          exact ⟨middle, .next step before, after⟩

theorem asked_before (run : Steps loop steps last) (asked : loop.stopRequested = true) :
    ∀ step ∈ steps, step.before.stopRequested = true := by
  induction run with
  | refl => exact List.forall_mem_nil _
  | next step _ ih => exact List.forall_mem_cons.mpr ⟨asked, ih (LoopStep.stopRequested_after asked)⟩

/-- A loop that was asked to stop goes along its way out, and what it has not gone of it is the way out still. -/
theorem wayOut (run : Steps loop steps last) (asked : loop.stopRequested = true) :
    loop.phase.wayOut = (steps.filter (·.move.isOwn)).map (·.after.phase) ++ last.phase.wayOut := by
  induction run with
  | refl => rfl
  | next step _ ih =>
      rw [LoopStep.wayOut_before asked, ih (LoopStep.stopRequested_after asked), List.filter_cons]
      split <;> simp_all

theorem untouched (run : Steps loop steps last) (leaves : ∀ step ∈ steps, step.move ≠ .stop ∧ step.move ≠ .drop)
    (before : loop.stopRequested = false ∧ loop.handleDropped = false) :
    last.stopRequested = false ∧ last.handleDropped = false := by
  induction run with
  | refl => exact before
  | next step _ ih =>
      obtain ⟨first, others⟩ := List.forall_mem_cons.mp leaves
      exact ih others (LoopStep.goes_on before first).2.2

end Loop.Steps

namespace Loop

/-- In every schedule of requests to stop, ends of ticks of either kind, ends of pauses and losses of the handle: after
a request to stop no tick begins, a tick in progress goes on until it ends, whatever it comes to, and the next look at
the flag ends the loop. What the loop still goes through is its way out, and it is never stuck on it. As long as nobody
has asked it to stop or let the handle go, the loop goes on to the phase that follows and does not exit. -/
theorem stop_is_obeyed_at_next_check {moves : List LoopMove} {last : Loop} (run : start.run? moves = some last) :
    ∃ steps, Steps start steps last ∧ steps.map (·.move) = moves ∧
      (∀ earlier request later, steps = earlier ++ request :: later → request.move = .stop →
        request.after.phase = request.before.phase ∧
        (∀ step ∈ later, ¬step.BeginsTick ∧ (step.move = .check → step.after.phase = .exited) ∧
          (step.before.phase = .ticking → step.after.phase = .ticking ∨ ∃ result, step.move = .tickEnded result)) ∧
        request.after.phase.wayOut = (later.filter (·.move.isOwn)).map (·.after.phase) ++ last.phase.wayOut) ∧
      (last.phase ≠ .exited → ∃ move, move.isOwn = true ∧ (last.move? move).isSome = true) ∧
      (∀ result, last.phase = .ticking → last.move? (.tickEnded result) = some { last with phase := .pausing }) ∧
      ∀ earlier step later, steps = earlier ++ step :: later →
        (∀ e ∈ earlier ++ [step], e.move ≠ .stop ∧ e.move ≠ .drop) →
          step.after.phase = step.before.phase.following ∧ step.after.phase ≠ .exited := by
  obtain ⟨steps, run, moves⟩ := Steps.exists_of_run? run
  refine ⟨steps, run, moves, ?_, can_go_on, fun result ticking => if_pos ticking, ?_⟩
  · rintro earlier request later rfl stop
    obtain ⟨middle, -, run⟩ := run.split
    cases run with
    | next request run =>
        have asked := LoopStep.stopRequested_of_stop stop
        have foreign : request.move.isOwn = false := by rw [stop]; rfl
        refine ⟨(holder_moves foreign request.possible).1, fun step member => ?_, run.wayOut asked⟩
        have before := run.asked_before asked step member
        exact ⟨LoopStep.not_beginsTick before, LoopStep.exits_at_check before, step.ticks_on⟩
  · rintro earlier step later rfl leaves
    obtain ⟨first, last⟩ := List.forall_mem_append.mp leaves
    obtain ⟨middle, before, run⟩ := run.split
    cases run with
    | next step run =>
        have untouched := before.untouched first ⟨rfl, rfl⟩
        obtain ⟨follows, stays, -⟩ := LoopStep.goes_on untouched (last step (List.mem_singleton_self _))
        exact ⟨follows, stays⟩

/-- The first tick fails; the second one is in progress when the loop is asked to stop and the handle is let go. -/
theorem stop_is_obeyed_at_next_check_in_second_tick :
    let before : List LoopMove := [.check, .tickEnded (.error (.unavailable .ruleStore)), .pauseOver, .check]
    let after : List LoopMove := [.drop, .tickEnded (.ok (.ofVerdicts 1 0 [])), .woken, .check]
    let last : Loop := ⟨.exited, true, true⟩
    start.run? (before ++ .stop :: after) = some last ∧
      ∃ earlier request later, Steps start (earlier ++ request :: later) last ∧
        earlier.map (·.move) = before ∧ request.move = .stop ∧ later.map (·.move) = after ∧
        (∀ step ∈ earlier, step.after.phase = step.before.phase.following) ∧
        (∀ step ∈ later, ¬step.BeginsTick) ∧
        (later.filter (·.move.isOwn)).map (·.after.phase) ++ last.phase.wayOut = request.after.phase.wayOut := by
  intro before after last
  have run : start.run? (before ++ .stop :: after) = some last := rfl
  obtain ⟨steps, led, moves, stopped, -, -, free⟩ := stop_is_obeyed_at_next_check run
  obtain ⟨earlier, rest, rfl, first, others⟩ := List.map_eq_append_iff.mp moves
  obtain ⟨request, later, rfl, stop, others⟩ := List.map_eq_cons_iff.mp others
  obtain ⟨-, quiet, way⟩ := stopped earlier request later rfl stop
  refine ⟨run, earlier, request, later, led, first, stop, others, fun step member => ?_,
    fun step member => (quiet step member).1, way.symm⟩
  have left : ∀ e ∈ earlier, e.move ≠ .stop ∧ e.move ≠ .drop := by
    intro e inside
    have named : e.move ∈ before := first ▸ List.mem_map_of_mem inside
    constructor <;> intro same <;> simp [before, same] at named
  obtain ⟨sooner, more, rfl⟩ := List.append_of_mem member
  refine (free sooner step (more ++ request :: later) (by simp) fun e inside => left e ?_).1
  exact List.mem_append.mpr ((List.mem_append.mp inside).imp_right fun same => by simp_all)

end Loop

end DeviceRules
