import DeviceRules.Memory
import DeviceRules.Proofs.Engine.FireState
import Mathlib.Data.List.Induction

/-! Simulated devices over histories of calls. Devices go out of reach and come back at will, and commands are published
to any of them in any order. A channel remembers just the commands whose devices were in reach at the time, and the status
of each device is what those to that device make of it one after the other, whatever is sent to the others. -/
namespace DeviceRules

/-- A call on a channel: a device is put out of reach or back in reach, or a command is published. -/
inductive ChannelCall
  | setOffline (device : DeviceId) (offline : Bool)
  | publish (device : DeviceId) (command : Command)

namespace ChannelCall

/-- What a call says about whether a device is offline. -/
def word? (device : DeviceId) : ChannelCall → Option Bool
  | setOffline other offline => if other = device then some offline else none
  | publish _ _ => none

/-- Whether a device is offline after some calls: as the latest word about it says, or else as it was at first. -/
def isOffline (initially : List DeviceId) (calls : List ChannelCall) (device : DeviceId) : Bool :=
  (calls.filterMap (word? device)).getLast?.getD (initially.contains device)

section Accepted

variable (initially : List DeviceId) (earlier : List ChannelCall)

def accepted? : ChannelCall → Option (DeviceId × Command)
  | setOffline _ _ => none
  | publish device command => if isOffline initially earlier device then none else some (device, command)

/-- The commands that calls after some others publish while their devices are not offline. -/
def acceptedFrom (earlier : List ChannelCall) : List ChannelCall → List (DeviceId × Command)
  | [] => []
  | call :: rest => (call.accepted? initially earlier).toList ++ acceptedFrom (earlier ++ [call]) rest

def accepted (calls : List ChannelCall) : List (DeviceId × Command) := acceptedFrom initially [] calls

theorem acceptedFrom_append (calls : List ChannelCall) (last : ChannelCall) :
    acceptedFrom initially earlier (calls ++ [last]) =
      acceptedFrom initially earlier calls ++ (last.accepted? initially (earlier ++ calls)).toList := by
  induction calls generalizing earlier with
  | nil => simp [acceptedFrom]
  | cons call rest ih =>
      rw [List.cons_append, acceptedFrom, ih, acceptedFrom, List.append_assoc, List.append_assoc, List.singleton_append]

theorem accepted_append (calls : List ChannelCall) (last : ChannelCall) :
    accepted initially (calls ++ [last]) = accepted initially calls ++ (last.accepted? initially calls).toList :=
  acceptedFrom_append initially [] calls last

theorem isOffline_append (calls : List ChannelCall) (last : ChannelCall) (device : DeviceId) :
    isOffline initially (calls ++ [last]) device = (last.word? device).getD (isOffline initially calls device) := by
  cases word : last.word? device <;> simp [isOffline, word]

end Accepted

end ChannelCall

namespace TelemetryLog

theorem status?_setStatus (log : TelemetryLog) (device other : DeviceId) (status : String) :
    (log.setStatus device status).status? other = if other = device then some status else log.status? other :=
  lookup_replace device other status log.statuses

end TelemetryLog

namespace CommandChannel

def follow (status : Option String) (command : Command) : Option String :=
  match command.get? "action" with
  | some (.text "turn_on") => some "on"
  | some (.text "turn_off") => some "off"
  | some (.text "toggle") => if status = some "on" then some "off" else some "on"
  | _ => status

theorem follow_eq (status : Option String) (command : Command) :
    follow status command = (actionOf? command).elim status (statusAfter status) := by
  unfold follow actionOf?
  cases found : command.get? "action" with
  | none => rfl
  | some value =>
      cases value with
      | text action =>
          change _ = statusAfter status action
          unfold statusAfter
          split
          case h_1 same | h_2 same =>
              cases same
              rfl
          case h_3 same =>
              cases same
              exact (apply_ite some _ _ _).symm
          case h_4 notOn notOff notToggle =>
              split
              · exact absurd rfl notOn
              · exact absurd rfl notOff
              · exact absurd rfl notToggle
              · rfl
      | null | bool b | whole n | real x | array items | object entries => rfl

theorem status_of_statusAfter {status : Option String} {action : String} (unknown : statusAfter status action = none) :
    status = none := by
  unfold statusAfter at unknown
  split at unknown
  · cases unknown
  · cases unknown
  · cases unknown
  · exact unknown

def switches (command : Command) : Bool := (follow none command).isSome

theorem follow_eq_none_iff (status : Option String) (command : Command) :
    follow status command = none ↔ status = none ∧ switches command = false := by
  unfold switches follow
  split
  case h_3 => by_cases on : status = some "on" <;> simp [on]
  all_goals simp

/-- A device is unknown until the first command that switches it. -/
theorem foldl_follow_eq_none_iff (status : Option String) (commands : List Command) :
    commands.foldl follow status = none ↔ status = none ∧ ∀ command ∈ commands, switches command = false := by
  induction commands generalizing status with
  | nil => simp
  | cons command rest ih => rw [List.foldl_cons, ih, follow_eq_none_iff, List.forall_mem_cons, and_assoc]

theorem samples_drive (log : TelemetryLog) (device : DeviceId) (command : Command) :
    (drive log device command).samples = log.samples := by
  unfold drive
  split <;> rfl

/-- A command is followed by its own device only. -/
theorem status?_drive (log : TelemetryLog) (device other : DeviceId) (command : Command) :
    (drive log device command).status? other =
      if other = device then follow (log.status? device) command else log.status? other := by
  rw [follow_eq, drive]
  cases actionOf? command with
  | none => by_cases own : other = device <;> simp [own]
  | some action =>
      simp only [Option.bind_eq_bind, Option.bind_some, Option.elim_some]
      cases next : statusAfter (log.status? device) action with
      | some status => exact log.status?_setStatus device other status
      | none =>
          have unknown := status_of_statusAfter next
          by_cases own : other = device <;> simp [own, unknown]

def apply (site : CommandChannel × Option TelemetryLog) : ChannelCall → CommandChannel × Option TelemetryLog
  | .setOffline device offline => (site.1.setOffline device offline, site.2)
  | .publish device command => (site.1.publish site.2 device command).world

def after (site : CommandChannel × Option TelemetryLog) (calls : List ChannelCall) :
    CommandChannel × Option TelemetryLog := calls.foldl apply site

/-- A channel on which nothing has been sent, to devices that keep their statuses in a log. -/
def withDevices (offline : List DeviceId) (log : TelemetryLog) : CommandChannel × Option TelemetryLog :=
  (⟨[], offline⟩, some log)

def commandsTo (device : DeviceId) (sent : List (DeviceId × Command)) : List Command :=
  (sent.filter (·.1 = device)).map (·.2)

/-- What has become of a channel and its devices in some calls. -/
structure Follows (initially : List DeviceId) (log : TelemetryLog) (calls : List ChannelCall) (channel : CommandChannel)
    (kept : TelemetryLog) : Prop where
  offline : ∀ device, channel.offline.contains device = ChannelCall.isOffline initially calls device
  sent : channel.sent = ChannelCall.accepted initially calls
  status : ∀ device, kept.status? device = (commandsTo device channel.sent).foldl follow (log.status? device)
  samples : kept.samples = log.samples

section Calls

variable {initially : List DeviceId} {log kept : TelemetryLog} {calls : List ChannelCall} {channel : CommandChannel}
  {device : DeviceId} {command : Command}

theorem after_append (site : CommandChannel × Option TelemetryLog) (calls : List ChannelCall) (last : ChannelCall) :
    after site (calls ++ [last]) = apply (after site calls) last := by
  rw [after, List.foldl_append]
  rfl

theorem contains_setOffline (other : DeviceId) (offline : Bool) :
    (channel.setOffline device offline).offline.contains other =
      if device = other then offline else channel.offline.contains other := by
  by_cases same : device = other
  · subst same
    cases offline <;> simp [setOffline]
  · cases offline <;> simp [setOffline, same, Ne.symm same]

theorem commandsTo_append (other : DeviceId) (sent : List (DeviceId × Command)) :
    commandsTo other (sent ++ [(device, command)]) =
      commandsTo other sent ++ if other = device then [command] else [] := by
  by_cases own : other = device
  · simp [commandsTo, own]
  · simp [commandsTo, own, Ne.symm own]

theorem publish_of_offline (devices : Option TelemetryLog) (away : channel.offline.contains device = true) :
    channel.publish devices device command = ⟨false, [], (channel, devices)⟩ := by
  rw [publish, reaches, away]
  rfl

theorem publish_of_reached (devices : Option TelemetryLog) (near : channel.offline.contains device = false) :
    channel.publish devices device command = ⟨true, [.received device command],
      ({ channel with sent := channel.sent ++ [(device, command)] }, devices.map (drive · device command))⟩ := by
  rw [publish, reaches, near]
  rfl

theorem Follows.setOffline (follows : Follows initially log calls channel kept) (device : DeviceId) (offline : Bool) :
    Follows initially log (calls ++ [.setOffline device offline]) (channel.setOffline device offline) kept where
  offline other := by
    rw [contains_setOffline, ChannelCall.isOffline_append, ChannelCall.word?, follows.offline]
    split <;> rfl
  sent := by
    rw [ChannelCall.accepted_append, ChannelCall.accepted?, Option.toList_none, List.append_nil]
    exact follows.sent
  status := follows.status
  samples := follows.samples

theorem Follows.publish (follows : Follows initially log calls channel kept) (device : DeviceId) (command : Command) :
    ∃ next heard, (channel.publish (some kept) device command).world = (next, some heard) ∧
      Follows initially log (calls ++ [.publish device command]) next heard := by
  have offline (other : DeviceId) : channel.offline.contains other =
      ChannelCall.isOffline initially (calls ++ [.publish device command]) other := by
    rw [ChannelCall.isOffline_append, follows.offline]
    rfl
  have known := follows.offline device
  cases away : channel.offline.contains device with
  | true =>
      rw [away] at known
      refine ⟨channel, kept, by rw [publish_of_offline _ away], offline, ?_, follows.status, follows.samples⟩
      rw [ChannelCall.accepted_append, ChannelCall.accepted?, ← known, if_pos rfl, Option.toList_none, List.append_nil]
      exact follows.sent
  | false =>
      rw [away] at known
      refine ⟨{ channel with sent := channel.sent ++ [(device, command)] }, drive kept device command, ?_, offline, ?_, ?_,
        (samples_drive kept device command).trans follows.samples⟩
      · rw [publish_of_reached _ away]
        rfl
      · rw [ChannelCall.accepted_append, ChannelCall.accepted?, ← known, ← follows.sent]
        rfl
      · intro other
        rw [status?_drive, commandsTo_append, List.foldl_append, ← follows.status]
        by_cases own : other = device <;> simp [own]

theorem follows_after (initially : List DeviceId) (log : TelemetryLog) (calls : List ChannelCall) :
    ∃ channel kept, after (withDevices initially log) calls = (channel, some kept) ∧
      Follows initially log calls channel kept := by
  -- from the last call, as which calls are accepted depends on those before
  induction calls using List.reverseRecOn with
  | nil => exact ⟨_, _, rfl, fun _ => rfl, rfl, fun _ => rfl, rfl⟩
  | append_singleton calls last ih =>
      obtain ⟨channel, kept, reached, follows⟩ := ih
      rw [after_append, reached]
      cases last with
      | setOffline device offline => exact ⟨_, _, rfl, follows.setOffline device offline⟩
      | publish device command => exact follows.publish device command

end Calls

/-- After any calls, what has been sent is what was accepted, and the status of each device is what the commands to it
among those make of the one that it had at first. A device without one has none until a command switches it. A command to
an offline device is refused and changes nothing. -/
theorem devices_follow_accepted_commands (initially : List DeviceId) (log : TelemetryLog) (calls : List ChannelCall) :
    ∃ channel kept, after (withDevices initially log) calls = (channel, some kept) ∧
      channel.sent = ChannelCall.accepted initially calls ∧
      (∀ device, kept.status? device = (commandsTo device channel.sent).foldl follow (log.status? device)) ∧
      (∀ device, kept.status? device = none ↔
        log.status? device = none ∧ ∀ command ∈ commandsTo device channel.sent, switches command = false) ∧
      kept.samples = log.samples ∧
      ∀ device command,
        let offline := ChannelCall.isOffline initially calls device
        let published := channel.publish (some kept) device command
        published.value = !offline ∧ (offline = true → published = ⟨false, [], (channel, some kept)⟩) := by
  obtain ⟨channel, kept, reached, follows⟩ := follows_after initially log calls
  refine ⟨channel, kept, reached, follows.sent, follows.status, fun device => ?_, follows.samples,
    fun device command => ?_⟩
  · rw [follows.status, foldl_follow_eq_none_iff]
  · intro offline published
    have known : channel.offline.contains device = offline := follows.offline device
    constructor
    · rw [← known]
      cases away : channel.offline.contains device with
      | true => exact congrArg Outcome.value (publish_of_offline _ away)
      | false => exact congrArg Outcome.value (publish_of_reached _ away)
    · intro away
      exact publish_of_offline _ (known.trans away)

def lamp : DeviceId := ⟨"lamp"⟩

def fan : DeviceId := ⟨"fan"⟩

def toggle : Command := [("action", .text "toggle")]

/-- The lamp misses a command while it is out of reach, and the fan gets one that does not switch it. -/
def hallCalls : List ChannelCall :=
  [.publish lamp toggle, .setOffline lamp true, .publish lamp toggle, .publish fan [("action", .text "dim")],
    .setOffline lamp false, .publish lamp toggle, .setOffline fan true]

theorem devices_follow_accepted_commands_of_hall :
    ∃ channel kept, after (withDevices [] .empty) hallCalls = (channel, some kept) ∧
      channel.sent = [(lamp, toggle), (fan, [("action", .text "dim")]), (lamp, toggle)] ∧
      kept.status? lamp = some "off" ∧ kept.status? fan = none ∧
      channel.publish (some kept) fan toggle = ⟨false, [], (channel, some kept)⟩ := by
  obtain ⟨channel, kept, reached, sent, status, unknown, -, next⟩ :=
    devices_follow_accepted_commands [] .empty hallCalls
  have accepted : channel.sent = [(lamp, toggle), (fan, [("action", .text "dim")]), (lamp, toggle)] := sent.trans rfl
  refine ⟨channel, kept, reached, accepted, ?_, ?_, ?_⟩
  · rw [status, accepted]
    rfl
  · refine (unknown fan).mpr ⟨rfl, ?_⟩
    rw [accepted]
    decide
  · exact (next fan toggle).2 (by decide)

end CommandChannel

end DeviceRules
