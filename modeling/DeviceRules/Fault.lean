import DeviceRules.Defect
import DeviceRules.Identifier

/-! What can go wrong when rules are stored, evaluated and carried out. A misconfigured rule is told apart from a
side effect that did not land and from something outside that is down, because they are treated differently. -/
namespace DeviceRules

/-- A rule that cannot be interpreted. -/
inductive ConfigurationError
  | unsupportedCondition (kind : Option String) (defect : Defect)
  | unsupportedAction (kind : Option String) (defect : Defect)
  | missingDevice (kind : String)
  | badTimeOfDay (text : String)
  | unknownChannel (name : String)
  deriving BEq, Repr

def ConfigurationError.message : ConfigurationError → String
  | unsupportedCondition kind defect =>
      "unsupported condition " ++ Text.quotedOption kind ++ ": " ++ defect.message
  | unsupportedAction kind defect => "unsupported action " ++ Text.quotedOption kind ++ ": " ++ defect.message
  | missingDevice kind => kind ++ " requires a device id"
  | badTimeOfDay text => "invalid time of day " ++ Text.quoted text ++ ", expected HH:MM"
  | unknownChannel name => "unsupported notification channel " ++ Text.quoted name

/-- A side effect that was attempted and did not land. -/
inductive DeliveryError
  | notPublished (device : DeviceId)
  | webhookStatus (url : String) (status : Nat)
  | sequenceIncomplete (failed total : Nat)
  deriving DecidableEq, Repr

def DeliveryError.message : DeliveryError → String
  | notPublished device => "command for device " ++ device.name ++ " was not published"
  | webhookStatus url status => "webhook " ++ url ++ " answered with status " ++ toString status
  | sequenceIncomplete failed total => toString failed ++ " of " ++ toString total ++ " sequence steps failed"

inductive Service
  | ruleStore | telemetryStore | broker | webhookTarget
  deriving DecidableEq, Repr

def Service.name : Service → String
  | ruleStore => "rule store"
  | telemetryStore => "telemetry store"
  | broker => "broker"
  | webhookTarget => "webhook target"

/-- A failure of something outside. The next tick may find it gone. -/
inductive Outage
  | unavailable (service : Service)
  /-- The service turned a request down, in its own words. -/
  | refused (words : String)
  deriving DecidableEq, Repr

def Outage.message : Outage → String
  | unavailable service => service.name ++ " unavailable"
  | refused words => words

inductive Fault
  | blankName
  | configuration (error : ConfigurationError)
  | delivery (error : DeliveryError)
  | outage (outage : Outage)
  deriving BEq, Repr

namespace Fault

def isConfiguration : Fault → Bool
  | configuration _ => true
  | _ => false

def isOutage : Fault → Bool
  | outage _ => true
  | _ => false

def message : Fault → String
  | blankName => "validation error: name must not be empty"
  | configuration error => "configuration error: " ++ error.message
  | delivery error => "delivery error: " ++ error.message
  | outage o => "transient I/O error: " ++ o.message

end Fault

end DeviceRules
