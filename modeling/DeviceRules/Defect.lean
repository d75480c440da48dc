import DeviceRules.Decimal.Form
import DeviceRules.Json.Reader
import DeviceRules.Text.Basic

/-! What can be wrong with a document, as causes, and the wording of each. -/
namespace DeviceRules

/-- What stands in a document where something else was wanted. -/
inductive Found
  | null
  | bool (b : Bool)
  | whole (n : Int)
  | real (x : Float)
  | text (s : String)
  | sequence
  | map
  deriving BEq, Repr

def Json.found : Json → Found
  | .null => .null
  | .bool b => .bool b
  | .whole n => .whole n
  | .real x => .real x
  | .text s => .text s
  | .array _ => .sequence
  | .object _ => .map

def Found.phrase : Found → String
  | null => "null"
  | bool b => "boolean `" ++ (if b then "true" else "false") ++ "`"
  | whole n => "integer `" ++ toString n ++ "`"
  | real x => "floating point `" ++ Decimal.Form.document.text x ++ "`"
  | text s => "string " ++ Text.quoted s
  | sequence => "sequence"
  | map => "map"

inductive Wanted
  | text
  | bool
  | double
  | unsigned (bits : Nat)
  | sequence
  | map
  | record
  | choice
  | tag
  | unit
  deriving DecidableEq, Repr

def Wanted.phrase : Wanted → String
  | text => "a string"
  | bool => "a boolean"
  | double => "f64"
  | unsigned bits => "u" ++ toString bits
  | sequence => "a sequence"
  | map => "a map"
  | record => "a record"
  | choice => "string or map"
  | tag => "variant identifier"
  | unit => "unit"

inductive Defect
  /-- The text is no document; the reader may say why. -/
  | notJson (diagnosis : Option Json.Diagnosis)
  | tagNotText
  | tagMissing
  | unknownCondition
  | unknownAction
  | noCondition
  | noAction
  | missing (field : String)
  | duplicate (field : String)
  | wrongType (found : Found) (wanted : Wanted)
  | outOfRange (n : Int) (wanted : Wanted)
  | wrongLength (length : Nat)
  | notSingle
  | unknownName (name : String) (known : List String)
  | badInstant (text : String)
  | badMethod (text : String)
  | badIdentifier (text : String)
  deriving BEq, Repr

def backquoted (names : List String) : String :=
  ", ".intercalate (names.map fun name => "`" ++ name ++ "`")

def Defect.message : Defect → String
  | notJson none => "invalid JSON"
  | notJson (some diagnosis) => "invalid JSON: " ++ diagnosis.message
  | tagNotText => "`type` must be a string"
  | tagMissing => "missing `type` discriminator"
  | unknownCondition => "unknown condition type"
  | unknownAction => "unknown action type"
  | noCondition => "no trigger condition"
  | noAction => "no action"
  | missing field => "missing field `" ++ field ++ "`"
  | duplicate field => "duplicate field `" ++ field ++ "`"
  | wrongType found wanted => "invalid type: " ++ found.phrase ++ ", expected " ++ wanted.phrase
  | outOfRange n wanted => "invalid value: integer `" ++ toString n ++ "`, expected " ++ wanted.phrase
  | wrongLength length => "invalid length " ++ toString length
  | notSingle => "invalid value: map, expected map with a single key"
  | unknownName name known => "unknown variant `" ++ name ++ "`, expected one of " ++ backquoted known
  | badInstant text => "invalid timestamp " ++ Text.quoted text
  | badMethod text => "unsupported webhook method " ++ Text.quoted text
  | badIdentifier text => "invalid identifier " ++ Text.quoted text

end DeviceRules
