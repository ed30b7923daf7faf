/-
What is wrong with a validator.
-/
import SchemaChart.Json.Display
import SchemaChart.Codec
import SchemaChart.Refusal

namespace SchemaChart.Validator

/-- Why an encoded whole number cannot be read. -/
inductive IntegerFault where
  /-- The encoding is no text but a value of the named kind. -/
  | notText (kind : String)
  | notAscii
  | base64 (fault : Codec.Base64.Fault)
  | size (octets : Nat)
  deriving DecidableEq, Repr

/-- What is wrong with a validator. -/
inductive Fault where
  | untyped (validator : Json)
  | typeNotText (type : Json)
  | unknownType (type : String)
  | missingKey (type key : String)
  | fieldsNotObject (fields : Json)
  | fieldWithoutType (name : String)
  | membersNotList (members : Json)
  | badInteger (encoded : Json) (cause : IntegerFault)
  | unsupportedLiteral (value : Json)

/-- Why a validator is not read: a fault of its own, or a member that its type refuses. -/
inductive Error where
  | fault (fault : Fault)
  | refused (refusal : Refusal)

/-- The kind of a value, as messages name it. -/
def kindOf : Json → String
  | .null => "NoneType"
  | .bool _ => "bool"
  | .int _ => "int"
  | .real _ => "float"
  | .str _ => "str"
  | .arr _ => "list"
  | .obj _ => "dict"

def IntegerFault.message : IntegerFault → String
  | .notText kind => s!"argument should be a bytes-like object or ASCII string, not '{kind}'"
  | .notAscii => "string argument should contain only ASCII characters"
  | .base64 fault => fault.message
  | .size octets => s!"expected 8 bytes, got {octets}"

def Fault.message : Fault → String
  | .untyped v => "Validator must be an object with a 'type' key: " ++ v.display
  | .typeNotText v => "Validator type must be a string: " ++ v.display
  | .unknownType type => "Unknown validator type: " ++ Text.quoted type
  | .missingKey type key =>
    "Validator of type " ++ Text.quoted type ++ " is missing required key " ++ Text.quoted key
  | .fieldsNotObject v => "Object validator value must be an object: " ++ v.display
  | .fieldWithoutType name => s!"Object field '{name}' is missing 'fieldType'"
  | .membersNotList v => "Union validator value must be a list: " ++ v.display
  | .badInteger v cause => "Invalid $integer literal " ++ v.display ++ ": " ++ cause.message
  | .unsupportedLiteral v => "Unsupported literal value: " ++ v.display

end SchemaChart.Validator
