/-!
# Why a message is not handled, forwarded or built

Errors are causes. Their wording and their category names are each in one function, so a
statement about an error never has to mention its text.
-/

namespace EdgeGateway

/-- The kinds of JSON values, as an error names them. -/
inductive JsonKind where
  | null
  | boolean
  | number
  | string
  | array
  | object
  deriving DecidableEq, Repr

/-- The name of a kind of JSON value. -/
def JsonKind.name : JsonKind → String
  | null => "null"
  | boolean => "boolean"
  | number => "number"
  | string => "string"
  | array => "array"
  | object => "object"

/-- What a batch or an item without values was meant to be. -/
inductive EncodeError where
  /-- The reading of this reference has no values. -/
  | emptyReading (reference : String)
  /-- The configuration item of this key has no values. -/
  | emptyConfiguration (key : String)
  /-- There is nothing to send. -/
  | emptyBatch
  deriving DecidableEq, Repr

/-- The wording of an encoding error. -/
def EncodeError.message : EncodeError → String
  | emptyReading reference => "reading '" ++ reference ++ "' has no values"
  | emptyConfiguration key => "configuration '" ++ key ++ "' has no values"
  | emptyBatch => "empty batch"

/-- Why a payload cannot be read or written. -/
inductive PayloadError where
  /-- The text is not JSON. -/
  | invalidJson
  /-- The text is JSON, but not an object. -/
  | notAnObject (found : JsonKind)
  /-- A value cannot be written. -/
  | encode (cause : EncodeError)
  deriving DecidableEq, Repr

/-- The wording of a payload error. What exactly is wrong with a text that is not JSON is left
out: the wording names the class only. -/
def PayloadError.message : PayloadError → String
  | invalidJson => "invalid JSON"
  | notAnObject found => "expected a JSON object, found " ++ found.name
  | encode cause => "failed to encode payload: " ++ cause.message

/-- Why an inbound message was neither handled nor forwarded. -/
inductive RoutingError where
  /-- Wrong direction, kind, address markers or reference. -/
  | malformedChannel (channel : String)
  /-- The channel was fine, but the payload cannot be read. -/
  | malformedPayload (channel : String) (source : PayloadError)
  /-- The addressing key is neither the gateway's nor that of a bound device. -/
  | mismatchedKey (channel key : String)
  /-- The device is bound, but its manifest does not declare the reference. -/
  | undeclaredReference (device reference : String)
  /-- The sink refused the message. -/
  | refused (channel : String)
  deriving DecidableEq, Repr

namespace RoutingError

/-- The wording of a routing error. -/
def message : RoutingError → String
  | malformedChannel channel => "malformed channel '" ++ channel ++ "'"
  | malformedPayload channel source =>
    "malformed payload on '" ++ channel ++ "': " ++ source.message
  | mismatchedKey channel key =>
    "unknown or mismatched key '" ++ key ++ "' on '" ++ channel ++ "'"
  | undeclaredReference device reference =>
    "reference '" ++ reference ++ "' is not declared for device '" ++ device ++ "'"
  | refused channel => "transport refused message on '" ++ channel ++ "'"

/-- The category under which a routing error is counted. -/
def category : RoutingError → String
  | malformedChannel _ => "malformed_channel"
  | malformedPayload _ _ => "malformed_payload"
  | mismatchedKey _ _ => "key_mismatch"
  | undeclaredReference _ _ => "manifest_mismatch"
  | refused _ => "transport_failure"

end RoutingError

/-- Why an outbound message cannot be built from pending values. -/
inductive BuildError where
  /-- The channel of the message would be malformed. -/
  | channel (cause : RoutingError)
  /-- The payload cannot be written. -/
  | payload (cause : PayloadError)
  deriving DecidableEq, Repr

end EdgeGateway
