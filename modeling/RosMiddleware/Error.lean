import RosMiddleware.Config.Fault
import RosMiddleware.Qos.Profile
import RosMiddleware.Transport.Refusal

/-!
Errors as causes. Each cause has a kind, which decides the return code, and a message; for
the log the kind is written before the message.
-/
namespace RosMiddleware

/-- The tag of every handle that this middleware hands out. -/
def implementationTag : String := "rmw_dds_rs"

inductive ReturnCode
  | ok
  | error
  | invalidArgument
  | badAlloc
deriving DecidableEq, Repr

def ReturnCode.name : ReturnCode → String
  | .ok => "RMW_RET_OK"
  | .error => "RMW_RET_ERROR"
  | .invalidArgument => "RMW_RET_INVALID_ARGUMENT"
  | .badAlloc => "RMW_RET_BAD_ALLOC"

inductive ErrorKind
  | invalidArgument
  | resourceExhausted
  | backendFailure
  | configurationInvalid
deriving DecidableEq, Repr, Inhabited

def ErrorKind.all : List ErrorKind :=
  [.invalidArgument, .resourceExhausted, .backendFailure, .configurationInvalid]

def ErrorKind.name : ErrorKind → String
  | .invalidArgument => "InvalidArgument"
  | .resourceExhausted => "ResourceExhausted"
  | .backendFailure => "UpstreamFailure"
  | .configurationInvalid => "ConfigurationInvalid"

def ErrorKind.label : ErrorKind → String
  | .invalidArgument => "invalid argument"
  | .resourceExhausted => "resource exhausted"
  | .backendFailure => "upstream failure"
  | .configurationInvalid => "invalid configuration"

def ErrorKind.returnCode : ErrorKind → ReturnCode
  | .invalidArgument => .invalidArgument
  | .resourceExhausted => .badAlloc
  | .backendFailure | .configurationInvalid => .error

inductive Error
  | emptyTopic
  | participantShutDown
  /-- None of the offered conventions is followed here. -/
  | foreignTypeSupport (offered : List String)
  | foreignSubscription (implementation : String)
  | foreignNode (implementation : String)
  | emptyNodeName
  | emptyNodeNamespace
  /-- A container for results that is in use. -/
  | outputInUse
  | outputTooLarge
  | transport (refusal : Transport.Refusal)
  /-- A profile that can be honoured in principle, but not by this transport. -/
  | readerQos (rejection : Qos.Rejection)
  | readerCreation (refusal : Transport.Refusal)
  | unknownGuid
  | unknownNode (space name : String)
  | qos (rejection : Qos.Rejection)
  | config (fault : Config.Fault)
  /-- An error that comes from outside, in its own words. -/
  | reported (kind : ErrorKind) (message : String)
deriving DecidableEq, Repr, Inhabited

namespace Error

def kind : Error → ErrorKind
  | emptyTopic | participantShutDown | foreignTypeSupport _ | foreignSubscription _
  | foreignNode _ | emptyNodeName | emptyNodeNamespace | outputInUse => .invalidArgument
  | outputTooLarge => .resourceExhausted
  | transport _ | readerQos _ | readerCreation _ | unknownGuid | unknownNode _ _ =>
    .backendFailure
  | qos _ | config _ => .configurationInvalid
  | reported kind _ => kind

def message : Error → String
  | emptyTopic => "subscription topic is empty"
  | participantShutDown => "participant handle is null"
  | foreignTypeSupport offered =>
    "type support not from this implementation, got " ++ Text.quotedList offered
  | foreignSubscription implementation =>
    "subscription implementation '" ++ implementation ++ "' does not match '"
      ++ implementationTag ++ "'"
  | foreignNode implementation =>
    "node handle not from this implementation: '" ++ implementation ++ "'"
  | emptyNodeName => "node name is empty"
  | emptyNodeNamespace => "node namespace is empty"
  | outputInUse => "names_and_types is not zero initialized"
  | outputTooLarge => "failed to allocate memory for names and types"
  | transport refusal => refusal.message
  | readerQos rejection => "failed to get datareader qos: " ++ rejection.message
  | readerCreation refusal => "could not create subscriber: " ++ refusal.message
  | unknownGuid => "cannot derive a GID from an unknown GUID"
  | unknownNode space name => "node (" ++ space ++ ", " ++ name ++ ") is not in the graph"
  | qos rejection => rejection.message
  | config fault => fault.message
  | reported _ message => message

def display (e : Error) : String := e.kind.label ++ ": " ++ e.message

def returnCode (e : Error) : ReturnCode := e.kind.returnCode

end Error

def ReturnCode.ofResult {α : Type} : Except Error α → ReturnCode
  | .ok _ => .ok
  | .error e => e.returnCode

end RosMiddleware
