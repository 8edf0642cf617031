/-!
Why the transport refuses a request.
-/
namespace RosMiddleware.Transport

inductive Refusal
  | registrationRejected
  | registeredTwice (typeName : String)
  | unregistrationRejected
  | notRegistered (typeName : String)
  | readerRejected
  /-- A reason in the words of another transport. -/
  | other (message : String)
deriving DecidableEq, Repr, Inhabited

def Refusal.message : Refusal → String
  | .registrationRejected => "type registration rejected"
  | .registeredTwice typeName => "type '" ++ typeName ++ "' registered twice"
  | .unregistrationRejected => "type unregistration rejected"
  | .notRegistered typeName => "type '" ++ typeName ++ "' is not registered"
  | .readerRejected => "reader creation rejected"
  | .other message => message

end RosMiddleware.Transport
