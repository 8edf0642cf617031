import RosMiddleware.Error
import RosMiddleware.Text.Record

/-!
Message types, the conventions under which their packages support them, and the adapters
that are registered with the transport. Of the supports offered for a message the one for C
is preferred, then the one for C++.
-/
namespace RosMiddleware

structure MessageType where
  /-- Parts with pairs of colons between them. -/
  space : String
  name : String
  maxSize : Nat := 256
deriving DecidableEq, Repr, Inhabited

/-- The name of the type for the transport. -/
def MessageType.typeName (m : MessageType) : String :=
  (if m.space = "" then "" else m.space ++ "::") ++ "dds_::" ++ m.name ++ "_"

/-- A message type and the convention that its support follows. -/
structure TypeSupport where
  convention : String
  type : MessageType
deriving DecidableEq, Repr, Inhabited

namespace TypeSupport

def conventionC : String := "rosidl_typesupport_fastrtps_c"

def conventionCpp : String := "rosidl_typesupport_fastrtps_cpp"

def find? (offered : List TypeSupport) (convention : String) : Option TypeSupport :=
  offered.find? fun support => support.convention == convention

def select (offered : List TypeSupport) : Except Error TypeSupport :=
  match (find? offered conventionC).or (find? offered conventionCpp) with
  | some support => .ok support
  | none => .error (.foreignTypeSupport (offered.map TypeSupport.convention))

def diagnostic (s : TypeSupport) : String :=
  Text.record "MessageTypeSupportHandle"
    [("typesupport_identifier", Text.quoted s.convention),
      ("type", Text.quoted s.type.typeName)]

end TypeSupport

/-- What is registered with the transport for a message type. Adapters that were built
apart differ in their identity, also for one type. -/
structure Adapter where
  identity : Nat
  type : MessageType
deriving DecidableEq, Repr, Inhabited

namespace Adapter

def typeName (a : Adapter) : String := a.type.typeName

def diagnostic (a : Adapter) : String :=
  Text.record "TypeSupport" [("type_name", Text.quoted a.typeName)]

end Adapter

end RosMiddleware
