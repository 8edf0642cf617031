import RosMiddleware.Config.Fault

/-!
Files as they are read. A file system answers a path with the bytes of a file, or with the reason
why there are none, and bytes that are no text are a fault as well.
-/
namespace RosMiddleware.Config

structure FileSystem where
  content : Path → Except ReadFault ByteArray
deriving Inhabited

def FileSystem.text (files : FileSystem) (path : Path) : Except ReadFault String :=
  match files.content path with
  | .error fault => .error fault
  | .ok bytes =>
    match String.fromUTF8? bytes with
    | some text => .ok text
    | none => .error .notText

end RosMiddleware.Config
