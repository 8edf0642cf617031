import RosMiddleware.Text.Replaced

/-!
Paths of files. They are bytes, and where one is shown that is no text, parts of it are replaced.
-/
namespace RosMiddleware.Config

structure Path where
  bytes : ByteArray
deriving Inhabited

namespace Path

instance : DecidableEq Path := fun ⟨a⟩ ⟨b⟩ =>
  match ByteArray.instDecidableEq a b with
  | .isTrue same => .isTrue (congrArg mk same)
  | .isFalse apart => .isFalse fun same => apart (mk.inj same)

def slash : UInt8 := 0x2F

/-- The names between slashes. -/
def names (p : Path) : List (List UInt8) := p.bytes.toList.splitOn slash

def ofText (text : String) : Path := ⟨text.toUTF8⟩

def shown (p : Path) : String := Text.replaced p.bytes

instance : Repr Path := ⟨fun p _ => p.shown⟩

end Path

end RosMiddleware.Config
