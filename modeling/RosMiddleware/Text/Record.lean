/-!
Records as diagnostics show them: a name, and the fields between braces.
-/
namespace RosMiddleware.Text

/-- A name and its fields, of which there is at least one. -/
def record (name : String) (fields : List (String × String)) : String :=
  name ++ " \x7b " ++ ", ".intercalate (fields.map fun f => f.1 ++ ": " ++ f.2) ++ " \x7d"

/-- A truth value in words. -/
def truth (b : Bool) : String := if b then "true" else "false"

end RosMiddleware.Text
