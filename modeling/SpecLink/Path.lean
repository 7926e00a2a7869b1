import SpecLink.Text.Basic

/-!
# Paths

Paths are texts with slashes between the parts. A path that starts with a slash is absolute.
-/
namespace SpecLink.Path

def isAbsolute (path : String) : Bool := Text.startsWith "/" path

/-- The second path as seen from where the first leads. -/
def join (base path : String) : String :=
  if isAbsolute path then path
  else if base.isEmpty || base.toList.getLast? == some '/' then base ++ path
  else base ++ "/" ++ path

/-- A path that may lead somewhere: not empty, without a NUL, and of at most 4095 bytes. -/
def isUsable (path : String) : Bool :=
  !path.isEmpty && !path.toList.contains '\x00' && path.utf8ByteSize ≤ 4095

/-- The name of an entry has at most 255 bytes. -/
def isName (step : String) : Bool := step.utf8ByteSize ≤ 255

/-- The path of the directory that holds an entry. -/
def parent (path : String) : String :=
  String.ofList ((path.toList.reverse.dropWhile (· != '/')).drop 1).reverse

end SpecLink.Path
