/-!
Paths, written as names divided by slashes. Repeated slashes, a trailing slash and a name `.`
that is not the first one carry no meaning.
-/

namespace CodeAudit
namespace Path

inductive Component where
  | root
  | current
  | parent
  | name (text : String)
deriving DecidableEq, Repr

def pieces (path : String) : List String :=
  (path.toList.splitOnP (· == '/')).map String.ofList

def isAbsolute (path : String) : Bool :=
  path.toList.head? == some '/'

def Component.ofPiece? (piece : String) : Option Component :=
  if piece == "" || piece == "." then none
  else if piece == ".." then some .parent
  else some (.name piece)

def components (path : String) : List Component :=
  let leading :=
    if isAbsolute path then [Component.root]
    else if (pieces path).head? == some "." then [Component.current]
    else []
  leading ++ (pieces path).filterMap Component.ofPiece?

def fileName? (path : String) : Option String :=
  match (components path).getLast? with
  | some (.name text) => some text
  | _ => none

/-- What follows the last dot of a name, provided that something precedes the dot. -/
def nameExtension? (name : String) : Option String :=
  let reversed := name.toList.reverse
  let after := reversed.takeWhile (· != '.')
  match reversed.dropWhile (· != '.') with
  | _ :: _ :: _ => some (String.ofList after.reverse)
  | _ => none

def extension? (path : String) : Option String :=
  (fileName? path).bind nameExtension?

def ofNames (names : List String) : String :=
  "/".intercalate names

def trimEnd : List String → List String
  | [] => []
  | first :: rest =>
      first :: (rest.reverse.dropWhile fun piece => piece == "" || piece == ".").reverse

/-- The path without its last component; a path without components and the root have none. -/
def parent? (path : String) : Option String :=
  match (components path).getLast? with
  | none => none
  | some .root => none
  | some _ =>
      match trimEnd (trimEnd (pieces path)).dropLast with
      | [""] => some "/"
      | above => some (ofNames above)

/-- Appends `child`, which replaces the path when it is absolute. -/
def join (path child : String) : String :=
  if isAbsolute child then child
  else if path == "" || path.toList.getLast? == some '/' then path ++ child
  else path ++ "/" ++ child

end Path
end CodeAudit
