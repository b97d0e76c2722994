import StepTrace.Text.Hex
import StepTrace.Text.Split

/-!
# Paths

What a request asks for is named by a path. A host in front of it, a query and a
fragment after it, parts that lead nowhere and slashes at its end make no difference
to what it names. A character may be written by its code after a percent sign, and
the percent sign of a code may itself be written so.
-/

namespace StepTrace.Service

/-- A path without its query and its fragment. -/
def withoutQuery (path : List Char) : List Char :=
  path.takeWhile fun c => c != '?' && c != '#'

/-- A path without the name of a host, which stands after two slashes. -/
def withoutHost : List Char → List Char
  | '/' :: '/' :: rest => rest.dropWhile (· != '/')
  | path => path

/-- The parts of a path from its root on, taken back so far, the last one first. A
    point stays where it is, and two points lead back. -/
def follow (back : List (List Char)) : List (List Char) → List (List Char)
  | [] => back.reverse
  | ['.'] :: rest => follow back rest
  | ['.', '.'] :: rest => follow back.tail rest
  | part :: rest => follow (part :: back) rest

/-- A path from its root on, without parts that lead nowhere. -/
def rooted (path : List Char) : List Char :=
  '/' :: Text.join ['/'] (follow [] (Text.split '/' (path.dropWhile (· == '/'))))

/-- A path with the characters that are written by their codes. Only ASCII has to
    be read so, since no path that is known holds anything else. -/
def unescaped (path : List Char) : List Char :=
  match path with
  | [] => []
  | '%' :: high :: low :: rest =>
    match Text.hexNumber? [high, low] with
    | some code =>
      if code < 0x80 then Char.ofNat code :: unescaped rest
      else '%' :: unescaped (high :: low :: rest)
    | none => '%' :: unescaped (high :: low :: rest)
  | c :: rest => c :: unescaped rest
termination_by path.length

/-- A path without the slashes at its end. -/
def withoutSlashes (path : List Char) : List Char :=
  (path.reverse.dropWhile (· == '/')).reverse

/-- The path that a request names. -/
def namedPath (path : List Char) : List Char :=
  withoutSlashes (unescaped (unescaped (rooted (withoutHost (withoutQuery path)))))

/-- Whether a path names a place. A line end after the name is not looked at. -/
def names (path : List Char) (place : String) : Bool :=
  let name := namedPath path
  name == place.toList || name == place.toList ++ ['\n']

end StepTrace.Service
