/-!
# Paths

A path is a text of names with slashes between them. One that begins with a slash
leads from the root, any other from the directory where the program works.
Documents name files by paths relative to the document itself
(`Path.besides`).
-/

namespace PipelineCanvas.Path

/-- The names of a path in order, with `""` where nothing stands between two slashes. -/
def segments (path : String) : List (List Char) := path.toList.splitOn '/'

/-- Whether a path leads from the root. -/
def isAbsolute (path : String) : Bool := path.toList.head? == some '/'

/-- Whether a segment leads nowhere. -/
def isIdle (segment : List Char) : Bool := segment == [] || segment == ['.']

/-- Segments without the idle ones at their end. -/
def dropIdleEnd (segments : List (List Char)) : List (List Char) :=
  (segments.reverse.dropWhile isIdle).reverse

/-- A path's beginning, the root or the working directory's own name, and the rest. -/
def split (path : String) : List Char × List Char :=
  match path.toList with
  | '/' :: body => (['/'], body)
  | ['.'] => (['.'], [])
  | '.' :: '/' :: body => (['.'], '/' :: body)
  | body => ([], body)

/-- The path of the directory that a path's last name stands in. The root and the empty
path have none. -/
def parent? (path : String) : Option String :=
  let (start, body) := split path
  match dropIdleEnd (body.splitOn '/') with
  | [] => if start = ['.'] then some "" else none
  | names =>
    some (String.ofList (start ++ ['/'].intercalate (dropIdleEnd names.dropLast)))

/-- A path taken from a directory. An absolute one stays as it is. -/
def join (directory path : String) : String :=
  if isAbsolute path || directory.isEmpty then path
  else if directory.toList.getLast? == some '/' then directory ++ path
  else directory ++ "/" ++ path

/-- A path taken from the directory of a document. -/
def besides (document path : String) : String :=
  if isAbsolute path then path
  else
    match parent? document with
    | some directory => join directory path
    | none => path

example : parent? "conf/settings.yaml" = some "conf" ∧ parent? "settings.yaml" = some ""
    ∧ parent? "./a//b.yaml" = some "./a" ∧ parent? "/a" = some "/" ∧ parent? "/" = none := by
  decide +kernel

end PipelineCanvas.Path
