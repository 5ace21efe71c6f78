import ApiSurvey.Text.Split

/-!
# Files

What reading a path can come to, and a working directory held in memory.  Paths are followed
component by component: a dot stays, two dots go up, and everything but the last component has to
be a directory.  Nothing is known outside the working directory.  It is filled path by path: a
directory is made together with those on the way to it, a file needs a directory to stand in.
-/

namespace ApiSurvey

/-- What is found at a path. -/
inductive FileState
  | missing
  | directory
  /-- A file whose content is no text, or cannot be had. -/
  | unreadable
  | text (content : String)
deriving DecidableEq, Repr

namespace FileState

/-- The text, where there is one to read. -/
def text? : FileState → Option String
  | text content => some content
  | _ => none

/-- Whether there is a file, readable or not. -/
def isFile : FileState → Bool
  | unreadable => true
  | text _ => true
  | _ => false

end FileState

/-- The components of a path as written. -/
def pathComponents (path : String) : List String :=
  (Text.splitOn '/' path.toList).map String.ofList

/-- Whether a component stays in the directory. -/
def isStay (component : String) : Bool :=
  component == "" || component == "."

/-- Whether a path is a single hyphen, which stands for the standard input. -/
def isHyphen (path : String) : Bool :=
  match pathComponents path with
  | "-" :: rest => rest.all isStay
  | _ => false

/-- Whether a component can be the name of something new. -/
def isFileName (component : String) : Bool :=
  component.utf8ByteSize ≤ 255 && !component.toList.contains '\x00'

/-- A working directory: what it holds, what was put there last in front.  A name is a list of
components, the innermost one first; the directory itself has the empty name. -/
structure Directory where
  entries : List (List String × FileState)

namespace Directory

def empty : Directory := ⟨[]⟩

/-- What stands under a name. -/
def find (d : Directory) (name : List String) : FileState :=
  if name.isEmpty then .directory else (d.entries.lookup name).getD .missing

def put (d : Directory) (name : List String) (state : FileState) : Directory :=
  ⟨(name, state) :: d.entries⟩

/-- The name that a path leads to from the directory `here`. -/
def locate? (d : Directory) (here : List String) : List String → Option (List String)
  | [] => some here
  | c :: cs =>
    if d.find here ≠ .directory then none
    else if isStay c then locate? d here cs
    else if c = ".." then
      match here with
      | [] => none
      | _ :: up => locate? d up cs
    else locate? d (c :: here) cs

/-- What reading a path comes to. -/
def read (d : Directory) (path : String) : FileState :=
  if path.isEmpty || path.front == '/' then .missing
  else (d.locate? [] (pathComponents path)).elim .missing d.find

/-- The directory with all directories on a path from `here` made.  A dot does not make the
directory that it follows at the end of a path. -/
def makeDirectories? (d : Directory) (here : List String) : List String → Option Directory
  | [] => some d
  | c :: cs =>
    if isStay c then makeDirectories? d here cs
    else if c = ".." then
      match here with
      | [] => none
      | _ :: up => makeDirectories? d up cs
    else match d.find (c :: here) with
      | .directory => makeDirectories? d (c :: here) cs
      | .missing =>
        if !isFileName c || cs.contains "." && cs.all isStay then none
        else makeDirectories? (d.put (c :: here) .directory) (c :: here) cs
      | _ => none

/-- The directory with a file put at the end of a path, where no directory stands. -/
def putFile? (d : Directory) (components : List String) (state : FileState) : Option Directory := do
  let name ← d.locate? [] components
  if d.find name = .directory || !(name.head?.all isFileName) then none
  else return d.put name state

/-- The directory with one more entry, if it can be made. -/
def insert? (d : Directory) (path : String) (state : FileState) : Option Directory :=
  if path.front == '/' then none
  else if state = .directory then d.makeDirectories? [] (pathComponents path)
  else d.putFile? (pathComponents path) state

end Directory

end ApiSurvey
