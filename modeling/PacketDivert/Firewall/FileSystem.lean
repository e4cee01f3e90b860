import PacketDivert.Bytes
import PacketDivert.SystemError
import PacketDivert.Text.Parts

/-! A file system as far as looking up files needs it: what stands at each absolute path, and how
a path text leads there through directories and links. -/

namespace PacketDivert

/-- What stands at a path. A program is a file that can be started. -/
inductive FileNode where
  | file (content : Bytes)
  | program
  | directory
  | link (target : String)
  deriving DecidableEq, Repr

/-- Nodes by their absolute paths. A path with something below it is a directory. -/
structure FileSystem where
  nodes : List (List String × FileNode) := []
  workingDirectory : List String := []

namespace FileSystem

def nodeAt (system : FileSystem) (path : List String) : Option FileNode :=
  match system.nodes.lookup path with
  | some node => some node
  | none =>
    if path.isEmpty || system.nodes.any fun (other, _) => path.isPrefixOf other then some .directory
    else none

def components (path : String) : List String := Text.split '/' path

def isAbsolute (path : String) : Bool := path.toList.head? == some '/'

/-- The most bytes that a name in a directory can have. -/
def longestName : Nat := 255

/-- The most bytes that a whole path can have. -/
def longestPath : Nat := 4095

/-- Follows components from a directory. At most `links` links are followed. A name is judged by
its length only when the directory that it stands in is reached. -/
def walk (system : FileSystem) (links : Nat) (directory : List String) (rest : List String) :
    Except SystemError (List String × FileNode) :=
  match rest with
  | [] => .ok (directory, .directory)
  | "" :: rest | "." :: rest => walk system links directory rest
  | ".." :: rest => walk system links directory.dropLast rest
  | name :: rest =>
    if longestName < name.utf8ByteSize then .error .nameTooLong
    else
      let path := directory ++ [name]
      match system.nodeAt path with
      | none => .error .notFound
      | some .directory => walk system links path rest
      | some (.link target) =>
        match links with
        | 0 => .error .tooManyLinks
        | links + 1 =>
          walk system links (if isAbsolute target then [] else directory)
            (components target ++ rest)
      | some node => if rest.isEmpty then .ok (path, node) else .error .notDirectory
  termination_by (links, rest.length)

/-- What a path leads to. The system follows at most forty links; an empty path leads nowhere. -/
def resolve (system : FileSystem) (path : String) : Except SystemError FileNode :=
  if path.isEmpty then .error .notFound
  else if longestPath < path.utf8ByteSize then .error .nameTooLong
  else
    (system.walk 40 (if isAbsolute path then [] else system.workingDirectory)
      (components path)).map (·.2)

def isFile (system : FileSystem) (path : String) : Bool :=
  match system.resolve path with
  | .ok (.file _) | .ok .program => true
  | _ => false

def read (system : FileSystem) (path : String) : Except SystemError Bytes :=
  match system.resolve path with
  | .error fault => .error fault
  | .ok (.file content) => .ok content
  | .ok .program => .ok []
  | .ok .directory => .error .isDirectory
  | .ok (.link _) => .error .notFound

/-- Whether a path can be started as a program. -/
def start (system : FileSystem) (path : String) : Except SystemError Unit :=
  match system.resolve path with
  | .error fault => .error fault
  | .ok .program => .ok ()
  | .ok _ => .error .permissionDenied

/-- A name below a directory; an absolute name stands for itself. -/
def join (directory name : String) : String :=
  if isAbsolute name || directory.isEmpty then name
  else if directory.toList.getLast? == some '/' then directory ++ name
  else directory ++ "/" ++ name

end FileSystem

end PacketDivert
