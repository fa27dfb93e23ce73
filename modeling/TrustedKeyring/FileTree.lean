import TrustedKeyring.CertificateSource

/-!
# File trees

Reading files by path below a working directory, with the error numbers of the operating system.
Nothing is known of what lies outside the working directory.
-/

namespace TrustedKeyring

/-- The files and directories below a working directory, by the names on the way to them.  A
directory has no content; the directories on the way to an entry exist. -/
structure FileTree where
  entries : List (List String × Option Bytes) := []
deriving DecidableEq, Repr

namespace FileTree

def names (path : String) : List String :=
  let split : List Char → List Char × List String :=
    List.foldr
      (fun c parts =>
        if c = '/' then ([], String.ofList parts.1 :: parts.2) else (c :: parts.1, parts.2))
      ([], [])
  let parts := split path.toList
  String.ofList parts.1 :: parts.2

def ofList (contents : List (String × Bytes)) : FileTree :=
  ⟨contents.map fun (name, content) =>
    let steps := names name
    (steps.filter (· != ""), if steps.getLast? = some "" then none else some content)⟩

inductive Node where
  | file (content : Bytes)
  | directory

def node? (tree : FileTree) (way : List String) : Option Node :=
  match tree.entries.find? fun entry => entry.1 == way with
  | some (_, some content) => some (.file content)
  | some (_, none) => some .directory
  | none =>
    if way.isEmpty || tree.entries.any fun entry => way.isPrefixOf entry.1 then some .directory
    else none

inductive Place where
  | inside (way : List String)
  | outside
deriving DecidableEq, Repr

def maxName : Nat := 255

def maxPath : Nat := 4095

/-- Goes one name further.  Only a directory can be gone on from, and an empty name or a dot stays
in it. -/
def step (tree : FileTree) (place : Place) (name : String) : Except Errno Place :=
  let isDirectory :=
    match place with
    | .inside way => match tree.node? way with
      | some .directory => true
      | _ => false
    | .outside => true
  if !isDirectory then .error Errno.ENOTDIR
  else if name = "" ∨ name = "." then .ok place
  -- what lies above the working directory is outside, all the way up
  else if name = ".." then
    .ok (match place with
      | .inside [] => .outside
      | .inside way => .inside way.dropLast
      | .outside => .outside)
  else if maxName < name.utf8ByteSize then .error Errno.ENAMETOOLONG
  else
    match place with
    | .inside way =>
      if (tree.node? (way ++ [name])).isSome then .ok (.inside (way ++ [name]))
      else .error Errno.ENOENT
    | .outside => .error Errno.ENOENT

def readFile (tree : FileTree) (path : String) : Except (Option Errno) Bytes :=
  -- such a path is refused before the system is asked, so that there is no error number
  if path.toList.contains '\x00' then .error none
  else if path = "" then .error (some Errno.ENOENT)
  else if maxPath < path.utf8ByteSize then .error (some Errno.ENAMETOOLONG)
  else
    let start := if path.toList.head? = some '/' then Place.outside else Place.inside []
    match (names path).foldlM tree.step start with
    | .error e => .error (some e)
    | .ok .outside => .error (some Errno.EISDIR)
    | .ok (.inside way) =>
      match tree.node? way with
      | some (.file content) => .ok content
      | some .directory => .error (some Errno.EISDIR)
      | none => .error (some Errno.ENOENT)

def host (tree : FileTree) (environment : List (String × Bytes)) : Host :=
  ⟨tree.readFile, fun name => environment.lookup name⟩

end FileTree

end TrustedKeyring
