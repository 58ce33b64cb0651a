import TypstPress.Files.FileError

/-!
# A tree of files

The files below one directory, as far as the command line can see them: files with their bytes and
directories. A directory is known by its own entry or by anything inside it. Names are resolved
component by component; `..` leads to the parent. Outside the directory there is nothing but the
root with its device that takes everything and gives nothing.
-/

namespace TypstPress

/-- A file or a directory. -/
inductive Entry where
  | file (bytes : List UInt8)
  | directory
deriving DecidableEq, Repr, Inhabited

/-- Files and directories by the components of their names. -/
abbrev FileTree := List (List String × Entry)

namespace FileTree

/-- A place that a file name leads to. -/
inductive Place where
  /-- A name below the directory. -/
  | inside (components : List String)
  /-- The device that takes everything and gives nothing. -/
  | nullDevice
  /-- A directory outside. -/
  | outside
deriving DecidableEq, Repr

/-- What there is at a name below the directory. -/
def at? (tree : FileTree) (name : List String) : Option Entry :=
  match tree.lookup name with
  | some entry => some entry
  | none =>
    if name.isEmpty || tree.any fun e => name.isPrefixOf e.1 then some .directory else none

/-- The longest component of a name and the longest name, in bytes. -/
def componentLimit : Nat := 255

@[inherit_doc componentLimit]
def nameLimit : Nat := 4096

/-- Follows the components of a name from a directory. The last one need not exist. Above the
tree only the directories are known. -/
def follow (tree : FileTree) (dir : List String) : List String → Except FileError Place
  | [] => .ok (.inside dir)
  | c :: rest =>
    if componentLimit < c.utf8ByteSize then .error .nameTooLong
    else if c == ".." then
      if dir.isEmpty then
        if rest.all (· == "..") then .ok .outside else .error .missing
      else follow tree dir.dropLast rest
    else
      let next := dir ++ [c]
      if rest.isEmpty then .ok (.inside next)
      else
        match tree.at? next with
        | some .directory => follow tree next rest
        | some (.file _) => .error .notADirectory
        | none => .error .missing

/-- The place of a name outside the directory. -/
def placeOutside : List String → Except FileError Place
  | [] | ["dev"] | ["tmp"] => .ok .outside
  | ["dev", "null"] => .ok .nullDevice
  | _ => .error .missing

/-- The place that a file name leads to; `here` is the name of the directory from the root. -/
def place (tree : FileTree) (here : List String) (p : Path) : Except FileError Place :=
  if p.text.toList.contains '\x00' then .error .zeroInName
  else if nameLimit ≤ p.text.utf8ByteSize then .error .nameTooLong
  else if p.root == 0 then tree.follow [] p.components
  else if here.isPrefixOf p.components then
    tree.follow [] (p.components.drop here.length)
  else placeOutside p.components

/-- Reads a file. -/
def read (tree : FileTree) (here : List String) (p : Path) : Except FileError (List UInt8) := do
  match ← tree.place here p with
  | .nullDevice => .ok []
  | .outside => .error .directory
  | .inside name =>
    match tree.at? name with
    | some (.file bytes) => .ok bytes
    | some .directory => .error .directory
    | none => .error .missing

/-- The tree with an entry in place of the one of the same name. -/
def put (name : List String) (entry : Entry) : FileTree → FileTree
  | [] => [(name, entry)]
  | (n, e) :: rest => if n == name then (name, entry) :: rest else (n, e) :: put name entry rest

/-- Changes the bytes of a file, which is created if there is none. -/
def update (tree : FileTree) (here : List String) (p : Path)
    (change : List UInt8 → List UInt8) : Except FileError FileTree := do
  match ← tree.place here p with
  | .nullDevice => .ok tree
  | .outside => .error .directory
  | .inside name =>
    match tree.at? name with
    | some (.file bytes) => .ok (tree.put name (.file (change bytes)))
    | some .directory => .error .directory
    | none => .ok (tree.put name (.file (change [])))

end FileTree

end TypstPress
