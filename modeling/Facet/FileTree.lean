import Facet.Value.Path

/-!
Files and directories, without links, and how a path leads through them. A name has a longest length; the
limit that an operating system sets to whole paths is left out, as are permissions.
-/

namespace Facet

/-- In a directory the first entry of a name counts. -/
inductive FileTree
  | file (content : List UInt8)
  | dir (entries : List (String × FileTree))

/-- The names that lead to a file or directory, the innermost first. -/
abbrev Location := List String

namespace FileTree

def empty : FileTree := .dir []

def isDir : FileTree → Bool
  | .file _ => false
  | .dir _ => true

def child? : FileTree → String → Option FileTree
  | .file _, _ => none
  | .dir entries, name => entries.lookup name

def at? (root : FileTree) : Location → Option FileTree
  | [] => some root
  | name :: parent => (root.at? parent).bind (·.child? name)

def setEntry (name : String) (t : FileTree) :
    List (String × FileTree) → List (String × FileTree)
  | [] => [(name, t)]
  | (n, u) :: rest => if n = name then (name, t) :: rest else (n, u) :: setEntry name t rest

def alter (f : FileTree → FileTree) : List String → FileTree → FileTree
  | [], t => f t
  | name :: rest, t =>
    let entries := match t with
      | .file _ => []
      | .dir entries => entries
    .dir (setEntry name (((entries.lookup name).getD empty).alter f rest) entries)

end FileTree

inductive ReadFault
  | missing | notDirectory | isDirectory | tooLong | nul | notText
  deriving DecidableEq

namespace ReadFault

def message : ReadFault → String
  | .missing => "No such file or directory (os error 2)"
  | .notDirectory => "Not a directory (os error 20)"
  | .isDirectory => "Is a directory (os error 21)"
  | .tooLong => "File name too long (os error 36)"
  | .nul => "file name contained an unexpected NUL byte"
  | .notText => "stream did not contain valid UTF-8"

end ReadFault

namespace Path

def pieces (p : Path) : List String := (split p.text.toList).map .ofList

def names (p : Path) : List String := p.pieces.filter fun name => name != "" && name != "."

end Path

def nameLimit : Nat := 255

structure Disk where
  root : FileTree
  here : Location

namespace Disk

/-- One piece of a path. Whatever it is, it has to stand in a directory; the one above the root is the
root. -/
def advance (d : Disk) (l : Location) (piece : String) : Except ReadFault Location :=
  if !((d.root.at? l).any (·.isDir)) then .error .notDirectory
  else if piece = "" || piece = "." then .ok l
  else if piece = ".." then .ok l.tail
  else if nameLimit < piece.utf8ByteSize then .error .tooLong
  else if (d.root.at? (piece :: l)).isSome then .ok (piece :: l)
  else .error .missing

def resolve (d : Disk) (p : Path) : Except ReadFault Location :=
  if p.text.toList.contains '\x00' then .error .nul
  else if p.text = "" then .error .missing
  else p.pieces.foldlM d.advance (if p.isAbsolute then [] else d.here)

def textAt (d : Disk) (l : Location) : Except ReadFault String :=
  match d.root.at? l with
  | none => .error .missing
  | some (.dir _) => .error .isDirectory
  | some (.file content) =>
    match String.fromUTF8? ⟨content.toArray⟩ with
    | some s => .ok s
    | none => .error .notText

def read (d : Disk) (p : Path) : Except ReadFault String := do d.textAt (← d.resolve p)

end Disk

end Facet
