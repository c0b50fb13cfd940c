import ElementProps.Text.Quoted

/-!
# Files

* `Path`              a path in normal form: no `.` and no empty components, `..` kept;
* `ReadError`         why a file cannot be read, with the words for it;
* `FileTree.read`     the bytes at a path, seen from the working directory.
-/

namespace ElementProps

/-! ## paths -/

structure Path where
  /-- the slashes with which an absolute path begins: one, or exactly two -/
  root : String
  parts : List String
  deriving DecidableEq, Repr

namespace Path

def ofString (s : String) : Path where
  root := match (s.toList.takeWhile (· == '/')).length with
    | 0 => ""
    | 2 => "//"
    | _ => "/"
  parts := ((s.toList.splitOn '/').filter fun p => !(p.isEmpty || p == ['.'])).map String.ofList

/-- the text of a path; the empty path is the working directory -/
def text (p : Path) : String :=
  let s := p.root ++ "/".intercalate p.parts
  if s.isEmpty then "." else s

end Path

/-! ## errors -/

inductive ReadError where
  | missing
  | notDirectory
  | isDirectory
  | nameTooLong
  deriving DecidableEq, Repr

namespace ReadError

def code : ReadError → Nat
  | .missing => 2
  | .notDirectory => 20
  | .isDirectory => 21
  | .nameTooLong => 36

def text : ReadError → String
  | .missing => "No such file or directory"
  | .notDirectory => "Not a directory"
  | .isDirectory => "Is a directory"
  | .nameTooLong => "File name too long"

/-- the words for an error at a path -/
def message (e : ReadError) (p : Path) : String :=
  "[Errno " ++ toString e.code ++ "] " ++ e.text ++ ": " ++ Text.quoted p.text

end ReadError

/-! ## trees -/

/-- the files under the working directory, each by the parts of its path -/
abbrev FileTree := List (List String × List UInt8)

namespace FileTree

/-- the longest name of a file, in bytes -/
def maxName : Nat := 255

/-- the longest path, in bytes -/
def maxPath : Nat := 4095

/-- some file lies below this directory -/
def hasDirectory (tree : FileTree) (dir : List String) : Bool :=
  tree.any fun f => dir.isPrefixOf f.1 && f.1 != dir

/-- The bytes at the end of a walk along the given parts. `here` is the directory reached so far,
`none` above the working directory, where nothing is known but the way up. -/
def walk (tree : FileTree) (here : Option (List String)) :
    List String → Except ReadError (List UInt8)
  | [] => .error .isDirectory
  | part :: rest =>
    if part = ".." then
      walk tree (here.bind fun d => if d.isEmpty then none else some d.dropLast) rest
    else if maxName < part.utf8ByteSize then .error .nameTooLong
    else match here with
      | none => .error .missing
      | some dir =>
        match tree.lookup (dir ++ [part]) with
        | some bytes => if rest.isEmpty then .ok bytes else .error .notDirectory
        | none =>
          if tree.hasDirectory (dir ++ [part]) then walk tree (some (dir ++ [part])) rest
          else .error .missing

def read (tree : FileTree) (p : Path) : Except ReadError (List UInt8) :=
  if maxPath < p.text.utf8ByteSize then .error .nameTooLong
  else tree.walk (if p.root.isEmpty then some [] else none) p.parts

end FileTree

end ElementProps
