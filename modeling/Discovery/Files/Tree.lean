import Discovery.Text.Utf8
/-!
# A tree of files

The files a scan reads and writes form a tree: absolute paths, each a directory or a
file of bytes, and a working directory against which relative paths are read. A path
is cut at slashes, `.` parts vanish and `..` goes up. Operations fail as the operating
system does: a missing entry, a directory where a file is wanted, a file where a
directory is wanted, an entry that already exists; each failure has its usual text.

`setParts_lookup` says that an entry put at a path is found there.
-/

namespace Discovery.Files

/-- An entry of the tree. -/
inductive Node where
  | dir
  | file (bytes : List UInt8)
  deriving DecidableEq, Repr

/-- Why an operation on the tree failed. -/
inductive IoError where
  | notFound
  | isDirectory
  | notDirectory
  | alreadyExists
  | invalidUtf8
  deriving DecidableEq, Repr

/-- How each failure reads. -/
def IoError.message : IoError → String
  | .notFound => "No such file or directory (os error 2)"
  | .isDirectory => "Is a directory (os error 21)"
  | .notDirectory => "Not a directory (os error 20)"
  | .alreadyExists => "File exists (os error 17)"
  | .invalidUtf8 => "stream did not contain valid UTF-8"

/-- A tree of files with a working directory. -/
structure Tree where
  cwd : List String := []
  nodes : List (List String × Node) := []
  deriving Repr

/-- The parts of a path, resolved against a directory. -/
def resolveParts (cwd : List String) (path : String) : List String :=
  let start := if path.toList.head? = some '/' then [] else cwd
  (path.splitOn "/").foldl (fun acc part =>
    if part = "" || part = "." then acc
    else if part = ".." then acc.dropLast
    else acc ++ [part]) start

/-- A path below a directory; an absolute path stands for itself. -/
def joinPath (dir name : String) : String :=
  if name.startsWith "/" || dir.isEmpty then name
  else if dir.endsWith "/" then dir ++ name
  else dir ++ "/" ++ name

namespace Tree

/-- The entry at resolved parts; the root is always a directory. -/
def lookupParts (t : Tree) (parts : List String) : Option Node :=
  if parts.isEmpty then some .dir else (t.nodes.find? (·.1 = parts)).map (·.2)

/-- The entry at a path. -/
def lookup (t : Tree) (path : String) : Option Node :=
  if path.isEmpty then none else t.lookupParts (resolveParts t.cwd path)

/-- Something is at the path. -/
def «exists» (t : Tree) (path : String) : Bool := (t.lookup path).isSome

/-- The failure of reaching the parent directories of resolved parts, if any. -/
def parentsError (t : Tree) (parts : List String) : Option IoError :=
  (List.range (parts.length - 1)).foldl (fun err i =>
    match err with
    | some e => some e
    | none =>
      match t.lookupParts (parts.take (i + 1)) with
      | some .dir => none
      | some (.file _) => some .notDirectory
      | none => some .notFound) none

/-- The bytes of a file. -/
def read (t : Tree) (path : String) : Except IoError (List UInt8) :=
  if path.isEmpty then .error .notFound
  else
    let parts := resolveParts t.cwd path
    match t.parentsError parts with
    | some e => .error e
    | none =>
      match t.lookupParts parts with
      | some (.file bs) => .ok bs
      | some .dir => .error .isDirectory
      | none => .error .notFound

/-- Put an entry at resolved parts, replacing what was there. -/
def setParts (t : Tree) (parts : List String) (n : Node) : Tree :=
  { t with nodes := (t.nodes.filter (·.1 ≠ parts)) ++ [(parts, n)] }

/-- Create a directory and all missing parents. -/
def createDirAll (t : Tree) (path : String) : Except IoError Tree :=
  let parts := resolveParts t.cwd path
  (List.range parts.length).foldl (fun acc i =>
    match acc with
    | .error e => .error e
    | .ok t =>
      let p := parts.take (i + 1)
      match t.lookupParts p with
      | some .dir => .ok t
      | some (.file _) => .error (if i + 1 = parts.length then .alreadyExists else .notDirectory)
      | none => .ok (t.setParts p .dir)) (.ok t)

/-- Write a file, creating or truncating it; its directory must exist. -/
def write (t : Tree) (path : String) (bytes : List UInt8) : Except IoError Tree :=
  if path.isEmpty then .error .notFound
  else
    let parts := resolveParts t.cwd path
    match t.parentsError parts with
    | some e => .error e
    | none =>
      match t.lookupParts parts with
      | some .dir => .error .isDirectory
      | _ => .ok (t.setParts parts (.file bytes))

/-- Add bytes at the end of a file, creating it when missing. -/
def append (t : Tree) (path : String) (bytes : List UInt8) : Except IoError Tree :=
  match t.lookup path with
  | some (.file old) => t.write path (old ++ bytes)
  | _ => t.write path bytes

/-- Create a directory and its parents unless something is already at the path. -/
def ensureDir (t : Tree) (path : String) : Except IoError Tree :=
  if t.exists path then .ok t else t.createDirAll path

/-- A file holds text read from UTF-8. -/
def readText (t : Tree) (path : String) : Except IoError String :=
  match t.read path with
  | .error e => .error e
  | .ok bs =>
    let s := Text.decodeLossyString bs
    if Text.encode s = bs then .ok s else .error .invalidUtf8

end Tree

theorem setParts_lookup (t : Tree) (parts : List String) (n : Node) (h : parts ≠ []) :
    (t.setParts parts n).lookupParts parts = some n := by
  simp only [Tree.lookupParts, Tree.setParts, List.isEmpty_iff, h, if_false]
  rw [List.find?_append]
  have : (List.filter (fun x => decide (x.1 ≠ parts)) t.nodes).find? (fun x => decide (x.1 = parts)) = none := by
    rw [List.find?_eq_none]
    intro x hx
    simp only [List.mem_filter, decide_eq_true_eq] at hx
    simpa using hx.2
  rw [this]
  simp

end Discovery.Files
