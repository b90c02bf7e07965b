import PetriCluster.Path

/-!
# Files

The files a cluster reads and writes: plain files and directories, and devices that swallow or refuse
what is written to them. A path is walked step by step, and every directory on the way must be there.
-/

namespace PetriCluster

/-- Where something is: the names from the root on. -/
abbrev Location := List String

/-- Why something cannot be done with a path. -/
inductive StorageError where
  | notFound
  | alreadyThere
  | notDirectory
  | isDirectory
  | nameTooLong
  | zeroByte
  | noSpace
  deriving DecidableEq, Repr

/-- What is wrong, in words. -/
def StorageError.text : StorageError → String
  | notFound => "No such file or directory (os error 2)"
  | alreadyThere => "File exists (os error 17)"
  | notDirectory => "Not a directory (os error 20)"
  | isDirectory => "Is a directory (os error 21)"
  | nameTooLong => "File name too long (os error 36)"
  | zeroByte => "file name contained an unexpected NUL byte"
  | noSpace => "No space left on device (os error 28)"

/-- What can be at a location. -/
inductive StorageEntry where
  | directory
  | file (text : String)
  | device (isFull : Bool)
  deriving DecidableEq, Repr

/-- All files. -/
structure Storage where
  entries : List (Location × StorageEntry)
  home : Location

/-- An operation on files; what it has changed stays changed if it fails. -/
abbrev StorageM := EStateM StorageError Storage

namespace Storage

/-- The directories around a location and the location itself, from the outside in. -/
def locationsTo (l : Location) : List Location :=
  (List.range l.length).map fun n => l.take (n + 1)

/-- The directories that are always at the root. -/
def rootNames : List String :=
  ["bin", "dev", "etc", "home", "lib", "opt", "proc", "root", "run", "sbin", "sys", "tmp", "usr", "var"]

/-- The usual directories and devices, and an empty working directory. -/
def create (home : Location) : Storage where
  entries := [(["dev", "full"], .device true), (["dev", "null"], .device false)] ++
    (rootNames.map ([·]) ++ locationsTo home).eraseDups.map fun l => (l, .directory)
  home

variable (s : Storage)

/-- What is at a place. -/
def find? (l : Location) : Option StorageEntry :=
  if l = [] then some .directory
  else (s.entries.find? fun e => e.1 = l).map (·.2)

/-- Put an entry at a location in place of what was there. -/
def put (l : Location) (entry : StorageEntry) : Storage :=
  { s with entries := (l, entry) :: s.entries.filter fun e => e.1 ≠ l }

/-- The home directory as a path. -/
def homeText : String :=
  "/" ++ "/".intercalate s.home

/-! ## Walking -/

/-- The longest name of a file. -/
def maxNameSize : Nat := 255

/-- The longest path. -/
def maxPathSize : Nat := 4095

/-- Whether a path can be used at all. -/
def check (p : Path) : Except StorageError Unit :=
  if p.text.contains (Char.ofNat 0) then .error .zeroByte
  else if maxPathSize < p.text.utf8ByteSize then .error .nameTooLong
  else if p.text = "" then .error .notFound
  else .ok ()

/-- Whether a directory is at a place. -/
def enter (l : Location) : Except StorageError Unit :=
  match s.find? l with
  | some .directory => .ok ()
  | some _ => .error .notDirectory
  | none => .error .notFound

/-- What is at a location, if its name can be looked up. -/
def look (l : Location) : Except StorageError (Option StorageEntry) :=
  match l.getLast? with
  | some name =>
    if maxNameSize < name.utf8ByteSize then .error .nameTooLong else .ok (s.find? l)
  | none => .ok (s.find? l)

/-- Walk from a location along steps: before each step one must be in a directory, and a name must be
there to go on to. -/
def walk (l : Location) : List PathStep → Except StorageError Location
  | [] => .ok l
  | step :: rest => do
    s.enter l
    match step with
    | .stay => walk l rest
    | .back => walk l.dropLast rest
    | .name name =>
      match ← s.look (l ++ [name]) with
      | some _ => walk (l ++ [name]) rest
      | none => .error .notFound

/-- Where a path starts. -/
def start (p : Path) : Location :=
  if p.isAbsolute then [] else s.home

/-- Where a path leads; something must be there. -/
def locate (p : Path) : Except StorageError Location := do
  check p
  let l ← s.walk (s.start p) p.steps
  if p.endsInSlash then s.enter l
  return l

/-- Where a path leads; the last name need not be there yet. -/
def destination (p : Path) : Except StorageError Location := do
  check p
  match p.steps.getLast? with
  | some (.name name) =>
    let l ← s.walk (s.start p) p.steps.dropLast
    s.enter l
    return l ++ [name]
  | _ => s.walk (s.start p) p.steps

/-! ## Looking -/

/-- What a path leads to. -/
def entry? (p : Path) : Option StorageEntry :=
  match s.locate p with
  | .ok l => s.find? l
  | .error _ => none

/-- Whether a path leads to a directory. -/
def isDirectory (p : Path) : Bool :=
  s.entry? p = some .directory

/-- What can be read at the end of a path; a device has nothing to read. -/
def read? (p : Path) : Option String :=
  match s.entry? p with
  | some (.file text) => some text
  | some (.device _) => some ""
  | _ => none

/-- The names in a directory, in alphabetical order. -/
def names (p : Path) : List String :=
  match s.locate p with
  | .ok l =>
    (s.entries.filterMap fun e => if e.1.dropLast = l then e.1.getLast? else none).mergeSort
      fun a b => decide (a ≤ b)
  | .error _ => []

/-- What another storage has not, or not in the same way, from the outside in. -/
def changes (old : Storage) : List (Location × StorageEntry) :=
  (s.entries.filter fun e => old.find? e.1 ≠ some e.2).mergeSort
    fun a b => decide (a.1.length ≤ b.1.length)

/-- Put text over the start of a plain file; a longer text that was there sticks out behind it.
Anything else stays as it is. -/
def overwrite (l : Location) (text : String) : Storage :=
  match s.find? l with
  | some (.file old) =>
    s.put l (.file (text ++ String.ofList (old.toList.drop text.length)))
  | _ => s

end Storage

namespace StorageM

/-- A look at the files. -/
def ofExcept {α : Type} (f : Storage → Except StorageError α) : StorageM α := fun s =>
  match f s with
  | .ok a => .ok a s
  | .error e => .error e s

/-- Make one directory. -/
def makeDirectory (p : Path) : StorageM Unit := do
  let l ← ofExcept fun s => s.destination p
  match ← ofExcept fun s => s.look l with
  | some _ => throw .alreadyThere
  | none => modify fun s => s.put l .directory

/-- Pass over a failure to make a directory if there is one now. -/
def unlessDirectory (p : Path) (e : StorageError) : StorageM Unit := do
  unless (← get).isDirectory p do throw e

/-- Make the first of the given directories. If it cannot be made because there is nothing around
it, make the others first, each of which lies around the one before. -/
def makeEach : List Path → StorageM Unit
  | [] => return ()
  | p :: around =>
    tryCatch (makeDirectory p) fun e => do
      if e = .notFound then
        makeEach around
        tryCatch (makeDirectory p) (unlessDirectory p)
      else unlessDirectory p e

/-- Make a directory and all directories on the way to it; they may be there already. -/
def makeDirectories (p : Path) : StorageM Unit :=
  makeEach p.andAncestors

/-- Make an empty file. -/
def create (p : Path) : StorageM Location := do
  let l ← ofExcept fun s => s.destination p
  if p.endsInSlash then throw .isDirectory
  match ← ofExcept fun s => s.look l with
  | some .directory => throw .isDirectory
  | some (.device _) => return l
  | _ =>
    modify fun s => s.put l (.file "")
    return l

/-- How many bytes are gathered before anything is written. -/
def bufferSize : Nat := 8192

/-- Write text to a file that has been started. A full device refuses it only if it does not fit into
the buffer: the last bytes are written without a look at what becomes of them. -/
def fill (l : Location) (text : String) : StorageM Unit := do
  match (← get).find? l with
  | some (.device true) => if bufferSize < text.utf8ByteSize then throw .noSpace
  | some (.device false) => return ()
  | _ => modify fun s => s.put l (.file text)

end StorageM

end PetriCluster
