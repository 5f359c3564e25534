import FluentBuilder.Path
import FluentBuilder.Table
import FluentBuilder.Text.Quoted
import FluentBuilder.Text.Utf8

/-!
# Files and directories

A store is what a file system holds below its root: files with their bytes, and directories. Paths
are seen from a current directory. There are no links, so that two points after a directory always
lead to the directory around it.

Operations that change the store are computations over it (`Filing`): one that fails keeps what it
changed before.
-/

namespace FluentBuilder

/-! ### Contents -/

/-- What stands at a place. -/
inductive Node where
  /-- A file with its bytes. -/
  | file (bytes : List UInt8)
  /-- A directory. -/
  | directory
  deriving DecidableEq, Repr

/-- A place: the names of the directories from the root on, and a last name. -/
abbrev Place := List String

/-- What a file system holds. -/
structure Store where
  /-- What stands at which place. Every place stands below directories that are listed too. -/
  nodes : List (Place × Node)
  /-- The current directory. -/
  current : Place
  /-- The home directory. -/
  home : String

/-- Why an operation on files fails. -/
inductive StoreFault where
  /-- Something stands at the path. -/
  | exists (path : String)
  /-- Nothing stands at the path. -/
  | missing (path : String)
  /-- The path leads through something that is no directory. -/
  | notDirectory (path : String)
  /-- A directory stands at the path. -/
  | isDirectory (path : String)
  /-- A file cannot take the place of a directory. -/
  | replacesDirectory (source target : String)
  /-- The path or a name in it is too long. -/
  | nameTooLong (path : String)
  /-- The path holds the character of code zero. -/
  | nullCharacter (operation : String)
  deriving DecidableEq, Repr

/-- The wording of a fault. -/
def StoreFault.message : StoreFault → String
  | .exists path => "[Errno 17] File exists: " ++ quoted path
  | .missing path => "[Errno 2] No such file or directory: " ++ quoted path
  | .notDirectory path => "[Errno 20] Not a directory: " ++ quoted path
  | .isDirectory path => "[Errno 21] Is a directory: " ++ quoted path
  | .replacesDirectory source target =>
    "[Errno 21] Is a directory: " ++ quoted source ++ " -> " ++ quoted target
  | .nameTooLong path => "[Errno 36] File name too long: " ++ quoted path
  | .nullCharacter operation => operation ++ ": embedded null character in path"
where
  /-- A path in quotes. -/
  quoted (path : String) : String := Quoted.text (CodePoints.ofText path)

/-- The wording for a path with the character of code zero, which is no fault of the file system. -/
def StoreFault.isOfSystem : StoreFault → Bool
  | .nullCharacter _ => false
  | _ => true

namespace Store

/-! ### Looking -/

/-- What stands at a place; at the root stands a directory. -/
def node? (s : Store) (place : Place) : Option Node :=
  if place.isEmpty then some .directory
  else (s.nodes.find? fun entry => entry.1 == place).map Prod.snd

/-- The place where a path begins. -/
def origin (s : Store) (p : Path) : Place :=
  if p.isAbsolute then [] else s.current

/-- Has the path the character of code zero? -/
def hasNull (p : Path) : Bool :=
  p.parts.any fun part => part.toList.contains '\x00'

/-- The longest name that a file can have, in bytes. -/
def nameLimit : Nat := 255

/-- The place that is reached from a directory by the names of a path. All but the last name have to
lead through directories. -/
def walk (s : Store) (path : String) : (start : Place) → List String → Except StoreFault Place
  | place, [] => .ok place
  | place, name :: rest =>
    if name == ".." then walk s path place.dropLast rest
    else if Utf8.size name.toList > nameLimit then .error (.nameTooLong path)
    else
      let next := place ++ [name]
      if rest.isEmpty then .ok next
      else match s.node? next with
        | some .directory => walk s path next rest
        | some (.file _) => .error (.notDirectory path)
        | none => .error (.missing path)

/-- The longest path that can be looked up, in bytes. -/
def pathLimit : Nat := 4095

/-- The place of a path. -/
def placeOf (s : Store) (p : Path) : Except StoreFault Place :=
  if Utf8.size p.render.toList > pathLimit then .error (.nameTooLong p.render)
  else s.walk p.render (s.origin p) p.parts

/-- What stands at a path. -/
def status (s : Store) (p : Path) : Except StoreFault Node := do
  let place ← s.placeOf p
  match s.node? place with
  | some node => return node
  | none => throw (.missing p.render)

/-- What stands at a path, if something does. Only a name that is too long is a fault. -/
def look (s : Store) (p : Path) : Except StoreFault (Option Node) :=
  if hasNull p then .ok none
  else match s.status p with
    | .ok node => .ok (some node)
    | .error (.nameTooLong path) => .error (.nameTooLong path)
    | .error _ => .ok none

/-- Does something stand at the path? -/
def occupied (s : Store) (p : Path) : Except StoreFault Bool :=
  (s.look p).map Option.isSome

/-- Does a directory stand at the path? -/
def isDirectory (s : Store) (p : Path) : Except StoreFault Bool :=
  (s.look p).map fun node => node == some .directory

/-- Does a file stand at the path? -/
def isFile (s : Store) (p : Path) : Except StoreFault Bool :=
  (s.look p).map fun
    | some (.file _) => true
    | _ => false

/-- The bytes of the file at a path. -/
def bytes (s : Store) (p : Path) : Except StoreFault (List UInt8) :=
  if hasNull p then .error (.nullCharacter "open")
  else do
    match ← s.status p with
    | .file bytes => return bytes
    | .directory => throw (.isDirectory p.render)

/-! ### Paths -/

/-- The absolute path without points, whether something stands there or not. -/
def resolve (s : Store) (p : Path) : Except StoreFault Path :=
  if hasNull p then .error (.nullCharacter "lstat")
  else
    let place := p.parts.foldl (fun (place : Place) name =>
      if name == ".." then place.dropLast else place ++ [name]) (s.origin p)
    .ok ⟨if p.root = .doubled then .doubled else .absolute, place⟩

/-- The homes of the accounts that every system has. -/
def systemHomes : Table String :=
  [("root", "/root"), ("daemon", "/usr/sbin"), ("bin", "/bin"), ("sys", "/dev"), ("sync", "/bin"),
    ("games", "/usr/games"), ("man", "/var/cache/man"), ("lp", "/var/spool/lpd"),
    ("mail", "/var/mail"), ("news", "/var/spool/news"), ("uucp", "/var/spool/uucp"),
    ("proxy", "/bin"), ("www-data", "/var/www"), ("backup", "/var/backups"), ("list", "/var/list"),
    ("irc", "/run/ircd"), ("nobody", "/nonexistent")]

/-- The path with a tilde at its beginning replaced by a home directory: that of the account named
behind the tilde, or one's own. Nothing, if there is no such account. -/
def expandHome (home : String) (p : Path) : Option Path :=
  match p.root, p.parts with
  | .relative, first :: rest =>
    match first.toList with
    | '~' :: account =>
      let base := if account.isEmpty then some home else systemHomes.find? (String.ofList account)
      base.map fun base => ⟨(Path.ofText base).root, (Path.ofText base).parts ++ rest⟩
    | _ => some p
  | _, _ => some p

/-! ### Listing -/

/-- The names and contents directly inside a directory. -/
def children (s : Store) (place : Place) : List (String × Node) :=
  s.nodes.filterMap fun (other, node) =>
    if other.length = place.length + 1 && other.dropLast == place then some (other.getLastD "", node)
    else none

end Store

/-! ### Changing -/

/-- A computation over a store that can fail. -/
abbrev Filing := ExceptT StoreFault (StateM Store)

namespace Store

/-- The store with a node at a place. -/
def putNode (s : Store) (place : Place) (node : Node) : Store :=
  if s.nodes.any fun entry => entry.1 == place then
    { s with nodes := s.nodes.map fun entry => if entry.1 == place then (place, node) else entry }
  else { s with nodes := s.nodes ++ [(place, node)] }

/-- The store without what stands at a place. -/
def removeNode (s : Store) (place : Place) : Store :=
  { s with nodes := s.nodes.filter fun entry => entry.1 != place }

/-- The store without a place and all that stands below it. -/
def removeTree (s : Store) (place : Place) : Store :=
  { s with nodes := s.nodes.filter fun entry => !(place.isPrefixOf entry.1) }

end Store

namespace Filing

/-- A look at the store. -/
def look {α : Type} (f : Store → Except StoreFault α) : Filing α := do
  ExceptT.mk (pure (f (← get)))

/-- Puts something at a path at which nothing stands yet. -/
def create (operation : String) (node : Node) (p : Path) : Filing Unit := do
  if Store.hasNull p then throw (.nullCharacter operation)
  let place ← look (·.placeOf p)
  if ((← get).node? place).isSome then throw (.exists p.render)
  modify (·.putNode place node)

/-- Makes a directory. -/
def makeDirectory (p : Path) : Filing Unit := create "mkdir" .directory p

/-- Makes a directory unless one stands there. -/
def ensureDirectory (p : Path) : Filing Unit := do
  try makeDirectory p
  catch fault =>
    match fault with
    | .missing _ => throw fault
    | .nullCharacter _ => throw fault
    | _ => if !(← look (·.isDirectory p)) then throw fault

/-- Makes a directory and those around it, unless they stand there. There are no more of them than
the path has parts. -/
def ensureDirectories : (fuel : Nat) → Path → Filing Unit
  | 0, p => ensureDirectory p
  | fuel + 1, p => do
    try ensureDirectory p
    catch fault =>
      match fault with
      | .missing _ => do
        if p.parent = p then throw fault
        ensureDirectories fuel p.parent
        ensureDirectory p
      | _ => throw fault

/-- Writes a file; its directory has to be there. -/
def writeFile (p : Path) (bytes : List UInt8) : Filing Unit := do
  if Store.hasNull p then throw (.nullCharacter "open")
  let place ← look (·.placeOf p)
  if (← get).node? place = some .directory then throw (.isDirectory p.render)
  modify (·.putNode place (.file bytes))

/-- Lets a file take the place of another one. It cannot take the place of a directory. -/
def replaceFile (source target : Path) : Filing Unit := do
  let before ← look (·.placeOf source)
  let after ← look (·.placeOf target)
  match (← get).node? before, (← get).node? after with
  | some (.file _), some .directory =>
    throw (.replacesDirectory source.render target.render)
  | some (.file bytes), _ =>
    modify (·.removeNode before)
    modify (·.putNode after (.file bytes))
  | _, _ => throw (.missing source.render)

/-- Removes a file, if something stands at the path. -/
def removeFile (p : Path) : Filing Unit := do
  let place ← look (·.placeOf p)
  if (← get).node? place = some .directory then throw (.isDirectory p.render)
  modify (·.removeNode place)

/-! ### Writing as a whole -/

/-- What tells the temporary files of one file apart: eight characters, or more if there are that many
files. -/
def temporaryMark (n : Nat) : String :=
  let digits := if n = 0 then [] else (toString n).toList
  String.ofList (List.replicate (8 - digits.length) 'X' ++ digits)

/-- A file beside another one, which can be written before it takes the place of that one. -/
def temporaryPath (p : Path) (n : Nat) : Path :=
  ⟨p.root, p.parts.dropLast ++ ["." ++ p.name ++ "." ++ temporaryMark n ++ ".tmp"]⟩

/-- Makes an empty file beside another one, under the first name from a number on that nothing has. -/
def createTemporary (p : Path) : (tries n : Nat) → Filing Path
  | 0, n => throw (.exists (temporaryPath p n).render)
  | tries + 1, n => do
    try
      create "open" (.file []) (temporaryPath p n)
      pure (temporaryPath p n)
    catch fault =>
      match fault with
      | .exists _ => createTemporary p tries (n + 1)
      | _ => throw fault

/-- Writes a file as a whole: no other state of it is ever seen. Directories around it are made. The
bytes are written to a file beside it, which is removed if it cannot take its place; that has a name
which no other file has, and there are more names to try than files. -/
def writeWhole (p : Path) (bytes : List UInt8) : Filing Unit := do
  ensureDirectories p.parts.length p.parent
  let temporary ← createTemporary p ((← get).nodes.length + 1) 0
  try
    writeFile temporary bytes
    replaceFile temporary p
  catch fault =>
    removeFile temporary
    throw fault

end Filing
end FluentBuilder
