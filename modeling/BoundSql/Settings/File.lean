import BoundSql.Settings.Basic
import BoundSql.Settings.Environment
import BoundSql.Yaml.Document

/-!
# Files of settings

Where the settings of a program are looked for, and how they are loaded. A path that was asked for
must be there. Else the file that the environment names is tried, then three places below the
current directory.
-/

namespace BoundSql

open Text

/-- The files and directories below the current directory. -/
structure FileTree where
  /-- How the current directory is written. -/
  root : String
  /-- Files by path, with their texts. -/
  files : List (String × String)
  /-- Paths of further directories. -/
  folders : List String

/-- A path as its names. -/
structure FilePath where
  /-- The slashes it starts with: none, or those of the root of all files. -/
  root : String
  /-- Its names, without empty ones and dots. -/
  names : List String
  deriving DecidableEq

namespace FilePath

/-- The root that a text starts with. Two slashes are a root of their own, more than two are as
good as one. -/
def rootOf : List Char → String
  | '/' :: '/' :: '/' :: _ => "/"
  | '/' :: '/' :: _ => "//"
  | '/' :: _ => "/"
  | _ => ""

/-- Reads a path. -/
def read (s : String) : FilePath :=
  let names := (splitAt '/' s.toList).map String.ofList
  ⟨rootOf s.toList, names.filter fun name => name ≠ "" && name ≠ "."⟩

/-- The path starts at the root of all files. -/
def absolute (p : FilePath) : Bool := p.root ≠ ""

/-- The text of a path. -/
def text (p : FilePath) : String :=
  let whole := p.root ++ String.intercalate "/" p.names
  if whole = "" then "." else whole

/-- The names above the last one. -/
def parents (p : FilePath) : List (List String) :=
  (List.range p.names.length).map fun n => p.names.take n

end FilePath

namespace FileTree

/-- The names lead to a directory. -/
def isFolder (tree : FileTree) (names : List String) : Bool :=
  names.isEmpty ||
    (tree.files.any fun f => (FilePath.read f.1).parents.contains names) ||
    (tree.folders.any fun path =>
      let p := FilePath.read path
      p.names == names || p.parents.contains names)

/-- Follows names from a directory; two dots lead up, and only a directory can be left. -/
def follow? (tree : FileTree) (reached : List String) : List String → Option (List String)
  | [] => some reached
  | name :: rest =>
    if !tree.isFolder reached then none
    else if name = ".." then
      if reached.isEmpty then none else tree.follow? reached.dropLast rest
    else tree.follow? (reached ++ [name]) rest

/-- The text of the file at a path. -/
def textOf? (tree : FileTree) (p : FilePath) : Option String :=
  if p.absolute then none
  else do
    let names ← tree.follow? [] p.names
    tree.files.reverse.findSome? fun f =>
      if (FilePath.read f.1).names = names then some f.2 else none

/-- The greatest count of bytes in a name. -/
def nameLimit : Nat := 255

/-- The greatest count of bytes in a path. -/
def pathLimit : Nat := 4095

/-- On the way from a directory there is a name that is too long, below directories that exist. -/
def meetsLongName (tree : FileTree) (reached : List String) : List String → Bool
  | [] => false
  | name :: rest =>
    tree.isFolder reached &&
      (nameLimit < name.utf8ByteSize ||
        (if name = ".." then !reached.isEmpty && tree.meetsLongName reached.dropLast rest
          else tree.meetsLongName (reached ++ [name]) rest))

/-- No file can have the path: as a whole or in a name it is too long. -/
def refuses (tree : FileTree) (p : FilePath) : Bool :=
  pathLimit < p.text.utf8ByteSize ||
    tree.meetsLongName [] (if p.absolute then p.names.take 1 else p.names)

/-- The text of the file at a path, if there is one. -/
def find (tree : FileTree) (p : FilePath) : Except Error (Option String) :=
  if tree.refuses p then .error (.nameTooLong p.text) else .ok (tree.textOf? p)

end FileTree

namespace SettingsFile

/-- A place where settings may be. -/
structure Place where
  /-- How it is written. -/
  shown : String
  /-- Its path. -/
  path : FilePath

/-- The places below the current directory. -/
def usual : List String := ["querycore.yaml", "querycore.yml", "config/querycore.yaml"]

/-- The places to look at, in order. -/
def places (tree : FileTree) (env : EnvironmentSettings) : List Place :=
  let chosen :=
    match Settings.chosen? env.configFile with
    | some path => [⟨(FilePath.read path).text, FilePath.read path⟩]
    | none => []
  chosen ++ usual.map fun path => ⟨tree.root ++ "/" ++ path, FilePath.read path⟩

/-- The first of several places with a file, and the text of the file. -/
def firstFile (tree : FileTree) : List Place → Except Error (Option (Place × String))
  | [] => .ok none
  | place :: rest => do
    match ← tree.find place.path with
    | some text => return some (place, text)
    | none => firstFile tree rest

/-- The place of the settings, and their text. -/
def locate (tree : FileTree) (env : EnvironmentSettings) (asked : Option String) :
    Except Error (Place × String) :=
  match Settings.chosen? asked with
  | some path => do
    let p := FilePath.read path
    match ← tree.find p with
    | some text => return (⟨p.text, p⟩, text)
    | none => throw (.configuration (.fileNotFound path))
  | none => do
    let tried := places tree env
    match ← firstFile tree tried with
    | some found => return found
    | none => throw (.configuration (.noFile (tried.map Place.shown)))

/-- Refuses a mapping that is a part of itself. What stands in front of that place is looked at
before. -/
def checkEnd (env : Environment) (v : Value) : Except Error Unit :=
  match Yaml.finitePart v with
  | (.mapping fields, true) => do
    let _ ← EnvReference.expandFields env fields
    throw .endless
  | _ => .ok ()

/-- Loads the settings of a program. -/
def load (tree : FileTree) (env : Environment) (asked : Option String) : Except Error Settings := do
  let (place, text) ← locate tree (EnvironmentSettings.read env) asked
  match Yaml.read text with
  | .error (.document fault) => throw (.configuration (.malformedFile place.shown fault))
  | .error (.scalar error) => throw error
  | .ok .null => throw (.configuration (.emptyFile place.shown))
  | .ok v => do
    checkEnd env v
    Settings.load env v

end SettingsFile

end BoundSql
