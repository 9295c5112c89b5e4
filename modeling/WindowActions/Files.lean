import WindowActions.Vocabulary.Resolve

/-!
# Files

Programs and client descriptions can come from files, which have to be UTF-8. A path is read
relative to a directory whose files are known.
-/

namespace WindowActions

inductive ReadError where
  | notFound
  | isDirectory
  | notDirectory
  | notText
  /-- Any other reason, in the words of the system. -/
  | other (message : String)
deriving DecidableEq, Repr

def ReadError.message : ReadError → String
  | notFound => "No such file or directory (os error 2)"
  | isDirectory => "Is a directory (os error 21)"
  | notDirectory => "Not a directory (os error 20)"
  | notText => "stream did not contain valid UTF-8"
  | other message => message

def decodeFile (bytes : List UInt8) : Except ReadError String :=
  match String.fromUTF8? bytes.toByteArray with
  | some text => .ok text
  | none => .error .notText

/-- A directory: the bytes of the files in it and in the directories below it, by the names on the
way to each of them. -/
structure FileTree where
  files : List (List String × List UInt8)

namespace FileTree

inductive Node where
  | file (bytes : List UInt8)
  | directory
  | missing

/-- What there is behind the given names. -/
def node (tree : FileTree) (names : List String) : Node :=
  match tree.files.lookup names with
  | some bytes => .file bytes
  | none =>
    if names.isEmpty || tree.files.any (fun file => names.isPrefixOf file.1) then .directory
    else .missing

/-- The way that remains after a path has been followed from `at`, or why it cannot be followed.
-/
def follow (tree : FileTree) (way : List String) : List String → Except ReadError (List String)
  | [] => .ok way
  | name :: names =>
    match tree.node way with
    | .missing => .error .notFound
    | .file _ => .error .notDirectory
    | .directory =>
      if name = "" ∨ name = "." then follow tree way names
      else if name = ".." then follow tree way.dropLast names
      else follow tree (way ++ [name]) names

/-- The names that a path is made of. -/
def splitPath (path : String) : List String :=
  path.splitToList (· == '/')

/-- The text of the file at a path. No file is found at an absolute path, which leads out of the
directory. -/
def read (tree : FileTree) (path : String) : Except ReadError String :=
  if path = "" ∨ path.toList.head? = some '/' then .error .notFound
  else do
    let way ← tree.follow [] (splitPath path)
    match tree.node way with
    | .missing => .error .notFound
    | .directory => .error .isDirectory
    | .file bytes => decodeFile bytes

/-- The tree of files that are given by their paths. -/
def ofPaths (files : List (String × List UInt8)) : FileTree :=
  ⟨files.map fun file => (splitPath file.1, file.2)⟩

end FileTree

inductive LoadError where
  | file (path : String) (error : ReadError)
  | source (error : SourceError)
  | json
  | misuse (misuse : Misuse)
deriving DecidableEq, Repr

namespace LoadError

/-- The text of the reason behind an error. -/
def reason : LoadError → String
  | file _ error => error.message
  | source error => error.message
  | json => "not a list of clients"
  | misuse m => m.message

def message : LoadError → String
  | file path error => path ++ ": " ++ error.message
  | source error => "parse error at " ++ error.message
  | json => "invalid JSON: not a list of clients"
  | misuse m => m.message

end LoadError

/-- The action list of a program, with its failure as an error. -/
def Vocabulary.load (v : Vocabulary) (source : String) : Except LoadError ActionList :=
  match (v.parse source).result with
  | .ok list => .ok list
  | .error (.source e) => .error (.source e)
  | .error (.misuse m) => .error (.misuse m)

/-- The action list of the program in the file at a path, given what reading the file has led to.
-/
def Vocabulary.loadFile (v : Vocabulary) (path : String) (contents : Except ReadError String) :
    Except LoadError ActionList :=
  match contents with
  | .error e => .error (.file path e)
  | .ok source => v.load source

end WindowActions
