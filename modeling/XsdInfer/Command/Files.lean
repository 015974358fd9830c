/-!
# Files

The program reads texts and writes at most one file. Files lie in a store of numbered nodes. A
directory gives names to numbers, so that a file may have several names, and a link stands for another
path. A path is walked name by name.

A file is written in two steps: it is opened, which empties it or makes it if it is not there, and then
filled from its beginning. What may go wrong outside of the program, at which step and how far on, is
the trouble of a run. It is given with the run: permissions, full disks and other programs have no part
in a store.
-/

namespace XsdInfer.Command

/-- Why a file cannot be read or written. -/
inductive FileFault where
  | notFound
  | isDirectory
  | notDirectory
  | nameTooLong
  | manyLinks
  | notText
  /-- Trouble of some other kind, with what is said of it. -/
  | other (message : String)
deriving DecidableEq, Repr

def FileFault.message : FileFault → String
  | notFound => "No such file or directory (os error 2)"
  | isDirectory => "Is a directory (os error 21)"
  | notDirectory => "Not a directory (os error 20)"
  | nameTooLong => "File name too long (os error 36)"
  | manyLinks => "Too many levels of symbolic links (os error 40)"
  | notText => "stream did not contain valid UTF-8"
  | other message => message

/-- The text of the contents of a file. -/
def textOf (contents : ByteArray) : Except FileFault String :=
  match String.fromUTF8? contents with
  | some text => .ok text
  | none => .error .notText

/-- The bytes that a name may have at most. -/
def maxNameBytes : Nat := 255

/-- The bytes that a path may have at most. -/
def maxPathBytes : Nat := 4095

/-- The links that may be followed on one path. -/
def maxLinks : Nat := 40

namespace Path

/-- The parts of a path between its slashes. -/
def parts : List Char → List (List Char)
  | [] => [[]]
  | c :: s => if c = '/' then [] :: parts s else (parts s).modifyHead (c :: ·)

/-- The names of a path. Slashes side by side count as one, and behind a slash at the end stands an
empty name. -/
def names (path : String) : List String :=
  let parts := parts path.toList
  (parts.dropLast.filter (!·.isEmpty) ++ parts.getLast?.toList).map String.ofList

def isAbsolute (path : String) : Bool :=
  path.toList.head? == some '/'

end Path

/-! ## Stores -/

/-- Where a device takes what is written to it. -/
inductive Device where
  /-- To the standard output of the program. -/
  | output
  /-- To some other place, or to none. -/
  | elsewhere
deriving DecidableEq, Repr

/-- What a number stands for in a store. -/
inductive Node where
  | file (contents : ByteArray)
  | directory (parent : Nat) (entries : List (String × Nat))
  | link (target : String)
  | device (kind : Device)

namespace Node

/-- The contents of a file. -/
def contents? : Node → Option ByteArray
  | file contents => some contents
  | _ => none

/-- The parent of a directory, and its entries. -/
def directory? : Node → Option (Nat × List (String × Nat))
  | directory parent entries => some (parent, entries)
  | _ => none

/-- The path that a link stands for. -/
def link? : Node → Option String
  | link target => some target
  | _ => none

def device? : Node → Option Device
  | device kind => some kind
  | _ => none

/-- The numbers that a node refers to. -/
def numbers : Node → List Nat
  | directory parent entries => parent :: entries.map (·.2)
  | _ => []

/-- A file with other contents; anything else stays as it is. -/
def filled (contents : ByteArray) : Node → Node
  | file _ => file contents
  | node => node

/-- A directory with one more entry, behind those that it has. -/
def withEntry (name : String) (n : Nat) : Node → Node
  | directory parent entries => directory parent (entries ++ [(name, n)])
  | node => node

/-- New contents refer to nothing new. -/
@[simp]
theorem numbers_filled (contents : ByteArray) (node : Node) :
    (node.filled contents).numbers = node.numbers := by
  cases node <;> rfl

/-- A directory with one more entry refers to nothing new but that. -/
theorem mem_numbers_withEntry {name : String} {n m : Nat} {node : Node}
    (h : m ∈ (node.withEntry name n).numbers) : m ∈ node.numbers ∨ m = n := by
  cases node with
  | directory parent entries =>
    simp only [withEntry, numbers, List.map_append, List.mem_cons, List.mem_append] at h ⊢
    simpa [or_assoc] using h
  | _ => exact .inl h

end Node

/-- A store of numbered nodes, the first of them being its root, and the directory in which the
program runs. Whatever a node refers to is there. -/
structure Store where
  nodes : List Node
  here : Nat
  here_lt : here < nodes.length
  closed : ∀ node ∈ nodes, ∀ n ∈ node.numbers, n < nodes.length

/-- Where a path ends: at a node, or at a name that is still free in a directory. -/
inductive Place where
  | node (n : Nat)
  | vacant (directory : Nat) (name : String)
deriving DecidableEq, Repr

/-- What a name comes to in a directory. -/
inductive Entry where
  | node (n : Nat)
  | link (target : String)
  | vacant
deriving DecidableEq, Repr

namespace Store

def node? (s : Store) (n : Nat) : Option Node :=
  s.nodes[n]?

/-- The contents of the file of a number. -/
def contents? (s : Store) (n : Nat) : Option ByteArray :=
  (s.node? n).bind Node.contents?

/-- The parent and the entries of the directory of a number. -/
def directory? (s : Store) (n : Nat) : Option (Nat × List (String × Nat)) :=
  (s.node? n).bind Node.directory?

/-- What the link of a number stands for. -/
def link? (s : Store) (n : Nat) : Option String :=
  (s.node? n).bind Node.link?

/-- The device of a number. -/
def device? (s : Store) (n : Nat) : Option Device :=
  (s.node? n).bind Node.device?

/-! ## Paths -/

/-- What a name stands for among entries. -/
def entry (s : Store) (entries : List (String × Nat)) (name : String) : Entry :=
  match entries.lookup name with
  | none => .vacant
  | some n => (s.link? n).elim (.node n) .link

/-- Looks up a name in a directory, with other names behind it. One that is to be made a file has no
slash behind it, which is seen before the name is looked up. -/
def enter (s : Store) (creating : Bool) (n : Nat) (name : String) (rest : List String) :
    Except FileFault Entry :=
  match s.directory? n with
  | some (parent, entries) =>
    if name = "" ∨ name = "." then .ok (.node n)
    else if name = ".." then .ok (.node parent)
    else if creating ∧ rest = [""] then .error .isDirectory
    else if maxNameBytes < name.utf8ByteSize then .error .nameTooLong
    else .ok (s.entry entries name)
  | none => .error .notDirectory

/-- Where the names of a path are looked up first, if it is met in a given directory. -/
def start (directory : Nat) (path : String) : Nat :=
  if Path.isAbsolute path then 0 else directory

/-- Walks along names, and where one is a link, goes on by means of `follow`. -/
def along (s : Store) (creating : Bool) (follow : Nat → List String → Except FileFault Place) :
    Nat → List String → Except FileFault Place
  | n, [] => .ok (.node n)
  | n, name :: rest =>
    match s.enter creating n name rest with
    | .ok (.node m) => along s creating follow m rest
    | .ok (.link target) => follow (start n target) (Path.names target ++ rest)
    | .ok .vacant => if rest = [] then .ok (.vacant n name) else .error .notFound
    | .error fault => .error fault

/-- Walks along names, through so many links at most. -/
def walk (s : Store) (creating : Bool) : (links : Nat) → Nat → List String → Except FileFault Place
  | 0 => s.along creating fun _ _ => .error .manyLinks
  | links + 1 => s.along creating (s.walk creating links)

/-- Where a path ends, for a file that is there or, if one may be made, for a new one. -/
def place (s : Store) (creating : Bool) (path : String) : Except FileFault Place :=
  if path = "" then .error .notFound
  else if maxPathBytes < path.utf8ByteSize then .error .nameTooLong
  else s.walk creating maxLinks (start s.here path) (Path.names path)

/-- What a path leads to. -/
def find (s : Store) (path : String) : Except FileFault Nat :=
  match s.place false path with
  | .ok (.node n) => .ok n
  | .ok (.vacant _ _) => .error .notFound
  | .error fault => .error fault

/-- Reads a file. A device has nothing to read. -/
def read (s : Store) (path : String) : Except FileFault ByteArray :=
  match s.find path with
  | .ok n =>
    match s.node? n with
    | some (.file contents) => .ok contents
    | some (.device _) => .ok .empty
    | some (.directory _ _) => .error .isDirectory
    | _ => .error .notFound
  | .error fault => .error fault

/-! ## Writing -/

/-- Fills a file, which has nothing but the given contents then. A device keeps nothing. -/
def fill (s : Store) (n : Nat) (contents : ByteArray) : Store where
  nodes := s.nodes.modify n (·.filled contents)
  here := s.here
  here_lt := by simpa using s.here_lt
  closed := by
    intro node mem m m_mem
    obtain ⟨k, lt, rfl⟩ := List.getElem_of_mem mem
    rw [List.length_modify] at lt ⊢
    refine s.closed _ (List.getElem_mem lt) m ?_
    rw [List.getElem_modify] at m_mem
    split at m_mem
    · rwa [Node.numbers_filled] at m_mem
    · exact m_mem

/-- Makes an empty file under a free name in a directory. -/
def add (s : Store) (directory : Nat) (name : String) : Store where
  nodes := s.nodes.modify directory (·.withEntry name s.nodes.length) ++ [.file .empty]
  here := s.here
  here_lt := by
    rw [List.length_append, List.length_modify]
    exact Nat.lt_succ_of_lt s.here_lt
  closed := by
    intro node mem m m_mem
    rw [List.length_append, List.length_modify]
    rcases List.mem_append.mp mem with mem | mem
    · obtain ⟨k, lt, rfl⟩ := List.getElem_of_mem mem
      rw [List.length_modify] at lt
      rw [List.getElem_modify] at m_mem
      have old : m ∈ s.nodes[k].numbers → m < s.nodes.length + 1 := fun m_mem =>
        Nat.lt_succ_of_lt (s.closed _ (List.getElem_mem lt) m m_mem)
      split at m_mem
      · rcases Node.mem_numbers_withEntry m_mem with m_mem | rfl
        · exact old m_mem
        · exact Nat.lt_succ_self _
      · exact old m_mem
    · rw [List.mem_singleton] at mem
      subst mem
      exact absurd m_mem List.not_mem_nil

/-- Opens a file for writing: it is emptied, or made if it is not there. Gives its number. -/
def create (s : Store) (path : String) : Except FileFault (Nat × Store) :=
  match s.place true path with
  | .ok (.node n) =>
    match s.node? n with
    | some (.file _) => .ok (n, s.fill n .empty)
    | some (.device _) => .ok (n, s)
    | _ => .error .isDirectory
  | .ok (.vacant directory name) => .ok (s.nodes.length, s.add directory name)
  | .error fault => .error fault

end Store

/-! ## Trouble -/

/-- Writing that breaks off when there is no room for more bytes, and the fault that is told. -/
structure Break where
  room : Nat
  fault : FileFault
deriving DecidableEq, Repr

/-- What of some bytes is written, and the fault if those are not all of them. -/
def Break.cut : Option Break → ByteArray → ByteArray × Option FileFault
  | none, bytes => (bytes, none)
  | some b, bytes =>
    if b.room < bytes.size then (bytes.extract 0 b.room, some b.fault) else (bytes, none)

/-- What goes wrong outside of the program: a file that cannot be read or opened for reasons other
than its path, such as its permissions, and writing that breaks off, to the file or to the standard
output, such as on a full disk. -/
structure Trouble where
  reading : String → Option FileFault := fun _ => none
  opening : Option FileFault := none
  writing : Option Break := none
  showing : Option Break := none

namespace Trouble

def read (t : Trouble) (s : Store) (path : String) : Except FileFault ByteArray :=
  match t.reading path with
  | some fault => .error fault
  | none => s.read path

/-- Opens a file for writing. Where that fails, nothing has been done. -/
def create (t : Trouble) (s : Store) (path : String) : Except FileFault (Nat × Store) :=
  match t.opening with
  | some fault => .error fault
  | none => s.create path

end Trouble

/-! ## Folders -/

/-- A folder with files and nothing else in it, the first of a name being the one that counts. -/
structure Folder where
  files : List (String × ByteArray)

/-- A store for a run in a folder. Beside the folder there are the devices. -/
def Folder.store (f : Folder) : Store where
  nodes := [.directory 0 [("dev", 1), ("tmp", 4)],
    .directory 0 [("stdout", 2), ("stderr", 3), ("null", 3)],
    .device .output, .device .elsewhere, .directory 0 [("folder", 5)],
    .directory 4 (f.files.mapIdx fun i file => (file.1, i + 6))] ++ f.files.map (.file ·.2)
  here := 5
  here_lt := by
    rw [List.length_append]
    exact Nat.lt_add_right _ (by decide : 5 < 6)
  closed := by
    intro node mem n n_mem
    simp only [List.cons_append, List.nil_append, List.mem_cons, List.mem_map,
      List.length_cons, List.length_map] at mem ⊢
    rcases mem with rfl | rfl | rfl | rfl | rfl | rfl | ⟨file, -, rfl⟩ <;>
      simp only [Node.numbers, List.map_cons, List.map_nil, List.mem_cons, List.not_mem_nil, or_false,
        List.mem_map, List.mem_mapIdx] at n_mem
    · omega
    · omega
    · omega
    · rcases n_mem with rfl | ⟨_, ⟨i, lt, rfl⟩, rfl⟩ <;> omega

end XsdInfer.Command
