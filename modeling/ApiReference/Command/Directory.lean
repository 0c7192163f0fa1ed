import ApiReference.Text.Basic

/-!
# Files of a directory

The files that a command can read stand in a working directory and the folders around it. A path is
followed one component at a time from the working directory. An empty component and a dot stay in
the folder reached so far, two dots go back to the folder around it, and any other component has to
be a folder, except that the last one has to be a file.

A place is named by the components that lead to it from the working directory by the shortest way.
Of the folders around the working directory nothing is known but that they are there, so that two
dots are the name of the way to them.

## Main definitions

* `Directory`, `Directory.ofFiles`: a working directory and the files that are written to it.
* `Directory.read?`: the content of the file that a path leads to.

## Main results

* `Directory.read?_ofFiles`: a file that has been written is read back by its path, unless a later
  one has been written to its place.
-/

namespace ApiReference.Command

/-- The folders and the files that can be reached from a working directory, each with the components
that lead to it. Of two files of one place the first one is there. -/
structure Directory where
  folders : List (List Text)
  files : List (List Text × ByteArray)

namespace Directory

/-- The empty working directory. -/
def empty : Directory where
  folders := []
  files := []

/-- Whether a component of a path stands for a place by itself and is not the name of a file: it is
empty, a dot or two dots. -/
def isStep (component : Text) : Bool :=
  component == [] || component == "." || component == ".."

/-- Whether a place is the working directory or a folder around it. -/
def isOuter (place : List Text) : Bool := place.all (· == "..")

/-- The place that a component leads to from a folder. -/
def enter (folder : List Text) (component : Text) : List Text :=
  if component = [] ∨ component = "." then folder
  else if component = ".." then
    if isOuter folder then folder ++ [component] else folder.dropLast
  else folder ++ [component]

/-- The folders that some components lead through, each component but the last one to the next
folder. -/
def passedFolders (folder : List Text) : List Text → List (List Text)
  | [] | [_] => []
  | component :: rest => enter folder component :: passedFolders (enter folder component) rest

/-- The place that a path leads to. -/
def place (path : Text) : List Text := (Text.split '/' path).foldl enter []

/-- A directory after a file has been written to it. The folders on the way are made when they are
missing. -/
def write (directory : Directory) (path : Text) (content : ByteArray) : Directory where
  folders := passedFolders [] (Text.split '/' path) ++ directory.folders
  files := (place path, content) :: directory.files

/-- The working directory to which some files have been written, the first one first. -/
def ofFiles (files : List (Text × ByteArray)) : Directory :=
  files.foldl (fun directory (path, content) ↦ directory.write path content) empty

/-- Whether there is a folder at a place. -/
def hasFolder (directory : Directory) (place : List Text) : Bool :=
  isOuter place || directory.folders.contains place

/-- The content of the file that some components lead to from a folder. -/
def follow? (directory : Directory) (folder : List Text) : List Text → Option ByteArray
  | [] => none
  | [name] => if isStep name then none else directory.files.lookup (enter folder name)
  | component :: rest =>
    let next := enter folder component
    if directory.hasFolder next then directory.follow? next rest else none

/-- The size of the longest path that can be followed, in bytes of UTF-8. -/
def maxPathSize : Nat := 4095

/-- The size of a path in bytes of UTF-8. -/
def pathSize (path : Text) : Nat := (String.ofList path).utf8ByteSize

/-- The content of the file that a path leads to. A path from the root leads to no file. -/
def read? (directory : Directory) (path : Text) : Option ByteArray :=
  if path.head? = some '/' ∨ maxPathSize < pathSize path then none
  else directory.follow? [] (Text.split '/' path)

/-! ### Files that are read back -/

/-- A path that can be the name of a file: it does not start from the root, is not too long and does
not end with a step. -/
structure IsFilePath (path : Text) : Prop where
  relative : path.head? ≠ some '/'
  size_le : pathSize path ≤ maxPathSize
  named : ∃ name, (Text.split '/' path).getLast? = some name ∧ isStep name = false

variable {directory : Directory} {folder components : List Text} {path path' : Text}
  {content content' : ByteArray}

theorem follow?_singleton (directory : Directory) (folder : List Text) (name : Text) :
    directory.follow? folder [name] =
      if isStep name then none else directory.files.lookup (enter folder name) :=
  rfl

theorem follow?_cons_cons (directory : Directory) (folder : List Text) (component next : Text)
    (rest : List Text) :
    directory.follow? folder (component :: next :: rest) =
      if directory.hasFolder (enter folder component) then
        directory.follow? (enter folder component) (next :: rest)
      else none :=
  rfl

/-- When all folders on the way are there, what is found is the first file of the place. -/
theorem follow?_eq_lookup
    (hfolders : ∀ passed ∈ passedFolders folder components, directory.hasFolder passed)
    (hnamed : ∃ name, components.getLast? = some name ∧ isStep name = false) :
    directory.follow? folder components =
      directory.files.lookup (components.foldl enter folder) := by
  induction components generalizing folder with
  | nil =>
    obtain ⟨name, hname, -⟩ := hnamed
    cases hname
  | cons component rest ih =>
    cases rest with
    | nil =>
      obtain ⟨name, hname, hstep⟩ := hnamed
      rw [List.getLast?_singleton, Option.some.injEq] at hname
      rw [follow?_singleton, hname, hstep]
      rfl
    | cons next rest =>
      obtain ⟨hfolder, hrest⟩ := List.forall_mem_cons.1 hfolders
      rw [List.getLast?_cons_cons] at hnamed
      rw [follow?_cons_cons, if_pos hfolder]
      exact ih hrest hnamed

/-- A file that has been written is read back. -/
theorem read?_write (h : IsFilePath path) :
    (directory.write path content).read? path = some content := by
  have hpath : ¬ (path.head? = some '/' ∨ maxPathSize < pathSize path) :=
    not_or.2 ⟨h.relative, Nat.not_lt.2 h.size_le⟩
  rw [read?, if_neg hpath, follow?_eq_lookup _ h.named]
  · exact List.lookup_cons_self
  · intro passed hpassed
    rw [hasFolder, write, List.contains_eq_mem, decide_eq_true (List.mem_append_left _ hpassed),
      Bool.or_true]

/-- What is found along some components is still found when a file has been written to another
place. -/
theorem follow?_write_of_ne (h : directory.follow? folder components = some content)
    (hne : components.foldl enter folder ≠ place path') :
    (directory.write path' content').follow? folder components = some content := by
  induction components generalizing folder with
  | nil => cases h
  | cons component rest ih =>
    cases rest with
    | nil =>
      have hlookup : (directory.write path' content').files.lookup (enter folder component) =
          directory.files.lookup (enter folder component) := by
        have hbeq : (enter folder component == place path') = false := beq_false_of_ne hne
        rw [write, List.lookup_cons, hbeq]
      rwa [follow?_singleton, hlookup, ← follow?_singleton]
    | cons next rest =>
      rw [follow?_cons_cons, Option.ite_none_right_eq_some] at h
      have hfolder : (directory.write path' content').hasFolder (enter folder component) := by
        have hold := h.1
        simp only [hasFolder, write, Bool.or_eq_true, List.contains_eq_mem, decide_eq_true_eq,
          List.mem_append] at hold ⊢
        exact hold.imp_right .inr
      rw [follow?_cons_cons, if_pos hfolder]
      exact ih h.2 hne

/-- A file that is read is still read when another one has been written to another place. -/
theorem read?_write_of_ne (h : directory.read? path = some content)
    (hne : place path ≠ place path') :
    (directory.write path' content').read? path = some content := by
  rw [read?, Option.ite_none_left_eq_some] at h ⊢
  exact ⟨h.1, follow?_write_of_ne h.2 hne⟩

/-- A file that is written among others is read back when none of the later ones is written to its
place. -/
theorem read?_ofFiles (before : List (Text × ByteArray)) {after : List (Text × ByteArray)}
    (h : IsFilePath path) (hafter : ∀ file ∈ after, place path ≠ place file.1) :
    (ofFiles (before ++ (path, content) :: after)).read? path = some content := by
  have hkeeps (directory : Directory) (hread : directory.read? path = some content) :
      (after.foldl (fun directory (path, content) ↦ directory.write path content) directory).read?
        path = some content := by
    induction after generalizing directory with
    | nil => exact hread
    | cons file after ih =>
      obtain ⟨hfile, hafter⟩ := List.forall_mem_cons.1 hafter
      exact ih hafter _ (read?_write_of_ne hread hfile)
  rw [ofFiles, List.foldl_append, List.foldl_cons]
  exact hkeeps _ (read?_write h)

end Directory

end ApiReference.Command
