/-
# What a path leads to

A path is followed part by part (`SecurityTokens.CommandLine.Directory`).  From a
directory, each part leads to at most one place, and `Step` lists these places.
Nothing comes back from outside of the working directory, and nothing comes after
a file.  So a path reads a file exactly when its parts lead, through directories,
to that file (`read_eq_ok_iff`).

Two things follow for a directory that is made of given files.  What is read from
it is the content of one of them, whatever the path.  And a file is read under
the path it is given with, when the parts of the path are names, no later file is
given with the same path, and no file stands where the path needs a directory.
-/

import Mathlib.Data.List.Basic
import SecurityTokens.CommandLine.Directory
import SecurityTokens.Proofs.Success

namespace SecurityTokens
namespace CommandLine

/-! ### Parts -/

/-- A path has at least one part. -/
theorem pathParts_ne_nil (path : String) : pathParts path ≠ [] := by
  simp [pathParts, List.splitOn_ne_nil]

/-- The slashes that a path is split at can be put back. -/
theorem pathParts_inj {path other : String} (same : pathParts path = pathParts other) :
    path = other := by
  have split : path.toList.splitOn '/' = other.toList.splitOn '/' :=
    (List.map_inj_right fun _ _ alike => String.ofList_injective alike).1 same
  refine String.toList_injective ?_
  calc path.toList = ['/'].intercalate (path.toList.splitOn '/') :=
        (List.intercalate_splitOn '/').symm
    _ = ['/'].intercalate (other.toList.splitOn '/') := by rw [split]
    _ = other.toList := List.intercalate_splitOn '/'

/-- A part that names a file or a directory. -/
structure IsName (part : String) : Prop where
  ne_empty : part ≠ ""
  ne_dot : part ≠ "."
  ne_dots : part ≠ ".."
  size_le : part.utf8ByteSize ≤ Directory.maxNameLength

namespace Directory

/-- Where one part leads from the directory `here`. -/
inductive Step (d : Directory) (here : List String) : String → Place → Prop
  | stay {part : String} : part = "" ∨ part = "." → Step d here part (.directory here)
  | up : here ≠ [] → Step d here ".." (.directory here.dropLast)
  | out : here = [] → Step d here ".." .outside
  | down {part : String} : IsName part → d.files.lookup (here ++ [part]) = none →
      (∃ file ∈ d.files, here ++ [part] <+: file.1) →
      Step d here part (.directory (here ++ [part]))
  | file {part : String} {content : Bytes} : IsName part →
      d.files.lookup (here ++ [part]) = some content → Step d here part (.file content)

/-- The parts lead, through directories, from `here` to a file. -/
inductive Leads (d : Directory) (content : Bytes) : List String → List String → Prop
  | last {here : List String} {part : String} :
      Step d here part (.file content) → Leads d content here [part]
  | next {here there rest : List String} {part : String} :
      Step d here part (.directory there) → Leads d content there rest →
      Leads d content here (part :: rest)

/-- A path that can be followed, and begins in the working directory. -/
structure IsLocal (path : String) : Prop where
  ne_empty : path ≠ ""
  no_nul : '\x00' ∉ path.toList
  size_le : path.utf8ByteSize ≤ maxPathLength
  relative : path.startsWith "/" = false

variable {d : Directory} {here : List String} {part : String} {place : Place} {content : Bytes}

/-! ### One part -/

/-- What is found under some parts is the file of these parts, or else the
directory that a longer list of parts goes through. -/
theorem enter_eq_ok_iff {parts : List String} :
    d.enter parts = .ok place ↔
      (∃ content, d.files.lookup parts = some content ∧ place = .file content) ∨
        (d.files.lookup parts = none ∧ (∃ file ∈ d.files, parts <+: file.1) ∧
          place = .directory parts) := by
  have held_iff : (d.files.any fun file => parts.isPrefixOf file.1) = true ↔
      ∃ file ∈ d.files, parts <+: file.1 := by
    simp [List.any_eq_true, List.isPrefixOf_iff_prefix]
  unfold enter
  cases d.files.lookup parts with
  | some content => simp [eq_comm]
  | none =>
    by_cases held : ∃ file ∈ d.files, parts <+: file.1
    · simp [held_iff.2 held, held, eq_comm]
    · simp [held, mt held_iff.1 held]

/-- A name leads to what is found under it. -/
theorem follow_of_isName (name : IsName part) :
    d.follow (.directory here) part = d.enter (here ++ [part]) := by
  simp [follow, name.ne_empty, name.ne_dot, name.ne_dots, Nat.not_lt.2 name.size_le]

/-- Following one part from a directory is the step of that part. -/
theorem follow_eq_ok_iff : d.follow (.directory here) part = .ok place ↔ Step d here part place := by
  constructor
  · intro followed
    -- The cases are those of `follow`, in its order; what is left in the end is a name.
    by_cases stays : part = "" ∨ part = "."
    · simp only [follow, if_pos stays, Except.ok.injEq] at followed
      exact followed ▸ .stay stays
    by_cases dots : part = ".."
    · subst dots
      cases here with
      | nil =>
        obtain rfl : Place.outside = place := by simpa [follow] using followed
        exact .out rfl
      | cons first rest =>
        obtain rfl : Place.directory (first :: rest).dropLast = place := by
          simpa [follow] using followed
        exact .up (List.cons_ne_nil first rest)
    by_cases long : part.utf8ByteSize > maxNameLength
    · simp [follow, stays, dots, long] at followed
    have name : IsName part :=
      ⟨fun empty => stays (.inl empty), fun dot => stays (.inr dot), dots, Nat.not_lt.1 long⟩
    rw [follow_of_isName name, enter_eq_ok_iff] at followed
    obtain ⟨content, found, rfl⟩ | ⟨missing, held, rfl⟩ := followed
    · exact .file name found
    · exact .down name missing held
  · intro step
    cases step with
    | stay stays => simp [follow, stays]
    | up inside => simp [follow, inside]
    | out top => simp [follow, top]
    | down name missing held =>
      exact (follow_of_isName name).trans (enter_eq_ok_iff.2 (.inr ⟨missing, held, rfl⟩))
    | file name found =>
      exact (follow_of_isName name).trans (enter_eq_ok_iff.2 (.inl ⟨_, found, rfl⟩))

/-! ### All parts -/

/-- From outside one never comes back. -/
theorem eq_outside_of_foldlM {parts : List String}
    (followed : parts.foldlM d.follow .outside = .ok place) : place = .outside := by
  induction parts with
  | nil => exact (Except.ok.inj followed).symm
  | cons part rest ih =>
    rw [List.foldlM_cons] at followed
    by_cases stays : part = "" ∨ part = "." ∨ part = ".."
    · have stayed : d.follow .outside part = .ok .outside := by simp [follow, stays]
      rw [stayed] at followed
      exact ih followed
    · by_cases long : part.utf8ByteSize > maxNameLength
      · simp [follow, stays, long, bind, Except.bind] at followed
      · simp [follow, stays, long, bind, Except.bind] at followed

/-- Nothing comes after a file. -/
theorem foldlM_file_eq_ok_iff {parts : List String} :
    parts.foldlM d.follow (.file content) = .ok place ↔ parts = [] ∧ place = .file content := by
  cases parts with
  | nil => simp [pure, Except.pure, eq_comm]
  | cons part rest => simp [follow, bind, Except.bind]

/-- Following the parts from a directory ends at a file exactly when they lead there. -/
theorem foldlM_eq_file_iff {parts : List String} :
    parts.foldlM d.follow (.directory here) = .ok (.file content) ↔
      Leads d content here parts := by
  induction parts generalizing here with
  | nil =>
    constructor
    · intro followed
      cases followed
    · intro leads
      cases leads
  | cons part rest ih =>
    rw [List.foldlM_cons]
    constructor
    · intro followed
      cases reached : d.follow (.directory here) part with
      | error fault =>
        rw [reached] at followed
        cases followed
      | ok place =>
        rw [reached] at followed
        have step := follow_eq_ok_iff.1 reached
        cases place with
        | directory there => exact .next step (ih.1 followed)
        | outside => cases eq_outside_of_foldlM followed
        | file found =>
          obtain ⟨rfl, same⟩ := foldlM_file_eq_ok_iff.1 followed
          cases same
          exact .last step
    · intro leads
      cases leads with
      | last step => rw [follow_eq_ok_iff.2 step]; rfl
      | next step leads => rw [follow_eq_ok_iff.2 step]; exact ih.2 leads

/-! ### A whole path -/

/-- A path reads a file exactly when it begins in the working directory and its
parts lead from there to the file. -/
theorem read_eq_ok_iff {path : String} :
    d.read path = .ok content ↔ IsLocal path ∧ Leads d content [] (pathParts path) := by
  constructor
  · intro reads
    unfold read at reads
    split_ifs at reads with empty nul long absolute
    · obtain ⟨place, followed, ends⟩ := Except.bind_eq_ok_iff.1 reads
      rw [eq_outside_of_foldlM followed] at ends
      cases ends
    · obtain ⟨place, followed, ends⟩ := Except.bind_eq_ok_iff.1 reads
      have onPath : IsLocal path :=
        ⟨empty, by simpa using nul, Nat.not_lt.1 long, by simpa using absolute⟩
      cases place with
      | directory parts => cases ends
      | outside => cases ends
      | file found =>
        obtain rfl := Except.ok.inj ends
        exact ⟨onPath, foldlM_eq_file_iff.1 followed⟩
  · rintro ⟨⟨nonempty, noNul, size, relative⟩, leads⟩
    have followed := foldlM_eq_file_iff.2 leads
    simp [read, nonempty, noNul, Nat.not_lt.2 size, relative, followed, bind, Except.bind]

/-- A dot, a way up and down again and a doubled slash change nothing. -/
example : (ofFiles [("keys/a", [7])]).read "./keys/../keys//a" = .ok [7] := by decide +kernel

/-! ### Given files -/

/-- What is looked up in given files is the content of one of them. -/
theorem exists_mem_of_lookup {files : List (String × Bytes)} {parts : List String}
    (found : (ofFiles files).files.lookup parts = some content) :
    ∃ file ∈ files, pathParts file.1 = parts ∧ file.2 = content := by
  obtain ⟨file, held, same⟩ := List.mem_map.1 (mem_of_lookup found)
  obtain ⟨rfl, rfl⟩ := Prod.mk.inj same
  exact ⟨file, List.mem_reverse.1 held, rfl, rfl⟩

/-- The parts that lead to a file end with a look-up. -/
theorem Leads.exists_lookup {parts : List String} (leads : Leads d content here parts) :
    ∃ under, d.files.lookup under = some content := by
  induction leads with
  | last step =>
    cases step with
    | file name found => exact ⟨_, found⟩
  | next step leads ih => exact ih

/-- What is read from given files is the content of one of them. -/
theorem exists_mem_of_read {files : List (String × Bytes)} {path : String}
    (reads : (ofFiles files).read path = .ok content) : ∃ file ∈ files, file.2 = content := by
  obtain ⟨under, found⟩ := (read_eq_ok_iff.1 reads).2.exists_lookup
  obtain ⟨file, given, -, same⟩ := exists_mem_of_lookup found
  exact ⟨file, given, same⟩

/-- Names lead to the file that is looked up under all of them, when there is no
file under fewer. -/
theorem leads_of_lookup {parts : List String} (nonempty : parts ≠ [])
    (names : ∀ part ∈ parts, IsName part)
    (found : d.files.lookup (here ++ parts) = some content)
    (free : ∀ fewer, fewer <+: here ++ parts → fewer ≠ here ++ parts →
      d.files.lookup fewer = none) :
    Leads d content here parts := by
  -- Each step moves a part over to `here`, so that `here ++ parts`, of which the hypotheses
  -- speak, is the same list on the whole way.
  induction parts generalizing here with
  | nil => exact absurd rfl nonempty
  | cons part rest ih =>
    have name := names part List.mem_cons_self
    cases rest with
    | nil => exact .last (.file name found)
    | cons second others =>
      have split : here ++ part :: second :: others = here ++ [part] ++ (second :: others) := by
        simp
      rw [split] at found free
      have further : here ++ [part] <+: here ++ [part] ++ (second :: others) :=
        List.prefix_append _ _
      have step : Step d here part (.directory (here ++ [part])) :=
        .down name (free _ further (by simp)) ⟨_, mem_of_lookup found, further⟩
      have later : ∀ part ∈ second :: others, IsName part :=
        fun part inside => names part (List.mem_cons_of_mem _ inside)
      exact .next step (ih (List.cons_ne_nil second others) later found free)

/-- Nothing is looked up under parts that no file is given with. -/
theorem lookup_ofFiles_eq_none_iff {files : List (String × Bytes)} {parts : List String} :
    (ofFiles files).files.lookup parts = none ↔ ∀ file ∈ files, pathParts file.1 ≠ parts := by
  rw [List.lookup_eq_none_iff, ofFiles, List.forall_mem_map]
  simp [ne_comm]

/-- Of two files with one path the later one is looked up. -/
theorem lookup_ofFiles_append {before after : List (String × Bytes)} {path : String}
    (latest : ∀ file ∈ after, file.1 ≠ path) :
    (ofFiles (before ++ (path, content) :: after)).files.lookup (pathParts path) = some content := by
  have later : (ofFiles after).files.lookup (pathParts path) = none :=
    lookup_ofFiles_eq_none_iff.2 fun file given same => latest file given (pathParts_inj same)
  have split : (ofFiles (before ++ (path, content) :: after)).files =
      (ofFiles after).files ++ (pathParts path, content) :: (ofFiles before).files := by
    simp [ofFiles]
  rw [split, List.lookup_append, later, Option.none_or, List.lookup_cons_self]

/-- A file is read under the path it is given with. -/
theorem read_ofFiles {before after : List (String × Bytes)} {path : String}
    (onPath : IsLocal path) (names : ∀ part ∈ pathParts path, IsName part)
    (latest : ∀ file ∈ after, file.1 ≠ path)
    (free : ∀ file ∈ before ++ after, pathParts file.1 <+: pathParts path → file.1 = path) :
    (ofFiles (before ++ (path, content) :: after)).read path = .ok content := by
  refine read_eq_ok_iff.2 ⟨onPath, leads_of_lookup (pathParts_ne_nil path) names
    (lookup_ofFiles_append latest) ?_⟩
  intro fewer shorter differs
  rw [List.nil_append] at shorter differs
  refine lookup_ofFiles_eq_none_iff.2 fun file given same => ?_
  subst same
  have inside : file = (path, content) ∨ file ∈ before ++ after := by
    simpa [or_comm, or_left_comm, or_assoc] using given
  rcases inside with rfl | other
  · exact differs rfl
  · exact differs (congrArg pathParts (free file other shorter))

end Directory
end CommandLine
end SecurityTokens
