import Dtdl.Project.Sources

/-!
# What the patterns of a project select

Patterns may overlap, and one pattern may find a file twice, under spellings that are one and the
same path.  What has been selected is remembered while the patterns are gone through, and the files
of a pattern are sorted only when those that are remembered have been left out.

The main statement is that this comes to what one would say without any memory: the selection
consists of one share for each pattern, in the order of the patterns, and a share holds the files of
its pattern that no earlier pattern has, sorted.  It holds for whatever finds the paths that a
pattern matches, and whatever decides which of them are files.
-/

namespace Dtdl.Project.Sources

/-! ## Files that are new -/

theorem any_same_iff {known : List Path} {path : Path} :
    known.any path.same = true ↔ path.components ∈ known.map Path.components := by
  rw [List.any_eq_true, List.mem_map]
  constructor
  · rintro ⟨other, member, same⟩
    exact ⟨other, member, (of_decide_eq_true same).symm⟩
  · rintro ⟨other, member, same⟩
    exact ⟨other, member, decide_eq_true same.symm⟩

theorem mem_of_mem_fresh {known found : List Path} {path : Path}
    (new : path ∈ fresh known found) : path ∈ found := by
  induction found generalizing known with
  | nil => contradiction
  | cons first rest ih =>
      rw [fresh] at new
      split at new
      · exact List.mem_cons_of_mem first (ih new)
      · rcases List.mem_cons.mp new with same | behind
        · exact same ▸ List.mem_cons_self
        · exact List.mem_cons_of_mem first (ih behind)

/-- The paths that are new are those that were found and not known, each of them once. -/
theorem fresh_exact (known found : List Path) :
    ((fresh known found).map Path.components).Nodup ∧
      ∀ path, path ∈ (fresh known found).map Path.components ↔
        path ∈ found.map Path.components ∧ path ∉ known.map Path.components := by
  induction found generalizing known with
  | nil => simp [fresh]
  | cons first rest ih =>
      rw [fresh]
      split
      · next is =>
          rw [any_same_iff] at is
          obtain ⟨distinct, exact⟩ := ih known
          refine ⟨distinct, fun path => ?_⟩
          rw [exact, List.map_cons, List.mem_cons]
          constructor
          · exact fun new => ⟨.inr new.1, new.2⟩
          · rintro ⟨same | new, unknown⟩
            · exact absurd (same ▸ is) unknown
            · exact ⟨new, unknown⟩
      · next isNot =>
          rw [any_same_iff] at isNot
          obtain ⟨distinct, exact⟩ := ih (first :: known)
          simp only [List.map_cons, List.nodup_cons, List.mem_cons, exact]
          refine ⟨⟨?_, distinct⟩, fun path => ?_⟩
          · simp
          · by_cases same : path = first.components
            · simp [same, isNot]
            · simp [same]

/-- Only which paths are known counts, not how often and in which order. -/
theorem fresh_congr {known others : List Path}
    (alike : ∀ path, path ∈ known.map Path.components ↔ path ∈ others.map Path.components)
    (found : List Path) : fresh known found = fresh others found := by
  induction found generalizing known others with
  | nil => rfl
  | cons first rest ih =>
      have same : known.any first.same = others.any first.same := by
        rw [Bool.eq_iff_iff, any_same_iff, any_same_iff, alike]
      have behind : fresh (first :: known) rest = fresh (first :: others) rest := by
        apply ih
        intro path
        simp only [List.map_cons, List.mem_cons, alike]
      rw [fresh, fresh, same, ih alike, behind]

theorem fresh_eq_nil {known found : List Path}
    (all : ∀ path ∈ found, path.components ∈ known.map Path.components) :
    fresh known found = [] := by
  rw [List.eq_nil_iff_forall_not_mem]
  intro path new
  have unknown := ((fresh_exact known found).2 _).mp (List.mem_map_of_mem new)
  exact unknown.2 (all path (mem_of_mem_fresh new))

/-! ## The selection of some patterns -/

theorem arrangeFrom_congr {known others : List Path}
    (alike : ∀ path, path ∈ known.map Path.components ↔ path ∈ others.map Path.components)
    (lists : List (List Path)) : arrangeFrom known lists = arrangeFrom others lists := by
  induction lists generalizing known others with
  | nil => rfl
  | cons found rest ih =>
      rw [arrangeFrom, arrangeFrom, fresh_congr alike, ih]
      intro path
      simp only [List.map_append, List.mem_append, alike]

/-- Behind a list of files all of them are known, those that were left out as well. -/
theorem arrangeFrom_cons (known found : List Path) (rest : List (List Path)) :
    arrangeFrom known (found :: rest) =
      (fresh known found).mergeSort Path.le ++ arrangeFrom (known ++ found) rest := by
  rw [arrangeFrom]
  congr 1
  apply arrangeFrom_congr
  intro path
  rw [List.map_append, List.map_append, List.mem_append, List.mem_append,
    (fresh_exact known found).2]
  by_cases is : path ∈ known.map Path.components <;> simp [is]

theorem arrangeFrom_append (known : List Path) (lists more : List (List Path)) :
    arrangeFrom known (lists ++ more) =
      arrangeFrom known lists ++ arrangeFrom (known ++ lists.flatten) more := by
  induction lists generalizing known with
  | nil => simp [arrangeFrom]
  | cons found rest ih =>
      rw [List.cons_append, arrangeFrom_cons, arrangeFrom_cons, ih, List.flatten_cons,
        List.append_assoc, List.append_assoc]

/-- A list of files that are all known already makes no difference. -/
theorem arrangeFrom_cons_of_known {known found : List Path}
    (all : ∀ path ∈ found, path.components ∈ known.map Path.components)
    (rest : List (List Path)) : arrangeFrom known (found :: rest) = arrangeFrom known rest := by
  rw [arrangeFrom, fresh_eq_nil all, List.mergeSort_nil, List.nil_append, List.nil_append]

/-- What a pattern adds to the selection of earlier ones: those of its files that none of them has,
sorted and without repetition. -/
structure Share (files : String → List Path) (earlier : List String) (pattern : String)
    (share : List Path) : Prop where
  sorted : share.Pairwise fun left right => left.le right = true
  distinct : (share.map Path.components).Nodup
  listed : ∀ path ∈ share, path ∈ files pattern
  exact : ∀ place, place ∈ share.map Path.components ↔
    place ∈ (files pattern).map Path.components ∧
      ∀ other ∈ earlier, place ∉ (files other).map Path.components

/-- One share for each pattern, in the order of the patterns. -/
inductive Arranged (files : String → List Path) : List String → List String → List Path → Prop
  | nil {earlier : List String} : Arranged files earlier [] []
  | cons {earlier rest : List String} {pattern : String} {share paths : List Path}
      (first : Share files earlier pattern share)
      (behind : Arranged files (earlier ++ [pattern]) rest paths) :
      Arranged files earlier (pattern :: rest) (share ++ paths)

theorem share_of_fresh (files : String → List Path) (earlier : List String) (pattern : String) :
    Share files earlier pattern
      ((fresh (earlier.flatMap files) (files pattern)).mergeSort Path.le) := by
  obtain ⟨distinct, exact⟩ := fresh_exact (earlier.flatMap files) (files pattern)
  have same := List.mergeSort_perm (fresh (earlier.flatMap files) (files pattern)) Path.le
  constructor
  case sorted =>
    apply List.pairwise_mergeSort
    · exact fun _ _ _ => Path.componentsLe_trans
    · intro left right
      rw [Bool.or_eq_true]
      exact Path.componentsLe_total left.components right.components
  case distinct => exact (same.map Path.components).nodup_iff.mpr distinct
  case listed =>
    intro path chosen
    exact mem_of_mem_fresh (List.mem_mergeSort.mp chosen)
  case exact =>
    intro place
    rw [(same.map Path.components).mem_iff, exact, List.map_flatMap, List.mem_flatMap]
    simp only [not_exists, not_and]

theorem arranged_arrangeFrom (files : String → List Path) (earlier patterns : List String) :
    Arranged files earlier patterns
      (arrangeFrom (earlier.flatMap files) (patterns.map files)) := by
  induction patterns generalizing earlier with
  | nil => exact .nil
  | cons pattern rest ih =>
      have behind := ih (earlier ++ [pattern])
      rw [List.flatMap_append, List.flatMap_singleton] at behind
      rw [List.map_cons, arrangeFrom_cons]
      exact .cons (share_of_fresh files earlier pattern) behind

section Arranged

variable {files : String → List Path} {earlier patterns : List String} {paths : List Path}

theorem Arranged.listed (arranged : Arranged files earlier patterns paths) :
    ∀ path ∈ paths, ∃ pattern ∈ patterns, path ∈ files pattern := by
  induction arranged with
  | nil => simp
  | cons first behind ih =>
      intro path chosen
      rcases List.mem_append.mp chosen with chosen | chosen
      · exact ⟨_, List.mem_cons_self, first.listed path chosen⟩
      · obtain ⟨pattern, listed, found⟩ := ih path chosen
        exact ⟨pattern, List.mem_cons_of_mem _ listed, found⟩

/-- What is selected are the files of the patterns, apart from those of earlier patterns. -/
theorem Arranged.exact (arranged : Arranged files earlier patterns paths)
    (place : List Path.Component) :
    place ∈ paths.map Path.components ↔
      (∃ pattern ∈ patterns, place ∈ (files pattern).map Path.components) ∧
        ∀ other ∈ earlier, place ∉ (files other).map Path.components := by
  induction arranged with
  | nil => simp
  | @cons earlier rest pattern share paths first behind ih =>
      rw [List.map_append, List.mem_append, first.exact, ih]
      simp only [List.mem_append, List.mem_singleton, or_imp, forall_and, forall_eq]
      by_cases here : place ∈ (files pattern).map Path.components <;> simp [here, -List.mem_map]

theorem Arranged.distinct (arranged : Arranged files earlier patterns paths) :
    (paths.map Path.components).Nodup := by
  induction arranged with
  | nil => exact .nil
  | @cons earlier rest pattern share paths first behind ih =>
      rw [List.map_append, List.nodup_append]
      refine ⟨first.distinct, ih, ?_⟩
      intro place chosen other later same
      subst same
      have found := ((first.exact place).mp chosen).1
      exact ((behind.exact place).mp later).2 pattern (by simp) found

theorem Share.unique {pattern : String} {share other : List Path}
    (first : Share files earlier pattern share) (second : Share files earlier pattern other) :
    share.map Path.components = other.map Path.components := by
  have places : (share.map Path.components).Perm (other.map Path.components) := by
    rw [List.perm_ext_iff_of_nodup first.distinct second.distinct]
    exact fun place => (first.exact place).trans (second.exact place).symm
  have sorted {list : List Path} (pairs : list.Pairwise fun left right => left.le right = true) :
      (list.map Path.components).Pairwise fun left right =>
        Path.componentsLe left right = true :=
    List.pairwise_map.mpr pairs
  exact places.eq_of_pairwise (fun _ _ _ _ => Path.componentsLe_antisymm)
    (sorted first.sorted) (sorted second.sorted)

/-- The shares leave no choice but that between spellings of a path. -/
theorem Arranged.unique {others : List Path} (arranged : Arranged files earlier patterns paths)
    (rearranged : Arranged files earlier patterns others) :
    paths.map Path.components = others.map Path.components := by
  induction arranged generalizing others with
  | nil =>
      cases rearranged
      rfl
  | cons first behind ih =>
      cases rearranged with
      | cons second later =>
          rw [List.map_append, List.map_append, first.unique second, ih later]

end Arranged

/-! ## Whatever finds the paths -/

/-- What finds the paths that the text of a pattern matches, or says why they cannot be had. -/
abbrev Library := String → Except Glob.Failure (List Path)

/-- The text under which a pattern is looked up in a directory. -/
def located (directory : Path) (pattern : String) : String :=
  (directory.join pattern).text.map fun c => if c = '\\' then '/' else c

section Library

variable (library : Library) (isFile : Path → Bool) (directory : Path)

/-- Look up a pattern, and leave out what is no file. -/
def lookUp (pattern : String) : Except Fault (List Path) :=
  match library (located directory pattern) with
  | .error failure => .error ⟨pattern, failure⟩
  | .ok paths => .ok (paths.filter isFile)

/-- The files that patterns select. -/
def selection (patterns : List String) : Except Fault (List Path) :=
  (patterns.mapM (lookUp library isFile directory)).map arrange

def Readable (pattern : String) : Prop := ∃ paths, library (located directory pattern) = .ok paths

/-- The files that a pattern matches; there are none if it cannot be looked up. -/
def matched (pattern : String) : List Path :=
  match library (located directory pattern) with
  | .error _ => []
  | .ok paths => paths.filter isFile

variable {library isFile directory}

theorem lookUp_eq {pattern : String} (readable : Readable library directory pattern) :
    lookUp library isFile directory pattern = .ok (matched library isFile directory pattern) := by
  obtain ⟨paths, found⟩ := readable
  simp only [lookUp, matched, found]

theorem selection_eq {patterns : List String}
    (readable : ∀ pattern ∈ patterns, Readable library directory pattern) :
    selection library isFile directory patterns =
      .ok (arrange (patterns.map (matched library isFile directory))) := by
  have all : patterns.mapM (lookUp library isFile directory) =
      .ok (patterns.map (matched library isFile directory)) := by
    induction patterns with
    | nil => rfl
    | cons pattern rest ih =>
        have behind := ih fun other listed => readable other (List.mem_cons_of_mem pattern listed)
        rw [List.mapM_cons, lookUp_eq (readable pattern List.mem_cons_self), behind]
        rfl
  rw [selection, all]
  rfl

end Library

/-- What is said of the files that patterns select.  Two paths count as one if they have the same
components. -/
structure Selects (library : Library) (isFile : Path → Bool) (directory : Path)
    (patterns : List String) (paths : List Path) : Prop where
  selected : selection library isFile directory patterns = .ok paths
  distinct : (paths.map Path.components).Nodup
  listed : ∀ path ∈ paths, ∃ pattern ∈ patterns, path ∈ matched library isFile directory pattern
  complete : ∀ pattern ∈ patterns, ∀ path ∈ matched library isFile directory pattern,
    path.components ∈ paths.map Path.components
  /-- There is one share for each pattern, and the shares leave no choice. -/
  arranged : Arranged (matched library isFile directory) [] patterns paths
  unique : ∀ others, Arranged (matched library isFile directory) [] patterns others →
    others.map Path.components = paths.map Path.components
  /-- One more pattern appends its share. -/
  appends : ∀ added, Readable library directory added →
    ∃ share, Share (matched library isFile directory) patterns added share ∧
      selection library isFile directory (patterns ++ [added]) = .ok (paths ++ share)
  /-- A pattern that is repeated somewhere behind its first place changes nothing. -/
  repeats : ∀ earlier repeated later, patterns = earlier ++ later → repeated ∈ earlier →
    selection library isFile directory (earlier ++ repeated :: later) = .ok paths

section Fixed

variable (files : Files Id)

/-- The paths that the text of a pattern matches in a file system that does not change. -/
def searched : Library := fun text => Glob.paths files text

theorem onlyFiles_eq (paths : List Path) : onlyFiles files paths = paths.filter files.hasFile := by
  induction paths with
  | nil => rfl
  | cons path rest ih =>
      rw [onlyFiles, List.filter_cons, ih]
      rfl

theorem matching_eq (directory : Path) (pattern : String) :
    matching files directory pattern =
      lookUp (searched files) files.hasFile directory pattern := by
  have searches : matching files directory pattern =
      match searched files (located directory pattern) with
      | .error failure => .error ⟨pattern, failure⟩
      | .ok paths => .ok (onlyFiles files paths) := rfl
  rw [searches, lookUp]
  cases searched files (located directory pattern) with
  | error failure => rfl
  | ok paths => exact congrArg Except.ok (onlyFiles_eq files paths)

theorem matchingAll_eq (directory : Path) (patterns : List String) :
    matchingAll files directory patterns =
      patterns.mapM (lookUp (searched files) files.hasFile directory) := by
  induction patterns with
  | nil => rfl
  | cons pattern rest ih =>
      rw [matchingAll, List.mapM_cons, ih, matching_eq]
      cases lookUp (searched files) files.hasFile directory pattern with
      | error fault => rfl
      | ok found =>
          cases rest.mapM (lookUp (searched files) files.hasFile directory) <;> rfl

theorem select_eq (directory : Path) (patterns : List String) :
    select files directory patterns =
      selection (searched files) files.hasFile directory patterns :=
  congrArg (Except.map arrange) (matchingAll_eq files directory patterns)

end Fixed

theorem selects_of_readable {library : Library} {isFile : Path → Bool} {directory : Path}
    {patterns : List String}
    (readable : ∀ pattern ∈ patterns, Readable library directory pattern) :
    ∃ paths, Selects library isFile directory patterns paths := by
  have arranged := arranged_arrangeFrom (matched library isFile directory) [] patterns
  refine ⟨arrange (patterns.map (matched library isFile directory)), ?_⟩
  constructor
  case selected => exact selection_eq readable
  case distinct => exact arranged.distinct
  case listed => exact arranged.listed
  case complete =>
    intro pattern listed path found
    exact (arranged.exact _).mpr ⟨⟨pattern, listed, List.mem_map_of_mem found⟩, by simp⟩
  case arranged => exact arranged
  case unique => exact fun others rearranged => rearranged.unique arranged
  case appends =>
    intro added also
    refine ⟨_, share_of_fresh _ patterns added, ?_⟩
    rw [selection_eq, List.map_append, arrange, arrangeFrom_append, List.map_singleton,
      arrangeFrom_cons, List.nil_append, ← List.flatMap_def]
    · simp only [arrangeFrom, List.append_nil]
      rfl
    · intro pattern listed
      rcases List.mem_append.mp listed with listed | listed
      · exact readable pattern listed
      · rwa [List.mem_singleton.mp listed]
  case repeats =>
    intro earlier repeated later split again
    subst split
    rw [selection_eq, List.map_append, List.map_append, List.map_cons, arrange, arrange,
      arrangeFrom_append, arrangeFrom_append, arrangeFrom_cons_of_known]
    · intro path found
      rw [List.nil_append, ← List.flatMap_def]
      exact List.mem_map_of_mem (List.mem_flatMap.mpr ⟨repeated, again, found⟩)
    · intro pattern listed
      rcases List.mem_append.mp listed with listed | listed
      · exact readable pattern (List.mem_append_left later listed)
      · rcases List.mem_cons.mp listed with same | listed
        · exact same ▸ readable repeated (List.mem_append_left later again)
        · exact readable pattern (List.mem_append_right earlier listed)

/-- The patterns of a project select each file once and in order.  If all of them can be looked up,
whatever finds the paths and whatever tells the files among them, there is a selection without
repetition that holds exactly the files of the patterns.  It consists of one sorted share for each
pattern, those of its files that no earlier pattern has; so a further pattern appends its share, and
one that is repeated changes nothing.  A project is loaded by this selection from the file system
that it lies in. -/
theorem select_arranged (directory : Path) (patterns : List String) :
    (∀ library isFile, (∀ pattern ∈ patterns, Readable library directory pattern) →
      ∃ paths, Selects library isFile directory patterns paths) ∧
    ∀ files : Files Id, select files directory patterns =
      selection (searched files) files.hasFile directory patterns := by
  constructor
  · intro library isFile readable
    exact selects_of_readable readable
  · intro files
    exact select_eq files directory patterns

/-- What is found in a bed with three models and a directory. -/
def bed : Library := fun text =>
  .ok (if text = "./ro*" then [⟨"roots"⟩, ⟨"rose.json"⟩]
    else [⟨"beech.json"⟩, ⟨"rose.json"⟩, ⟨"tulip.json"⟩])

/-- A file that the first pattern has is not moved by the second one, and the third one has
nothing to add. -/
theorem select_arranged_bed :
    let patterns := ["ro*", "*.json", "ro*"]
    let isFile : Path → Bool := fun path => path.text ≠ "roots"
    (∀ pattern ∈ patterns, Readable bed ⟨"."⟩ pattern) ∧
      Selects bed isFile ⟨"."⟩ patterns [⟨"rose.json"⟩, ⟨"beech.json"⟩, ⟨"tulip.json"⟩] := by
  intro patterns isFile
  have readable : ∀ pattern ∈ patterns, Readable bed ⟨"."⟩ pattern := fun _ _ => ⟨_, rfl⟩
  obtain ⟨paths, selects⟩ := (select_arranged ⟨"."⟩ patterns).1 bed isFile readable
  have files : patterns.map (matched bed isFile ⟨"."⟩) =
      [[⟨"rose.json"⟩], [⟨"beech.json"⟩, ⟨"rose.json"⟩, ⟨"tulip.json"⟩], [⟨"rose.json"⟩]] := by
    decide +kernel
  have first : fresh [] [⟨"rose.json"⟩] = [⟨"rose.json"⟩] := by decide +kernel
  have later : fresh [⟨"rose.json"⟩] [⟨"beech.json"⟩, ⟨"rose.json"⟩, ⟨"tulip.json"⟩] =
      [⟨"beech.json"⟩, ⟨"tulip.json"⟩] := by
    decide +kernel
  have sorted : ([⟨"beech.json"⟩, ⟨"tulip.json"⟩] : List Path).mergeSort Path.le =
      [⟨"beech.json"⟩, ⟨"tulip.json"⟩] :=
    List.mergeSort_of_pairwise (by decide +kernel)
  have arranged : arrange (patterns.map (matched bed isFile ⟨"."⟩)) =
      [⟨"rose.json"⟩, ⟨"beech.json"⟩, ⟨"tulip.json"⟩] := by
    rw [files, arrange, arrangeFrom_cons, arrangeFrom_cons, arrangeFrom_cons_of_known]
    · rw [first, List.mergeSort_singleton, List.nil_append, later, sorted]
      rfl
    · simp
  have selected : selection bed isFile ⟨"."⟩ patterns = .ok _ := selection_eq readable
  rw [arranged, selects.selected] at selected
  cases selected
  exact ⟨readable, selects⟩

end Dtdl.Project.Sources
