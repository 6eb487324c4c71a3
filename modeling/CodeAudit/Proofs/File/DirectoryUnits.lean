import CodeAudit.File.Walk
import CodeAudit.Proofs.File.Names
import CodeAudit.Proofs.StableSort
import Mathlib.Data.List.Forall2

/-!
The units below a directory. The names that lead to a file are the components of its path. A walk
finds the files whose directories are all entered, in the order of these lists of names. The units
are those of the files found that are not excluded, whose extension is supported and that hold
text, one for each of them and in the same order. Two of them can have the same path only where a
name on the way to one is not text.
-/

namespace CodeAudit

namespace FileTree

inductive Leads : FileTree → List FileName → StoredFile → Prop where
  | file (stored : StoredFile) : Leads (.file stored) [] stored
  | child {children : List (FileName × FileTree)} {name : FileName} {child : FileTree}
      {names : List FileName} {stored : StoredFile} (member : (name, child) ∈ children)
      (leads : Leads child names stored) : Leads (.directory children) (name :: names) stored

/-- In every directory the names are names, and no two of them are equal. -/
inductive Proper : FileTree → Prop where
  | file (stored : StoredFile) : Proper (.file stored)
  | directory {children : List (FileName × FileTree)}
      (distinct : (children.map Prod.fst).Nodup)
      (named : ∀ entry ∈ children, FileName.IsName entry.1)
      (proper : ∀ entry ∈ children, Proper entry.2) : Proper (.directory children)

def NeverEntered (name : FileName) : Prop :=
  name.shown.toList.head? = some '.' ∨ name.shown ∈ foreignDirectories

instance (name : FileName) : Decidable (NeverEntered name) :=
  inferInstanceAs (Decidable (_ ∨ _))

/-- A file with the names that lead to it, all of whose directories are entered. -/
structure Reached (place : FileTree) (names : List FileName) (stored : StoredFile) : Prop where
  leads : place.Leads names stored
  entered : ∀ name ∈ names.dropLast, ¬ NeverEntered name

section Walk

theorem is_skipped_iff (name : FileName) (tree : FileTree) :
    isSkipped name tree = true ↔ tree.isDirectory = true ∧ NeverEntered name := by
  have hidden : name.shown.startsWith "." = true ↔ name.shown.toList.head? = some '.' := by
    rw [String.startsWith_string_iff]
    have dot : ".".toList = ['.'] := rfl
    rw [dot]
    cases name.shown.toList with
    | nil => simp
    | cons first rest => simp [eq_comm]
  rw [isSkipped, Bool.and_eq_true, Bool.or_eq_true, hidden, List.contains_iff_mem]
  rfl

theorem mem_walk_children {children : List (FileName × FileTree)} {name : FileName}
    {files : List (List FileName × StoredFile)} : (name, files) ∈ walkChildren children ↔
      ∃ child, (name, child) ∈ children ∧ isSkipped name child = false ∧ files = walk child := by
  induction children with
  | nil => simp [walkChildren]
  | cons entry rest ih =>
      obtain ⟨other, child⟩ := entry
      rw [walkChildren]
      split
      · next skipped =>
          rw [ih]
          constructor
          · rintro ⟨found, member, facts⟩
            exact ⟨found, List.mem_cons_of_mem _ member, facts⟩
          · rintro ⟨found, member, kept, walked⟩
            rcases List.mem_cons.mp member with same | later
            · cases same
              rw [skipped] at kept
              cases kept
            · exact ⟨found, later, kept, walked⟩
      · next entered =>
          rw [List.mem_cons, ih]
          constructor
          · rintro (same | ⟨found, member, facts⟩)
            · cases same
              exact ⟨child, List.mem_cons_self, by simpa using entered, rfl⟩
            · exact ⟨found, List.mem_cons_of_mem _ member, facts⟩
          · rintro ⟨found, member, kept, walked⟩
            rcases List.mem_cons.mp member with same | later
            · cases same
              exact Or.inl (by rw [walked])
            · exact Or.inr ⟨found, later, kept, walked⟩

theorem walk_children_names (children : List (FileName × FileTree)) :
    ((walkChildren children).map Prod.fst).Sublist (children.map Prod.fst) := by
  induction children with
  | nil => exact List.Sublist.slnil
  | cons entry rest ih =>
      obtain ⟨name, child⟩ := entry
      rw [walkChildren]
      split
      · exact ih.cons name
      · exact ih.cons_cons name

theorem mem_walk_directory {children : List (FileName × FileTree)} {names : List FileName}
    {stored : StoredFile} : (names, stored) ∈ walk (.directory children) ↔
      ∃ name child rest, names = name :: rest ∧ (name, child) ∈ children ∧
        isSkipped name child = false ∧ (rest, stored) ∈ walk child := by
  rw [walk, List.mem_flatMap]
  constructor
  · rintro ⟨⟨name, files⟩, member, under⟩
    obtain ⟨child, isChild, kept, rfl⟩ := mem_walk_children.mp (List.mem_mergeSort.mp member)
    obtain ⟨⟨rest, found⟩, inChild, same⟩ := List.mem_map.mp under
    cases same
    exact ⟨name, child, rest, rfl, isChild, kept, inChild⟩
  · rintro ⟨name, child, rest, rfl, isChild, kept, inChild⟩
    refine ⟨(name, walk child), List.mem_mergeSort.mpr ?_, List.mem_map.mpr ?_⟩
    · exact mem_walk_children.mpr ⟨child, isChild, kept, rfl⟩
    · exact ⟨(rest, stored), inChild, rfl⟩

/-- A child is skipped only if it is a directory, and so has files at more than its own name. -/
theorem is_skipped_of_leads {child : FileTree} {names : List FileName} {stored : StoredFile}
    (name : FileName) (leads : child.Leads names stored) :
    isSkipped name child = false ↔ (names ≠ [] → ¬ NeverEntered name) := by
  rw [← Bool.not_eq_true, is_skipped_iff]
  cases leads with
  | file found => simp [isDirectory]
  | child member below => simp [isDirectory]

theorem entered_cons_iff {name : FileName} {names : List FileName} :
    (∀ other ∈ (name :: names).dropLast, ¬ NeverEntered other) ↔
      (names ≠ [] → ¬ NeverEntered name) ∧ ∀ other ∈ names.dropLast, ¬ NeverEntered other := by
  cases names with
  | nil => simp
  | cons next others => simp

theorem reached_cons_iff {children : List (FileName × FileTree)} {name : FileName}
    {names : List FileName} {stored : StoredFile} :
    (FileTree.directory children).Reached (name :: names) stored ↔
      ∃ child, (name, child) ∈ children ∧ isSkipped name child = false ∧
        child.Reached names stored := by
  constructor
  · rintro ⟨leads, entered⟩
    obtain ⟨here, below⟩ := entered_cons_iff.mp entered
    cases leads with
    | child member leads =>
        exact ⟨_, member, (is_skipped_of_leads name leads).mpr here, leads, below⟩
  · rintro ⟨child, member, kept, leads, below⟩
    refine ⟨Leads.child member leads, ?_⟩
    exact entered_cons_iff.mpr ⟨(is_skipped_of_leads name leads).mp kept, below⟩

/-- The walk finds the files that are reached. -/
theorem mem_walk_iff {tree : FileTree} {names : List FileName} {stored : StoredFile} :
    (names, stored) ∈ walk tree ↔ tree.Reached names stored := by
  induction names generalizing tree with
  | nil =>
      constructor
      · intro member
        cases tree with
        | file found =>
            rw [walk, List.mem_singleton] at member
            cases member
            exact ⟨Leads.file stored, by simp⟩
        | directory children =>
            obtain ⟨_, _, _, same, _⟩ := mem_walk_directory.mp member
            cases same
      · rintro ⟨leads, _⟩
        cases leads
        rw [walk, List.mem_singleton]
  | cons name rest ih =>
      cases tree with
      | file found =>
          constructor
          · intro member
            rw [walk, List.mem_singleton] at member
            cases member
          · rintro ⟨leads, _⟩
            cases leads
      | directory children =>
          rw [mem_walk_directory, reached_cons_iff]
          constructor
          · rintro ⟨_, child, _, same, member, kept, walked⟩
            cases same
            exact ⟨child, member, kept, ih.mp walked⟩
          · rintro ⟨child, member, kept, reached⟩
            exact ⟨name, child, rest, rfl, member, kept, ih.mpr reached⟩

theorem Reached.named {tree : FileTree} {names : List FileName} {stored : StoredFile}
    (proper : tree.Proper) (reached : tree.Reached names stored) :
    ∀ name ∈ names, FileName.IsName name := by
  have leads := reached.leads
  clear reached
  induction leads with
  | file found => simp
  | child member leads ih =>
      cases proper with
      | directory distinct named proper =>
          intro name isName
          rcases List.mem_cons.mp isName with same | later
          · rw [same]
            exact named _ member
          · exact ih (proper _ member) name later

theorem names_ne_nil {children : List (FileName × FileTree)} {names : List FileName}
    {stored : StoredFile} (leads : (FileTree.directory children).Leads names stored) :
    names ≠ [] := by
  cases leads with
  | child member leads => simp

theorem name_le_order : TotalPreorder
    fun left right : FileName × List (List FileName × StoredFile) => decide (left.1 ≤ right.1) := by
  constructor
  · intro left middle right
    simp only [decide_eq_true_eq]
    exact List.le_trans
  · intro left right
    rw [Bool.or_eq_true, decide_eq_true_eq, decide_eq_true_eq]
    exact List.le_total left.1 right.1

theorem sorted_names {entries : List (FileName × List (List FileName × StoredFile))}
    (distinct : (entries.map Prod.fst).Nodup) :
    (entries.mergeSort fun left right => left.1 ≤ right.1).Pairwise
      fun left right => left.1 < right.1 := by
  have sorted := merge_sort_sorted name_le_order entries
  have kept : ((entries.mergeSort fun left right => left.1 ≤ right.1).map Prod.fst).Nodup :=
    ((List.mergeSort_perm entries _).map Prod.fst).nodup_iff.mpr distinct
  have different := List.pairwise_map.mp kept
  apply (sorted.and different).imp
  rintro left right ⟨before, other⟩
  rw [decide_eq_true_eq] at before
  apply List.not_le.mp
  intro after
  exact other (List.le_antisymm before after)

theorem walk_ordered {tree : FileTree} (proper : tree.Proper) :
    (walk tree).Pairwise fun left right => left.1 < right.1 := by
  induction proper with
  | file stored =>
      rw [walk]
      exact List.pairwise_singleton _ _
  | @directory children distinct named proper ih =>
      rw [walk, List.pairwise_flatMap]
      constructor
      · rintro ⟨name, files⟩ member
        obtain ⟨child, isChild, _, rfl⟩ := mem_walk_children.mp (List.mem_mergeSort.mp member)
        apply List.pairwise_map.mpr
        apply (ih (name, child) isChild).imp
        intro left right before
        exact List.cons_lt_cons_iff.mpr (Or.inr ⟨rfl, before⟩)
      · apply (sorted_names (distinct.sublist (walk_children_names children))).imp
        intro left right before first inFirst second inSecond
        obtain ⟨_, _, rfl⟩ := List.mem_map.mp inFirst
        obtain ⟨_, _, rfl⟩ := List.mem_map.mp inSecond
        exact List.cons_lt_cons_iff.mpr (Or.inl before)

end Walk

/-- A file that is reached, not excluded, of a supported extension and with text in it. -/
structure Taken (place : FileTree) (excludes : Excludes) (names : List FileName)
    (stored : StoredFile) : Prop where
  reached : place.Reached names stored
  included : excludes.contains (logicalPath names) = false
  supported : (Language.ofPath? (logicalPath names)).isSome
  readable : stored.text?.isSome

structure IsUnitOf (names : List FileName) (stored : StoredFile) (unit : SourceUnit) : Prop where
  path : unit.path = logicalPath names
  language : Language.ofPath? (logicalPath names) = some unit.language
  source : stored.text? = some unit.source
  tree : unit.tree = stored.syntaxTree

section Units

variable {excludes : Excludes} {names : List FileName} {stored : StoredFile} {unit : SourceUnit}

theorem unit?_of_excluded {path : String} (excluded : excludes.contains path = true) :
    unit? excludes path stored = none := by
  rw [unit?, if_pos excluded]

theorem unit?_of_included {path : String} (included : excludes.contains path = false)
    (nonempty : path ≠ "") : unit? excludes path stored =
      (Language.ofPath? path).bind fun language => stored.text?.map fun source =>
        ⟨path, language, source, stored.syntaxTree⟩ := by
  rw [unit?, if_neg (by simp [included])]
  cases Language.ofPath? path with
  | none => rfl
  | some language =>
      cases stored.text? with
      | none => rfl
      | some source =>
          have made : SourceUnit.parseAs ⟨path, source, stored.syntaxTree⟩ language =
              .ok ⟨path, language, source, stored.syntaxTree⟩ := by
            rw [SourceUnit.parseAs, if_neg (by simpa using nonempty)]
          simp [made, Except.toOption]

theorem is_unit_of_of_unit? (nonempty : logicalPath names ≠ "")
    (made : unit? excludes (logicalPath names) stored = some unit) :
    IsUnitOf names stored unit := by
  have included : excludes.contains (logicalPath names) = false := by
    rw [← Bool.not_eq_true]
    intro excluded
    rw [unit?_of_excluded excluded] at made
    cases made
  rw [unit?_of_included included nonempty, Option.bind_eq_some_iff] at made
  obtain ⟨language, isLanguage, made⟩ := made
  obtain ⟨source, isSource, rfl⟩ := Option.map_eq_some_iff.mp made
  exact ⟨rfl, isLanguage, isSource, rfl⟩

theorem unit?_is_some_iff (nonempty : logicalPath names ≠ "") :
    (unit? excludes (logicalPath names) stored).isSome ↔
      excludes.contains (logicalPath names) = false ∧
        (Language.ofPath? (logicalPath names)).isSome ∧ stored.text?.isSome := by
  cases included : excludes.contains (logicalPath names) with
  | true => simp [unit?_of_excluded included]
  | false =>
      rw [unit?_of_included included nonempty]
      cases Language.ofPath? (logicalPath names) with
      | none => simp
      | some language => simp

end Units

theorem forall₂_filter_map {Item Value : Type} (make : Item → Option Value) (items : List Item) :
    List.Forall₂ (fun item value => item ∈ items ∧ make item = some value)
      (items.filter fun item => (make item).isSome) (items.filterMap make) := by
  induction items with
  | nil => exact List.Forall₂.nil
  | cons item rest ih =>
      have later := ih.imp fun other value facts =>
        (⟨List.mem_cons_of_mem item facts.1, facts.2⟩ : other ∈ item :: rest ∧ _)
      cases made : make item with
      | none => simpa [made] using later
      | some value => simpa [made] using later

def siteUnit? (excludes : Excludes) (site : List FileName × StoredFile) : Option SourceUnit :=
  unit? excludes (logicalPath site.1) site.2

def takenSites (children : List (FileName × FileTree)) (excludes : Excludes) :
    List (List FileName × StoredFile) :=
  (FileTree.directory children).walk.filter fun site => (siteUnit? excludes site).isSome

section Directory

variable {children : List (FileName × FileTree)} (proper : (FileTree.directory children).Proper)

include proper

theorem path_of_walked {names : List FileName} {stored : StoredFile}
    (walked : (names, stored) ∈ (FileTree.directory children).walk) : logicalPath names ≠ "" := by
  have reached := mem_walk_iff.mp walked
  cases names with
  | nil => exact (names_ne_nil reached.leads rfl).elim
  | cons name rest =>
      have named := reached.named proper name List.mem_cons_self
      exact Path.of_names_ne_empty (FileName.shown_ne_empty named.nonempty) _

/-- Where the names that lead to a file are text, they can be read off its path. -/
theorem names_of_path {names : List FileName} {stored : StoredFile}
    (walked : (names, stored) ∈ (FileTree.directory children).walk)
    (text : ∀ name ∈ names, name.IsText) :
    (Path.pieces (logicalPath names)).map FileName.ofText = names := by
  have reached := mem_walk_iff.mp walked
  have unslashed : ∀ shown ∈ names.map FileName.shown, '/' ∉ shown.toList := by
    intro shown member
    obtain ⟨name, isName, rfl⟩ := List.mem_map.mp member
    obtain ⟨read, isRead⟩ := (text name isName).exists_text
    rw [FileName.shown_of_text? isRead]
    exact FileName.slash_not_mem_text (reached.named proper name isName) isRead
  have more : names.map FileName.shown ≠ [] := by simpa using names_ne_nil reached.leads
  rw [logicalPath, Path.pieces_of_names more unslashed, List.map_map]
  calc
    names.map (FileName.ofText ∘ FileName.shown) = names.map id :=
      List.map_congr_left fun name isName => FileName.of_text_shown (text name isName)
    _ = names := List.map_id names

theorem mem_taken_sites (excludes : Excludes) (names : List FileName) (stored : StoredFile) :
    (names, stored) ∈ takenSites children excludes ↔
      (FileTree.directory children).Taken excludes names stored := by
  rw [takenSites, List.mem_filter]
  constructor
  · rintro ⟨walked, made⟩
    obtain ⟨included, supported, readable⟩ :=
      (unit?_is_some_iff (path_of_walked proper walked)).mp made
    exact ⟨mem_walk_iff.mp walked, included, supported, readable⟩
  · intro taken
    have walked := mem_walk_iff.mpr taken.reached
    exact ⟨walked, (unit?_is_some_iff (path_of_walked proper walked)).mpr
      ⟨taken.included, taken.supported, taken.readable⟩⟩

theorem taken_sites_units (excludes : Excludes) :
    List.Forall₂ (fun site unit => IsUnitOf site.1 site.2 unit) (takenSites children excludes)
      ((FileTree.directory children).walk.filterMap (siteUnit? excludes)) := by
  apply (forall₂_filter_map (siteUnit? excludes) (FileTree.directory children).walk).imp
  rintro ⟨names, stored⟩ unit ⟨walked, made⟩
  exact is_unit_of_of_unit? (path_of_walked proper walked) made

/-- Of two files that are shown alike, one has a name on the way to it that is not text. -/
theorem taken_sites_paths (excludes : Excludes) :
    (takenSites children excludes).Pairwise fun left right =>
      logicalPath left.1 = logicalPath right.1 →
        ∃ name ∈ left.1 ++ right.1, ¬name.IsText := by
  apply ((walk_ordered proper).filter _).imp_of_mem
  intro left right inLeft inRight before same
  by_contra all
  have text : ∀ name ∈ left.1 ++ right.1, name.IsText := by
    intro name member
    by_contra other
    exact all ⟨name, member, other⟩
  have leftNames := names_of_path proper (List.mem_filter.mp inLeft).1
    fun name member => text name (List.mem_append_left _ member)
  have rightNames := names_of_path proper (List.mem_filter.mp inRight).1
    fun name member => text name (List.mem_append_right _ member)
  rw [← leftNames, ← rightNames, same] at before
  exact List.lt_irrefl _ before

theorem units_ordered (excludes : Excludes)
    (text : ∀ site ∈ takenSites children excludes, ∀ name ∈ site.1, name.IsText) :
    ((FileTree.directory children).walk.filterMap (siteUnit? excludes)).Pairwise
      fun left right => (Path.pieces left.path).map FileName.ofText <
        (Path.pieces right.path).map FileName.ofText := by
  have names : ∀ site ∈ (FileTree.directory children).walk, ∀ unit,
      siteUnit? excludes site = some unit →
        (Path.pieces unit.path).map FileName.ofText = site.1 := by
    intro site walked unit made
    have taken : site ∈ takenSites children excludes :=
      List.mem_filter.mpr ⟨walked, by rw [made]; rfl⟩
    rw [(is_unit_of_of_unit? (path_of_walked proper walked) made).path]
    exact names_of_path proper walked (text site taken)
  rw [List.pairwise_filterMap]
  apply (walk_ordered proper).imp_of_mem
  intro left right inLeft inRight before leftUnit leftMade rightUnit rightMade
  rwa [names left inLeft leftUnit leftMade, names right inRight rightUnit rightMade]

end Directory
end FileTree

namespace FileSystem

open FileTree

theorem units_eq {system : FileSystem} {root : String} {children : List (FileName × FileTree)}
    (excludes : Excludes) (atRoot : system.find root = .ok (.directory children)) :
    system.units root excludes =
      (FileTree.directory children).walk.filterMap (siteUnit? excludes) := by
  rw [units, filesBelow, atRoot, List.filterMap_map]
  rfl

/-- The units below a directory are those of the files there that are taken, one for each file, in
the order of the names that lead to them, and none has the empty path. Two of them have the same
path only where one of these names is not text. Where all are text, the units are in the order of
the components of their paths, so no path occurs twice. -/
theorem units_below_directory {system : FileSystem} {root : String}
    {children : List (FileName × FileTree)} (excludes : Excludes)
    (atRoot : system.find root = .ok (.directory children))
    (proper : (FileTree.directory children).Proper) :
    (∀ unit ∈ system.units root excludes, unit.path ≠ "") ∧
    ∃ sites : List (List FileName × StoredFile),
      (sites.Pairwise fun left right => left.1 < right.1) ∧
      (∀ names stored, (names, stored) ∈ sites ↔
        (FileTree.directory children).Taken excludes names stored) ∧
      List.Forall₂ (fun site unit => IsUnitOf site.1 site.2 unit) sites
        (system.units root excludes) ∧
      (sites.Pairwise fun left right => logicalPath left.1 = logicalPath right.1 →
        ∃ name ∈ left.1 ++ right.1, ¬name.IsText) ∧
      ((∀ site ∈ sites, ∀ name ∈ site.1, name.IsText) →
        ((system.units root excludes).Pairwise fun left right =>
          (Path.pieces left.path).map FileName.ofText <
            (Path.pieces right.path).map FileName.ofText) ∧
        ((system.units root excludes).map fun unit => unit.path).Nodup) := by
  rw [units_eq excludes atRoot]
  refine ⟨?_, takenSites children excludes, (walk_ordered proper).filter _,
    mem_taken_sites proper excludes, taken_sites_units proper excludes,
    taken_sites_paths proper excludes, ?_⟩
  · intro unit member
    obtain ⟨⟨names, stored⟩, walked, made⟩ := List.mem_filterMap.mp member
    have nonempty := path_of_walked proper walked
    rw [(is_unit_of_of_unit? nonempty made).path]
    exact nonempty
  · intro text
    have ordered := units_ordered proper excludes text
    refine ⟨ordered, List.pairwise_map.mpr (ordered.imp ?_)⟩
    intro left right before same
    rw [same] at before
    exact List.lt_irrefl _ before

section Sample

def emptyFile : StoredFile := ⟨[], Tree.bare⟩

/-- A directory, a file whose joined path is smaller than those in the directory, and a directory
that is not entered. -/
def mixedChildren : List (FileName × FileTree) :=
  [(.ofText "a-b.rs", .file emptyFile),
    (.ofText "a", .directory [(.ofText "x.rs", .file emptyFile)]),
    (.ofText ".git", .directory [(.ofText "h.py", .file emptyFile)])]

/-- Two files whose names begin with different bytes that are not text. -/
def garbledChildren : List (FileName × FileTree) :=
  [(0xFE :: FileName.ofText ".rs", .file emptyFile),
    (0xFF :: FileName.ofText ".rs", .file emptyFile)]

def sampleSystem (children : List (FileName × FileTree)) : FileSystem :=
  ⟨.directory [(.ofText "work", .directory children)], [.ofText "work"]⟩

theorem mixed_proper : (FileTree.directory mixedChildren).Proper := by
  refine Proper.directory (by decide +kernel) (by decide +kernel) ?_
  intro entry member
  simp only [mixedChildren, List.mem_cons, List.not_mem_nil, or_false] at member
  rcases member with rfl | rfl | rfl
  · exact Proper.file emptyFile
  · exact Proper.directory (by decide) (by decide +kernel) (by simpa using Proper.file emptyFile)
  · exact Proper.directory (by decide) (by decide +kernel) (by simpa using Proper.file emptyFile)

theorem garbled_proper : (FileTree.directory garbledChildren).Proper := by
  refine Proper.directory (by decide +kernel) (by decide +kernel) ?_
  intro entry member
  simp only [garbledChildren, List.mem_cons, List.not_mem_nil, or_false] at member
  rcases member with rfl | rfl
  · exact Proper.file emptyFile
  · exact Proper.file emptyFile

theorem units_below_directory_mixed : ∃ sites : List (List FileName × StoredFile),
    (sites.Pairwise fun left right => left.1 < right.1) ∧
      ([.ofText "a", .ofText "x.rs"], emptyFile) ∈ sites ∧ ([.ofText "a-b.rs"], emptyFile) ∈ sites ∧
      (∀ stored, ([.ofText ".git", .ofText "h.py"], stored) ∉ sites) ∧
      List.Forall₂ (fun site unit => IsUnitOf site.1 site.2 unit) sites
        ((sampleSystem mixedChildren).units "/work" Excludes.none) := by
  obtain ⟨_, sites, ordered, taken, paired, _⟩ := units_below_directory Excludes.none
    (rfl : (sampleSystem mixedChildren).find "/work" = .ok (.directory mixedChildren)) mixed_proper
  refine ⟨sites, ordered, (taken _ _).mpr ?_, (taken _ _).mpr ?_, ?_, paired⟩
  · refine ⟨⟨?_, by decide +kernel⟩, rfl, by decide +kernel, by decide +kernel⟩
    have below : (FileTree.directory [(.ofText "x.rs", .file emptyFile)]).Leads [.ofText "x.rs"]
        emptyFile := Leads.child List.mem_cons_self (Leads.file emptyFile)
    exact Leads.child (by simp [mixedChildren]) below
  · refine ⟨⟨?_, by decide +kernel⟩, rfl, by decide +kernel, by decide +kernel⟩
    exact Leads.child (by simp [mixedChildren]) (Leads.file emptyFile)
  · intro stored member
    have entered := ((taken _ _).mp member).reached.entered
    exact entered (.ofText ".git") (by decide +kernel) (by decide +kernel)

theorem garbled_walk : (FileTree.directory garbledChildren).walk =
    [([0xFE :: FileName.ofText ".rs"], emptyFile),
      ([0xFF :: FileName.ofText ".rs"], emptyFile)] := by
  rw [walk, List.mergeSort_of_pairwise (by decide +kernel)]
  rfl

theorem garbled_names_share_path :
    (FileTree.directory garbledChildren).Proper ∧
      (sampleSystem garbledChildren).find "/work" = .ok (.directory garbledChildren) ∧
      ¬(((sampleSystem garbledChildren).units "/work" Excludes.none).map
        fun unit => unit.path).Nodup := by
  have atRoot : (sampleSystem garbledChildren).find "/work" = .ok (.directory garbledChildren) :=
    rfl
  refine ⟨garbled_proper, atRoot, ?_⟩
  rw [units_eq Excludes.none atRoot, garbled_walk]
  decide +kernel

end Sample
end FileSystem
end CodeAudit
