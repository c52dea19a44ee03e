import Mathlib.Data.List.Nodup
import Mathlib.Data.List.TakeWhile
import NetworkWrapper.FileManager

set_option autoImplicit false

-- What the server holds of a tree of readable files and directories.
namespace NetworkWrapper

mutual

inductive FileTree where
  | file (file : DiskFile)
  | directory (children : FileForest)

inductive FileForest where
  | nil
  | cons (name : FileName) (tree : FileTree) (rest : FileForest)

end

mutual

def FileTree.entries (path : RelativePath) : FileTree → List DirectoryEntry
  | .file file => [⟨path, .regularFile true file⟩]
  | .directory children => ⟨path, .directory⟩ :: children.entries path

def FileForest.entries (path : RelativePath) : FileForest → List DirectoryEntry
  | .nil => []
  | .cons name tree rest => tree.entries (path ++ [name]) ++ rest.entries path

end

def FileForest.Missing (absent : FileName) : FileForest → Prop
  | .nil => True
  | .cons name _ rest => absent ≠ name ∧ rest.Missing absent

-- No directory has two entries of one name.
mutual

def FileTree.Distinct : FileTree → Prop
  | .file _ => True
  | .directory children => children.Distinct

def FileForest.Distinct : FileForest → Prop
  | .nil => True
  | .cons name tree rest => rest.Missing name ∧ tree.Distinct ∧ rest.Distinct

end

structure DirectoryTree where
  forest : FileForest
  distinct : forest.Distinct

def DirectoryTree.entries (tree : DirectoryTree) : List DirectoryEntry := tree.forest.entries []

mutual

theorem tree_entries_below (path : RelativePath) (tree : FileTree) (entry : DirectoryEntry)
    (member : entry ∈ tree.entries path) : path <+: entry.path := by
  cases tree with
  | file file =>
      obtain rfl := List.mem_singleton.mp member
      exact List.prefix_refl path
  | directory children =>
      rcases List.mem_cons.mp member with rfl | inside
      · exact List.prefix_refl path
      · obtain ⟨name, rest, split, _⟩ := forest_entries_below path children entry inside
        exact ⟨name :: rest, split.symm⟩

theorem forest_entries_below (path : RelativePath) (forest : FileForest) (entry : DirectoryEntry)
    (member : entry ∈ forest.entries path) :
    ∃ name rest, entry.path = path ++ name :: rest ∧ ∀ absent, forest.Missing absent → absent ≠ name := by
  cases forest with
  | nil => cases member
  | cons name tree rest =>
      rcases List.mem_append.mp member with first | later
      · obtain ⟨deeper, split⟩ := tree_entries_below (path ++ [name]) tree entry first
        refine ⟨name, deeper, ?_, fun absent missing => missing.1⟩
        rw [← split, List.append_assoc, List.singleton_append]
      · obtain ⟨other, deeper, split, apart⟩ := forest_entries_below path rest entry later
        exact ⟨other, deeper, split, fun absent missing => apart absent missing.2⟩

end

mutual

theorem tree_paths_distinct (path : RelativePath) (tree : FileTree) (distinct : tree.Distinct) :
    ((tree.entries path).map DirectoryEntry.path).Nodup := by
  cases tree with
  | file file => simp [FileTree.entries]
  | directory children =>
      simp only [FileTree.entries, List.map_cons, List.nodup_cons]
      refine ⟨?_, forest_paths_distinct path children distinct⟩
      intro again
      obtain ⟨entry, inside, same⟩ := List.mem_map.mp again
      obtain ⟨name, rest, split, _⟩ := forest_entries_below path children entry inside
      rw [split] at same
      simp at same

theorem forest_paths_distinct (path : RelativePath) (forest : FileForest) (distinct : forest.Distinct) :
    ((forest.entries path).map DirectoryEntry.path).Nodup := by
  cases forest with
  | nil => simp [FileForest.entries]
  | cons name tree rest =>
      simp only [FileForest.entries, List.map_append]
      refine List.Nodup.append (tree_paths_distinct _ tree distinct.2.1) (forest_paths_distinct path rest distinct.2.2) ?_
      intro shared first later
      obtain ⟨entry, inside, rfl⟩ := List.mem_map.mp first
      obtain ⟨other, beside, same⟩ := List.mem_map.mp later
      obtain ⟨deeper, split⟩ := tree_entries_below (path ++ [name]) tree entry inside
      obtain ⟨apart, further, named, different⟩ := forest_entries_below path rest other beside
      rw [← split, named, List.append_assoc, List.singleton_append, List.append_cancel_left_eq] at same
      exact different name distinct.1 (List.cons_eq_cons.mp same).1.symm

end

theorem entries_one_file (tree : DirectoryTree) (first second : DirectoryEntry) (firstIn : first ∈ tree.entries)
    (secondIn : second ∈ tree.entries) (same : first.path = second.path) : first = second :=
  List.inj_on_of_nodup_map (forest_paths_distinct [] tree.forest tree.distinct) firstIn secondIn same

theorem entries_not_base (tree : DirectoryTree) (entry : DirectoryEntry) (member : entry ∈ tree.entries) :
    ∃ directory name, entry.path = directory ++ [name] := by
  obtain ⟨name, rest, split, _⟩ := forest_entries_below [] tree.forest entry member
  rcases List.eq_nil_or_concat entry.path with empty | ⟨directory, last, named⟩
  · rw [split] at empty
    simp at empty
  · exact ⟨directory, last, by rw [named, List.concat_eq_append]⟩

theorem name_before_path (name : FileName) (path : RelativePath) :
    (name.bytes ++ webPath path).takeWhile (· ≠ slash) = name.bytes := by
  have plain : ∀ byte ∈ name.bytes, decide (byte ≠ slash) = true := by
    intro byte member
    simp only [ne_eq, decide_not, Bool.not_eq_true', decide_eq_false_iff_not]
    rintro rfl
    exact name.plain member
  rw [List.takeWhile_append_of_pos plain]
  cases path with
  | nil => simp [webPath]
  | cons next rest => simp [webPath]

theorem web_path_injective (first second : RelativePath) (same : webPath first = webPath second) : first = second := by
  induction first generalizing second with
  | nil =>
      cases second with
      | nil => rfl
      | cons name rest => simp [webPath] at same
  | cons name rest ih =>
      cases second with
      | nil => simp [webPath] at same
      | cons other others =>
          have joined : name.bytes ++ webPath rest = other.bytes ++ webPath others := by
            simpa [webPath] using same
          have names := congrArg (List.takeWhile (· ≠ slash)) joined
          rw [name_before_path, name_before_path] at names
          obtain rfl : name = other := FileName.ext names
          rw [ih others (List.append_cancel_left joined)]

theorem web_path_unended (path directory : RelativePath) : webPath path ≠ webPath directory ++ [slash] := by
  intro same
  rcases List.eq_nil_or_concat path with rfl | ⟨front, name, rfl⟩
  · simp [webPath] at same
  · rw [List.concat_eq_append, web_path_append] at same
    have ending := congrArg List.getLast? same
    obtain ⟨begins, last, split⟩ := List.eq_nil_or_concat name.bytes |>.resolve_left name.nonempty
    rw [split, List.concat_eq_append, ← List.cons_append, ← List.append_assoc, List.getLast?_concat,
      List.getLast?_concat] at ending
    have plain := name.plain
    rw [split, Option.some.inj ending] at plain
    simp at plain

def indexName : FileName := ⟨utf8 "index.html", by decide, by decide⟩

def IsTargetOf (target : Bytes) (path : RelativePath) : Prop :=
  target = webPath path ∨ ∃ directory, path = directory ++ [indexName] ∧ target = webPath directory ++ [slash]

def Serves (entries : List DirectoryEntry) (target : Bytes) (file : DiskFile) : Prop :=
  ∃ path, ⟨path, .regularFile true file⟩ ∈ entries ∧ IsTargetOf target path

theorem target_of_named (target : Bytes) (directory : RelativePath) (name : FileName) :
    IsTargetOf target (directory ++ [name]) ↔
      target = webPath (directory ++ [name]) ∨ (slash :: name.bytes = indexHtml ∧ target = webPath directory ++ [slash]) := by
  have index : indexHtml = slash :: indexName.bytes := by decide
  rw [index, List.cons.injEq, and_iff_right rfl]
  constructor
  · rintro (named | ⟨front, split, ended⟩)
    · exact .inl named
    · obtain ⟨rfl, same⟩ := List.append_inj' split rfl
      obtain rfl := List.singleton_injective same
      exact .inr ⟨rfl, ended⟩
  · rintro (named | ⟨same, ended⟩)
    · exact .inl named
    · obtain rfl : name = indexName := FileName.ext same
      exact .inr ⟨directory, rfl, ended⟩

theorem target_path (target : Bytes) (first second : RelativePath) (isFirst : IsTargetOf target first)
    (isSecond : IsTargetOf target second) : first = second := by
  rcases isFirst with rfl | ⟨directory, rfl, rfl⟩
  · rcases isSecond with same | ⟨directory, rfl, ended⟩
    · exact web_path_injective first second same
    · exact absurd ended (web_path_unended first directory)
  · rcases isSecond with unended | ⟨other, rfl, same⟩
    · exact absurd unended.symm (web_path_unended second directory)
    · rw [web_path_injective directory other (List.append_cancel_right same)]

def Keeps (deflate : Bytes → Bytes) (cached : FileCacheEntry) (file : DiskFile) : Prop :=
  cached.fileContent = file.content ∧
    (0 < cached.compressionRatio → Gzip.compress deflate file.content = .ok cached.compressedFileContent ∧
      cached.compressedFileContent.length < file.content.length)

theorem load_file_keeps (deflate : Bytes → Bytes) (filename : Bytes) (file : DiskFile) (loaded : Option FileCacheEntry)
    (done : loadFile deflate filename (.regularFile true file) = .ok loaded) :
    ∃ cached, loaded = some cached ∧ Keeps deflate cached file := by
  simp only [loadFile] at done
  split at done
  · cases done
  · split at done
    · cases done
    · rename_i compressedFileContent compressed
      cases done
      refine ⟨_, rfl, ?_⟩
      by_cases smaller : compressedFileContent.length < file.content.length
      · rw [newFileCacheEntry, if_pos smaller]
        exact ⟨rfl, fun _ => ⟨compressed, smaller⟩⟩
      · rw [newFileCacheEntry, if_neg smaller]
        exact ⟨rfl, fun positive => absurd positive (lt_irrefl 0)⟩

def Caches (deflate : Bytes → Bytes) (basePath : Bytes) (entry : DirectoryEntry) (key : Bytes) (cached : FileCacheEntry) : Prop :=
  loadFile deflate (diskPath basePath entry.path) entry.onDisk = .ok (some cached) ∧ IsTargetOf key entry.path

theorem request_path (basePath : Bytes) (path : RelativePath) (based : basePath ≠ [])
    (unended : basePath.getLast? ≠ some slash) :
    StdString.substr (diskPath basePath path) (some basePath.length) = .ok (webPath path) := by
  simp [diskPath, based, unended, StdString.substr]

theorem cache_file_iff (deflate : Bytes → Bytes) (basePath : Bytes) (fileCache next : FileCache) (directory : RelativePath)
    (name : FileName) (onDisk : DiskEntry) (based : basePath ≠ []) (unended : basePath.getLast? ≠ some slash)
    (done : cacheFile deflate basePath fileCache ⟨directory ++ [name], onDisk⟩ = .ok next) :
    (∃ loaded, loadFile deflate (diskPath basePath (directory ++ [name])) onDisk = .ok loaded) ∧
    ∀ key cached, (key, cached) ∈ next ↔
      Caches deflate basePath ⟨directory ++ [name], onDisk⟩ key cached ∨ (key, cached) ∈ fileCache := by
  have position := StdString.find_last_of_split (webPath directory) name.bytes slash name.plain
  rw [← web_path_append] at position
  simp only [cacheFile, request_path basePath _ based unended, position] at done
  cases loaded : loadFile deflate (diskPath basePath (directory ++ [name])) onDisk with
  | error what =>
      rw [loaded] at done
      cases done
  | ok result =>
      refine ⟨⟨result, rfl⟩, ?_⟩
      cases result with
      | none =>
          rw [loaded] at done
          cases done
          simp [Caches, loaded]
      | some cached =>
          have dropped : (webPath (directory ++ [name])).drop (webPath directory).length = slash :: name.bytes := by
            rw [web_path_append, List.drop_left]
          have taken : (webPath (directory ++ [name])).take ((webPath directory).length + 1) = webPath directory ++ [slash] := by
            simp [web_path_append, List.take_append]
          simp only [loaded, dropped, taken] at done
          simp only [Caches, loaded, Except.ok.injEq, Option.some.injEq, target_of_named]
          intro key other
          by_cases index : slash :: name.bytes = indexHtml
          · rw [if_neg (not_not.mpr index)] at done
            cases done
            simp only [List.mem_cons, Prod.mk.injEq, index, true_and]
            tauto
          · rw [if_pos index] at done
            cases done
            simp only [List.mem_cons, Prod.mk.injEq, index, false_and, or_false]
            tauto

theorem build_file_cache_iff (deflate : Bytes → Bytes) (basePath : Bytes) (entries : List DirectoryEntry)
    (fileCache final : FileCache) (based : basePath ≠ []) (unended : basePath.getLast? ≠ some slash)
    (below : ∀ entry ∈ entries, ∃ directory name, entry.path = directory ++ [name])
    (done : buildFileCache deflate basePath fileCache entries = .ok final) :
    (∀ entry ∈ entries, ∃ loaded, loadFile deflate (diskPath basePath entry.path) entry.onDisk = .ok loaded) ∧
    ∀ key cached, (key, cached) ∈ final ↔
      (∃ entry ∈ entries, Caches deflate basePath entry key cached) ∨ (key, cached) ∈ fileCache := by
  induction entries generalizing fileCache with
  | nil =>
      cases done
      simp
  | cons entry rest ih =>
      obtain ⟨⟨directory, name, split⟩, later⟩ := List.forall_mem_cons.mp below
      obtain ⟨path, onDisk⟩ := entry
      obtain rfl : path = directory ++ [name] := split
      simp only [buildFileCache] at done
      split at done
      · cases done
      · rename_i next cachedOne
        obtain ⟨first, added⟩ := cache_file_iff deflate basePath fileCache next directory name onDisk based unended cachedOne
        obtain ⟨others, built⟩ := ih next later done
        refine ⟨List.forall_mem_cons.mpr ⟨first, others⟩, fun key cached => ?_⟩
        rw [built, added, List.exists_mem_cons_iff, ← or_assoc, or_comm (b := Caches _ _ _ _ _)]

theorem served_file (tree : DirectoryTree) (target : Bytes) (first second : DiskFile)
    (isFirst : Serves tree.entries target first) (isSecond : Serves tree.entries target second) : first = second := by
  obtain ⟨path, firstIn, named⟩ := isFirst
  obtain ⟨other, secondIn, named'⟩ := isSecond
  have same := entries_one_file tree _ _ firstIn secondIn (target_path target path other named named')
  cases same
  rfl

theorem construct_cache (deflate : Bytes → Bytes) (basePath : Bytes) (entries : List DirectoryEntry) (manager : FileManager)
    (built : FileManager.construct deflate basePath entries = .ok manager) :
    basePath ≠ [] ∧ buildFileCache deflate basePath [] entries = .ok manager.fileCache := by
  simp only [FileManager.construct] at built
  split at built
  · cases built
  · rename_i based
    split at built
    · cases built
    · rename_i fileCache done
      cases built
      exact ⟨based, done⟩

theorem get_file_iff (deflate : Bytes → Bytes) (basePath : Bytes) (tree : DirectoryTree) (listing : List DirectoryEntry)
    (manager : FileManager) (unended : basePath.getLast? ≠ some slash) (listed : listing.Perm tree.entries)
    (built : FileManager.construct deflate basePath listing = .ok manager) (target : Bytes) :
    ((manager.getFile target).isSome = true ↔ ∃ file, Serves tree.entries target file) ∧
      ∀ cached file, manager.getFile target = some cached → Serves tree.entries target file → Keeps deflate cached file := by
  obtain ⟨based, done⟩ := construct_cache deflate basePath listing manager built
  have below : ∀ entry ∈ listing, ∃ directory name, entry.path = directory ++ [name] :=
    fun entry member => entries_not_base tree entry (listed.mem_iff.mp member)
  obtain ⟨loaded, holds⟩ := build_file_cache_iff deflate basePath listing [] _ based unended below done
  have kept : ∀ cached, manager.getFile target = some cached →
      ∃ file, Serves tree.entries target file ∧ Keeps deflate cached file := by
    intro cached found
    obtain ⟨before, after, split, _⟩ := List.lookup_eq_some_iff.mp found
    have member : (target, cached) ∈ manager.fileCache := by simp [split]
    obtain ⟨⟨path, onDisk⟩, inside, loads, named⟩ := ((holds target cached).mp member).resolve_right (by simp)
    cases onDisk with
    | directory => cases loads
    | regularFile readable file =>
        cases readable with
        | false => cases loads
        | true =>
            obtain ⟨_, same, keeps⟩ := load_file_keeps deflate _ file _ loads
            cases same
            exact ⟨file, ⟨path, listed.mem_iff.mp inside, named⟩, keeps⟩
  refine ⟨⟨?_, ?_⟩, ?_⟩
  · intro present
    obtain ⟨cached, found⟩ := Option.isSome_iff_exists.mp present
    obtain ⟨file, served, _⟩ := kept cached found
    exact ⟨file, served⟩
  · rintro ⟨file, path, inside, named⟩
    obtain ⟨result, loads⟩ := loaded _ (listed.mem_iff.mpr inside)
    obtain ⟨cached, rfl, _⟩ := load_file_keeps deflate _ file _ loads
    have member : (target, cached) ∈ manager.fileCache :=
      (holds target cached).mpr (.inl ⟨_, listed.mem_iff.mpr inside, loads, named⟩)
    by_contra absent
    have missing := List.lookup_eq_none_iff.mp (Option.not_isSome_iff_eq_none.mp absent) (target, cached) member
    simp at missing
  · intro cached file found served
    obtain ⟨other, servedOther, keeps⟩ := kept cached found
    rw [served_file tree target file other served servedOther]
    exact keeps

end NetworkWrapper
