import Mathlib.Algebra.Order.Field.Rat
import NetworkWrapper.Gzip
import NetworkWrapper.StdStrings
import NetworkWrapper.Texts

set_option autoImplicit false

-- The files the HTTP server keeps in memory.
namespace NetworkWrapper

structure FileCacheEntry where
  fileContent : Bytes
  compressedFileContent : Bytes
  type : String
  compressionRatio : Rat
  lastModified : String
deriving DecidableEq

abbrev slash : UInt8 := 47

abbrev dot : UInt8 := 46

@[ext]
structure FileName where
  bytes : Bytes
  nonempty : bytes ≠ []
  plain : slash ∉ bytes

instance : DecidableEq FileName := fun first second =>
  decidable_of_iff (first.bytes = second.bytes) FileName.ext_iff.symm

structure DiskFile where
  content : Bytes
  lastModified : String
deriving DecidableEq

-- What a path leads to. A file may refuse to be opened.
inductive DiskEntry where
  | directory
  | regularFile (readable : Bool) (file : DiskFile)
deriving DecidableEq

-- The path from the base directory, one name after the other.
abbrev RelativePath := List FileName

structure DirectoryEntry where
  path : RelativePath
  onDisk : DiskEntry
deriving DecidableEq

def webPath (path : RelativePath) : Bytes := path.flatMap fun name => slash :: name.bytes

-- fs::path puts a separator between the base and the rest unless there is one.
def diskPath (basePath : Bytes) (path : RelativePath) : Bytes :=
  if basePath = [] ∨ basePath.getLast? = some slash then basePath ++ (webPath path).drop 1 else basePath ++ webPath path

def typesMap : List (Bytes × String) :=
  [(utf8 ".ico", "image/x-icon"), (utf8 ".html", "text/html"), (utf8 ".js", "text/javascript"),
    (utf8 ".json", "application/json"), (utf8 ".css", "text/css"), (utf8 ".png", "image/png"),
    (utf8 ".jpg", "image/jpeg"), (utf8 ".wav", "audio/wav"), (utf8 ".mp3", "audio/mpeg"), (utf8 ".wav", "audio/wav"),
    (utf8 ".svg", "image/svg+xml"), (utf8 ".pdf", "application/pdf"), (utf8 ".doc", "application/msword"),
    (utf8 ".wasm", "application/wasm")]

def typeOfExtension (extension : Bytes) : String := (typesMap.lookup extension).getD "text/plain"

-- A compressed content that is not smaller is dropped.
def newFileCacheEntry (file : DiskFile) (extension compressedFileContent : Bytes) : FileCacheEntry :=
  if compressedFileContent.length < file.content.length then
    { fileContent := file.content, compressedFileContent := compressedFileContent, type := typeOfExtension extension
      compressionRatio := file.content.length / compressedFileContent.length, lastModified := file.lastModified }
  else
    { fileContent := file.content, compressedFileContent := [], type := typeOfExtension extension
      compressionRatio := 0, lastModified := file.lastModified }

def loadFile (deflate : Bytes → Bytes) (filename : Bytes) (onDisk : DiskEntry) : Except String (Option FileCacheEntry) :=
  match onDisk with
  | .directory => .ok none
  | .regularFile false _ => .ok none
  | .regularFile true file =>
      match StdString.substr filename (StdString.findLastOf filename dot) with
      | .error what => .error what
      | .ok extension =>
          match Gzip.compress deflate file.content with
          | .error what => .error what
          | .ok compressedFileContent => .ok (some (newFileCacheEntry file extension compressedFileContent))

abbrev FileCache := List (Bytes × FileCacheEntry)

def indexHtml : Bytes := utf8 "/index.html"

-- One round of the loop over the directory. A later entry of a key hides an earlier one.
def cacheFile (deflate : Bytes → Bytes) (basePath : Bytes) (fileCache : FileCache) (entry : DirectoryEntry) :
    Except String FileCache :=
  let filePath := diskPath basePath entry.path
  match StdString.substr filePath (some basePath.length) with
  | .error what => .error what
  | .ok requestPath =>
      match loadFile deflate filePath entry.onDisk with
      | .error what => .error what
      | .ok none => .ok fileCache
      | .ok (some fileCachePtr) =>
          match StdString.findLastOf requestPath slash with
          | none => .ok ((requestPath, fileCachePtr) :: fileCache)
          | some pathIndex =>
              if requestPath.drop pathIndex ≠ indexHtml then .ok ((requestPath, fileCachePtr) :: fileCache)
              else .ok ((requestPath.take (pathIndex + 1), fileCachePtr) :: (requestPath, fileCachePtr) :: fileCache)

def buildFileCache (deflate : Bytes → Bytes) (basePath : Bytes) : FileCache → List DirectoryEntry → Except String FileCache
  | fileCache, [] => .ok fileCache
  | fileCache, entry :: rest =>
      match cacheFile deflate basePath fileCache entry with
      | .error what => .error what
      | .ok next => buildFileCache deflate basePath next rest

structure FileManager where
  basePath : Bytes
  fileCache : FileCache
deriving DecidableEq

namespace FileManager

-- No directory has the empty path.
def construct (deflate : Bytes → Bytes) (basePath : Bytes) (entries : List DirectoryEntry) : Except String FileManager :=
  if basePath = [] then .error "recursive directory iterator cannot open directory: No such file or directory"
  else
    match buildFileCache deflate basePath [] entries with
    | .error what => .error what
    | .ok fileCache => .ok ⟨basePath, fileCache⟩

def getFile (manager : FileManager) (filename : Bytes) : Option FileCacheEntry := manager.fileCache.lookup filename

end FileManager

def typeOfName (name : FileName) : String :=
  match StdString.findLastOf name.bytes dot with
  | none => "text/plain"
  | some position => typeOfExtension (name.bytes.drop position)

theorem types_map_plain (extension : Bytes) (named : slash ∈ extension) : typeOfExtension extension = "text/plain" := by
  have plain : ∀ entry ∈ typesMap, slash ∉ entry.1 := by decide
  have missing : typesMap.lookup extension = none := by
    rw [List.lookup_eq_none_iff]
    rintro entry member
    simp only [bne_iff_ne, ne_eq]
    rintro rfl
    exact plain entry member named
  rw [typeOfExtension, missing, Option.getD_none]

theorem web_path_append (directory : RelativePath) (name : FileName) :
    webPath (directory ++ [name]) = webPath directory ++ slash :: name.bytes := by
  simp [webPath]

theorem disk_path_name (basePath : Bytes) (directory : RelativePath) (name : FileName) :
    ∃ front, diskPath basePath (directory ++ [name]) = front ++ name.bytes ∧ (front = [] ∨ front.getLast? = some slash) := by
  simp only [diskPath, web_path_append]
  split
  · rename_i based
    cases directory with
    | nil =>
        refine ⟨basePath, by simp [webPath], based⟩
    | cons head rest =>
        refine ⟨basePath ++ (webPath (head :: rest) ++ [slash]).drop 1, by simp [webPath], .inr ?_⟩
        simp [webPath]
  · exact ⟨basePath ++ (webPath directory ++ [slash]), by simp, .inr (by simp)⟩

theorem extension_types_name (front : Bytes) (name : FileName) (ends : front = [] ∨ front.getLast? = some slash)
    (dotted : dot ∈ front ++ name.bytes) :
    ∃ extension, StdString.substr (front ++ name.bytes) (StdString.findLastOf (front ++ name.bytes) dot) = .ok extension ∧
      typeOfExtension extension = typeOfName name := by
  by_cases own : dot ∈ name.bytes
  · obtain ⟨before, after, split, last⟩ := StdString.last_split name.bytes dot own
    refine ⟨dot :: after, ?_, ?_⟩
    · rw [split, ← List.append_assoc]
      exact StdString.substr_last (front ++ before) after dot last
    · simp [typeOfName, split, StdString.find_last_of_split before after dot last]
  · have elsewhere : dot ∈ front := (List.mem_append.mp dotted).resolve_right own
    obtain ⟨before, after, rfl, last⟩ := StdString.last_split front dot elsewhere
    have separated : slash ∈ after := by
      have ending := ends.resolve_left (by simp)
      rcases List.eq_nil_or_concat after with rfl | ⟨middle, final, rfl⟩
      · rw [List.getLast?_concat] at ending
        cases ending
      · rw [List.concat_eq_append, ← List.cons_append, ← List.append_assoc, List.getLast?_concat] at ending
        simpa [eq_comm] using Or.inr ending
    refine ⟨dot :: (after ++ name.bytes), ?_, ?_⟩
    · have absent : dot ∉ after ++ name.bytes := by simp [last, own]
      rw [List.append_assoc, List.cons_append]
      exact StdString.substr_last before (after ++ name.bytes) dot absent
    · rw [types_map_plain _ (by simp [separated]), typeOfName, StdString.find_last_of_absent name.bytes dot own]

theorem load_file_types_by_name_iff (deflate : Bytes → Bytes) (basePath : Bytes) (directory : RelativePath) (name : FileName)
    (file : DiskFile) :
    (∃ entry, loadFile deflate (diskPath basePath (directory ++ [name])) (.regularFile true file) = .ok (some entry) ∧
      entry.fileContent = file.content ∧ entry.type = typeOfName name) ↔
    dot ∈ diskPath basePath (directory ++ [name]) ∧ file.content.length ≤ Gzip.maxBytes := by
  obtain ⟨front, whole, ends⟩ := disk_path_name basePath directory name
  rw [whole]
  by_cases dotted : dot ∈ front ++ name.bytes
  · obtain ⟨extension, cut, typed⟩ := extension_types_name front name ends dotted
    by_cases small : file.content.length ≤ Gzip.maxBytes
    · simp only [dotted, small, and_self, iff_true, loadFile, cut, Gzip.compress_eq, if_neg (Nat.not_lt.mpr small)]
      refine ⟨_, rfl, ?_, ?_⟩
      · simp only [newFileCacheEntry]
        split <;> rfl
      · rw [← typed, newFileCacheEntry]
        split <;> rfl
    · simp [small, loadFile, cut, Gzip.compress_eq, Nat.not_le.mp small]
  · simp [dotted, loadFile, StdString.substr_last_absent _ dot dotted]

def makefileName : FileName := ⟨utf8 "Makefile", by decide, by decide⟩

theorem undotted_path_throws :
    loadFile id (diskPath (utf8 "files") [makefileName]) (.regularFile true ⟨[97], ""⟩) = .error "std::out_of_range" ∧
    FileManager.construct id (utf8 "files") [⟨[makefileName], .regularFile true ⟨[97], ""⟩⟩] = .error "std::out_of_range" ∧
    ¬ ∀ (basePath : Bytes) (directory : RelativePath) (name : FileName) (file : DiskFile),
      ∃ entry, loadFile id (diskPath basePath (directory ++ [name])) (.regularFile true file) = .ok (some entry) ∧
        entry.fileContent = file.content ∧ entry.type = typeOfName name := by
  have throws : loadFile id (diskPath (utf8 "files") [makefileName]) (.regularFile true ⟨[97], ""⟩) =
      .error "std::out_of_range" := by rfl
  refine ⟨throws, by rfl, fun always => ?_⟩
  obtain ⟨entry, loaded, _⟩ := always (utf8 "files") [] makefileName ⟨[97], ""⟩
  rw [List.nil_append, throws] at loaded
  cases loaded

end NetworkWrapper
