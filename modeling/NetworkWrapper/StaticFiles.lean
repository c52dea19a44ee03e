import NetworkWrapper.FileTree
import NetworkWrapper.HttpFileServer

set_option autoImplicit false

-- Every request to the file server against the tree of files it was started on.
namespace NetworkWrapper

theorem load_file_completes (deflate : Bytes → Bytes) (filename : Bytes) (onDisk : DiskEntry) (dotted : dot ∈ filename)
    (small : ∀ readable file, onDisk = .regularFile readable file → file.content.length ≤ Gzip.maxBytes) :
    ∃ loaded, loadFile deflate filename onDisk = .ok loaded := by
  cases onDisk with
  | directory => exact ⟨none, rfl⟩
  | regularFile readable file =>
      cases readable with
      | false => exact ⟨none, rfl⟩
      | true =>
          obtain ⟨before, after, rfl, last⟩ := StdString.last_split filename dot dotted
          have fits := Nat.not_lt.mpr (small true file rfl)
          simp only [loadFile, StdString.substr_last before after dot last, Gzip.compress_eq, if_neg fits]
          exact ⟨_, rfl⟩

theorem cache_file_completes (deflate : Bytes → Bytes) (basePath : Bytes) (fileCache : FileCache) (entry : DirectoryEntry)
    (based : basePath ≠ []) (unended : basePath.getLast? ≠ some slash)
    (loads : ∃ loaded, loadFile deflate (diskPath basePath entry.path) entry.onDisk = .ok loaded) :
    ∃ next, cacheFile deflate basePath fileCache entry = .ok next := by
  obtain ⟨loaded, loads⟩ := loads
  simp only [cacheFile, request_path basePath entry.path based unended, loads]
  cases loaded with
  | none => exact ⟨fileCache, rfl⟩
  | some cached =>
      cases StdString.findLastOf (webPath entry.path) slash with
      | none => exact ⟨_, rfl⟩
      | some pathIndex =>
          by_cases index : (webPath entry.path).drop pathIndex = indexHtml
          · exact ⟨_, if_neg (not_not.mpr index)⟩
          · exact ⟨_, if_pos index⟩

theorem build_file_cache_completes (deflate : Bytes → Bytes) (basePath : Bytes) (entries : List DirectoryEntry)
    (fileCache : FileCache) (dotted : dot ∈ basePath) (unended : basePath.getLast? ≠ some slash)
    (small : ∀ entry ∈ entries, ∀ readable file, entry.onDisk = .regularFile readable file →
      file.content.length ≤ Gzip.maxBytes) :
    ∃ final, buildFileCache deflate basePath fileCache entries = .ok final := by
  have based : basePath ≠ [] := List.ne_nil_of_mem dotted
  induction entries generalizing fileCache with
  | nil => exact ⟨fileCache, rfl⟩
  | cons entry rest ih =>
      have pathDotted : dot ∈ diskPath basePath entry.path := by
        simp [diskPath, based, unended, dotted]
      have loads := load_file_completes deflate _ entry.onDisk pathDotted (small entry List.mem_cons_self)
      obtain ⟨next, done⟩ := cache_file_completes deflate basePath fileCache entry based unended loads
      simp only [buildFileCache, done]
      exact ih next fun entry member => small entry (List.mem_cons_of_mem _ member)

theorem construct_completes (deflate : Bytes → Bytes) (basePath : Bytes) (entries : List DirectoryEntry)
    (dotted : dot ∈ basePath) (unended : basePath.getLast? ≠ some slash)
    (small : ∀ entry ∈ entries, ∀ readable file, entry.onDisk = .regularFile readable file →
      file.content.length ≤ Gzip.maxBytes) :
    ∃ manager, FileManager.construct deflate basePath entries = .ok manager := by
  obtain ⟨fileCache, done⟩ := build_file_cache_completes deflate basePath entries [] dotted unended small
  exact ⟨⟨basePath, fileCache⟩, by simp only [FileManager.construct, if_neg (List.ne_nil_of_mem dotted), done]⟩

def decodedBody (inflate : Bytes → Option Bytes) (response : HttpResponse) : Option Bytes :=
  match response.fields.lookup .contentEncoding with
  | none => some response.body
  | some coding => if coding = "gzip" then inflate response.body else none

namespace HttpFileServer

def preparedFor (request : HttpRequest) : HttpResponse := { HttpResponse.fresh with version := request.version, keepAlive := false }

theorem found_body (deflate : Bytes → Bytes) (inflate : Bytes → Option Bytes) (cached : FileCacheEntry) (file : DiskFile)
    (request : HttpRequest) (keeps : Keeps deflate cached file)
    (roundTrip : ∀ content compressed, Gzip.compress deflate content = .ok compressed → inflate compressed = some content) :
    decodedBody inflate (found cached request (preparedFor request)) = some file.content ∧
      (found cached request (preparedFor request)).body.length ≤ file.content.length := by
  cases possible : isGzipCompressionPossible cached request with
  | false =>
      have uncoded : [(HttpField.server, "Beast"), (.contentType, cached.type), (.lastModified, cached.lastModified)].lookup
          .contentEncoding = none := rfl
      simp [found, possible, preparedFor, HttpResponse.fresh, HttpResponse.set, HttpResponse.write, decodedBody, keeps.1,
        uncoded]
  | true =>
      obtain ⟨compressed, smaller⟩ := keeps.2 ((gzip_possible_iff cached request).mp possible).1
      have coded : [(HttpField.server, "Beast"), (.contentType, cached.type), (.lastModified, cached.lastModified),
          (.contentEncoding, "gzip")].lookup .contentEncoding = some "gzip" := rfl
      simp [found, possible, preparedFor, HttpResponse.fresh, HttpResponse.set, HttpResponse.write, decodedBody, coded,
        roundTrip _ _ compressed, Nat.le_of_lt smaller]

theorem found_result (cached : FileCacheEntry) (request : HttpRequest) (response : HttpResponse) :
    (found cached request response).result = 200 := by
  simp only [found]
  split <;> rfl

end HttpFileServer

theorem static_files_exact (deflate : Bytes → Bytes) (inflate : Bytes → Option Bytes) (basePath : Bytes) (tree : DirectoryTree)
    (listing : List DirectoryEntry) (manager : FileManager) (customHandler : CustomHandler) (request : HttpRequest)
    (roundTrip : ∀ content compressed, Gzip.compress deflate content = .ok compressed → inflate compressed = some content)
    (unended : basePath.getLast? ≠ some slash) (listed : listing.Perm tree.entries)
    (built : FileManager.construct deflate basePath listing = .ok manager) :
    (request.method = utf8 "GET" →
      customHandler request.target request (HttpFileServer.preparedFor request) = (false, HttpFileServer.preparedFor request) →
      ∃ response, HttpFileServer.onNewConnection ⟨manager, some customHandler⟩ request .fresh = .returned response ∧
        (response.result = 200 ↔ ∃ file, Serves tree.entries request.target file) ∧
        (∀ file, Serves tree.entries request.target file →
          decodedBody inflate response = some file.content ∧ response.body.length ≤ file.content.length) ∧
        ((¬ ∃ file, Serves tree.entries request.target file) →
          response.result = 404 ∧ response.body = utf8 "File not found\r\n")) ∧
    (request.method ≠ utf8 "GET" →
      ∃ response, HttpFileServer.onNewConnection ⟨manager, some customHandler⟩ request .fresh = .returned response ∧
        response.result = 400 ∧ response.body = HttpFileServer.invalidMethodText request.method) := by
  obtain ⟨present, keeps⟩ := get_file_iff deflate basePath tree listing manager unended listed built request.target
  constructor
  · intro isGet declined
    have asked : HttpFileServer.onNewConnection ⟨manager, some customHandler⟩ request .fresh =
        HttpFileServer.onGetRequest ⟨manager, some customHandler⟩ request (HttpFileServer.preparedFor request) := by
      simp only [HttpFileServer.onNewConnection, if_pos isGet, HttpFileServer.preparedFor]
    simp only [asked, HttpFileServer.onGetRequest, declined, Bool.false_eq_true, if_false]
    cases found : manager.getFile request.target with
    | none =>
        have missing : ¬ ∃ file, Serves tree.entries request.target file := by
          rw [← present, found]
          simp
        refine ⟨_, rfl, ?_, fun file served => absurd ⟨file, served⟩ missing, fun _ => ⟨rfl, rfl⟩⟩
        simp [missing, HttpFileServer.notFound, HttpResponse.set, HttpResponse.write]
    | some cached =>
        have served : ∃ file, Serves tree.entries request.target file := by
          rw [← present, found, Option.isSome_some]
        refine ⟨_, rfl, ?_, ?_, fun missing => absurd served missing⟩
        · simp only [HttpFileServer.found_result, served]
        · intro file servedFile
          exact HttpFileServer.found_body deflate inflate cached file request (keeps cached file found servedFile) roundTrip
  · intro notGet
    refine ⟨_, by rw [HttpFileServer.onNewConnection, if_neg notGet], rfl, rfl⟩

theorem web_socket_config_handler_declines (payload path : Bytes) (request : HttpRequest) (response : HttpResponse)
    (elsewhere : path ≠ webSocketConfigPath) : webSocketConfigHandler payload path request response = (false, response) := by
  simp only [webSocketConfigHandler, if_neg elsewhere]

def manyLetters : DiskFile := ⟨List.replicate 40 97, "Thu, 01 Jan 1970 00:00:00 UTC"⟩

def manyLettersGzip : Bytes :=
  [31, 139, 8, 0, 0, 0, 0, 0, 2, 3, 75, 76, 36, 14, 0, 0, 37, 138, 91, 201, 40, 0, 0, 0]

def sampleDeflate (data : Bytes) : Bytes := if data = manyLetters.content then manyLettersGzip else 0 :: data

def sampleInflate (compressed : Bytes) : Option Bytes :=
  if compressed = manyLettersGzip then some manyLetters.content else some (compressed.drop 1)

def docsName : FileName := ⟨utf8 "docs", by decide, by decide⟩

def sampleTree : DirectoryTree :=
  { forest := .cons indexName (.file manyLetters)
      (.cons docsName (.directory (.cons indexName (.file manyLetters) .nil)) .nil)
    distinct := by
      refine ⟨⟨?_, trivial⟩, trivial, trivial, ⟨trivial, trivial, trivial⟩, trivial⟩
      decide }

def sampleRequest : HttpRequest :=
  { method := utf8 "GET", target := utf8 "/docs/", version := 11
    fields := [(utf8 "Host", utf8 "localhost"), (utf8 "accept-encoding", utf8 "gzip, deflate")] }

theorem static_files_served : ∃ manager response,
    FileManager.construct sampleDeflate (utf8 "./files") sampleTree.entries.reverse = .ok manager ∧
    HttpFileServer.onNewConnection ⟨manager, some (webSocketConfigHandler [])⟩ sampleRequest .fresh = .returned response ∧
    response.result = 200 ∧ decodedBody sampleInflate response = some manyLetters.content ∧ response.body.length ≤ 40 := by
  have roundTrip : ∀ content compressed, Gzip.compress sampleDeflate content = .ok compressed →
      sampleInflate compressed = some content := by
    intro content compressed done
    rw [Gzip.compress_eq] at done
    split at done
    · cases done
    · cases done
      by_cases letters : content = manyLetters.content
      · simp [sampleDeflate, sampleInflate, letters]
      · simp [sampleDeflate, sampleInflate, letters, manyLettersGzip]
  have listing : sampleTree.entries.reverse = [⟨[docsName, indexName], .regularFile true manyLetters⟩,
      ⟨[docsName], .directory⟩, ⟨[indexName], .regularFile true manyLetters⟩] := rfl
  have small : ∀ entry ∈ sampleTree.entries.reverse, ∀ readable file, entry.onDisk = .regularFile readable file →
      file.content.length ≤ Gzip.maxBytes := by
    intro entry member readable file onDisk
    have same : file = manyLetters := by
      simp only [listing, List.mem_cons, List.not_mem_nil, or_false] at member
      rcases member with rfl | rfl | rfl
      · cases onDisk
        rfl
      · cases onDisk
      · cases onDisk
        rfl
    rw [same]
    decide
  obtain ⟨manager, built⟩ := construct_completes sampleDeflate (utf8 "./files") sampleTree.entries.reverse (by decide)
    (by decide) small
  obtain ⟨response, answered, okIff, served, _⟩ := (static_files_exact sampleDeflate sampleInflate (utf8 "./files") sampleTree
    sampleTree.entries.reverse manager (webSocketConfigHandler []) sampleRequest roundTrip (by decide)
    (List.reverse_perm _) built).1 rfl (web_socket_config_handler_declines [] _ _ _ (by decide))
  have has : Serves sampleTree.entries sampleRequest.target manyLetters :=
    ⟨[docsName, indexName], by simp [DirectoryTree.entries, sampleTree, FileForest.entries, FileTree.entries],
      .inr ⟨[docsName], rfl, by decide⟩⟩
  exact ⟨manager, response, built, answered, okIff.mpr ⟨manyLetters, has⟩, (served manyLetters has).1, (served manyLetters has).2⟩

end NetworkWrapper
