import NetworkWrapper.AcceptEncoding
import NetworkWrapper.FileManager
import NetworkWrapper.Outcome

set_option autoImplicit false

namespace NetworkWrapper

-- http::request: a field is its name and its value.
structure HttpRequest where
  method : Bytes
  target : Bytes
  version : Nat
  fields : List (Bytes × Bytes)
deriving DecidableEq

inductive HttpField where
  | server
  | contentType
  | lastModified
  | contentEncoding
deriving DecidableEq

structure HttpResponse where
  version : Nat
  keepAlive : Bool
  result : Nat
  fields : List (HttpField × String)
  body : Bytes
deriving DecidableEq

-- The names of fields are compared without regard to case; the first field of a
-- name is the one that counts.
def HttpRequest.field (request : HttpRequest) (name : Bytes) : Bytes :=
  match request.fields.find? fun field => field.1.map AcceptEncoding.lower = name.map AcceptEncoding.lower with
  | none => []
  | some field => field.2

namespace HttpResponse

def fresh : HttpResponse := { version := 11, keepAlive := true, result := 200, fields := [], body := [] }

def set (response : HttpResponse) (name : HttpField) (value : String) : HttpResponse :=
  { response with fields := response.fields.filter (fun field => field.1 ≠ name) ++ [(name, value)] }

def write (response : HttpResponse) (text : Bytes) : HttpResponse := { response with body := response.body ++ text }

end HttpResponse

-- std::function<bool(const std::string&, const request&, response&)>, one that
-- returns
abbrev CustomHandler := Bytes → HttpRequest → HttpResponse → Bool × HttpResponse

structure HttpFileServer where
  fileManager : FileManager
  customHandler : Option CustomHandler

namespace HttpFileServer

def isGzipCompressionPossible (cache : FileCacheEntry) (request : HttpRequest) : Bool :=
  if cache.compressionRatio ≤ 0 then false
  else
    let encoding := request.field (utf8 "accept-encoding")
    if encoding = [] then false
    else (StdString.find encoding AcceptEncoding.gzip).isSome

def notFound (response : HttpResponse) : HttpResponse :=
  (({ response with result := 404 }.set .server "Beast").set .contentType "text/plain").write (utf8 "File not found\r\n")

def found (cachedResult : FileCacheEntry) (request : HttpRequest) (response : HttpResponse) : HttpResponse :=
  let described := (({ response with result := 200 }.set .server "Beast").set .contentType cachedResult.type).set
    .lastModified cachedResult.lastModified
  if isGzipCompressionPossible cachedResult request then
    (described.set .contentEncoding "gzip").write cachedResult.compressedFileContent
  else described.write cachedResult.fileContent

def onGetRequest (server : HttpFileServer) (request : HttpRequest) (response : HttpResponse) : Outcome HttpResponse :=
  match server.customHandler with
  | none => .threw "bad_function_call" response
  | some customHandler =>
      let handled := customHandler request.target request response
      if handled.1 then .returned handled.2
      else
        match server.fileManager.getFile request.target with
        | none => .returned (notFound handled.2)
        | some cachedResult => .returned (found cachedResult request handled.2)

def invalidMethodText (method : Bytes) : Bytes := utf8 "Invalid request-method '" ++ (method ++ utf8 "'")

def onNewConnection (server : HttpFileServer) (request : HttpRequest) (response : HttpResponse) : Outcome HttpResponse :=
  let prepared := { response with version := request.version, keepAlive := false }
  if request.method = utf8 "GET" then server.onGetRequest request prepared
  else
    .returned (({ prepared with result := 400 }.set .contentType "text/plain").write (invalidMethodText request.method))

end HttpFileServer

-- The handler that main() sets.
def webSocketConfigPath : Bytes := utf8 "/web-socket-config.json"

def webSocketConfigHandler (webSocketConfigPayload : Bytes) : CustomHandler := fun path _ response =>
  if path = webSocketConfigPath then (true, (response.set .contentType "application/json").write webSocketConfigPayload)
  else (false, response)

namespace HttpFileServer

-- When the letters of gzip may be taken for leave to send it.
def LettersMeanGzip (value : Bytes) : Prop :=
  match AcceptEncoding.parse value with
  | none => ¬ AcceptEncoding.gzip <:+: value
  | some accepted =>
      (∀ member ∈ accepted, ¬ AcceptEncoding.gzip <:+: member.coding) ∨ AcceptEncoding.GzipAccepted accepted

theorem gzip_possible_iff (cache : FileCacheEntry) (request : HttpRequest) :
    isGzipCompressionPossible cache request = true ↔
      0 < cache.compressionRatio ∧ AcceptEncoding.gzip <:+: request.field (utf8 "accept-encoding") := by
  have missing : ¬ AcceptEncoding.gzip <:+: [] := by decide
  by_cases dropped : cache.compressionRatio ≤ 0
  · simp [isGzipCompressionPossible, dropped, not_lt.mpr dropped]
  · by_cases empty : request.field (utf8 "accept-encoding") = []
    · simp [isGzipCompressionPossible, dropped, empty, missing]
    · simp only [isGzipCompressionPossible, if_neg dropped, if_neg empty, StdString.find_iff, not_le.mp dropped, true_and]

theorem gzip_sent_to_accepting_iff (cache : FileCacheEntry) (request : HttpRequest) :
    (isGzipCompressionPossible cache request = true →
      ∃ accepted, AcceptEncoding.parse (request.field (utf8 "accept-encoding")) = some accepted ∧
        AcceptEncoding.GzipAccepted accepted) ↔
    cache.compressionRatio ≤ 0 ∨ LettersMeanGzip (request.field (utf8 "accept-encoding")) := by
  rw [gzip_possible_iff]
  by_cases dropped : cache.compressionRatio ≤ 0
  · simp [dropped, not_lt.mpr dropped]
  · cases parsed : AcceptEncoding.parse (request.field (utf8 "accept-encoding")) with
    | none => simp [LettersMeanGzip, parsed, dropped, not_le.mp dropped]
    | some accepted =>
        have letters := AcceptEncoding.parse_letters _ accepted parsed
        simp only [LettersMeanGzip, parsed, dropped, not_le.mp dropped, letters, Option.some.injEq, true_and, false_or,
          exists_eq_left']
        constructor
        · intro sound
          by_cases lettered : ∃ member ∈ accepted, AcceptEncoding.gzip <:+: member.coding
          · exact .inr (sound lettered)
          · exact .inl fun member listed here => lettered ⟨member, listed, here⟩
        · rintro (silent | agreed) ⟨member, listed, here⟩
          · exact absurd here (silent member listed)
          · exact agreed

def acceptsEncoding (value : String) : HttpRequest :=
  { method := utf8 "GET", target := utf8 "/", version := 11, fields := [(utf8 "Accept-Encoding", utf8 value)] }

theorem gzip_sent_to_refusing :
    ¬ ∀ (cache : FileCacheEntry) (request : HttpRequest), isGzipCompressionPossible cache request = true →
      ∃ accepted, AcceptEncoding.parse (request.field (utf8 "accept-encoding")) = some accepted ∧
        AcceptEncoding.GzipAccepted accepted := by
  intro always
  obtain ⟨accepted, parsed, agreed⟩ :=
    always ⟨[97, 97], [0], "text/plain", 2, ""⟩ (acceptsEncoding "gzip;q=0, identity") (by decide)
  have refused : AcceptEncoding.parse ((acceptsEncoding "gzip;q=0, identity").field (utf8 "accept-encoding")) =
      some [⟨utf8 "gzip", 0⟩, ⟨utf8 "identity", 1000⟩] := by decide
  rw [refused, Option.some.injEq] at parsed
  subst parsed
  revert agreed
  decide

end HttpFileServer

end NetworkWrapper
