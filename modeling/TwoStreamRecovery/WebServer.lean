import TwoStreamRecovery.CommandLine
import TwoStreamRecovery.Lib.Paths

/-!
# The web server (`web_server.c`)

* `handleStaticFile`, `handleClient`: the reply to a request, and the paths looked up for it.
* `Confined`: a path below the webroot.
* **`webroot_confined_iff`**: only such paths are looked up, exactly if the target of the request
  begins with a slash, is refused for two consecutive dots, or is not that of a GET.
-/

namespace TwoStream

variable {files : FileSystem} {server : WebServer} {webroot urlPath : CString} {received : List UInt8}

/-! ### Files and replies -/

/-- What `handle_static_file` reads of a `struct stat`. -/
structure FileStat where
  isRegular : Bool
  size : ℤ

/-- The file system: `stat`, and what can be read through `fopen`. -/
structure FileSystem where
  stat : CString → Option FileStat
  fopen : CString → Option (List UInt8)

/-- A path given to `stat` or `fopen`. -/
inductive Access where
  | stat (path : CString)
  | fopen (path : CString)
  deriving DecidableEq

def Access.path : Access → CString
  | .stat path => path
  | .fopen path => path

/-- What `send_response` sends. -/
structure Response where
  status : ℕ
  reason : CString
  contentType : CString
  bodySize : ℕ
  body : List UInt8
  deriving DecidableEq

/-- `send_error`. -/
def sendError (status : ℕ) (reason : CString) : Response where
  status := status
  reason := reason
  contentType := "text/plain; charset=utf-8".toList
  bodySize := reason.length
  body := reason.map fun c => c.toNat.toUInt8

/-- `content_type_for_path`. -/
def contentTypeForPath (path : CString) : CString :=
  match strrchr path '.' with
  | none => "application/octet-stream".toList
  | some dot =>
    let extension := path.drop dot
    if extension = ".html".toList then "text/html; charset=utf-8".toList
    else if extension = ".css".toList then "text/css; charset=utf-8".toList
    else if extension = ".js".toList then "application/javascript; charset=utf-8".toList
    else if extension = ".png".toList then "image/png".toList
    else "application/octet-stream".toList

/-! ### Requests -/

/-- `web_server_t`: the name of the webroot, which fits its buffer. -/
structure WebServer where
  webroot : CString
  fits : webroot.length < 256

/-- `web_server_open`. -/
def webServerOpen (webroot : CString) : WebServer where
  webroot := webroot.take 255
  fits := by
    rw [List.length_take]
    omega

/-- The reply to a request, if there is one, and the paths looked up for it, in order. -/
structure Handled where
  response : Option Response
  accesses : List Access
  deriving DecidableEq

/-- `handle_api_stats`; `statsJson` is the text of `report_stats_format_json`, if it fits. -/
def handleApiStats (statsJson : Option (List UInt8)) : Handled :=
  match statsJson with
  | none => ⟨some (sendError 500 "stats json too large".toList), []⟩
  | some body =>
    ⟨some ⟨200, "OK".toList, "application/json; charset=utf-8".toList, body.length, body⟩, []⟩

/-- `path` of `handle_static_file`. -/
def servedPath (webroot urlPath : CString) : CString :=
  webroot ++ if urlPath = ['/'] then "/index.html".toList else urlPath

/-- `handle_static_file`. -/
def handleStaticFile (files : FileSystem) (server : WebServer) (urlPath : CString) : Handled :=
  if dotDot <:+: urlPath then ⟨some (sendError 400 "bad request".toList), []⟩
  else
    let path := servedPath server.webroot urlPath
    if 512 ≤ path.length then ⟨some (sendError 414 "uri too long".toList), []⟩
    else
      match files.stat path with
      | none => ⟨some (sendError 404 "not found".toList), [.stat path]⟩
      | some st =>
        if st.isRegular = false then ⟨some (sendError 404 "not found".toList), [.stat path]⟩
        else if st.size < 0 then ⟨some (sendError 500 "bad file size".toList), [.stat path]⟩
        else
          match files.fopen path with
          | none => ⟨some (sendError 404 "not found".toList), [.stat path, .fopen path]⟩
          | some body =>
            ⟨some ⟨200, "OK".toList, contentTypeForPath path, st.size.toNat, body⟩,
              [.stat path, .fopen path]⟩

/-- The string in `request`: up to 2047 bytes are received, and it ends at the first zero byte. -/
def requestText (received : List UInt8) : CString :=
  ((received.take 2047).map fun b => Char.ofNat b.toNat).takeWhile (· ≠ '\x00')

/-- The conversion `%<width>s` of `sscanf`: the word, and the text after it. -/
def scanWord (width : ℕ) (text : CString) : Option (CString × CString) :=
  let text := text.dropWhile isSpace
  let word := (text.takeWhile fun c => !isSpace c).take width
  if word = [] then none else some (word, text.drop word.length)

/-- `method` and `path` of `sscanf(request, "%7s %255s", method, path) == 2`. -/
def requestLine (received : List UInt8) : Option (CString × CString) := do
  let (method, rest) ← scanWord 7 (requestText received)
  let (path, _) ← scanWord 255 rest
  return (method, path)

/-- `path`, cut at its query. -/
def cutQuery (path : CString) : CString := path.takeWhile (· ≠ '?')

/-- `handle_client`, for the bytes that arrive. -/
def handleClient (files : FileSystem) (statsJson : Option (List UInt8)) (server : WebServer)
    (received : List UInt8) : Handled :=
  if received = [] then ⟨none, []⟩
  else
    match requestLine received with
    | none => ⟨some (sendError 400 "bad request".toList), []⟩
    | some (method, path) =>
      if method ≠ "GET".toList then ⟨some (sendError 405 "method not allowed".toList), []⟩
      else if cutQuery path = "/api/stats".toList then handleApiStats statsJson
      else handleStaticFile files server (cutQuery path)

/-! ### What is looked up -/

/-- The path is the name of the webroot, a slash and names other than `..`; so it leads to a place in
the webroot, from any current directory. -/
structure Confined (webroot path : CString) : Prop where
  below : ∃ rest, path = webroot ++ '/' :: rest ∧ dotDot ∉ components rest
  inside : webroot ≠ [] → ∀ cwd, resolve cwd webroot <+: resolve cwd path

theorem confined_append {rest : CString} (hrest : dotDot ∉ components rest) :
    Confined webroot (webroot ++ '/' :: rest) :=
  ⟨⟨rest, rfl, hrest⟩, fun hwebroot _ => resolve_beneath hwebroot hrest⟩

/-- A served path is confined if the target begins with a slash. -/
theorem confined_servedPath_iff (webroot : CString) (hdots : ¬ dotDot <:+: urlPath) :
    Confined webroot (servedPath webroot urlPath) ↔ urlPath.head? = some '/' := by
  rw [servedPath]
  by_cases hindex : urlPath = ['/']
  · rw [if_pos hindex, hindex]
    have hrest : dotDot ∉ components "index.html".toList := by decide +kernel
    exact iff_of_true (confined_append hrest) rfl
  · rw [if_neg hindex]
    constructor
    · rintro ⟨⟨rest, hpath, -⟩, -⟩
      rw [List.append_cancel_left hpath]
      rfl
    · intro hhead
      obtain ⟨rest, rfl⟩ := List.head?_eq_some_iff.mp hhead
      have hrest : ¬ dotDot <:+: rest := fun h => hdots (h.trans (List.suffix_cons '/' rest).isInfix)
      exact confined_append (dotDot_notMem_components hrest)

theorem servedPath_fits (server : WebServer) (hfits : urlPath.length < 256) :
    ¬ 512 ≤ (servedPath server.webroot urlPath).length := by
  have hwebroot := server.fits
  have hindex : "/index.html".toList.length = 11 := by decide +kernel
  rw [servedPath, List.length_append]
  split <;> omega

/-- A target that is not refused is looked up, and nothing else. -/
theorem handleStaticFile_accesses (files : FileSystem) (server : WebServer)
    (hfits : urlPath.length < 256) (hdots : ¬ dotDot <:+: urlPath) :
    .stat (servedPath server.webroot urlPath) ∈ (handleStaticFile files server urlPath).accesses ∧
      ∀ access ∈ (handleStaticFile files server urlPath).accesses,
        access.path = servedPath server.webroot urlPath := by
  simp only [handleStaticFile, if_neg hdots, if_neg (servedPath_fits server hfits)]
  cases files.stat (servedPath server.webroot urlPath) with
  | none => simp [Access.path]
  | some st =>
    dsimp only
    split_ifs
    · simp [Access.path]
    · simp [Access.path]
    · cases files.fopen (servedPath server.webroot urlPath) with
      | none => simp [Access.path]
      | some body => simp [Access.path]

theorem handleStaticFile_confined_iff (files : FileSystem) (hfits : urlPath.length < 256) :
    (∀ access ∈ (handleStaticFile files server urlPath).accesses,
        Confined server.webroot access.path) ↔
      (¬ dotDot <:+: urlPath → urlPath.head? = some '/') := by
  by_cases hdots : dotDot <:+: urlPath
  · have hnone : (handleStaticFile files server urlPath).accesses = [] := by
      rw [handleStaticFile, if_pos hdots]
    rw [hnone]
    exact iff_of_true (by simp) fun h => absurd hdots h
  · obtain ⟨hstat, hpath⟩ := handleStaticFile_accesses files server hfits hdots
    rw [← confined_servedPath_iff server.webroot hdots]
    constructor
    · intro h _
      exact h _ hstat
    · intro h access haccess
      rw [hpath access haccess]
      exact h hdots

theorem scanWord_length {width : ℕ} {text word rest : CString}
    (h : scanWord width text = some (word, rest)) : word.length ≤ width := by
  simp only [scanWord] at h
  split_ifs at h
  obtain ⟨rfl, -⟩ := Prod.mk.inj (Option.some.inj h)
  exact List.length_take_le _ _

theorem requestLine_length {method path : CString} (h : requestLine received = some (method, path)) :
    path.length ≤ 255 := by
  simp only [requestLine, Option.bind_eq_bind, Option.bind_eq_some_iff] at h
  obtain ⟨⟨method', rest⟩, -, ⟨path', rest'⟩, hscan, hpair⟩ := h
  cases hpair
  exact scanWord_length hscan

/-- A GET with a target that is not refused has one that begins with a slash. -/
def TargetRooted (received : List UInt8) : Prop :=
  ∀ path, requestLine received = some ("GET".toList, path) → ¬ dotDot <:+: cutQuery path →
    (cutQuery path).head? = some '/'

theorem targetRooted_iff {path : CString} (hline : requestLine received = some ("GET".toList, path)) :
    TargetRooted received ↔ (¬ dotDot <:+: cutQuery path → (cutQuery path).head? = some '/') := by
  constructor
  · intro h
    exact h path hline
  · intro h path' hline'
    rw [hline] at hline'
    cases hline'
    exact h

theorem handleApiStats_accesses (statsJson : Option (List UInt8)) :
    (handleApiStats statsJson).accesses = [] := by
  cases statsJson <;> rfl

/-- Nothing is looked up for another request than a GET. -/
theorem handleClient_of_not_get {statsJson : Option (List UInt8)}
    (h : ∀ path, requestLine received ≠ some ("GET".toList, path)) :
    (handleClient files statsJson server received).accesses = [] := by
  rw [handleClient]
  by_cases hempty : received = []
  · rw [if_pos hempty]
  · rw [if_neg hempty]
    cases hline : requestLine received with
    | none => rfl
    | some line =>
      obtain ⟨method, path⟩ := line
      have hmethod : method ≠ "GET".toList := by
        rintro rfl
        exact h path hline
      dsimp only
      rw [if_pos hmethod]

/-- What a GET is answered with. -/
theorem handleClient_of_get {statsJson : Option (List UInt8)} {path : CString}
    (hline : requestLine received = some ("GET".toList, path)) :
    handleClient files statsJson server received =
      if cutQuery path = "/api/stats".toList then handleApiStats statsJson
      else handleStaticFile files server (cutQuery path) := by
  have hreceived : received ≠ [] := by
    rintro rfl
    cases hline
  rw [handleClient, if_neg hreceived, hline]
  dsimp only
  rw [if_neg (not_not.mpr rfl)]

/-- **The webroot is not left**, exactly if the target begins with a slash. -/
theorem webroot_confined_iff (files : FileSystem) (statsJson : Option (List UInt8)) (server : WebServer)
    (received : List UInt8) :
    (∀ access ∈ (handleClient files statsJson server received).accesses,
        Confined server.webroot access.path) ↔ TargetRooted received := by
  by_cases hget : ∃ path, requestLine received = some ("GET".toList, path)
  · obtain ⟨path, hline⟩ := hget
    have hfits : (cutQuery path).length < 256 := by
      have hcut := (List.takeWhile_sublist (· ≠ '?') (l := path)).length_le
      exact Nat.lt_succ_of_le (hcut.trans (requestLine_length hline))
    rw [targetRooted_iff hline, handleClient_of_get hline]
    by_cases hstats : cutQuery path = "/api/stats".toList
    · rw [if_pos hstats, hstats, handleApiStats_accesses]
      exact iff_of_true (List.forall_mem_nil _) fun _ => by decide +kernel
    · rw [if_neg hstats]
      exact handleStaticFile_confined_iff files hfits
  · rw [handleClient_of_not_get fun path hline => hget ⟨path, hline⟩]
    exact iff_of_true (List.forall_mem_nil _) fun path hline => absurd ⟨path, hline⟩ hget

/-- A file next to the webroot. -/
def siblingFiles : FileSystem where
  stat path := if path = "webroot2/secret".toList then some ⟨true, 3⟩ else none
  fopen path := if path = "webroot2/secret".toList then some [1, 2, 3] else none

def siblingRequest : List UInt8 := "GET 2/secret HTTP/1.1\r\n\r\n".toUTF8.toList

/-- Without a slash, the target continues the name of the webroot, and the file next to it is sent. -/
theorem sibling_served :
    (handleClient siblingFiles none (webServerOpen "webroot".toList) siblingRequest).accesses =
        [.stat "webroot2/secret".toList, .fopen "webroot2/secret".toList] ∧
      ((handleClient siblingFiles none (webServerOpen "webroot".toList) siblingRequest).response.map
        fun r => (r.status, r.body)) = some (200, [1, 2, 3]) ∧
      ¬ resolve [] "webroot".toList <+: resolve [] "webroot2/secret".toList ∧
      ¬ ∀ access ∈
          (handleClient siblingFiles none (webServerOpen "webroot".toList) siblingRequest).accesses,
        Confined (webServerOpen "webroot".toList).webroot access.path := by
  have haccesses : (handleClient siblingFiles none (webServerOpen "webroot".toList)
      siblingRequest).accesses =
        [.stat "webroot2/secret".toList, .fopen "webroot2/secret".toList] := by decide +kernel
  have houtside : ¬ resolve [] "webroot".toList <+: resolve [] "webroot2/secret".toList := by
    decide +kernel
  refine ⟨haccesses, by decide +kernel, houtside, fun h => houtside ?_⟩
  rw [haccesses] at h
  exact (h _ List.mem_cons_self).inside (by decide +kernel) []

end TwoStream
