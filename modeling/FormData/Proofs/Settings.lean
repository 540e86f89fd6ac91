import FormData.Proofs.Windows

/-!
# What Settings Leave

The order in which a file part is settled does not matter, only what was settled
last.

A request has one place for each kind of setting, and a setting writes to its own
place and no other. So the request that a list of settings leads to holds, in each
place, what the last setting of that kind gave, or what was there before
(`get_settleAll`). That is one induction, and the four kinds are instances of it.

The exception is made when the part is opened. The header lines are read off the
headers if any were given, and off the content type only otherwise. The place for
headers holds nothing until then, and a map without headers is something. So a
content type has no effect once headers are given, in front of it or behind it.

Opening looks at the request in four respects: its name, its path, its header
block and its limit (`openGiven_congr`). What it meets on the way is taken as
given. That is what the path leads to, or why it could not be opened, and how the
file answers when a stretch of it is mapped. A tree of files is one such case
(`openIn_eq_openGiven`).

## Main definitions

* `FileRequest.lastGiven`: What the last setting of a kind gives.
* `FileRequest.openGiven`: Opening a part, given what the path leads to.

## Theorems

* `FileRequest.get_settleAll`: What a place of a request holds in the end.
* `FileRequest.openGiven_congr`: What opening looks at.
* `FileRequest.openGiven_settleAll`: What the part depends on.
-/

namespace FormData

theorem Window.plan_congr {limit limit' : Nat} (h : limit = limit') (positive : 0 < limit)
    (positive' : 0 < limit') (size : Nat) :
    plan limit positive size 0 = plan limit' positive' size 0 := by
  subst h
  rfl

namespace FileRequest

namespace Setting

-- What a setting gives of each kind. A setting is of one kind, so it gives nothing
-- of the others.

def fileName? : Setting → Option String
  | .fileName given => some given
  | .contentType _ | .headers _ | .maxWindow _ _ => none

def contentType? : Setting → Option String
  | .contentType given => some given
  | .fileName _ | .headers _ | .maxWindow _ _ => none

def headers? : Setting → Option HeaderMap
  | .headers given => some given
  | .fileName _ | .contentType _ | .maxWindow _ _ => none

def limit? : Setting → Option Nat
  | .maxWindow given _ => some given
  | .fileName _ | .contentType _ | .headers _ => none

theorem headers?_eq_some_iff (setting : Setting) (map : HeaderMap) :
    setting.headers? = some map ↔ setting = .headers map := by
  cases setting with
  | headers given => rw [headers?, Option.some.injEq, headers.injEq]
  | fileName _ => exact ⟨nofun, nofun⟩
  | contentType _ => exact ⟨nofun, nofun⟩
  | maxWindow _ _ => exact ⟨nofun, nofun⟩

theorem eq_none_of_contentType? (setting : Setting)
    (h : setting.contentType?.isNone = false) :
    setting.fileName? = none ∧ setting.headers? = none ∧ setting.limit? = none := by
  cases setting with
  | contentType _ => exact ⟨rfl, rfl, rfl⟩
  | fileName _ => cases h
  | headers _ => cases h
  | maxWindow _ _ => cases h

end Setting

section LastGiven

variable {β : Type} (given? : Setting → Option β)

/-- What the last setting of a kind gives, if there is one of that kind. -/
def lastGiven (settings : List Setting) : Option β :=
  (settings.filterMap given?).getLast?

theorem lastGiven_cons (setting : Setting) (rest : List Setting) :
    lastGiven given? (setting :: rest) = (lastGiven given? rest).or (given? setting) := by
  unfold lastGiven
  rw [List.filterMap_cons]
  cases given? setting with
  | none => rw [Option.or_none]
  | some given =>
      simp only [List.getLast?_cons]
      cases (rest.filterMap given?).getLast? with
      | none => rfl
      | some last => rfl

theorem lastGiven_eq_none_iff (settings : List Setting) :
    lastGiven given? settings = none ↔ ∀ setting ∈ settings, given? setting = none := by
  unfold lastGiven
  rw [List.getLast?_eq_none_iff, List.filterMap_eq_nil_iff]

-- What is left out may be of any other kind.
theorem lastGiven_filter (keep : Setting → Bool) (settings : List Setting)
    (h : ∀ setting, keep setting = false → given? setting = none) :
    lastGiven given? (settings.filter keep) = lastGiven given? settings := by
  unfold lastGiven
  rw [List.filterMap_filter]
  congr 2
  funext setting
  by_cases hkeep : keep setting = true
  · rw [if_pos hkeep]
  · rw [if_neg hkeep, h setting (Bool.not_eq_true _ ▸ hkeep)]

/-- What a place of a request holds in the end, if each setting writes there what
    it gives of one kind. The induction is on the settings, and the request is the
    one that those in front of them lead to. -/
theorem get_settleAll (get : FileRequest → Option β)
    (step : ∀ request setting, get (settle request setting) = (given? setting).or (get request))
    (request : FileRequest) (settings : List Setting) :
    get (request.settleAll settings) = (lastGiven given? settings).or (get request) := by
  induction settings generalizing request with
  | nil => rfl
  | cons setting rest ih =>
      have hrest : get (request.settleAll (setting :: rest))
          = (lastGiven given? rest).or (get (request.settle setting)) :=
        ih (request.settle setting)
      rw [hrest, step, lastGiven_cons, Option.or_assoc]

end LastGiven

theorem name_path_settleAll (request : FileRequest) (settings : List Setting) :
    (request.settleAll settings).name = request.name
      ∧ (request.settleAll settings).path = request.path := by
  induction settings generalizing request with
  | nil => exact ⟨rfl, rfl⟩
  | cons setting rest ih =>
      have hsettle : (request.settle setting).name = request.name
          ∧ (request.settle setting).path = request.path := by
        cases setting <;> exact ⟨rfl, rfl⟩
      rw [← hsettle.1, ← hsettle.2]
      exact ih (request.settle setting)

theorem fileName_settleAll (request : FileRequest) (settings : List Setting) :
    (request.settleAll settings).fileName
      = (lastGiven Setting.fileName? settings).or request.fileName :=
  get_settleAll Setting.fileName? fileName
    (fun _ setting => by cases setting <;> rfl) request settings

theorem headers_settleAll (request : FileRequest) (settings : List Setting) :
    (request.settleAll settings).headers
      = (lastGiven Setting.headers? settings).or request.headers :=
  get_settleAll Setting.headers? headers
    (fun _ setting => by cases setting <;> rfl) request settings

-- These two places are never empty, so what they held is what the settings fall
-- back on.
theorem contentType_settleAll (request : FileRequest) (settings : List Setting) :
    (request.settleAll settings).contentType
      = (lastGiven Setting.contentType? settings).getD request.contentType := by
  have h := get_settleAll Setting.contentType? (fun r => some r.contentType)
    (fun _ setting => by cases setting <;> rfl) request settings
  rw [Option.or_some, Option.some.injEq] at h
  exact h

theorem maxWindow_settleAll (request : FileRequest) (settings : List Setting) :
    (request.settleAll settings).maxWindow
      = (lastGiven Setting.limit? settings).getD request.maxWindow := by
  have h := get_settleAll Setting.limit? (fun r => some r.maxWindow)
    (fun _ setting => by cases setting <;> rfl) request settings
  rw [Option.or_some, Option.some.injEq] at h
  exact h

/-- Open a part, given what the path leads to or why it cannot be opened, and how
    stretches of a file with some content are mapped. -/
def openGiven (request : FileRequest) (found : Except IoFault FileTree.Entry)
    (mapping : Bytes → Nat → Nat → Except IoFault Bytes) : Traced (Except Fault FilePart) :=
  match found with
  | .error cause => { result := .error (.cannotOpen request.path cause) }
  | .ok (.file data) => request.openWith (mapping data) data.length
  | .ok _ => { result := .error (.notAFile request.path) }

theorem openIn_eq_openGiven (request : FileRequest) (tree : FileTree) :
    request.openIn tree = request.openGiven (tree.lookUp request.path) Window.slice := by
  unfold openIn openGiven
  cases tree.lookUp request.path with
  | error cause => rfl
  | ok entry => cases entry <;> rfl

/-- Opening looks at a request in these four respects and no other. -/
theorem openGiven_congr (left right : FileRequest) (found : Except IoFault FileTree.Entry)
    (mapping : Bytes → Nat → Nat → Except IoFault Bytes)
    (hname : left.name = right.name) (hpath : left.path = right.path)
    (hheader : left.header = right.header) (hlimit : left.maxWindow = right.maxWindow) :
    left.openGiven found mapping = right.openGiven found mapping := by
  have hplan := Window.plan_congr hlimit left.maxWindow_pos right.maxWindow_pos
  unfold openGiven openWith
  simp only [hname, hpath, hheader, hplan]

/-- A part that is opened has the name and the path of its request, its header
    block in front, and the windows that its limit gives. -/
theorem of_openGiven_eq_ok (request : FileRequest) (found : Except IoFault FileTree.Entry)
    (mapping : Bytes → Nat → Nat → Except IoFault Bytes) (file : FilePart)
    (h : (request.openGiven found mapping).result = .ok file) :
    file.name = request.name ∧ file.path = request.path ∧ file.header = request.header
      ∧ ∃ data, found = .ok (.file data)
        ∧ (Window.readAll request.path (mapping data)
            (Window.plan request.maxWindow request.maxWindow_pos data.length 0)).result
          = .ok file.windows := by
  unfold openGiven at h
  split at h
  next => cases h
  next data =>
    unfold openWith at h
    dsimp only at h
    split at h
    next => cases h
    next windows hread =>
      cases h
      exact ⟨rfl, rfl, rfl, data, rfl, hread⟩
  next => cases h

-- Headers count once they are given anywhere, and the last of them are the header
-- lines of the part.
theorem headerLines_settleAll_of_mem (request : FileRequest) (settings : List Setting)
    (h : ∃ map, Setting.headers map ∈ settings) :
    ∃ final, lastGiven Setting.headers? settings = some final
      ∧ (request.settleAll settings).headerLines = final.lines := by
  rcases h with ⟨map, hmem⟩
  rcases hlast : lastGiven Setting.headers? settings with _ | final
  · exact absurd ((lastGiven_eq_none_iff _ _).mp hlast _ hmem) nofun
  · refine ⟨final, rfl, ?_⟩
    unfold headerLines
    rw [headers_settleAll, hlast, Option.some_or]

-- Where no headers are given, there is one header line, and it announces the
-- content type.
theorem headerLines_settleAll_of_not_mem (request : FileRequest) (hnone : request.headers = none)
    (settings : List Setting) (h : ∀ map, Setting.headers map ∉ settings) :
    (request.settleAll settings).headerLines
      = [⟨contentTypeName,
          utf8 ((lastGiven Setting.contentType? settings).getD request.contentType)⟩] := by
  have hlast : lastGiven Setting.headers? settings = none := by
    rw [lastGiven_eq_none_iff]
    intro setting hmem
    rw [Option.eq_none_iff_forall_not_mem]
    intro map hmap
    exact h map ((Setting.headers?_eq_some_iff setting map).mp hmap ▸ hmem)
  unfold headerLines
  rw [headers_settleAll, hlast, hnone, Option.or_none, ← contentType_settleAll]

/-- Requests that agree on the last setting of each kind are opened alike. On the
    content type they need not agree if headers are given. -/
theorem openGiven_settleAll_congr (request : FileRequest) (hnone : request.headers = none)
    (settings settings' : List Setting) (found : Except IoFault FileTree.Entry)
    (mapping : Bytes → Nat → Nat → Except IoFault Bytes)
    (hfileName : lastGiven Setting.fileName? settings' = lastGiven Setting.fileName? settings)
    (hlimit : lastGiven Setting.limit? settings' = lastGiven Setting.limit? settings)
    (hheaders : lastGiven Setting.headers? settings' = lastGiven Setting.headers? settings)
    (htype : lastGiven Setting.headers? settings = none →
      lastGiven Setting.contentType? settings' = lastGiven Setting.contentType? settings) :
    (request.settleAll settings').openGiven found mapping
      = (request.settleAll settings).openGiven found mapping := by
  rcases name_path_settleAll request settings with ⟨hname, hpath⟩
  rcases name_path_settleAll request settings' with ⟨hname', hpath'⟩
  have hlines : (request.settleAll settings').headerLines
      = (request.settleAll settings).headerLines := by
    unfold headerLines
    rw [headers_settleAll, headers_settleAll, hheaders, hnone, Option.or_none]
    -- The content type is looked at in one of the two cases only.
    rcases hlast : lastGiven Setting.headers? settings with _ | final
    · simp only [contentType_settleAll, htype hlast]
    · rfl
  refine openGiven_congr _ _ found mapping (hname'.trans hname.symm) (hpath'.trans hpath.symm) ?_ ?_
  · simp only [header, announcedName, hname, hname', hpath, hpath', hlines, fileName_settleAll,
      hfileName]
  · rw [maxWindow_settleAll, maxWindow_settleAll, hlimit]

/-- Content types have no effect where headers are given. Leaving them out takes
    away no setting of another kind. -/
theorem openGiven_settleAll_filter (request : FileRequest) (hnone : request.headers = none)
    (settings : List Setting) (found : Except IoFault FileTree.Entry)
    (mapping : Bytes → Nat → Nat → Except IoFault Bytes)
    (h : ∃ map, Setting.headers map ∈ settings) :
    (request.settleAll (settings.filter fun setting => setting.contentType?.isNone)).openGiven
        found mapping
      = (request.settleAll settings).openGiven found mapping := by
  rcases headerLines_settleAll_of_mem request settings h with ⟨final, hfinal, -⟩
  refine openGiven_settleAll_congr request hnone settings _ found mapping
    (lastGiven_filter _ _ _ fun setting hleft => (setting.eq_none_of_contentType? hleft).1)
    (lastGiven_filter _ _ _ fun setting hleft => (setting.eq_none_of_contentType? hleft).2.2)
    (lastGiven_filter _ _ _ fun setting hleft => (setting.eq_none_of_contentType? hleft).2.1)
    (fun hno => ?_)
  rw [hfinal] at hno
  cases hno

/-- What the part of a file depends on. For every name and path, whatever the path
    leads to and however the file answers when it is mapped, settings that agree
    on the last of each kind lead to the same outcome. If headers are among them
    anywhere, it is also the same outcome with all content types left out.

    A file that can be mapped is opened, and the part holds its content. Any part
    that is opened has the name and the path that were asked for, and the windows
    that the last limit gives. Behind the line that names the field and the file,
    its header block holds the lines of the last headers and nothing else, if there
    are any headers. If there are none, it holds one line, with the last content
    type or the default one. -/
theorem openGiven_settleAll (name : String) (path : Bytes) (settings : List Setting) :
    let request (settings : List Setting) : FileRequest := settleAll { name, path } settings
    let fileName := (lastGiven Setting.fileName? settings).getD
      (((Path.fileName? path).map Utf8.lossy).getD "")
    let type := (lastGiven Setting.contentType? settings).getD "application/octet-stream"
    let limit := (lastGiven Setting.limit? settings).getD 1073741824
    (∀ settings' found mapping,
        lastGiven Setting.fileName? settings' = lastGiven Setting.fileName? settings →
        lastGiven Setting.limit? settings' = lastGiven Setting.limit? settings →
        lastGiven Setting.headers? settings' = lastGiven Setting.headers? settings →
        (lastGiven Setting.headers? settings = none →
          lastGiven Setting.contentType? settings' = lastGiven Setting.contentType? settings) →
        (request settings').openGiven found mapping = (request settings).openGiven found mapping)
    ∧ ((∃ map, Setting.headers map ∈ settings) → ∀ found mapping,
        (request (settings.filter fun setting => setting.contentType?.isNone)).openGiven
            found mapping
          = (request settings).openGiven found mapping)
    ∧ (∀ data mapping, Window.Maps (mapping data) data →
        ∃ file, ((request settings).openGiven (.ok (.file data)) mapping).result = .ok file
          ∧ file.windows.flatten = data)
    ∧ (∀ found mapping file, ((request settings).openGiven found mapping).result = .ok file →
        file.name = name ∧ file.path = path
        ∧ (∃ block, file.header
              = dispositionLine name (some fileName) ++ Bytes.crlf ++ block ++ Bytes.crlf
            ∧ ((∃ map, Setting.headers map ∈ settings) →
                ∃ final, lastGiven Setting.headers? settings = some final
                  ∧ block = final.lines.flatMap HeaderLine.render)
            ∧ ((∀ map, Setting.headers map ∉ settings) →
                block = utf8 "Content-Type: " ++ utf8 type ++ Bytes.crlf))
        ∧ ∃ data positive, found = .ok (.file data)
          ∧ (Window.readAll path (mapping data) (Window.plan limit positive data.length 0)).result
            = .ok file.windows)
    ∧ ∀ tree : FileTree, (request settings).openIn tree
        = (request settings).openGiven (tree.lookUp path) Window.slice := by
  intro request fileName type limit
  rcases name_path_settleAll { name, path } settings with ⟨hname, hpath⟩
  refine ⟨fun settings' found mapping => ?_, fun hgiven found mapping => ?_,
    fun data mapping hmaps => ?_, fun found mapping file hopened => ?_, fun tree => ?_⟩
  · exact openGiven_settleAll_congr { name, path } rfl settings settings' found mapping
  · exact openGiven_settleAll_filter { name, path } rfl settings found mapping hgiven
  · exact ⟨(request settings).partOf data,
      (request settings).openWith_eq_ok data (mapping data) hmaps,
      (request settings).flatten_windows_partOf data⟩
  · rcases of_openGiven_eq_ok _ found mapping file hopened with
      ⟨hfileName, hfilePath, hheader, data, hfound, hread⟩
    have hshown : (request settings).announcedName = fileName := by
      unfold announcedName
      rw [fileName_settleAll, Option.or_none, hpath]
    have hlimit : (request settings).maxWindow = limit := maxWindow_settleAll _ settings
    refine ⟨hfileName.trans hname, hfilePath.trans hpath,
      ⟨(request settings).headerLines.flatMap HeaderLine.render, ?_, fun hgiven => ?_,
        fun hnone => ?_⟩, data, hlimit ▸ (request settings).maxWindow_pos, hfound, ?_⟩
    · rw [hheader, header, headerBlock, hshown, hname]
    · rcases headerLines_settleAll_of_mem { name, path } settings hgiven with
        ⟨final, hfinal, hlines⟩
      exact ⟨final, hfinal, congrArg (List.flatMap HeaderLine.render) hlines⟩
    · rw [headerLines_settleAll_of_not_mem { name, path } rfl settings hnone,
        List.flatMap_singleton, HeaderLine.render, contentTypeName, ← utf8_append]
      rfl
    · rw [← hread, hpath]
      exact congrArg (fun windows => (Window.readAll path (mapping data) windows).result)
        (Window.plan_congr hlimit.symm _ _ data.length)
  · rw [openIn_eq_openGiven, hpath]

/-- Headers are given twice, the second time none, with content types in front and
    behind. The block has no line of its own, and the part is the one that the last
    settings alone lead to, in another order. -/
theorem openGiven_settleAll_interleaved :
    let given : HeaderMap := ⟨[⟨⟨[120], by decide⟩, [⟨[49], by decide⟩]⟩]⟩
    let request : FileRequest := { name := "a", path := [102] }
    let settled := request.settleAll [.headers given, .contentType "text/plain", .fileName "b",
      .headers HeaderMap.empty, .maxWindow 2 (by decide), .contentType "image/png"]
    let other := request.settleAll
      [.maxWindow 2 (by decide), .headers HeaderMap.empty, .fileName "b"]
    (∀ found mapping, other.openGiven found mapping = settled.openGiven found mapping)
    ∧ ∃ file, (settled.openGiven (.ok (.file [1, 2, 3])) Window.slice).result = .ok file
      ∧ file.header
        = utf8 "Content-Disposition: form-data; name=\"a\"; filename=\"b\"\r\n\r\n" := by
  intro given request settled other
  rcases openGiven_settleAll "a" [102] [.headers given, .contentType "text/plain", .fileName "b",
    .headers HeaderMap.empty, .maxWindow 2 (by decide), .contentType "image/png"] with
    ⟨hagree, -, hopens, hopened, -⟩
  rcases hopens [1, 2, 3] Window.slice (Window.maps_slice _) with ⟨file, hfile, -⟩
  refine ⟨fun found mapping => hagree _ found mapping rfl rfl rfl nofun, file, hfile, ?_⟩
  rcases hopened _ Window.slice file hfile with ⟨-, -, ⟨block, hheader, hgiven, -⟩, -⟩
  rcases hgiven ⟨given, List.mem_cons_self⟩ with ⟨final, hfinal, hblock⟩
  rw [hheader, hblock, ← Option.some.inj hfinal]
  decide

end FileRequest

end FormData
