import FormData.Proofs.Splice
import FormData.Proofs.Windows
import FormData.Proofs.Word

/-!
# Windows Cover a File

A file part has every octet of its file once, whatever the limit on its windows.

The loop that takes windows works on words of 64 bits. It takes the offset from
the size, and adds a window to the offset. With sums and differences that are
refused where a word cannot hold them (`Word.add?`, `Word.sub?`), the loop still
gives the plan that numbers without a bound give, as soon as the size is a word
(`Window.planWords?_eq`). No offset is past the size, so no difference is
refused, and what is added is at most what is left, so no sum is.

What a part of a file is made of shows the limit, since the pieces are the
windows. Its header, its length and its content do not. A body joins the pieces
of its parts, so the octets of a body are the same for every limit
(`Body.written_swapped`).

## Main definitions

* `Window.planWords?`: The windows of a file, found with words.
* `Body.Swapped`: One body has a part where another has a different one.

## Theorems

* `Window.planWords?_eq`: Words are enough to plan.
* `Window.plan_bounds`: Where each window of a plan lies.
* `FileRequest.openWith_eq_error_iff`: When a file cannot be opened, and why.
* `Body.written_swapped`: Parts of the same content can stand for each other.
* `FileRequest.openWith_covers`: What opening a file gives.
-/

namespace FormData

namespace Window

/-- The windows from an offset to the end of a file, found with words. There are
    none if a sum or a difference is not a word. -/
def planWords? (limit : Nat) (positive : 0 < limit) (size offset : Nat) :
    Option (List Window) :=
  if offset < size then
    match _ : Word.sub? size offset with
    | none => none
    | some left =>
      match _ : Word.add? offset (min left limit) with
      | none => none
      | some next =>
        (planWords? limit positive size next).map ({ offset, length := min left limit } :: ·)
  else some []
termination_by size - offset
decreasing_by
  rename_i hleft hnext
  rw [Word.sub?_eq_some_iff] at hleft
  rw [Word.add?_eq_some_iff] at hnext
  omega

/-- Words are enough to plan the windows of a file whose size is a word. -/
theorem planWords?_eq (limit : Nat) (positive : 0 < limit) (size offset : Nat)
    (h : size < Word.bound) :
    planWords? limit positive size offset = some (plan limit positive size offset) := by
  fun_induction plan limit positive size offset with
  | case1 offset hlt ih =>
      have hsub : Word.sub? size offset = some (size - offset) :=
        (Word.sub?_eq_some_iff _ _ _).mpr ⟨Nat.le_of_lt hlt, rfl⟩
      -- What is added is at most what is left, so the sum stays within the size.
      have hadd : Word.add? offset (min (size - offset) limit)
          = some (offset + min (size - offset) limit) :=
        (Word.add?_eq_some_iff _ _ _).mpr ⟨by omega, rfl⟩
      unfold planWords?
      rw [if_pos hlt]
      -- Neither word is refused, so of each match only the other case is left.
      split
      next hnone =>
        rw [hsub] at hnone
        cases hnone
      next left hleft =>
        obtain rfl : size - offset = left := Option.some.inj (hsub.symm.trans hleft)
        split
        next hnone =>
          rw [hadd] at hnone
          cases hnone
        next next hnext =>
          rw [← Option.some.inj (hadd.symm.trans hnext), ih, Option.map_some]
  | case2 offset hend =>
      unfold planWords?
      rw [if_neg hend]

/-- A window begins behind as many full ones as there are in front of it and ends
    within the file. None is empty, and all but the last are full. -/
theorem plan_bounds (limit : Nat) (positive : 0 < limit) (size k : Nat) (window : Window)
    (h : (plan limit positive size 0)[k]? = some window) :
    window.offset = k * limit ∧ 1 ≤ window.length ∧ window.length ≤ limit
      ∧ (k + 1 < (plan limit positive size 0).length → window.length = limit)
      ∧ window.offset + window.length ≤ size := by
  rcases (plan_getElem? limit positive size k window).mp h with ⟨hlt, rfl⟩
  rw [length_plan, lt_count_iff limit size (k + 1) positive, Nat.succ_mul]
  exact ⟨rfl, by simp only [nth]; omega, Nat.min_le_right _ _,
    fun hnext => Nat.min_eq_right (by omega), by simp only [nth]; omega⟩

/-- A window that ends within a file holds as many octets as it is long. -/
theorem length_content (data : Bytes) (window : Window)
    (h : window.offset + window.length ≤ data.length) :
    (content data window).length = window.length := by
  rw [content, List.length_take, List.length_drop]
  omega

end Window

namespace FileRequest

/-- A file cannot be opened exactly if one of its windows cannot be mapped. The
    fault is that of the first such window and names where it begins, which is
    behind a number of full windows. -/
theorem openWith_eq_error_iff (request : FileRequest)
    (mapping : Nat → Nat → Except IoFault Bytes) (size : Nat) (fault : Fault) :
    (request.openWith mapping size).result = .error fault
      ↔ ∃ (k : Nat) (cause : IoFault), k * request.maxWindow < size
        ∧ (∀ j < k, ∃ bytes, mapping (j * request.maxWindow)
            (min (size - j * request.maxWindow) request.maxWindow) = .ok bytes)
        ∧ mapping (k * request.maxWindow)
            (min (size - k * request.maxWindow) request.maxWindow) = .error cause
        ∧ fault = .cannotMap request.path (k * request.maxWindow) cause := by
  -- Opening fails only where reading does.
  have hread : (request.openWith mapping size).result = .error fault
      ↔ (Window.readAll request.path mapping
          (Window.plan request.maxWindow request.maxWindow_pos size 0)).result
        = .error fault := by
    rcases hresult : (Window.readAll request.path mapping
        (Window.plan request.maxWindow request.maxWindow_pos size 0)).result with
      later | windows
    · simp only [openWith, hresult, Except.error.injEq]
    · simp only [openWith, hresult, reduceCtorEq]
  rw [hread, Window.readAll_eq_error_iff]
  simp only [Window.FailsAt, Window.plan_getElem?]
  constructor
  · rintro ⟨k, w, cause, ⟨⟨hlt, rfl⟩, hbefore, hfail⟩, hfault⟩
    refine ⟨k, cause, hlt, fun j hj => ?_, hfail, hfault⟩
    -- What is in front of a window of the plan is in the plan.
    have hmul : j * request.maxWindow ≤ k * request.maxWindow :=
      Nat.mul_le_mul_right _ (Nat.le_of_lt hj)
    exact hbefore j _ hj ⟨Nat.lt_of_le_of_lt hmul hlt, rfl⟩
  · rintro ⟨k, cause, hlt, hbefore, hfail, hfault⟩
    refine ⟨k, _, cause, ⟨⟨hlt, rfl⟩, ?_, hfail⟩, hfault⟩
    rintro j v hj ⟨-, rfl⟩
    exact hbefore j hj

end FileRequest

namespace Body

/-- Two bodies have the same boundary and the same parts in the same places,
    except that in some places one has `new` where the other has `old`. -/
def Swapped (old new : Part) (body other : Body) : Prop :=
  other.boundary = body.boundary
    ∧ List.Forall₂ (fun h h' => h'.part = h.part ∨ h.part = old ∧ h'.part = new)
        body.parts other.parts

/-- Parts of the same content can stand for each other. -/
theorem written_swapped (old new : Part) (body other : Body) (hcontent : new.content = old.content)
    (h : Swapped old new body other) : other.written = body.written := by
  rcases h with ⟨hboundary, hparts⟩
  have hsegments : ∀ left right : List Handle,
      List.Forall₂ (fun h h' => h'.part = h.part ∨ h.part = old ∧ h'.part = new) left right →
      body.boundary.segments right = body.boundary.segments left := by
    intro left right hboth
    induction hboth with
    | nil => rfl
    | cons hhead _ ih =>
        rw [Boundary.segments, Boundary.segments, List.map_cons, List.map_cons]
        refine congrArg₂ _ ?_ ih
        rcases hhead with hsame | ⟨hold, hnew⟩
        · rw [hsame]
        · rw [hold, hnew, hcontent]
  rw [written_eq, written_eq, hboundary, hsegments _ _ hparts]

end Body

namespace FileRequest

theorem chunks_partOf (request : FileRequest) (data : Bytes) :
    (request.partOf data).chunks
      = request.header
        :: (Window.plan request.maxWindow request.maxWindow_pos data.length 0).map
          (Window.content data) := rfl

/-- The limit on the windows shows in the pieces of a part and not in what they
    are when joined. -/
theorem content_partOf (request : FileRequest) (data : Bytes) :
    (Part.file (request.partOf data)).content = request.header ++ data := by
  rw [Part.content, Part.chunks, chunks_partOf, List.flatten_cons]
  exact congrArg _ (request.flatten_windows_partOf data)

theorem length_partOf (request : FileRequest) (data : Bytes) :
    (Part.file (request.partOf data)).length = request.header.length + data.length := by
  rw [Part.length_file, ← Bytes.length_flatten, ← List.length_append, ← content_partOf]
  rfl

/-- The length of a part is added up piece by piece, and words are enough if it
    is one. -/
theorem sum?_chunks_partOf (request : FileRequest) (data : Bytes)
    (h : request.header.length + data.length < Word.bound) :
    Word.sum? ((request.partOf data).chunks.map List.length)
      = some (request.header.length + data.length) := by
  have hsum : ((request.partOf data).chunks.map List.length).sum
      = request.header.length + data.length := by
    rw [← List.length_flatten, ← List.length_append, ← content_partOf]
    rfl
  rw [← hsum] at h ⊢
  exact Word.sum?_eq _ h

theorem header_settle_maxWindow (request : FileRequest) (limit : Nat) (positive : 0 < limit) :
    (request.settle (.maxWindow limit positive)).header = request.header := rfl

/-- Opening a file covers it.

    There are as many windows as full ones are needed, and words are enough to
    find them. The window of each number begins behind as many full windows.
    None is empty, none is longer than the limit or reaches past the end, and all
    but the last are full.

    If the file can be mapped, there is a part. Its pieces are the header and
    what the windows hold, which joined is the content, and its length, which
    words are enough to add up, is that of both. Another limit gives a part with
    the same header, the same length and the same octets in every body.

    If a window cannot be mapped, there is none. The fault names where the first
    such window begins, which is behind a number of full windows. -/
theorem openWith_covers (request : FileRequest) (size : Nat) :
    let m := request.maxWindow
    let plan := Window.plan m request.maxWindow_pos size 0
    plan.length = (size + m - 1) / m
    ∧ (size < 2 ^ 64 → Window.planWords? m request.maxWindow_pos size 0 = some plan)
    ∧ (∀ (k : Nat) (w : Window), plan[k]? = some w →
        w.offset = k * m ∧ 1 ≤ w.length ∧ w.length ≤ m
          ∧ (k + 1 < plan.length → w.length = m) ∧ w.offset + w.length ≤ size)
    ∧ (∀ data mapping, data.length = size → Window.Maps mapping data →
        let file := request.partOf data
        (request.openWith mapping size).result = .ok file
          ∧ file.chunks = request.header :: plan.map (Window.content data)
          ∧ (∀ w ∈ plan, (Window.content data w).length = w.length)
          ∧ file.windows.flatten = data
          ∧ (size = 0 → file.chunks = [request.header])
          ∧ (Part.file file).length = request.header.length + size
          ∧ (request.header.length + size < 2 ^ 64 →
              Word.sum? (file.chunks.map List.length) = some (request.header.length + size))
          ∧ ∀ limit positive mapping', Window.Maps mapping' data →
              let asked := request.settle (.maxWindow limit positive)
              ∃ other, (asked.openWith mapping' size).result = .ok other
                ∧ other.chunks.head? = file.chunks.head?
                ∧ (Part.file other).length = (Part.file file).length
                ∧ ∀ body swapped, Body.Swapped (.file file) (.file other) body swapped →
                    swapped.written = body.written)
    ∧ ∀ mapping fault, (request.openWith mapping size).result = .error fault
        ↔ ∃ (k : Nat) (cause : IoFault), k * m < size
          ∧ (∀ j < k, ∃ bytes, mapping (j * m) (min (size - j * m) m) = .ok bytes)
          ∧ mapping (k * m) (min (size - k * m) m) = .error cause
          ∧ fault = .cannotMap request.path (k * m) cause := by
  intro m plan
  refine ⟨Window.length_plan m request.maxWindow_pos size,
    Window.planWords?_eq m request.maxWindow_pos size 0,
    Window.plan_bounds m request.maxWindow_pos size, ?_,
    fun mapping => openWith_eq_error_iff request mapping size⟩
  rintro data mapping rfl hmaps file
  refine ⟨request.openWith_eq_ok data mapping hmaps, rfl, fun w hw => ?_,
    request.flatten_windows_partOf data, fun hzero => ?_, request.length_partOf data,
    request.sum?_chunks_partOf data, ?_⟩
  · -- Every window of the plan ends within the file.
    rcases List.mem_iff_getElem?.mp hw with ⟨k, hk⟩
    exact Window.length_content data w
      (Window.plan_bounds m request.maxWindow_pos data.length k w hk).2.2.2.2
  · -- An empty file has no windows.
    rw [request.chunks_partOf, Window.plan, if_neg (by omega), List.map_nil]
  · -- The header and the content settle the rest, and neither depends on the limit.
    intro limit positive mapping' hmaps' asked
    have hheader : asked.header = request.header :=
      request.header_settle_maxWindow limit positive
    refine ⟨asked.partOf data, asked.openWith_eq_ok data mapping' hmaps', ?_, ?_, ?_⟩
    · rw [asked.chunks_partOf, request.chunks_partOf, hheader, List.head?_cons, List.head?_cons]
    · rw [asked.length_partOf, request.length_partOf, hheader]
    · refine fun body swapped => Body.written_swapped _ _ body swapped ?_
      rw [asked.content_partOf, request.content_partOf, hheader]

/-- Ten octets in windows of three. Taken at once they give the same body, which
    has the part twice. If nothing can be mapped from the seventh octet on, the
    fault names where the third window begins. -/
theorem openWith_covers_ten :
    let request : FileRequest :=
      { name := "f", path := utf8 "a.bin", maxWindow := 3, maxWindow_pos := by decide }
    let data : Bytes := [48, 49, 50, 51, 52, 53, 54, 55, 56, 57]
    let file := request.partOf data
    let asked := request.settle (.maxWindow 64 (by decide))
    let torn := fun offset length =>
      if 6 ≤ offset then .error (.bare .invalidInput) else Window.slice data offset length
    let body (file : FilePart) := (Body.empty ⟨"B", by decide⟩).editAll
      [.add ⟨0, .file file⟩, .add ⟨1, .field (FieldPart.text "a" "")⟩, .add ⟨0, .file file⟩]
    (request.openWith (Window.slice data) 10).result = .ok file
    ∧ file.chunks = [request.header, [48, 49, 50], [51, 52, 53], [54, 55, 56], [57]]
    ∧ Window.planWords? 3 (by decide) 10 0 = some [⟨0, 3⟩, ⟨3, 3⟩, ⟨6, 3⟩, ⟨9, 1⟩]
    ∧ (∃ other, (asked.openWith (Window.slice data) 10).result = .ok other
        ∧ (body other).written = (body file).written)
    ∧ (request.openWith torn 10).result
        = .error (.cannotMap request.path 6 (.bare .invalidInput)) := by
  intro request data file asked torn body
  rcases openWith_covers request 10 with ⟨-, hwords, -, hopen, hfault⟩
  have hplan : Window.plan 3 request.maxWindow_pos 10 0
      = [⟨0, 3⟩, ⟨3, 3⟩, ⟨6, 3⟩, ⟨9, 1⟩] := by
    rw [Window.plan_zero]
    decide
  rcases hopen data (Window.slice data) rfl (Window.maps_slice data) with
    ⟨hok, hchunks, -, -, -, -, -, hother⟩
  refine ⟨hok, ?_, ?_, ?_, ?_⟩
  · rw [hchunks, hplan]
    rfl
  · rw [hwords (by decide), hplan]
  · rcases hother 64 (by decide) (Window.slice data) (Window.maps_slice data) with
      ⟨other, hother, -, -, hwritten⟩
    refine ⟨other, hother, hwritten (body file) (body other) ⟨rfl, ?_⟩⟩
    exact .cons (Or.inr ⟨rfl, rfl⟩) (.cons (Or.inl rfl) (.cons (Or.inr ⟨rfl, rfl⟩) .nil))
  · refine (hfault torn _).mpr ⟨2, .bare .invalidInput, by decide, fun j hj => ?_, rfl, rfl⟩
    have hj : j = 0 ∨ j = 1 := by omega
    rcases hj with rfl | rfl
    · exact ⟨[48, 49, 50], rfl⟩
    · exact ⟨[51, 52, 53], rfl⟩

end FileRequest

end FormData
