import FormData.Part.Request
import FormData.Proofs.Edits
import FormData.Proofs.Layout

/-!
# The Length of a Body

The length a body gives is the number of octets that are written.

Two accounts of a body have to agree. The length starts at the only line and
goes up by a middle line with every part, the first part included. What is
written has a first line, a middle line between neighbours and a last line.
The first line is two octets shorter than the middle one and the last line is
two octets longer than the only one, so the difference cancels as soon as there
is a part at all (`total_layout`).

Fields and files report the octets they have. A part of the caller's own
reports what it likes, and the difference to what it has (`Part.surplus`) goes
straight through to the length of the body, once for every time the part is in
it. Lengths are natural numbers here. A machine word holds them as long as
every sum stays below its limit.

## Main definitions

* `Part.surplus`: How much a part reports beyond what it has.

## Theorems

* `Boundary.total_layout`: The octets of a body with given parts.
* `Body.length_sub_total_layout`: A charged length is off by what the parts
  report beyond what they have.
* `PartRequest.surplus_of_make`: A part that the library makes reports what it
  has.
* `Body.length_sub_drained`: The length of an edited body against what draining
  a traversal of it yields.
-/

namespace FormData

namespace Part

/-- How many octets a part reports beyond those it has. -/
def surplus (part : Part) : Int :=
  (part.length : Int) - (Bytes.total part.chunks : Int)

theorem surplus_field (f : FieldPart) : (Part.field f).surplus = 0 := by
  rw [surplus, length_field, Int.sub_self]

theorem surplus_file (f : FilePart) : (Part.file f).surplus = 0 := by
  rw [surplus, length_file, Int.sub_self]

end Part

namespace PartRequest

/-- Which kind of part a request leads to. Only a part of the caller's own is
    handed through. -/
theorem make_cases (tree : FileTree) (request : PartRequest) (part : Part)
    (h : (request.make tree).result = .ok part) :
    (∃ f, part = .field f) ∨ (∃ f, part = .file f) ∨ (∃ c, request = .custom c) := by
  cases request with
  | text name value =>
      simp only [make, Except.ok.injEq] at h
      exact Or.inl ⟨_, h.symm⟩
  | textIn name value charset tables =>
      rcases hnamed : Charset.named? tables charset with _ | set
      · simp only [make, hnamed, reduceCtorEq] at h
      · simp only [make, hnamed, Except.ok.injEq] at h
        exact Or.inl ⟨_, h.symm⟩
  | bytes name value headers =>
      rcases hheaders : HeaderMap.ofEdits? headers with flaw | map
      · simp only [make, hheaders, reduceCtorEq] at h
      · simp only [make, hheaders, Except.ok.injEq] at h
        exact Or.inl ⟨_, h.symm⟩
  | file name path options =>
      rcases hoptions : options.mapM FileOption.setting? with flaw | settings
      · simp only [make, makeFile, hoptions, reduceCtorEq] at h
      · simp only [make, makeFile, hoptions] at h
        -- The options are fine, and it is left to the file whether it opens.
        split at h
        · simp only [reduceCtorEq] at h
        · simp only [Except.ok.injEq] at h
          exact Or.inr (Or.inl ⟨_, h.symm⟩)
  | custom c => exact Or.inr (Or.inr ⟨c, rfl⟩)

/-- A part that the library makes reports what it has. -/
theorem surplus_of_make (tree : FileTree) (request : PartRequest) (part : Part)
    (h : (request.make tree).result = .ok part) (hown : ∀ c, request ≠ .custom c) :
    part.surplus = 0 := by
  rcases make_cases tree request part h with ⟨f, rfl⟩ | ⟨f, rfl⟩ | ⟨c, hc⟩
  · exact Part.surplus_field f
  · exact Part.surplus_file f
  · exact absurd hc (hown c)

end PartRequest

namespace Boundary

theorem length_first (b : Boundary) : b.first.length + 2 = b.middle.length := by
  simp only [first, middle, Bytes.crlf, List.length_append, List.length_cons, List.length_nil]
  omega

theorem length_last (b : Boundary) : b.last.length = b.only.length + 2 := by
  simp only [last, only, Bytes.crlf, List.length_append, List.length_cons, List.length_nil]
  omega

/-- The octets of the parts, each with a middle line. -/
def totalFramed (b : Boundary) (parts : List Handle) : Nat :=
  (parts.map fun h => b.middle.length + Bytes.total h.part.chunks).sum

theorem totalFramed_cons (b : Boundary) (handle : Handle) (rest : List Handle) :
    b.totalFramed (handle :: rest)
      = b.middle.length + Bytes.total handle.part.chunks + b.totalFramed rest := by
  simp only [totalFramed, List.map_cons, List.sum_cons]

theorem total_closing (b : Boundary) (parts : List Handle) :
    Bytes.total (b.closing parts) = b.last.length + b.totalFramed parts := by
  induction parts with
  | nil => rfl
  | cons handle rest ih =>
      rw [closing, Bytes.total_cons, Bytes.total_append, ih, totalFramed_cons]
      omega

/-- The octets of a body. What the first line lacks and what the last line has
    too much cancel, for any number of parts. -/
theorem total_layout (b : Boundary) (parts : List Handle) :
    Bytes.total (b.layout parts) = b.only.length + b.totalFramed parts := by
  cases parts with
  | nil => rfl
  | cons handle rest =>
      -- Two octets too few in front, two too many at the end.
      have hfirst := b.length_first
      have hlast := b.length_last
      rw [layout, Bytes.total_cons, Bytes.total_append, total_closing, totalFramed_cons]
      omega

end Boundary

namespace Body

/-- The charges of parts exceed their octets by what the parts report beyond
    what they have. -/
theorem chargeAll_sub_totalFramed (b : Boundary) (parts : List Handle) :
    (chargeAll b parts : Int) - (b.totalFramed parts : Int)
      = (parts.map fun h => h.part.surplus).sum := by
  induction parts with
  | nil => rfl
  | cons handle rest ih =>
      rw [chargeAll_cons, Boundary.totalFramed_cons, List.map_cons, List.sum_cons, ← ih,
        Part.surplus, charge]
      push_cast
      omega

/-- A charged length is off by what the parts report beyond what they have. -/
theorem length_sub_total_layout (body : Body) (h : body.Charged) :
    (body.length : Int) - (Bytes.total (body.boundary.layout body.parts) : Int)
      = (body.parts.map fun h => h.part.surplus).sum := by
  rw [Charged] at h
  rw [h, Boundary.total_layout, ← chargeAll_sub_totalFramed body.boundary]
  push_cast
  omega

/-- Parts report what they have if those of the caller's own do. -/
theorem sum_surplus_eq_zero (parts : List Handle)
    (h : ∀ x ∈ parts, ∀ c, x.part = .custom c → c.length = Bytes.total c.chunks) :
    (parts.map fun h => h.part.surplus).sum = 0 := by
  refine List.sum_eq_zero fun x hx => ?_
  rcases List.mem_map.mp hx with ⟨handle, hmem, rfl⟩
  rcases hpart : handle.part with f | f | c
  · exact Part.surplus_field f
  · exact Part.surplus_file f
  · -- Only here does the part say for itself how long it is.
    simp only [Part.surplus, Part.length, Part.chunks, h handle hmem c hpart, Int.sub_self]

/-- Length fidelity. After any run of edits of an empty body, draining a fresh
    traversal comes to an end, and the length of the body exceeds the octets
    drained by exactly what the parts in it report beyond what they have. Fields
    and files, however they were made, have no share in that. So where the
    caller's own parts report what they have, the length is the number of
    octets drained. -/
theorem length_sub_drained (b : Boundary) (edits : List Edit) :
    let body := (empty b).editAll edits
    let drained := body.iterate.drain
    drained.2.hasNext = false
    ∧ (body.length : Int) - (Bytes.total drained.1 : Int)
        = (body.parts.map fun h => h.part.surplus).sum
    ∧ (∀ f, (Part.field f).surplus = 0) ∧ (∀ f, (Part.file f).surplus = 0)
    ∧ (∀ (tree : FileTree) (request : PartRequest) (part : Part),
        (request.make tree).result = .ok part → (∀ c, request ≠ .custom c) → part.surplus = 0)
    ∧ ((∀ h ∈ body.parts, ∀ c, h.part = .custom c → c.length = Bytes.total c.chunks) →
        body.length = Bytes.total drained.1) := by
  intro body drained
  -- One induction is on the edits and keeps the charges, the other is on the
  -- steps of the traversal and gives the layout. They meet in the sum below.
  have hcharged : body.Charged := charged_editAll (empty b) edits (charged_empty b)
  have hdrained : drained.1 = body.boundary.layout body.parts := Traversal.drain_iterate body
  have hlength : (body.length : Int) - (Bytes.total drained.1 : Int)
      = (body.parts.map fun h => h.part.surplus).sum := by
    rw [hdrained]
    exact length_sub_total_layout body hcharged
  refine ⟨Traversal.hasNext_drain_iterate body, hlength, Part.surplus_field, Part.surplus_file,
    PartRequest.surplus_of_make, fun htrue => ?_⟩
  rw [sum_surplus_eq_zero body.parts htrue] at hlength
  omega

/-- A part that is put in twice and taken out once stays in behind a field. It
    reports what it has, so the length is what is drained. -/
theorem length_eq_drained_twice :
    let own : Handle := ⟨0, .custom ⟨"own", [[104], [], [105, 13]], 3, true⟩⟩
    let field : Handle := ⟨1, .field (FieldPart.text "a" "")⟩
    let body := (empty ⟨"B", by decide⟩).editAll
      [.add own, .add field, .remove ⟨2, own.part⟩, .add own, .remove own]
    body.parts = [field, own] ∧ body.length = Bytes.total body.iterate.drain.1 := by
  intro own field body
  have hparts : body.parts = [field, own] := rfl
  refine ⟨hparts, (length_sub_drained _ _).2.2.2.2.2 fun h hmem c hc => ?_⟩
  have hor : h = field ∨ h = own := by
    rw [hparts] at hmem
    simpa only [List.mem_cons, List.not_mem_nil, or_false] using hmem
  rcases hor with rfl | rfl
  · cases hc
  · rw [← Part.custom.inj hc]
    rfl

end Body

end FormData
