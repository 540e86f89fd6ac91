import FormData.Part.FileRequest

/-!
# What Windows Hold

The windows of a file, joined, are its content.

A plan cuts a file from an offset to its end, and each window begins where the
one before it ended. So the windows of a plan hold what is behind the offset, in
whatever pieces: the recursion of `Window.plan` takes as many octets off the
front as the window it puts there has. Said without recursion, the plan of a
file has as many windows as full ones are needed to cover it, and the window of
each number begins behind as many full ones (`Window.plan_zero`). Only the last
can be shorter, and none is empty.

Reading a plan depends on what can be mapped. If every window can, reading gives
what they hold. If one cannot, the first of those is the fault, and nothing
behind it is asked for (`Window.readAll_eq_error_iff`). Mapping content that is
at hand cannot fail. Opening a regular file therefore gives a part, whatever the
limit on its windows (`FileRequest.openIn_file`).

## Main definitions

* `Window.count`, `nth`: How many windows there are, and each of them.
* `Window.content`: What a window holds.
* `Window.Maps`: A mapping gives what a file holds.
* `Window.FailsAt`: Where mapping windows fails first.
* `FileRequest.partOf`: The part of a file.

## Theorems

* `Window.lt_count_iff`: There is a window for every offset within the file.
* `Window.plan_zero`: The plan of a file in closed form.
* `Window.flatten_plan`: The windows of a plan hold the content.
* `Window.readAll_eq_ok`: Reading windows that can be mapped.
* `Window.readAll_eq_error_iff`: Reading fails at the first that cannot.
* `FileRequest.openWith_eq_ok`: Opening a file that can be mapped.
* `FileRequest.openIn_file`: A request whose path leads to a regular file
  gives a part with the content of the file.
-/

namespace FormData

namespace Window

/-- How many windows a file has: as many as full ones are needed to cover it. -/
def count (limit size : Nat) : Nat :=
  (size + limit - 1) / limit

/-- The window of this number. It begins behind as many full windows and takes
    what is left, up to the limit. -/
def nth (limit size k : Nat) : Window where
  offset := k * limit
  length := min (size - k * limit) limit

/-- What a window of a file holds. -/
def content (data : Bytes) (window : Window) : Bytes :=
  (data.drop window.offset).take window.length

/-- A mapping gives the octets of a file, for every stretch that lies within
    it. -/
def Maps (mapping : Nat → Nat → Except IoFault Bytes) (data : Bytes) : Prop :=
  ∀ offset length, 0 < length → offset + length ≤ data.length →
    mapping offset length = .ok ((data.drop offset).take length)

/-- Mapping fails at the window of this number, for this cause, and at none in
    front of it. -/
def FailsAt (mapping : Nat → Nat → Except IoFault Bytes) (windows : List Window) (k : Nat)
    (window : Window) (cause : IoFault) : Prop :=
  windows[k]? = some window
    ∧ (∀ (j : Nat) (v : Window), j < k → windows[j]? = some v →
        ∃ bytes, mapping v.offset v.length = .ok bytes)
    ∧ mapping window.offset window.length = .error cause

theorem maps_slice (data : Bytes) : Maps (slice data) data := fun _ _ _ _ => rfl

theorem lt_count_iff (limit size k : Nat) (positive : 0 < limit) :
    k < count limit size ↔ k * limit < size := by
  rw [count, ← Nat.succ_le_iff, Nat.le_div_iff_mul_le positive, Nat.succ_mul]
  omega

/-- The plan from a full number of windows on. The induction is on how many
    windows are left. After any but the last, the next offset is again a full
    number of windows. -/
theorem plan_eq (limit : Nat) (positive : 0 < limit) (size left first : Nat)
    (h : count limit size = first + left) :
    plan limit positive size (first * limit)
      = (List.range' first left).map (nth limit size) := by
  induction left generalizing first with
  | zero =>
      have hend : ¬ first * limit < size := by
        rw [← lt_count_iff limit size first positive]
        omega
      rw [plan, if_neg hend, List.range'_zero, List.map_nil]
  | succ left ih =>
      have hlt : first * limit < size := by
        rw [← lt_count_iff limit size first positive]
        omega
      have hrest := ih (first + 1) (by omega)
      rw [plan, if_pos hlt, List.range'_succ, List.map_cons, nth]
      by_cases hfull : limit ≤ size - first * limit
      · have hnext : first * limit + min (size - first * limit) limit = (first + 1) * limit := by
          rw [Nat.min_eq_right hfull, Nat.succ_mul]
        rw [hnext, hrest]
      · -- A window that is not full reaches the end, and none is left behind it.
        have hnext : first * limit + min (size - first * limit) limit = size := by omega
        have hlast : left = 0 := by
          have hover : ¬ first + 1 < count limit size := by
            rw [lt_count_iff limit size (first + 1) positive, Nat.succ_mul]
            omega
          omega
        rw [hnext, plan, if_neg (Nat.lt_irrefl size), hlast, List.range'_zero, List.map_nil]

theorem plan_zero (limit : Nat) (positive : 0 < limit) (size : Nat) :
    plan limit positive size 0 = (List.range (count limit size)).map (nth limit size) := by
  have hplan := plan_eq limit positive size (count limit size) 0 (Nat.zero_add _).symm
  rwa [Nat.zero_mul, ← List.range_eq_range'] at hplan

theorem length_plan (limit : Nat) (positive : 0 < limit) (size : Nat) :
    (plan limit positive size 0).length = count limit size := by
  rw [plan_zero, List.length_map, List.length_range]

/-- The window of a number is in the plan exactly if it begins within the
    file. -/
theorem plan_getElem? (limit : Nat) (positive : 0 < limit) (size k : Nat) (window : Window) :
    (plan limit positive size 0)[k]? = some window
      ↔ k * limit < size ∧ window = nth limit size k := by
  rw [plan_zero, List.getElem?_map, ← lt_count_iff limit size k positive]
  by_cases hlt : k < count limit size
  · rw [List.getElem?_range hlt, Option.map_some, Option.some.injEq, eq_comm]
    exact (and_iff_right hlt).symm
  · have hnone : (List.range (count limit size))[k]? = none :=
      List.getElem?_eq_none (by rw [List.length_range]; exact Nat.le_of_not_lt hlt)
    rw [hnone, Option.map_none]
    exact ⟨nofun, fun h => absurd h.1 hlt⟩

/-- The windows of a plan hold what is behind its offset. -/
theorem flatten_plan (data : Bytes) (limit : Nat) (positive : 0 < limit) (offset : Nat) :
    ((plan limit positive data.length offset).map (content data)).flatten
      = data.drop offset := by
  fun_induction plan limit positive data.length offset with
  | case1 offset hlt ih =>
      rw [List.map_cons, List.flatten_cons, ih, content, ← List.drop_drop, List.take_append_drop]
  | case2 offset hend =>
      -- The plan ends where the content does.
      rw [List.map_nil, List.flatten_nil, List.drop_eq_nil_of_le (Nat.le_of_not_lt hend)]

theorem readAll_eq_ok (path : Bytes) (mapping : Nat → Nat → Except IoFault Bytes)
    (read : Window → Bytes) (windows : List Window)
    (h : ∀ w ∈ windows, mapping w.offset w.length = .ok (read w)) :
    (readAll path mapping windows).result = .ok (windows.map read) := by
  induction windows with
  | nil => rfl
  | cons window rest ih =>
      have hfirst := h window List.mem_cons_self
      have hrest := ih fun w hw => h w (List.mem_cons_of_mem _ hw)
      simp only [readAll, hfirst, hrest, Except.map, List.map_cons]

theorem failsAt_cons_zero (mapping : Nat → Nat → Except IoFault Bytes) (first : Window)
    (rest : List Window) (window : Window) (cause : IoFault) :
    FailsAt mapping (first :: rest) 0 window cause
      ↔ first = window ∧ mapping window.offset window.length = .error cause := by
  rw [FailsAt, List.getElem?_cons_zero, Option.some.injEq]
  exact ⟨fun h => ⟨h.1, h.2.2⟩, fun h => ⟨h.1, fun j _ hj => absurd hj (Nat.not_lt_zero j), h.2⟩⟩

theorem failsAt_cons_succ (mapping : Nat → Nat → Except IoFault Bytes) (first : Window)
    (rest : List Window) (k : Nat) (window : Window) (cause : IoFault) :
    FailsAt mapping (first :: rest) (k + 1) window cause
      ↔ (∃ bytes, mapping first.offset first.length = .ok bytes)
        ∧ FailsAt mapping rest k window cause := by
  constructor
  · rintro ⟨hget, hbefore, hfail⟩
    exact ⟨hbefore 0 first (Nat.zero_lt_succ k) rfl, hget,
      fun j v hj => hbefore (j + 1) v (Nat.succ_lt_succ hj), hfail⟩
  · rintro ⟨hfirst, hget, hbefore, hfail⟩
    refine ⟨hget, fun j v hj hv => ?_, hfail⟩
    cases j with
    | zero =>
        rw [List.getElem?_cons_zero, Option.some.injEq] at hv
        rwa [← hv]
    | succ j => exact hbefore j v (Nat.lt_of_succ_lt_succ hj) hv

/-- Reading fails exactly if mapping does, and the fault names where the window
    begins at which it fails first. -/
theorem readAll_eq_error_iff (path : Bytes) (mapping : Nat → Nat → Except IoFault Bytes)
    (windows : List Window) (fault : Fault) :
    (readAll path mapping windows).result = .error fault
      ↔ ∃ (k : Nat) (window : Window) (cause : IoFault),
        FailsAt mapping windows k window cause ∧ fault = .cannotMap path window.offset cause := by
  induction windows with
  | nil =>
      simp only [readAll, FailsAt, reduceCtorEq, List.getElem?_nil, false_and, exists_false]
  | cons first rest ih =>
      rcases hmap : mapping first.offset first.length with cause | bytes
      · simp only [readAll, hmap, Except.error.injEq]
        constructor
        · rintro rfl
          exact ⟨0, first, cause, (failsAt_cons_zero ..).mpr ⟨rfl, hmap⟩, rfl⟩
        · rintro ⟨k, window, cause', hfails, rfl⟩
          -- Nothing behind the first window can be where it fails first.
          cases k with
          | zero =>
              rcases (failsAt_cons_zero ..).mp hfails with ⟨rfl, hfail⟩
              rw [hmap, Except.error.injEq] at hfail
              rw [hfail]
          | succ k =>
              rcases ((failsAt_cons_succ ..).mp hfails).1 with ⟨bytes, hok⟩
              rw [hmap] at hok
              cases hok
      · have hresult : (readAll path mapping (first :: rest)).result = .error fault
            ↔ (readAll path mapping rest).result = .error fault := by
          simp only [readAll, hmap]
          cases (readAll path mapping rest).result with
          | error later => simp only [Except.map, Except.error.injEq]
          | ok later => simp only [Except.map, reduceCtorEq]
        rw [hresult, ih]
        constructor
        · rintro ⟨k, window, cause, hfails, hfault⟩
          exact ⟨k + 1, window, cause, (failsAt_cons_succ ..).mpr ⟨⟨bytes, hmap⟩, hfails⟩, hfault⟩
        · rintro ⟨k, window, cause, hfails, hfault⟩
          cases k with
          | zero =>
              rcases (failsAt_cons_zero ..).mp hfails with ⟨rfl, hfail⟩
              rw [hmap] at hfail
              cases hfail
          | succ k => exact ⟨k, window, cause, ((failsAt_cons_succ ..).mp hfails).2, hfault⟩

/-- A mapping of the file reads every window of its plan. -/
theorem readAll_plan (path data : Bytes) (mapping : Nat → Nat → Except IoFault Bytes)
    (limit : Nat) (positive : 0 < limit) (h : Maps mapping data) :
    (readAll path mapping (plan limit positive data.length 0)).result
      = .ok ((plan limit positive data.length 0).map (content data)) := by
  refine readAll_eq_ok path mapping (content data) _ fun w hw => ?_
  rcases List.mem_iff_getElem?.mp hw with ⟨k, hk⟩
  rcases (plan_getElem? limit positive data.length k w).mp hk with ⟨hlt, rfl⟩
  exact h (k * limit) _ (by simp only [nth]; omega) (by simp only [nth]; omega)

end Window

namespace FileRequest

/-- The part of a file that holds this content. -/
def partOf (request : FileRequest) (data : Bytes) : FilePart :=
  .ofPieces request.name request.path request.header
    ((Window.plan request.maxWindow request.maxWindow_pos data.length 0).map
      (Window.content data))

/-- Wherever the windows are cut, they hold the content. -/
theorem flatten_windows_partOf (request : FileRequest) (data : Bytes) :
    (request.partOf data).windows.flatten = data :=
  Window.flatten_plan data request.maxWindow request.maxWindow_pos 0

/-- A file that can be mapped can be opened. -/
theorem openWith_eq_ok (request : FileRequest) (data : Bytes)
    (mapping : Nat → Nat → Except IoFault Bytes) (h : Window.Maps mapping data) :
    (request.openWith mapping data.length).result = .ok (request.partOf data) := by
  simp only [openWith, partOf,
    Window.readAll_plan request.path data mapping request.maxWindow request.maxWindow_pos h]

/-- A request whose path leads to a regular file gives a part. Its header is the
    one that was asked for and its windows hold the content, wherever they are
    cut. -/
theorem openIn_file (request : FileRequest) (tree : FileTree) (data : Bytes)
    (h : tree.lookUp request.path = .ok (.file data)) :
    ∃ file, (request.openIn tree).result = .ok file ∧ file.header = request.header
      ∧ file.windows.flatten = data := by
  have hopen := request.openWith_eq_ok data (Window.slice data) (Window.maps_slice data)
  refine ⟨request.partOf data, ?_, rfl, request.flatten_windows_partOf data⟩
  simp only [openIn, h, hopen]

end FileRequest

end FormData
