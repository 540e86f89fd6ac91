import FormData.FileTree
import Mathlib.Data.List.DropRight

/-!
# Where Paths Lead

A path that leads to a file ends in the segment the file is found by.

A file is found by the steps of a path, and a segment that stays or goes up is a
step like any other. Such a step can only be taken in a directory, and it leads to
that directory or to the one above. So a walk that ends with one ends in a
directory, whatever was in front (`find?_of_walk`). Symbolic links change nothing
about this, since the steps of their target are put in front of those that are
left, and the last step is left until it is taken. A slash at the end is such a
step as well.

What remains is a path whose last segment is a name. It is the stretch behind the
last slash (`lastSegment`), and for these paths it is also what the path is read
as naming (`fileName?_of_mayBeFile`), although that reading goes by segments and
passes over dots. Any other path is read as naming a directory in front or nothing
at all, and it opens no file.

## Main definitions

* `Path.lastSegment`: What is behind the last slash.
* `Path.MayBeFile`: The last segment is a name.

## Theorems

* `Path.split_append_slash`: A path is cut at each of its slashes.
* `Path.fileName?_of_mayBeFile`: Such a path is named by its last segment.
* `FileTree.walkVia_cons`: What one step may lead to.
* `FileTree.find?_of_walk`: A walk that ends with a dot ends in a directory.
* `FileTree.mayBeFile_of_lookUp`: What leads to a file ends with a name.
-/

namespace FormData

namespace Path

/-- What is behind the last slash of a path, or all of it if there is none. -/
def lastSegment (path : Bytes) : Bytes :=
  path.rtakeWhile (· ≠ Bytes.slash)

/-- The last segment of a path is a name. The path is not empty, it does not end
    with a slash, and its last segment neither stays nor goes up. -/
structure MayBeFile (path : Bytes) : Prop where
  path_ne_nil : path ≠ []
  no_slash : path.getLast? ≠ some Bytes.slash
  ne_dot : lastSegment path ≠ dot
  ne_dotdot : lastSegment path ≠ dotdot

theorem slash_not_mem_lastSegment (path : Bytes) : Bytes.slash ∉ lastSegment path := by
  intro hmem
  have hne := List.mem_rtakeWhile_imp hmem
  exact absurd rfl (of_decide_eq_true hne)

/-- The last segment is all of a path, or a slash is in front of it. -/
theorem lastSegment_cases (path : Bytes) :
    path = lastSegment path ∨ ∃ front, path = front ++ Bytes.slash :: lastSegment path := by
  have hsplit := List.rdropWhile_append_rtakeWhile (p := (· ≠ Bytes.slash)) (l := path)
  by_cases hnil : path.rdropWhile (· ≠ Bytes.slash) = []
  · rw [hnil, List.nil_append] at hsplit
    exact Or.inl hsplit.symm
  · -- What is left in front ends where the segment stops, so with a slash.
    have hlast := List.rdropWhile_last_not _ _ hnil
    rw [decide_eq_true_eq, not_not] at hlast
    refine Or.inr ⟨(path.rdropWhile (· ≠ Bytes.slash)).dropLast, ?_⟩
    rw [← List.dropLast_append_getLast hnil, hlast, List.append_assoc] at hsplit
    exact hsplit.symm

theorem lastSegment_ne_nil (path : Bytes) (hne : path ≠ [])
    (hslash : path.getLast? ≠ some Bytes.slash) : lastSegment path ≠ [] := by
  intro hnil
  rcases lastSegment_cases path with heq | ⟨front, heq⟩
  · exact hne (heq.trans hnil)
  · rw [hnil] at heq
    rw [heq, List.getLast?_concat] at hslash
    exact hslash rfl

theorem split_cons_slash (rest : Bytes) : split (Bytes.slash :: rest) = [] :: split rest := by
  rw [split, if_pos rfl]

/-- A path is cut at each of its slashes. -/
theorem split_append_slash (front rest : Bytes) :
    split (front ++ Bytes.slash :: rest) = split front ++ split rest := by
  induction front with
  | nil => exact split_cons_slash rest
  | cons b front ih =>
      by_cases hb : b = Bytes.slash
      · rw [hb, List.cons_append, split_cons_slash, split_cons_slash, ih, List.cons_append]
      · rw [List.cons_append, split, split, if_neg hb, if_neg hb, ih]
        rcases hfront : split front with _ | ⟨stretch, others⟩
        · exact absurd hfront (split_ne_nil front)
        · rfl

theorem split_of_not_mem (segment : Bytes) (h : Bytes.slash ∉ segment) :
    split segment = [segment] := by
  induction segment with
  | nil => rfl
  | cons b rest ih =>
      rw [List.mem_cons, not_or] at h
      rw [split, if_neg (Ne.symm h.1), ih h.2]

/-- The last segment is the last stretch of a path. -/
theorem split_eq_append_lastSegment (path : Bytes) :
    ∃ front, split path = front ++ [lastSegment path] := by
  have hlast := split_of_not_mem _ (slash_not_mem_lastSegment path)
  rcases lastSegment_cases path with heq | ⟨front, heq⟩
  · refine ⟨[], ?_⟩
    rw [← heq] at hlast ⊢
    exact hlast
  · refine ⟨split front, ?_⟩
    have hcut := split_append_slash front (lastSegment path)
    rw [← heq, hlast] at hcut
    exact hcut

theorem segments_eq_append_lastSegment (path : Bytes) (h : lastSegment path ≠ []) :
    ∃ front, segments path = front ++ [lastSegment path] := by
  rcases split_eq_append_lastSegment path with ⟨front, heq⟩
  refine ⟨front.filter (· ≠ []), ?_⟩
  rw [segments, heq, List.filter_append, List.filter_singleton, decide_eq_true h, cond_true]

/-- Where the last segment is a name, that is what the path is read as naming. -/
theorem fileName?_of_mayBeFile (path : Bytes) (h : MayBeFile path) :
    fileName? path = some (lastSegment path) := by
  have hne := lastSegment_ne_nil path h.path_ne_nil h.no_slash
  rcases segments_eq_append_lastSegment path hne with ⟨front, heq⟩
  rw [fileName?, heq, List.filter_append, List.filter_singleton, decide_eq_true h.ne_dot,
    cond_true, List.getLast?_concat]
  exact if_neg h.ne_dotdot

/-- Where it is not, the last step stays or goes up. -/
theorem steps_of_not_mayBeFile (path : Bytes) (hne : path ≠ []) (h : ¬ MayBeFile path) :
    ∃ front final, steps path = front ++ [final] ∧ (final = dot ∨ final = dotdot) := by
  by_cases hslash : path.getLast? = some Bytes.slash
  · exact ⟨segments path, dot, by rw [steps, if_pos hslash], Or.inl rfl⟩
  · have hlast : lastSegment path = dot ∨ lastSegment path = dotdot := by
      by_cases hdot : lastSegment path = dot
      · exact Or.inl hdot
      · exact Or.inr (by_contra fun hdotdot => h ⟨hne, hslash, hdot, hdotdot⟩)
    rcases segments_eq_append_lastSegment path (lastSegment_ne_nil path hne hslash) with
      ⟨front, heq⟩
    exact ⟨front, lastSegment path, by rw [steps, if_neg hslash, heq, List.append_nil], hlast⟩

end Path

namespace FileTree

/-- What a directory lies in is a directory. The root lies in itself. -/
theorem find?_dropLast (tree : FileTree) (location : Location)
    (h : tree.find? location = some .directory) :
    tree.find? location.dropLast = some .directory := by
  by_cases hnil : location = []
  · rw [hnil, List.dropLast_nil, find?_nil]
  · have hpos := List.length_pos_iff.mpr hnil
    rw [List.dropLast_eq_take]
    exact find?_take h _ (by omega)

section Walk

variable (tree : FileTree) (follow : Location → List Bytes → Except OsError Location)

/-- What one step may lead to. It starts in a directory. It stays, or goes up, or
    what it finds is a link that others follow, or the walk goes on from there. -/
theorem walkVia_cons (here there : Location) (step : Bytes) (rest : List Bytes)
    (h : tree.walkVia follow here (step :: rest) = .ok there) :
    tree.find? here = some .directory
    ∧ (step = Path.dot ∧ tree.walkVia follow here rest = .ok there
      ∨ step = Path.dotdot ∧ tree.walkVia follow here.dropLast rest = .ok there
      ∨ step ≠ Path.dot ∧ step ≠ Path.dotdot
        ∧ ((∃ target, tree.find? (here ++ [step]) = some (.link target)
            ∧ follow (if Path.isAbsolute target then [] else here) (Path.steps target ++ rest)
              = .ok there)
          ∨ tree.walkVia follow (here ++ [step]) rest = .ok there)) := by
  by_cases hdir : tree.find? here = some .directory
  · refine ⟨hdir, ?_⟩
    rw [walkVia, if_neg (not_not.mpr hdir)] at h
    by_cases hdot : step = Path.dot
    · rw [if_pos hdot] at h
      exact Or.inl ⟨hdot, h⟩
    rw [if_neg hdot] at h
    by_cases hdotdot : step = Path.dotdot
    · rw [if_pos hdotdot] at h
      exact Or.inr (Or.inl ⟨hdotdot, h⟩)
    rw [if_neg hdotdot] at h
    refine Or.inr (Or.inr ⟨hdot, hdotdot, ?_⟩)
    by_cases hlong : Path.maxSegment < step.length
    · rw [if_pos hlong] at h
      cases h
    rw [if_neg hlong] at h
    split at h
    next => cases h
    next target hlink => exact Or.inl ⟨target, hlink, h⟩
    next => exact Or.inr h
  · rw [walkVia, if_pos hdir] at h
    cases h

/-- Between two links, a walk that ends with a step that stays or goes up ends in a
    directory, if those that follow the links do so too. The induction is on the
    steps in front of that one. -/
theorem find?_of_walkVia (final : Bytes) (hfinal : final = Path.dot ∨ final = Path.dotdot)
    (hfollow : ∀ here there steps, follow here (steps ++ [final]) = .ok there →
      tree.find? there = some .directory)
    (here there : Location) (steps : List Bytes)
    (h : tree.walkVia follow here (steps ++ [final]) = .ok there) :
    tree.find? there = some .directory := by
  induction steps generalizing here with
  | nil =>
      rcases walkVia_cons tree follow here there final [] h with
        ⟨hdir, ⟨-, hstay⟩ | ⟨-, hup⟩ | ⟨hdot, hdotdot, -⟩⟩
      · rw [← Except.ok.inj hstay]
        exact hdir
      · rw [← Except.ok.inj hup]
        exact find?_dropLast tree here hdir
      · exact absurd hfinal (not_or.mpr ⟨hdot, hdotdot⟩)
  | cons step rest ih =>
      rcases walkVia_cons tree follow here there step (rest ++ [final]) h with
        ⟨-, ⟨-, hstay⟩ | ⟨-, hup⟩ | ⟨-, -, ⟨target, -, hlink⟩ | hon⟩⟩
      · exact ih here hstay
      · exact ih here.dropLast hup
      · rw [← List.append_assoc] at hlink
        exact hfollow _ there _ hlink
      · exact ih (here ++ [step]) hon

end Walk

/-- A walk that ends with a step that stays or goes up ends in a directory, however
    many links it follows. -/
theorem find?_of_walk (tree : FileTree) (final : Bytes)
    (hfinal : final = Path.dot ∨ final = Path.dotdot) (links : Nat) (here there : Location)
    (steps : List Bytes) (h : tree.walk links here (steps ++ [final]) = .ok there) :
    tree.find? there = some .directory := by
  induction links generalizing here there steps with
  | zero =>
      refine find?_of_walkVia tree _ final hfinal ?_ here there steps h
      intro _ _ _ htoo
      cases htoo
  | succ links ih => exact find?_of_walkVia tree _ final hfinal ih here there steps h

/-- A path that leads to a file ends with a name. -/
theorem mayBeFile_of_lookUp (tree : FileTree) (path data : Bytes)
    (h : tree.lookUp path = .ok (.file data)) : Path.MayBeFile path := by
  by_contra hnot
  rw [lookUp] at h
  split at h
  next => cases h
  split at h
  next => cases h
  next location hresolve =>
    rw [resolve] at hresolve
    by_cases hnil : path = []
    · rw [if_pos hnil] at hresolve
      cases hresolve
    by_cases hlong : Path.maxLength < path.length
    · rw [if_neg hnil, if_pos hlong] at hresolve
      cases hresolve
    rw [if_neg hnil, if_neg hlong] at hresolve
    rcases Path.steps_of_not_mayBeFile path hnil hnot with ⟨front, final, hsteps, hfinal⟩
    rw [hsteps] at hresolve
    rw [find?_of_walk tree final hfinal _ _ location front hresolve] at h
    cases h

-- Answers are compared as options, since those can be decided.
theorem lookUp_of_toOption (tree : FileTree) (path : Bytes) (entry : FileTree.Entry)
    (h : (tree.lookUp path).toOption = some entry) : tree.lookUp path = .ok entry := by
  cases hfound : tree.lookUp path with
  | error cause =>
      rw [hfound] at h
      cases h
  | ok found =>
      rw [hfound] at h
      rw [Option.some.inj h]

end FileTree

end FormData
