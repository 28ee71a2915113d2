import TwoStreamRecovery.Lib.Numerals
import Mathlib.Data.List.Infix

/-!
# Paths

* `components`: the names between the slashes of a path; `resolve`: the place a path leads to, from a
  current directory, where no name is a symbolic link.
* `dotDot_notMem_components`: a path without two consecutive dots has no component `..`.
* **`resolve_beneath`**: names other than `..` do not lead out of a directory.
-/

/-- The name of the parent directory. -/
def dotDot : CString := ['.', '.']

/-- The names between the slashes. -/
def components (path : CString) : List CString := path.splitOn '/'

/-- The place after one more name; a place is given by the names that lead to it from the root. -/
def walk (place : List CString) (name : CString) : List CString :=
  if name = [] ∨ name = ['.'] then place
  else if name = dotDot then place.dropLast
  else place ++ [name]

/-- The place a path leads to. -/
def resolve (cwd : List CString) (path : CString) : List CString :=
  (components path).foldl walk (if path.head? = some '/' then [] else cwd)

variable {path rest directory : CString} {cwd place : List CString}

theorem prefix_walk {name : CString} (hname : name ≠ dotDot) (place : List CString) :
    place <+: walk place name := by
  unfold walk
  split_ifs
  · exact List.prefix_refl place
  · exact List.prefix_append place [name]

/-- **Names other than `..` lead downwards.** -/
theorem prefix_foldl_walk {names : List CString} (hnames : dotDot ∉ names) (place : List CString) :
    place <+: names.foldl walk place := by
  induction names generalizing place with
  | nil => exact List.prefix_refl place
  | cons name rest ih =>
    have hname : name ≠ dotDot := fun h => hnames (h ▸ List.mem_cons_self)
    have hrest : dotDot ∉ rest := fun h => hnames (List.mem_cons_of_mem _ h)
    exact (prefix_walk hname place).trans (ih hrest _)

/-- A path below a directory continues from the place of the directory. -/
theorem resolve_append (hdirectory : directory ≠ []) (rest : CString) :
    resolve cwd (directory ++ '/' :: rest) = (components rest).foldl walk (resolve cwd directory) := by
  have hhead : (directory ++ '/' :: rest).head? = directory.head? :=
    List.head?_append_of_ne_nil _ hdirectory
  rw [resolve, resolve, hhead, components, List.splitOn_append_cons_self, List.foldl_append]
  rfl

/-- **A path below a directory stays in it** if none of its further names is `..`. -/
theorem resolve_beneath (hdirectory : directory ≠ []) (hrest : dotDot ∉ components rest) :
    resolve cwd directory <+: resolve cwd (directory ++ '/' :: rest) := by
  rw [resolve_append hdirectory]
  exact prefix_foldl_walk hrest _

theorem infix_intercalate {name separator : CString} {names : List CString} (h : name ∈ names) :
    name <:+: separator.intercalate names := by
  induction names with
  | nil => cases h
  | cons first rest ih =>
    by_cases hrest : rest = []
    · subst hrest
      rw [List.mem_singleton.mp h, List.intercalate_singleton]
    · rw [List.intercalate_cons_of_ne_nil hrest]
      rcases List.mem_cons.mp h with rfl | htail
      · rw [List.append_assoc]
        exact (List.prefix_append _ _).isInfix
      · exact (ih htail).trans (List.suffix_append _ _).isInfix

/-- A path without two consecutive dots has no component `..`. -/
theorem dotDot_notMem_components (h : ¬ dotDot <:+: path) : dotDot ∉ components path := by
  intro hmem
  have hpath : ['/'].intercalate (components path) = path := List.intercalate_splitOn '/'
  rw [← hpath] at h
  exact h (infix_intercalate hmem)
