import SourceLint.Proofs.Path.Relative
import SourceLint.SourceFile

/-!
# Paths — the relative path leads back

Reports, guards, groups and exclusions look at the path of a file behind the
root, so it has to name the same file: the root continued by it has the
components of the path. A path may spell doubled slashes, `.` and slashes at its
end, and so may the root, and the two need not agree in that.

Where the root does not lead to the path nothing is taken away. The path is
absolute then, and continuing the root by it gives the path itself.

* `components_join_relativeTo` — the root and what is left come to the path.
* `isAbsolute_relativeTo`      — what is left is relative.
* `names_relativeTo_join`      — the root is taken away from what it was put to.
* `isRelativeTo_ofPath`        — all of it, for the path in a source file.
-/

namespace SourceLint.Path

variable {p q root : Path}

-- ---------------------------------------------------------------------------
-- The components of absolute paths
-- ---------------------------------------------------------------------------

/-- Only a relative path can begin in `.`. -/
theorem here_not_mem_components (hp : p.isAbsolute = true) : .here ∉ p.components := by
  rw [components_of_isAbsolute hp, List.mem_cons, List.mem_filterMap]
  rintro (hRoot | ⟨m, -, hm⟩)
  · exact Component.noConfusion hRoot
  · exact stepComponent?_ne_here m hm

-- ---------------------------------------------------------------------------
-- What is left behind the root
-- ---------------------------------------------------------------------------

/-- What is left behind the root is a relative path. -/
theorem isAbsolute_relativeTo (hRoot : root.text ≠ "")
    (hPrefix : root.components <+: p.components) : (p.relativeTo root).isAbsolute = false := by
  rcases relativeTo_cases hRoot with ⟨-, hNotRoot⟩ | ⟨-, hNot⟩
  · rw [Bool.eq_false_iff]
    intro hAbs
    rw [components_of_isAbsolute hAbs] at hNotRoot
    exact hNotRoot (List.mem_cons_self ..)
  · exact absurd hPrefix hNot

/-- What the root does not lead to stays as it is. -/
theorem relativeTo_of_not_prefix (hRoot : root.text ≠ "")
    (hNot : ¬ root.components <+: p.components) : p.relativeTo root = p := by
  rcases relativeTo_cases hRoot with ⟨hSplit, -⟩ | ⟨hSame, -⟩
  · exact absurd ⟨_, hSplit.symm⟩ hNot
  · exact hSame

/-- **The relative path leads back**: behind the root it comes to the path. -/
theorem components_join_relativeTo (hRoot : root.text ≠ "") (hp : p.isAbsolute = true) :
    (root.join (p.relativeTo root)).components = p.components := by
  rcases relativeTo_cases hRoot with ⟨hSplit, hNotRoot⟩ | ⟨hSame, -⟩
  · have hNotHere : .here ∉ (p.relativeTo root).components := by
      intro hMem
      apply here_not_mem_components hp
      rw [hSplit]
      exact List.mem_append_right _ hMem
    obtain ⟨hRelative, hSteps⟩ := components_of_relative hNotRoot hNotHere
    rw [components_join hRoot hRelative, ← hSteps, ← hSplit]
  · rw [hSame, join, if_pos hp]

/-- **The root is taken away** from the names that it was continued by. -/
theorem names_relativeTo_join (hRoot : root.text ≠ "") {names : List String}
    (hNames : q.components = names.map .name) : ((root.join q).relativeTo root).names = names := by
  have hNotRoot : .root ∉ q.components := by simp [hNames]
  have hNotHere : .here ∉ q.components := by simp [hNames]
  obtain ⟨hRelative, hSteps⟩ := components_of_relative hNotRoot hNotHere
  have hJoined : (root.join q).components = root.components ++ names.map .name := by
    rw [components_join hRoot hRelative, ← hSteps, hNames]
  exact names_of_components (components_relativeTo hRoot hJoined)

-- ---------------------------------------------------------------------------
-- Source files
-- ---------------------------------------------------------------------------

/-- What it means to be the path of a file behind a root, or the path itself. -/
structure IsRelativeTo (path root rest : Path) : Prop where
  /-- Continued by it, the root comes to the path. -/
  leads_back : (root.join rest).components = path.components
  /-- Below the root it is what is left of the path. -/
  below : root.components <+: path.components →
    rest.isAbsolute = false ∧ path.components = root.components ++ rest.components
  /-- Elsewhere it is the path as it was written. -/
  elsewhere : ¬ root.components <+: path.components → rest = path
  /-- It has the names that the root was continued by. -/
  names_eq : ∀ (q : Path) (names : List String),
    q.components = names.map .name → path = root.join q → rest.names = names

/--
**The path in a source file is relative to the root**, however the two are
spelled. The root continued by it has the components of the path; a path below
the root leaves a relative path with the components behind those of the root,
any other path stays as it is written; and of the root continued by names these
names are left.
-/
theorem isRelativeTo_ofPath {path root : Path} (hRoot : root.text ≠ "")
    (hPath : path.isAbsolute = true) (kind : FileKind) (text : String) :
    IsRelativeTo path root (SourceFile.ofPath path root kind text).path where
  leads_back := components_join_relativeTo hRoot hPath
  below := by
    intro hPrefix
    obtain ⟨cs, hSplit⟩ := hPrefix
    have hRest : (path.relativeTo root).components = cs := components_relativeTo hRoot hSplit.symm
    refine ⟨isAbsolute_relativeTo hRoot ⟨cs, hSplit⟩, ?_⟩
    show path.components = root.components ++ (path.relativeTo root).components
    rw [hRest, hSplit]
  elsewhere := relativeTo_of_not_prefix hRoot
  names_eq := by
    rintro q names hNames rfl
    exact names_relativeTo_join hRoot hNames

/-- A header below a root, both spelled in a roundabout way, and one whose path
begins with the text of a root but not with its components. -/
theorem isRelativeTo_ofPath_repo :
    IsRelativeTo ⟨"//repo/.//lib/./graph.h/"⟩ ⟨"/./repo//"⟩ ⟨"lib/./graph.h"⟩ ∧
      (⟨"lib/./graph.h"⟩ : Path).names = ["lib", "graph.h"] ∧
      IsRelativeTo ⟨"/repo2/a.h"⟩ ⟨"/repo"⟩ ⟨"/repo2/a.h"⟩ := by
  have hBelow : IsRelativeTo ⟨"//repo/.//lib/./graph.h/"⟩ ⟨"/./repo//"⟩
      (SourceFile.ofPath ⟨"//repo/.//lib/./graph.h/"⟩ ⟨"/./repo//"⟩ .header "").path :=
    isRelativeTo_ofPath (by decide) (by decide) .header ""
  have hElsewhere : IsRelativeTo ⟨"/repo2/a.h"⟩ ⟨"/repo"⟩
      (SourceFile.ofPath ⟨"/repo2/a.h"⟩ ⟨"/repo"⟩ .header "").path :=
    isRelativeTo_ofPath (by decide) (by decide) .header ""
  have hRest : (SourceFile.ofPath ⟨"//repo/.//lib/./graph.h/"⟩ ⟨"/./repo//"⟩ .header "").path =
      ⟨"lib/./graph.h"⟩ := by
    decide +kernel
  have hNot : ¬ (⟨"/repo"⟩ : Path).components <+: (⟨"/repo2/a.h"⟩ : Path).components := by
    decide +kernel
  rw [hRest] at hBelow
  rw [hElsewhere.elsewhere hNot] at hElsewhere
  exact ⟨hBelow, by decide +kernel, hElsewhere⟩

end SourceLint.Path
