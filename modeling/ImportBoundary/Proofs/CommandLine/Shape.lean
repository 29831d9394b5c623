import ImportBoundary.Proofs.CommandLine.Visits

/-!
# Command lines and what files hold

Whether a command line is accepted, from which directories its patterns start and which sources it
visits depends on which files and directories there are, and not on what the files hold. A policy or a
list of edges depends only on what its own file holds.
-/

namespace ImportBoundary

/-! ## Documents -/

section

variable {fs fs' : FileSystem} {path : String}

theorem FileSystem.readText_congr (same : fs'.read path = fs.read path) :
    fs'.readText path = fs.readText path := by
  rw [FileSystem.readText, FileSystem.readText, same]

variable [Host]

/-- A policy that is read in the same way is the same policy. -/
theorem Policy.load_congr (h : fs.SameShape fs') (same : fs'.read path = fs.read path)
    (root : String) : Policy.load fs' path root = Policy.load fs path root := by
  rw [Policy.load, Policy.load, Policy.loadDocument, Policy.loadDocument,
    FileSystem.readText_congr same]
  rcases h.probe_cases path with probed | ⟨_, _, there, there'⟩
  · rw [probed]
  · rw [there, there']
    rfl

/-- A list of edges that is read in the same way is the same list. -/
theorem Edge.load_congr (h : fs.SameShape fs') (same : fs'.read path = fs.read path)
    (root : String) : Edge.load fs' path root = Edge.load fs path root := by
  rw [Edge.load, Edge.load, FileSystem.readText_congr same]
  rcases h.probe_cases path with probed | ⟨_, _, there, there'⟩
  · rw [probed]
  · rw [there, there']
    rfl

end

namespace CommandLine

open FileSystem

variable {fs fs' : FileSystem}

/-! ## Words -/

theorem Parameter.check_congr (p : Parameter) (h : fs.SameShape fs') (value : String) :
    p.check fs' value = p.check fs value := by
  have file : checkFile fs' value = checkFile fs value := by
    unfold checkFile
    rcases h.seen_cases value with ⟨there, there'⟩ | ⟨there, there'⟩ | ⟨_, _, there, there'⟩ <;>
      rw [there, there']
  cases p with
  | policy => exact file
  | policyFile => exact file
  | edges => exact file
  | root => simp only [Parameter.check, checkDirectory, h.isFile_eq]
  | packageRoot => simp only [Parameter.check, checkDirectory, h.isFile_eq]
  | sources => simp only [Parameter.check, checkThere, h.contains_eq]
  | _ => rfl

theorem checkWords_congr (h : fs.SameShape fs') (c : Command) (w : Words) :
    checkWords fs' c w = checkWords fs c w := by
  have parameter : checkParameter fs' c w = checkParameter fs c w := by
    funext p
    have values : (fun value => p.check fs' value) = fun value => p.check fs value :=
      funext fun value => p.check_congr h value
    rw [checkParameter, checkParameter, values]
  rw [checkWords, checkWords, parameter]

theorem IsAccepted.congr {arguments : List String} {w : Words} (h : fs.SameShape fs')
    (accepted : IsAccepted arguments fs w) : IsAccepted arguments fs' w where
  asked := accepted.asked
  untold := accepted.untold
  checked := (checkWords_congr h _ w).trans accepted.checked

/-! ## Directories and sources -/

theorem rootOf_congr (h : fs.SameShape fs') : rootOf fs' = rootOf fs := by
  funext root
  unfold rootOf
  cases root with
  | none => simp only [h.currentPath_eq]
  | some r => simp only [h.currentPath_eq, h.absolute_eq]

variable (s : CheckSettings)

theorem packagesAt_congr (h : fs.SameShape fs') : packagesAt s fs' = packagesAt s fs := by
  rw [packagesAt, packagesAt, rootOf_congr h]

theorem sourcesOf_congr (h : fs.SameShape fs') : sourcesOf fs' = sourcesOf fs := by
  funext path
  rw [sourcesOf, sourcesOf, h.absolute_eq, h.search_eq]

theorem visited_congr (h : fs.SameShape fs') : visited s fs' = visited s fs := by
  rw [visited, visited, sourcesOf_congr h]

/-- A source that is read in the same way is used in the same way. -/
theorem sourceUse_congr [Host] (h : fs.SameShape fs') {path : String}
    (same : fs'.read path = fs.read path) : sourceUse s fs' path = sourceUse s fs path := by
  rw [sourceUse, sourceUse, packagesAt_congr s h, Extraction.ofFile_congr h same]

end CommandLine

end ImportBoundary
