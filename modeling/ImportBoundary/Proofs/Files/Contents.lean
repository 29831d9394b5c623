import ImportBoundary.Files.Walk

/-!
# The contents of files

Where a path leads, and which sources a list of paths names, depends on which files and directories
there are, and not on what the files hold (`SameShape`). Emptying some files (`emptied`) therefore
changes what is read from them, and nothing else.
-/

namespace ImportBoundary

namespace Entry

def isFile : Entry → Bool
  | file _ => true
  | directory => false

/-- A file without its bytes; a directory as it is. -/
def emptied : Entry → Entry
  | file _ => file []
  | directory => directory

@[simp]
theorem isFile_emptied (e : Entry) : e.emptied.isFile = e.isFile := by
  cases e <;> rfl

end Entry

namespace FileSystem

/-- The same files and directories, whatever the files hold. -/
structure SameShape (fs gs : FileSystem) : Prop where
  current : gs.current = fs.current
  routes : gs.entries.map (·.1) = fs.entries.map (·.1)
  kinds : ∀ route, (gs.entry? route).map Entry.isFile = (fs.entry? route).map Entry.isFile

namespace SameShape

variable {fs gs : FileSystem}

/-- What stands at a route on both sides: nothing, a directory, or a file. -/
theorem entry_cases (h : fs.SameShape gs) (route : Route) :
    (fs.entry? route = none ∧ gs.entry? route = none) ∨
      (fs.entry? route = some .directory ∧ gs.entry? route = some .directory) ∨
      ∃ bytes bytes', fs.entry? route = some (.file bytes) ∧
        gs.entry? route = some (.file bytes') := by
  have kind := h.kinds route
  rcases entry : fs.entry? route with _ | _ | _ <;>
    rcases entry' : gs.entry? route with _ | _ | _ <;>
      rw [entry, entry'] at kind <;> simp [Entry.isFile] at kind ⊢

/-! ## Paths -/

theorem step_eq (h : fs.SameShape gs) (route : Route) (piece : List Char) :
    gs.step route piece = fs.step route piece := by
  unfold step
  rcases h.entry_cases route with ⟨entry, entry'⟩ | ⟨entry, entry'⟩ | ⟨_, _, entry, entry'⟩ <;>
    rw [entry, entry']

theorem follow_eq (h : fs.SameShape gs) (path : String) : gs.follow path = fs.follow path := by
  have steps : gs.step = fs.step := funext fun route => funext (h.step_eq route)
  have start : gs.startOf path.toList = fs.startOf path.toList := by
    rw [startOf, startOf, h.current]
  have stands (route : Route) : (gs.entry? route).isNone = (fs.entry? route).isNone := by
    rcases h.entry_cases route with ⟨entry, entry'⟩ | ⟨entry, entry'⟩ | ⟨_, _, entry, entry'⟩ <;>
      simp only [entry, entry', Option.isNone_none, Option.isNone_some]
  simp only [follow, steps, start, stands]

theorem at_cases (h : fs.SameShape gs) (path : String) :
    (fs.at? path = none ∧ gs.at? path = none) ∨
      (fs.at? path = some .directory ∧ gs.at? path = some .directory) ∨
      ∃ bytes bytes', fs.at? path = some (.file bytes) ∧ gs.at? path = some (.file bytes') := by
  unfold at?
  rw [h.follow_eq path]
  cases fs.follow path with
  | error obstacle => exact .inl ⟨rfl, rfl⟩
  | ok route => exact h.entry_cases route

theorem tooLong_eq (h : fs.SameShape gs) (path : String) : gs.tooLong path = fs.tooLong path := by
  have start : gs.startOf path.toList = fs.startOf path.toList := by
    rw [startOf, startOf, h.current]
  have directory (route : Route) :
      gs.entry? route = some .directory ↔ fs.entry? route = some .directory := by
    rcases h.entry_cases route with ⟨entry, entry'⟩ | ⟨entry, entry'⟩ | ⟨_, _, entry, entry'⟩ <;>
      simp [entry, entry']
  have looked : gs.lookUp = fs.lookUp :=
    funext fun route => funext fun piece => by simp only [lookUp, directory, h.step_eq]
  rw [tooLong, tooLong, looked, start]

theorem seen_cases (h : fs.SameShape gs) (path : String) :
    (fs.seen? path = none ∧ gs.seen? path = none) ∨
      (fs.seen? path = some .directory ∧ gs.seen? path = some .directory) ∨
      ∃ bytes bytes', fs.seen? path = some (.file bytes) ∧
        gs.seen? path = some (.file bytes') := by
  unfold seen?
  rw [h.tooLong_eq path]
  split
  · exact .inl ⟨rfl, rfl⟩
  · exact h.at_cases path

theorem probe_cases (h : fs.SameShape gs) (path : String) :
    gs.probe path = fs.probe path ∨
      ∃ bytes bytes', fs.probe path = .ok (some (.file bytes)) ∧
        gs.probe path = .ok (some (.file bytes')) := by
  unfold probe
  rw [h.tooLong_eq path]
  split
  · exact .inl rfl
  · rcases h.at_cases path with ⟨there, there'⟩ | ⟨there, there'⟩ | ⟨_, _, there, there'⟩ <;>
      simp [there, there']

theorem contains_eq (h : fs.SameShape gs) (path : String) :
    gs.contains path = fs.contains path := by
  unfold contains
  rcases h.seen_cases path with ⟨there, there'⟩ | ⟨there, there'⟩ | ⟨_, _, there, there'⟩ <;>
    simp only [there, there', Option.isSome_none, Option.isSome_some]

theorem isFile_eq (h : fs.SameShape gs) (path : String) : gs.isFile path = fs.isFile path := by
  unfold isFile
  rcases h.seen_cases path with ⟨there, there'⟩ | ⟨there, there'⟩ | ⟨_, _, there, there'⟩ <;>
    rw [there, there']

theorem currentPath_eq (h : fs.SameShape gs) : gs.currentPath = fs.currentPath := by
  rw [currentPath, currentPath, h.current]

theorem absolute_eq (h : fs.SameShape gs) (path : String) :
    gs.absolute path = fs.absolute path := by
  rw [absolute, absolute, h.currentPath_eq]

/-! ## Sources -/

theorem routesBelow_eq (h : fs.SameShape gs) (base : Route) :
    gs.routesBelow base = fs.routesBelow base := by
  rw [routesBelow, routesBelow, h.current, h.routes]

theorem sourcesAt_eq (h : fs.SameShape gs) (excluded : List String) (root : String) :
    gs.sourcesAt excluded root = fs.sourcesAt excluded root := by
  unfold sourcesAt
  rw [h.follow_eq]
  cases fs.follow root with
  | error obstacle => rfl
  | ok route =>
    simp only [h.routesBelow_eq]
    rcases h.entry_cases route with ⟨entry, entry'⟩ | ⟨entry, entry'⟩ | ⟨_, _, entry, entry'⟩ <;>
      rw [entry, entry']

theorem directoriesBelow_eq (h : fs.SameShape gs) (root : String) :
    gs.directoriesBelow root = fs.directoriesBelow root := by
  have directory (route : Route) :
      gs.entry? route = some .directory ↔ fs.entry? route = some .directory := by
    rcases h.entry_cases route with ⟨entry, entry'⟩ | ⟨entry, entry'⟩ | ⟨_, _, entry, entry'⟩ <;>
      simp [entry, entry']
  simp only [directoriesBelow, h.follow_eq, h.routesBelow_eq, directory]

theorem search_eq (h : fs.SameShape gs) (excluded : List String) (root : String) :
    gs.search excluded root = fs.search excluded root := by
  unfold search
  rw [h.directoriesBelow_eq, h.sourcesAt_eq]
  rcases h.probe_cases root with same | ⟨bytes, bytes', there, there'⟩
  · rw [same]
  · rw [there, there']
    rfl

end SameShape

/-- Two paths that lead to one file read the same. -/
theorem read_of_follow_eq {fs : FileSystem} {path other : String} {bytes : List UInt8}
    (same : fs.follow path = fs.follow other) (there : fs.read path = .ok bytes) :
    fs.read other = .ok bytes := by
  unfold read at there ⊢
  rw [← same]
  cases leads : fs.follow path with
  | error obstacle =>
    rw [leads] at there
    cases there
  | ok route =>
    rw [leads] at there
    rcases entry : fs.entry? route with _ | _ | _ <;> simp only [entry] at there ⊢
    · cases there
    · exact there
    · cases there

/-! ## Emptying files -/

/-- The file system with the files at some routes emptied. -/
def emptied (fs : FileSystem) (routes : List Route) : FileSystem :=
  { fs with entries := fs.entries.map fun e =>
      (e.1, if e.1 ∈ routes then e.2.emptied else e.2) }

variable (fs : FileSystem) (routes : List Route)

theorem lookup_emptied (entries : List (Route × Entry)) (route : Route) :
    (entries.map fun e => (e.1, if e.1 ∈ routes then e.2.emptied else e.2)).lookup route =
      (entries.lookup route).map fun e => if route ∈ routes then e.emptied else e := by
  induction entries with
  | nil => rfl
  | cons e rest ih =>
    rw [List.map_cons, List.lookup_cons, List.lookup_cons]
    cases here : route == e.1 with
    | true => rw [eq_of_beq here]; rfl
    | false => exact ih

theorem entry_emptied (route : Route) : entry? (fs.emptied routes) route =
    (fs.entry? route).map fun e => if route ∈ routes then e.emptied else e := by
  unfold entry? emptied
  rw [lookup_emptied]
  cases fs.entries.lookup route with
  | some e => rfl
  | none =>
    simp only [Option.map_none, List.any_map, Function.comp_def]
    split
    · simp only [Option.map_some, Entry.emptied, ite_self]
    · rfl

theorem sameShape_emptied : fs.SameShape (fs.emptied routes) where
  current := rfl
  routes := by
    rw [emptied, List.map_map]
    rfl
  kinds route := by
    rw [entry_emptied, Option.map_map]
    congr 1
    funext e
    simp only [Function.comp_apply]
    split
    · exact e.isFile_emptied
    · rfl

variable {fs routes}

/-- Nothing is left to be read in a file that has been emptied. -/
theorem read_emptied_of_mem {path : String} {bytes : List UInt8} {route : Route}
    (leads : fs.follow path = .ok route) (there : fs.read path = .ok bytes)
    (mem : route ∈ routes) : (fs.emptied routes).read path = .ok [] := by
  have followed := (fs.sameShape_emptied routes).follow_eq path
  unfold read at there ⊢
  rw [leads] at there followed
  rw [followed]
  simp only [entry_emptied, if_pos mem] at there ⊢
  cases entry : fs.entry? route with
  | none =>
    rw [entry] at there
    cases there
  | some e =>
    rw [entry] at there
    cases e with
    | file bytes => rfl
    | directory => cases there

/-- What is read from any other file stays. -/
theorem read_emptied_of_not_mem {path : String}
    (kept : ∀ route, fs.follow path = .ok route → route ∉ routes) :
    (fs.emptied routes).read path = fs.read path := by
  have followed := (fs.sameShape_emptied routes).follow_eq path
  unfold read
  rw [followed]
  cases leads : fs.follow path with
  | error obstacle => rfl
  | ok route =>
    have entry : entry? (fs.emptied routes) route = fs.entry? route := by
      simp only [entry_emptied, if_neg (kept route leads), Option.map_id']
    simp only [entry]

end FileSystem

end ImportBoundary
