import ImportBoundary.Proofs.Path.Steps

/-!
# The way to a file

A path leads along its pieces, each of them looked up in a directory. The pieces that lead nowhere can be
left out (`foldlM_filter_leads`), so two paths with the same steps lead to the same thing (`at_congr`).
-/

namespace ImportBoundary

open Text PathChars

namespace FileSystem

variable {fs : FileSystem}

/-- One can only go on from a directory. -/
theorem entry_of_step {route route' : Route} {piece : List Char}
    (h : fs.step route piece = .ok route') : fs.entry? route = some .directory := by
  unfold step at h
  split at h
  · cases h
  · cases h
  · assumption

theorem step_of_not_leads {route : Route} {piece : List Char}
    (directory : fs.entry? route = some .directory) (stays : leads piece = false) :
    fs.step route piece = .ok route := by
  simp only [step, directory, if_pos (eq_of_not_leads stays)]

/-- What succeeds has succeeded step by step. -/
theorem exists_of_bind {ε α β : Type} {x : Except ε α} {next : α → Except ε β} {b : β}
    (h : x >>= next = .ok b) : ∃ a, x = .ok a ∧ next a = .ok b := by
  cases x with
  | error e => cases h
  | ok a => exact ⟨a, rfl, h⟩

/-- The pieces of a path that lead nowhere can be left out. -/
theorem foldlM_filter_leads {ps : List (List Char)} {route route' : Route}
    (h : ps.foldlM fs.step route = .ok route') :
    (ps.filter leads).foldlM fs.step route = .ok route' := by
  induction ps generalizing route with
  | nil => exact h
  | cons piece ps ih =>
    rw [List.foldlM_cons] at h
    obtain ⟨middle, first, rest⟩ := exists_of_bind h
    cases leading : leads piece with
    | true =>
      rw [List.filter_cons_of_pos leading, List.foldlM_cons, first]
      exact ih rest
    | false =>
      cases first.symm.trans (step_of_not_leads (entry_of_step first) leading)
      rw [List.filter_cons_of_neg (Bool.eq_false_iff.mp leading)]
      exact ih rest

theorem entry_of_foldlM {ps : List (List Char)} {route route' : Route} (some_piece : ps ≠ [])
    (h : ps.foldlM fs.step route = .ok route') : fs.entry? route = some .directory := by
  cases ps with
  | nil => exact absurd rfl some_piece
  | cons piece ps =>
    rw [List.foldlM_cons] at h
    obtain ⟨middle, first, -⟩ := exists_of_bind h
    exact entry_of_step first

/-- On the way to a piece that leads somewhere, the pieces that lead nowhere make no difference. -/
theorem foldlM_leads_iff {ps : List (List Char)} {name : List Char} (leading : leads name = true)
    {route route' : Route} : (ps ++ [name]).foldlM fs.step route = .ok route' ↔
      ((ps ++ [name]).filter leads).foldlM fs.step route = .ok route' := by
  refine ⟨foldlM_filter_leads, ?_⟩
  induction ps generalizing route with
  | nil =>
    intro h
    rwa [List.nil_append, List.filter_cons_of_pos leading] at h
  | cons piece ps ih =>
    intro h
    rw [List.cons_append] at h ⊢
    rw [List.foldlM_cons]
    cases lead : leads piece with
    | true =>
      rw [List.filter_cons_of_pos lead, List.foldlM_cons] at h
      obtain ⟨middle, first, rest⟩ := exists_of_bind h
      rw [first]
      exact ih rest
    | false =>
      rw [List.filter_cons_of_neg (Bool.eq_false_iff.mp lead)] at h
      have some_piece : (ps ++ [name]).filter leads ≠ [] := by
        rw [List.filter_append, List.filter_cons_of_pos leading]
        exact List.append_ne_nil_of_right_ne_nil _ (List.cons_ne_nil _ _)
      rw [step_of_not_leads (entry_of_foldlM some_piece h) lead]
      exact ih h

/-- A path is walked from where it starts, and something has to stand at its end. -/
theorem follow_eq {p : String} (some_char : p.toList ≠ []) :
    fs.follow p = (pieces p.toList).foldlM fs.step (fs.startOf p.toList) >>= fun route =>
      if (fs.entry? route).isNone then .error .missing else .ok route := by
  unfold follow
  simp only [List.isEmpty_eq_false_iff.mpr some_char]
  rfl

theorem follow_rooted {p : String} (rooted : isRooted p.toList = true) :
    fs.follow p = (pieces p.toList).foldlM fs.step [] >>= fun route =>
      if (fs.entry? route).isNone then .error .missing else .ok route := by
  have some_char : p.toList ≠ [] := by
    intro empty
    rw [empty] at rooted
    cases rooted
  rw [follow_eq some_char, startOf, rooted, if_pos rfl]

/-- What a path leads to is reached piece by piece, and is there. -/
theorem follow_eq_ok_iff {p : String} {route : Route} : fs.follow p = .ok route ↔
    p.toList ≠ [] ∧ (pieces p.toList).foldlM fs.step (fs.startOf p.toList) = .ok route ∧
      (fs.entry? route).isSome = true := by
  constructor
  · intro leads
    have some_char : p.toList ≠ [] := by
      intro empty
      rw [follow, empty] at leads
      cases leads
    rw [follow_eq some_char] at leads
    obtain ⟨stop, walked, there⟩ := exists_of_bind leads
    split at there
    · cases there
    · next something =>
      cases there
      rw [Option.isNone_iff_eq_none, ← ne_eq, ← Option.isSome_iff_ne_none] at something
      exact ⟨some_char, walked, something⟩
  · rintro ⟨some_char, walked, there⟩
    rw [follow_eq some_char, walked]
    rw [Option.isSome_iff_ne_none, ne_eq, ← Option.isNone_iff_eq_none] at there
    exact if_neg there

theorem at_eq_some_iff {p : String} {e : Entry} :
    fs.at? p = some e ↔ ∃ route, fs.follow p = .ok route ∧ fs.entry? route = some e := by
  unfold at?
  cases fs.follow p with
  | error obstacle => simp
  | ok route => simp

/-- Two paths from the root lead to the same thing if their directories have the same steps. -/
theorem at_congr {p q : String} {ps qs : List (List Char)} {name : List Char}
    (leading : leads name = true) (pRooted : isRooted p.toList = true)
    (qRooted : isRooted q.toList = true) (pPieces : pieces p.toList = ps ++ [name])
    (qPieces : pieces q.toList = qs ++ [name]) (same : ps.filter leads = qs.filter leads) :
    fs.at? p = fs.at? q := by
  have some_char {r : String} (rooted : isRooted r.toList = true) : r.toList ≠ [] := by
    intro empty
    rw [empty] at rooted
    cases rooted
  have follow_iff (route : Route) : fs.follow p = .ok route ↔ fs.follow q = .ok route := by
    rw [follow_eq_ok_iff, follow_eq_ok_iff, startOf, startOf, if_pos pRooted, if_pos qRooted,
      pPieces, qPieces, foldlM_leads_iff leading, foldlM_leads_iff leading, List.filter_append,
      List.filter_append, same]
    simp only [ne_eq, some_char pRooted, some_char qRooted]
  refine Option.ext fun e => ?_
  rw [at_eq_some_iff, at_eq_some_iff]
  exact exists_congr fun route => and_congr_left fun _ => follow_iff route

theorem walk_of_follow {p : String} (rooted : isRooted p.toList = true) {route : Route}
    (h : fs.follow p = .ok route) : (pieces p.toList).foldlM fs.step [] = .ok route := by
  rw [follow_rooted rooted] at h
  obtain ⟨route', walked, h⟩ := exists_of_bind h
  split at h
  · cases h
  · cases h
    exact walked

theorem at_of_walk {p : String} (rooted : isRooted p.toList = true) {route : Route} {entry : Entry}
    (walked : (pieces p.toList).foldlM fs.step [] = .ok route)
    (there : fs.entry? route = some entry) : fs.at? p = some entry := by
  have followed : fs.follow p = .ok route := by
    rw [follow_rooted rooted, walked]
    exact if_neg (by simp [there])
  rw [at?, followed]
  exact there

end FileSystem

end ImportBoundary
