/-
  JobWatch.Proofs.DiskLaws
  ────────────────────────
  **WHAT IS WRITTEN AT A PATH IS READ AT IT.**

  A file is put where no directory is, so every path still leads through the
  directories through which it led before, and the path of the file leads to
  its new content:

      entry_put  — only the place of the file has changed
      enter_put  — directories are entered as before
      read_put   — what is put where a path leads is read at the path
-/
import JobWatch.Disk.Basic

namespace JobWatch

namespace Disk

/-! ## §1. Places. -/

theorem lookup_filter_ne {place other : Location} (h : other ≠ place)
    (files : List (Location × Bytes)) :
    (files.filter fun f => f.1 ≠ place).lookup other = files.lookup other := by
  induction files with
  | nil => rfl
  | cons f files ih =>
    obtain ⟨name, content⟩ := f
    by_cases hname : name = place
    · have hother : (other == name) = false := by simpa [hname] using h
      rw [List.filter_cons_of_neg (by simp [hname]), List.lookup_cons, hother]
      exact ih
    · rw [List.filter_cons_of_pos (by simpa using hname), List.lookup_cons, List.lookup_cons, ih]

/-- **Only the place of a file changes** when the file is put there. -/
theorem entry_put (d : Disk) (place : Location) (content : Bytes) (other : Location) :
    entry? (d.put place content) other
      = if other = place then some (.file content) else d.entry? other := by
  unfold entry? put
  by_cases h : other = place
  · rw [if_pos h, h, List.lookup_cons_self]
  · have hne : (other == place) = false := by simpa using h
    rw [if_neg h, List.lookup_cons, hne]
    simp only [lookup_filter_ne h]

/-! ## §2. Paths. -/

/-- **Directories are entered as before** when a file is put where no directory is. -/
theorem enter_put {d : Disk} {spot : Location} (h : d.entry? spot ≠ some .directory)
    (content : Bytes) (names : List FileName) {place dir : Location}
    (henter : d.enter place names = .ok dir) :
    (d.put spot content).enter place names = .ok dir := by
  induction names generalizing place with
  | nil => exact henter
  | cons name names ih =>
    rw [enter] at henter ⊢
    by_cases hself : name = Path.self
    · rw [if_pos hself] at henter ⊢
      exact ih henter
    rw [if_neg hself] at henter ⊢
    by_cases hparent : name = Path.parent
    · rw [if_pos hparent] at henter ⊢
      exact ih henter
    rw [if_neg hparent] at henter ⊢
    by_cases hlong : Path.nameLimit < name.length
    · rw [if_pos hlong] at henter
      exact absurd henter (by simp)
    rw [if_neg hlong] at henter ⊢
    -- what is entered is a directory, so it is not where the file was put
    cases hentry : d.entry? (place ++ [name]) with
    | none =>
      rw [hentry] at henter
      exact absurd henter (by simp)
    | some e =>
      rw [hentry] at henter
      cases e with
      | file old => exact absurd henter (by simp)
      | directory =>
        have hother : place ++ [name] ≠ spot := by
          rintro rfl
          exact h hentry
        rw [entry_put, if_neg hother, hentry]
        exact ih henter

theorem approach_put {d : Disk} {spot : Location} (h : d.entry? spot ≠ some .directory)
    (content : Bytes) {p : Path} {found : Location × Option FileName}
    (happroach : d.approach p = .ok found) : (d.put spot content).approach p = .ok found := by
  unfold approach at happroach ⊢
  cases henter : d.enter (if p.absolute then [] else d.here) p.names.dropLast with
  | error e =>
    rw [henter] at happroach
    exact absurd happroach (by simp [Except.map])
  | ok dir =>
    rw [henter] at happroach
    have hput := enter_put h content p.names.dropLast henter
    rw [show (d.put spot content).here = d.here from rfl, hput]
    exact happroach

/-- A file can be made at a path that leads through directories to a name, at which there is no
directory. -/
theorem spot_eq_ok {d : Disk} {p : Path} {place : Location} (h : d.spot p = .ok place) :
    ∃ dir name, d.approach p = .ok (dir, some name) ∧ place = dir ++ [name]
      ∧ p.slashed = false ∧ ¬ Path.nameLimit < name.length
      ∧ d.entry? place ≠ some .directory := by
  unfold spot at h
  split at h
  next => exact absurd h (by simp)
  next => exact absurd h (by simp)
  next dir name happroach =>
    by_cases hslashed : p.slashed = true
    · rw [if_pos hslashed] at h
      exact absurd h (by simp)
    rw [if_neg hslashed] at h
    by_cases hlong : Path.nameLimit < name.length
    · rw [if_pos hlong] at h
      exact absurd h (by simp)
    rw [if_neg hlong] at h
    by_cases hdir : d.entry? (dir ++ [name]) = some .directory
    · rw [if_pos hdir] at h
      exact absurd h (by simp)
    rw [if_neg hdir] at h
    obtain rfl := Except.ok.inj h
    exact ⟨dir, name, happroach, rfl, by simpa using hslashed, hlong, hdir⟩

/-- **What is put where a path leads is read at the path.** -/
theorem read_put {d : Disk} {p : Path} {place : Location} (h : d.spot p = .ok place)
    (content : Bytes) : (d.put place content).read p = .ok content := by
  obtain ⟨dir, name, happroach, rfl, hslashed, hlong, hdir⟩ := spot_eq_ok h
  have hput := approach_put hdir content happroach
  unfold read
  rw [hput]
  simp only
  rw [if_neg hlong, entry_put, if_pos rfl]
  simp only [hslashed, Bool.false_eq_true, if_false]

end Disk

end JobWatch
