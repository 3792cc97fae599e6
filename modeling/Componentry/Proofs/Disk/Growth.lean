import Componentry.Disk.Basic
import Mathlib.Data.List.Basic

/-!
# Growing disks

Commands add to a disk and take nothing away: a directory stays a directory, and a file stays a file
whose bytes may be others. So a path that leads to a location leads there ever after, though it may
lead somewhere now that it did not before.

* `Grows.locate`: paths lead to the same locations on a disk that has grown;
* `Furnishes`: a disk that has more directories and the same files;
* `furnishes_makeAll`, `write_eq_ok`: what making directories and writing a file do.
-/

namespace Componentry.Disk

variable {d e f : Disk} {at_ : Location} {p : Path}

/-! ### Looking up what was put -/

theorem find?_put_self (h : at_ ≠ []) (entry : DiskEntry) :
    (d.put at_ entry).find? at_ = some entry := by
  have hlookup : ∀ entries, (putEntry at_ entry entries).lookup at_ = some entry := by
    intro entries
    induction entries with
    | nil => simp [putEntry]
    | cons first entries ih =>
      obtain ⟨place, old⟩ := first
      by_cases hplace : place = at_
      · simp [putEntry, hplace]
      · simp [putEntry, hplace, List.lookup_cons, beq_false_of_ne (Ne.symm hplace), ih]
  simp [find?, put, h, hlookup]

theorem find?_put_of_ne {other : Location} (h : other ≠ at_) (entry : DiskEntry) :
    (d.put at_ entry).find? other = d.find? other := by
  have hlookup : ∀ entries, (putEntry at_ entry entries).lookup other = entries.lookup other := by
    intro entries
    induction entries with
    | nil => simp [putEntry, List.lookup_cons, beq_false_of_ne h]
    | cons first entries ih =>
      obtain ⟨place, old⟩ := first
      by_cases hplace : place = at_
      · simp [putEntry, hplace, List.lookup_cons, beq_false_of_ne h]
      · simp [putEntry, hplace, List.lookup_cons, ih]
  simp [find?, put, hlookup]

/-- Where there is no directory is not the root. -/
theorem ne_nil_of_find? (h : d.find? at_ ≠ some .directory) : at_ ≠ [] := by
  rintro rfl
  exact h rfl

/-! ### Growth -/

/-- What is on the disk `d` is on `e` too, though the bytes of a file may be others. -/
structure Grows (d e : Disk) : Prop where
  /-- Relative paths start where they did. -/
  workplace : e.workplace = d.workplace
  /-- A tilde stands for what it did. -/
  home : e.home = d.home
  /-- So does a tilde with the name of a user after it. -/
  homes : e.homes = d.homes
  /-- A directory stays one. -/
  directory : ∀ at_, d.find? at_ = some .directory → e.find? at_ = some .directory
  /-- A file stays one. -/
  file : ∀ at_ data, d.find? at_ = some (.file data) → ∃ data', e.find? at_ = some (.file data')

theorem Grows.refl (d : Disk) : d.Grows d :=
  ⟨rfl, rfl, rfl, fun _ h => h, fun _ data h => ⟨data, h⟩⟩

theorem Grows.trans (hde : d.Grows e) (hef : e.Grows f) : d.Grows f where
  workplace := hef.workplace.trans hde.workplace
  home := hef.home.trans hde.home
  homes := hef.homes.trans hde.homes
  directory at_ h := hef.directory at_ (hde.directory at_ h)
  file at_ data h := by
    obtain ⟨data', h'⟩ := hde.file at_ data h
    exact hef.file at_ data' h'

theorem Grows.enter (h : d.Grows e) {name : Text} {next : Location}
    (henter : d.enter at_ name = .ok next) : e.enter at_ name = .ok next := by
  -- a name is entered in a directory only, and that is still there
  rw [Disk.enter] at henter ⊢
  split at henter
  · cases henter
  · cases henter
  next hdirectory => rwa [h.directory at_ hdirectory]

theorem Grows.follow (h : d.Grows e) {names : List Text} {last : Location}
    (hfollow : d.follow at_ names = .ok last) : e.follow at_ names = .ok last := by
  induction names generalizing at_ with
  | nil => exact hfollow
  | cons name names ih =>
    rw [Disk.follow] at hfollow ⊢
    split at hfollow
    · cases hfollow
    next next hnext =>
      rw [h.enter hnext]
      exact ih hfollow

/-- A path that leads to a location leads there on a disk that has grown, too. -/
theorem Grows.locate (h : d.Grows e) (hlocate : d.locate p = .ok at_) : e.locate p = .ok at_ := by
  rw [Disk.locate] at hlocate ⊢
  split at hlocate
  · cases hlocate
  next hnull =>
    split at hlocate
    · cases hlocate
    next hlong =>
      split at hlocate
      · cases hlocate
      next last hfollow =>
        rw [if_neg hnull, if_neg hlong, h.workplace, h.follow hfollow]
        exact hlocate

theorem grows_put {entry : DiskEntry}
    (hdirectory : d.find? at_ = some .directory → entry = .directory)
    (hfile : ∀ data, d.find? at_ = some (.file data) → ∃ data', entry = .file data') :
    d.Grows (d.put at_ entry) where
  workplace := rfl
  home := rfl
  homes := rfl
  directory other h := by
    by_cases hroot : other = []
    · rw [hroot]; rfl
    by_cases hother : other = at_
    · subst hother
      rw [find?_put_self hroot, hdirectory h]
    · rw [find?_put_of_ne hother, h]
  file other data h := by
    have hroot : other ≠ [] := ne_nil_of_find? (d := d) (by simp [h])
    by_cases hother : other = at_
    · subst hother
      obtain ⟨data', rfl⟩ := hfile data h
      exact ⟨data', find?_put_self hroot _⟩
    · exact ⟨data, by rw [find?_put_of_ne hother, h]⟩

/-- A file can take the place of anything but a directory. -/
theorem grows_put_file (h : d.find? at_ ≠ some .directory) (data : List UInt8) :
    d.Grows (d.put at_ (.file data)) :=
  grows_put (fun hdirectory => absurd hdirectory h) fun _ _ => ⟨data, rfl⟩

/-! ### Making directories -/

/-- The disk `e` is `d` with more directories. -/
structure Furnishes (d e : Disk) : Prop where
  /-- Relative paths start where they did. -/
  workplace : e.workplace = d.workplace
  /-- A tilde stands for what it did. -/
  home : e.home = d.home
  /-- So does a tilde with the name of a user after it. -/
  homes : e.homes = d.homes
  /-- What is new is a directory where there was nothing. -/
  find : ∀ at_, e.find? at_ = d.find? at_ ∨ d.find? at_ = none ∧ e.find? at_ = some .directory

theorem Furnishes.refl (d : Disk) : d.Furnishes d :=
  ⟨rfl, rfl, rfl, fun _ => .inl rfl⟩

/-- What is there is as it was. -/
theorem Furnishes.find?_of_some (h : d.Furnishes e) {entry : DiskEntry}
    (hentry : d.find? at_ = some entry) : e.find? at_ = some entry := by
  rcases h.find at_ with hsame | ⟨hnone, -⟩
  · rw [hsame, hentry]
  · simp [hnone] at hentry

/-- Where there is nothing, there was nothing. -/
theorem Furnishes.find?_of_none (h : d.Furnishes e) (hnone : e.find? at_ = none) :
    d.find? at_ = none := by
  rcases h.find at_ with hsame | ⟨-, hdirectory⟩
  · rw [← hsame, hnone]
  · simp [hnone] at hdirectory

theorem Furnishes.grows (h : d.Furnishes e) : d.Grows e where
  workplace := h.workplace
  home := h.home
  homes := h.homes
  directory _ := h.find?_of_some
  file _ data hfile := ⟨data, h.find?_of_some hfile⟩

theorem Furnishes.trans (hde : d.Furnishes e) (hef : e.Furnishes f) : d.Furnishes f where
  workplace := hef.workplace.trans hde.workplace
  home := hef.home.trans hde.home
  homes := hef.homes.trans hde.homes
  find at_ := by
    rcases hde.find at_ with hsame | ⟨hnone, hdirectory⟩
    · rw [← hsame]
      exact hef.find at_
    · exact .inr ⟨hnone, hef.find?_of_some hdirectory⟩

theorem furnishes_makeDirectory (h : d.makeDirectory p = .ok e) : d.Furnishes e := by
  rw [makeDirectory] at h
  split at h
  · cases h
  next at_ hlocate =>
    split at h
    · cases h
    next hnone =>
      cases h
      refine ⟨rfl, rfl, rfl, fun other => ?_⟩
      by_cases hother : other = at_
      · subst hother
        exact .inr ⟨hnone, find?_put_self (ne_nil_of_find? (d := d) (by simp [hnone])) _⟩
      · exact .inl (find?_put_of_ne hother _)

theorem furnishes_ensureDirectory (h : d.ensureDirectory p = .ok e) : d.Furnishes e := by
  rw [ensureDirectory] at h
  split at h
  next made hmade =>
    cases h
    exact furnishes_makeDirectory hmade
  · split at h
    · cases h
      exact .refl d
    · cases h
  · cases h

theorem furnishes_ensureDirectories (root : Text) (names : List Text) (depth : Nat) (d : Disk) :
    d.Furnishes (ensureDirectories root names depth d).1 := by
  induction depth with
  | zero =>
    rw [ensureDirectories]
    split
    next made hmade => exact furnishes_ensureDirectory hmade
    next => exact .refl d
  | succ depth ih =>
    rw [ensureDirectories]
    split
    next made hmade => exact furnishes_makeDirectory hmade
    next =>
      -- the directory above is made first
      split
      next made error habove => simpa [habove] using ih
      next made habove =>
        have hmade : d.Furnishes made := by simpa [habove] using ih
        split
        next all hall => exact hmade.trans (furnishes_ensureDirectory hall)
        next => exact hmade
    next =>
      split
      next made hmade => exact furnishes_ensureDirectory hmade
      next => exact .refl d

/-- Making directories adds directories and nothing else. -/
theorem furnishes_makeAll (d : Disk) (p : Path) : d.Furnishes (d.makeAll p).1 :=
  furnishes_ensureDirectories p.root p.names p.names.length d

/-! ### Reading and writing files -/

/-- A file is written at the location that its path leads to, unless there is a directory. -/
theorem write_eq_ok {data : List UInt8} :
    d.write p data = .ok e ↔
      ∃ at_, d.locate p = .ok at_ ∧ d.find? at_ ≠ some .directory ∧ e = d.put at_ (.file data) := by
  rw [write]
  split
  next error hlocate => simp [hlocate]
  next at_ hlocate =>
    split
    next hdirectory => simp [hlocate, hdirectory]
    next hother =>
      have hne : d.find? at_ ≠ some .directory := hother
      constructor
      · intro hwritten
        exact ⟨at_, hlocate, hne, (Except.ok.inj hwritten).symm⟩
      · rintro ⟨other, hother, -, rfl⟩
        rw [Except.ok.inj (hlocate.symm.trans hother)]

theorem read_eq_ok {data : List UInt8} :
    d.read p = .ok data ↔ ∃ at_, d.locate p = .ok at_ ∧ d.find? at_ = some (.file data) := by
  rw [read, entryAt]
  cases hlocate : d.locate p with
  | error error => simp
  | ok at_ =>
    cases hfind : d.find? at_ with
    | none => simp [hfind]
    | some entry => cases entry <;> simp [hfind]

/-- A file holds what has been put in its place. -/
theorem read_put (hlocate : d.locate p = .ok at_) (h : d.find? at_ ≠ some .directory)
    (data : List UInt8) : (d.put at_ (.file data)).read p = .ok data :=
  read_eq_ok.2 ⟨at_, (grows_put_file h data).locate hlocate, find?_put_self (ne_nil_of_find? h) _⟩

theorem holds_eq_true : d.holds p = .ok true ↔ ∃ at_ entry, d.locate p = .ok at_ ∧
    d.find? at_ = some entry := by
  rw [holds, entryAt]
  cases hlocate : d.locate p with
  | error error => cases error with
    | nullInPath => simp
    | fault cause q => cases cause <;> simp
  | ok at_ => cases hfind : d.find? at_ <;> simp [hfind]

end Componentry.Disk
