import Componentry.Proofs.Disk.Growth
import Componentry.Session.Export

/-!
# Writing components

Writing a component first makes the directories on its way and then, if nothing stands against it,
puts one file in its place. A file that is there is replaced or refused, as the export says.

* `aim`: where a component goes, and the disk with the directories that are made for it;
* `writeTo_eq_ok`, `writeTo_of_occupied`: when a component is written, and when it is refused.
-/

namespace Componentry.Export

variable {e : Export} {conversion : Conversion} {source target : Path} {d : Disk}

/-- Where the component of the document `source` goes, or why it goes nowhere, and the disk with the
directories that are made for it. -/
def aim (e : Export) (conversion : Conversion) (source : Path) (disk : Disk) :
    Except ExportError Path × Disk :=
  match e.suffix with
  | .error error => (.error error, disk)
  | .ok suffix =>
    match e.directory disk source with
    | .error error => (.error error, disk)
    | .ok directory =>
      match disk.makeAll directory with
      | (made, some error) => (.error (.disk error), made)
      | (made, none) => (.ok (directory.join (conversion.name ++ suffix)), made)

theorem furnishes_aim (e : Export) (conversion : Conversion) (source : Path) (d : Disk) :
    d.Furnishes (e.aim conversion source d).2 := by
  rw [aim]
  split
  · exact .refl d
  · split
    · exact .refl d
    next directory _ =>
      have hmade := d.furnishes_makeAll directory
      split
      next hall => simpa [hall] using hmade
      next hall => simpa [hall] using hmade

/-- A component that goes somewhere is written there, if that is possible. -/
theorem write_eq (e : Export) (conversion : Conversion) (source : Path) (d : Disk) :
    e.write conversion source d =
      match e.aim conversion source d with
      | (.error error, made) => (.error error, made)
      | (.ok target, made) =>
        match e.writeTo conversion target made with
        | .error error => (.error error, made)
        | .ok written => (.ok target, written) := by
  rw [write, aim]
  cases e.suffix with
  | error error => rfl
  | ok suffix =>
    cases e.directory d source with
    | error error => rfl
    | ok directory =>
      dsimp only
      rcases d.makeAll directory with ⟨made, _ | error⟩ <;> rfl

/-- A component that meets no file that it may not replace is written as any file. -/
theorem writeTo_eq_ok_iff_write {after : Disk} {there : Bool} (hholds : d.holds target = .ok there)
    (hfree : there = true → e.overwrite = true) :
    e.writeTo conversion target d = .ok after ↔
      d.write target (Utf8.encode conversion.source) = .ok after := by
  have hoccupied : (there && !e.overwrite) = false := by
    cases there <;> simp [hfree]
  simp only [writeTo, hholds, hoccupied, Bool.false_eq_true, if_false]
  split
  next error hwrite => simp [hwrite]
  next written hwrite => simp [hwrite]

/-- A component is written where its path leads to, unless there is a directory, or a file that may
not be replaced. -/
theorem writeTo_eq_ok {after : Disk} :
    e.writeTo conversion target d = .ok after ↔
      ∃ at_, d.locate target = .ok at_ ∧ d.find? at_ ≠ some .directory ∧
        (e.overwrite = false → d.find? at_ = none) ∧
        after = d.put at_ (.file (Utf8.encode conversion.source)) := by
  constructor
  · intro h
    cases hholds : d.holds target with
    | error error => simp [writeTo, hholds] at h
    | ok there =>
      by_cases hfree : there = true → e.overwrite = true
      · obtain ⟨at_, hlocate, hfile, rfl⟩ :=
          Disk.write_eq_ok.1 ((writeTo_eq_ok_iff_write hholds hfree).1 h)
        refine ⟨at_, hlocate, hfile, fun hoff => ?_, rfl⟩
        -- something at the location would be there for the look at the path, too
        by_contra hsome
        obtain ⟨entry, hentry⟩ := Option.ne_none_iff_exists'.1 hsome
        have hthere := Disk.holds_eq_true.2 ⟨at_, entry, hlocate, hentry⟩
        have hon := hfree (Except.ok.inj (hholds.symm.trans hthere))
        simp [hoff] at hon
      · rw [Classical.not_imp, Bool.not_eq_true] at hfree
        simp [writeTo, hholds, hfree] at h
  · rintro ⟨at_, hlocate, hfile, hoff, rfl⟩
    have hwrite : d.write target (Utf8.encode conversion.source) = .ok _ :=
      Disk.write_eq_ok.2 ⟨at_, hlocate, hfile, rfl⟩
    cases hfind : d.find? at_ with
    | none =>
      have hholds : d.holds target = .ok false := by
        simp [Disk.holds, Disk.entryAt, hlocate, hfind]
      exact (writeTo_eq_ok_iff_write hholds (by simp)).2 hwrite
    | some entry =>
      have hholds := Disk.holds_eq_true.2 ⟨at_, entry, hlocate, hfind⟩
      refine (writeTo_eq_ok_iff_write hholds fun _ => ?_).2 hwrite
      by_contra hon
      simp [hoff (Bool.eq_false_iff.2 hon)] at hfind

/-- Where there is something already, no component is written unless files may be replaced. -/
theorem writeTo_of_occupied (hoff : e.overwrite = false) (hholds : d.holds target = .ok true) :
    e.writeTo conversion target d = .error (.occupied target) := by
  simp [writeTo, hholds, hoff]

end Componentry.Export
