import Componentry.Proofs.Session.Batch
import Componentry.Proofs.Session.Export
import Componentry.Proofs.Succession

/-!
# Turns of files

A command takes its files one after another. The turn of a file starts in the session that the file
before it has left, and the last turn is that of a file that ends the command, if there is one. A
turn makes directories at most, unless its component goes to a file: then it puts that file in its
place, which is a new one if files may not be replaced.

* `Job.turns`, `succession_turns`: the turns that a command takes;
* `Turn.spares_or_writes`: what a turn does to the disk;
* `Turn.after_eq`: what it does to the session;
* `reports_of_mem_turns`: a turn that fails is reported.
-/

namespace Componentry.Session

open CommandLine

/-- The turn of a file. -/
structure Turn where
  /-- What is to be done with the file. -/
  job : Job
  /-- The file. -/
  source : Path
  /-- The session that the files before it have left. -/
  before : Session

/-- A file that has been converted. -/
structure Delivery where
  /-- The file. -/
  source : Path
  /-- What its conversion has given. -/
  conversion : Conversion
  /-- The file that the component was written to, unless it was printed. -/
  file? : Option Path

/-- Where a component is to be written. -/
structure Goal where
  /-- The conversion. -/
  conversion : Conversion
  /-- The path of the component. -/
  path : Path
  /-- The disk with the directories that have been made for it. -/
  disk : Disk

namespace Delivery

/-- The record of the file. -/
def record (d : Delivery) : Record := recordOf d.source d.conversion d.file?

/-- The bytes of the component. -/
def data (d : Delivery) : List UInt8 := Utf8.encode d.conversion.source

/-- The component was written to a path that leads to the location `at_`. -/
def LiesAt (d : Delivery) (disk : Disk) (at_ : Location) : Prop :=
  d.file?.map disk.locate = some (.ok at_)
  deriving Decidable

theorem liesAt_iff {d : Delivery} {disk : Disk} {at_ : Location} :
    d.LiesAt disk at_ ↔ ∃ p, d.file? = some p ∧ disk.locate p = .ok at_ := by
  simp [LiesAt]

/-- A component lies in one place. -/
theorem LiesAt.unique {d : Delivery} {disk : Disk} {at_ other : Location}
    (h : d.LiesAt disk at_) (hother : d.LiesAt disk other) : at_ = other := by
  rw [LiesAt] at h hother
  simpa using h.symm.trans hother

/-- A component lies where it did when the disk has grown. -/
theorem LiesAt.grows {d : Delivery} {disk grown : Disk} {at_ : Location} (h : d.LiesAt disk at_)
    (hgrows : disk.Grows grown) : d.LiesAt grown at_ := by
  obtain ⟨p, hp, hlocate⟩ := liesAt_iff.1 h
  exact liesAt_iff.2 ⟨p, hp, hgrows.locate hlocate⟩

end Delivery

/-- The job may replace files. -/
def Job.mayReplace (job : Job) : Bool :=
  match job.destination with
  | .print => false
  | .file e => e.overwrite

namespace Turn

/-- What becomes of the file. -/
def fate (turn : Turn) : Fate := (turn.job.attemptOne turn.before turn.source).1

/-- The session after the turn. -/
def after (turn : Turn) : Session := (turn.job.attemptOne turn.before turn.source).2

/-- What converting the file leads to. -/
def attempt (turn : Turn) : Attempt := turn.job.attempt turn.source turn.before.disk

/-- The file as a converted one, if it has been converted. -/
def delivery? (turn : Turn) : Option Delivery :=
  match turn.attempt.result with
  | .ok (conversion, file?) => some ⟨turn.source, conversion, file?⟩
  | .error _ => none

/-- The conversion of the file, if it can be read and converted. -/
def conversion? (turn : Turn) : Option Conversion :=
  match turn.before.disk.read turn.source with
  | .error _ => none
  | .ok data =>
    let markup := Text.unifyNewlines (Utf8.decodeLenient data)
    let name := if turn.job.name.isEmpty then turn.source.stem else turn.job.name
    match Conversion.convert turn.job.settings markup name turn.job.styles turn.job.theme with
    | .error _ => none
    | .ok conversion => some conversion

/-- Where the component of the file is to be written, if there is a component that is not printed
and there are directories for it. -/
def goal? (turn : Turn) : Option Goal :=
  match turn.conversion?, turn.job.destination with
  | some conversion, .file e =>
    match e.aim conversion turn.source turn.before.disk with
    | (.ok path, disk) => some ⟨conversion, path, disk⟩
    | (.error _, _) => none
  | _, _ => none

variable {turn : Turn} {goal : Goal} {d : Delivery}

/-! ### What a turn does -/

theorem after_eq (turn : Turn) :
    turn.after =
      match turn.delivery? with
      | none => { turn.before with disk := turn.attempt.disk }
      | some d => { turn.before with disk := turn.attempt.disk }.record d.record d.conversion := by
  rw [after, delivery?]
  cases hresult : turn.attempt.result with
  | ok converted => rw [attemptOne_of_ok hresult]; rfl
  | error error => rw [attemptOne_of_error hresult]; rfl

theorem disk_after (turn : Turn) : turn.after.disk = turn.attempt.disk := by
  rw [after_eq]
  split <;> rfl

/-- A file is converted, and the conversion is delivered, or the file fails. -/
theorem attempt_cases (turn : Turn) :
    (turn.conversion? = none ∧ (∃ error, turn.attempt.result = .error error) ∧
        turn.attempt.disk = turn.before.disk) ∨
      ∃ conversion, turn.conversion? = some conversion ∧
        turn.attempt.result =
          (turn.job.deliver conversion turn.source turn.before.disk).result ∧
        turn.attempt.disk = (turn.job.deliver conversion turn.source turn.before.disk).disk := by
  rw [attempt, Job.attempt]
  cases hread : turn.before.disk.read turn.source with
  | error error => exact .inl ⟨by simp [conversion?, hread], ⟨_, rfl⟩, rfl⟩
  | ok data =>
    simp only [conversion?, hread]
    generalize Conversion.convert turn.job.settings (Text.unifyNewlines (Utf8.decodeLenient data))
      (if turn.job.name.isEmpty then turn.source.stem else turn.job.name) turn.job.styles
      turn.job.theme = result
    cases result with
    | error failure => exact .inl ⟨rfl, ⟨_, rfl⟩, rfl⟩
    | ok conversion => exact .inr ⟨conversion, rfl, rfl, rfl⟩

/-- A file without conversion fails, and leaves the disk as it is. -/
theorem attempt_of_conversion?_eq_none (h : turn.conversion? = none) :
    (∃ error, turn.attempt.result = .error error) ∧ turn.attempt.disk = turn.before.disk := by
  rcases turn.attempt_cases with ⟨-, hfails⟩ | ⟨conversion, hsome, -⟩
  · exact hfails
  · rw [h] at hsome
    cases hsome

/-- A conversion is delivered. -/
theorem attempt_of_conversion? {conversion : Conversion} (h : turn.conversion? = some conversion) :
    turn.attempt.result =
        (turn.job.deliver conversion turn.source turn.before.disk).result ∧
      turn.attempt.disk = (turn.job.deliver conversion turn.source turn.before.disk).disk := by
  rcases turn.attempt_cases with ⟨hnone, -⟩ | ⟨other, hsome, hdelivers⟩
  · rw [h] at hnone
    cases hnone
  · rw [h] at hsome
    obtain rfl := Option.some.inj hsome
    exact hdelivers

/-- What is delivered is the conversion of the file. -/
theorem conversion?_of_delivery? (h : turn.delivery? = some d) :
    turn.source = d.source ∧ turn.conversion? = some d.conversion := by
  cases hresult : turn.attempt.result with
  | error error => simp [delivery?, hresult] at h
  | ok converted =>
    obtain ⟨conversion, file?⟩ := converted
    rw [delivery?, hresult] at h
    obtain rfl := Option.some.inj h
    refine ⟨rfl, ?_⟩
    cases hconversion : turn.conversion? with
    | none =>
      obtain ⟨⟨error, herror⟩, -⟩ := attempt_of_conversion?_eq_none hconversion
      simp [hresult] at herror
    | some other =>
      -- delivering a conversion does not change it
      have hdelivered := (attempt_of_conversion? hconversion).1
      rw [hresult, Job.deliver] at hdelivered
      split at hdelivered
      · cases hdelivered
        rfl
      · split at hdelivered
        · cases hdelivered
          rfl
        · cases hdelivered

/-- Without a goal nothing is written. -/
theorem spares_of_goal?_eq_none (h : turn.goal? = none) :
    turn.before.disk.Furnishes turn.attempt.disk ∧
      ∀ d, turn.delivery? = some d → d.file? = none := by
  rw [delivery?]
  cases hconversion : turn.conversion? with
  | none =>
    obtain ⟨⟨error, herror⟩, hdisk⟩ := attempt_of_conversion?_eq_none hconversion
    simp [herror, hdisk, Disk.Furnishes.refl]
  | some conversion =>
    obtain ⟨hresult, hdisk⟩ := attempt_of_conversion? hconversion
    rw [hresult, hdisk, Job.deliver]
    cases hdestination : turn.job.destination with
    | print => exact ⟨.refl _, fun d hd => by cases hd; rfl⟩
    | file e =>
      -- directories may have been made before it is seen that there is no goal
      have hmade := e.furnishes_aim conversion turn.source turn.before.disk
      simp only [goal?, hconversion, hdestination] at h
      dsimp only
      rw [Export.write_eq]
      cases haim : e.aim conversion turn.source turn.before.disk with
      | mk target made =>
        rw [haim] at h hmade
        cases target with
        | ok path => cases h
        | error error => exact ⟨hmade, fun d hd => by cases hd⟩

/-- With a goal all depends on whether the component can be written there. -/
theorem attempt_of_goal? (h : turn.goal? = some goal) :
    ∃ e, turn.job.destination = .file e ∧ turn.before.disk.Furnishes goal.disk ∧
      match e.writeTo goal.conversion goal.path goal.disk with
      | .error error =>
        turn.attempt.result = .error (.unwritten error) ∧ turn.attempt.disk = goal.disk
      | .ok written =>
        turn.attempt.result = .ok (goal.conversion, some goal.path) ∧
          turn.attempt.disk = written := by
  rw [goal?] at h
  split at h
  next conversion e hconversion hdestination =>
    have hmade := e.furnishes_aim conversion turn.source turn.before.disk
    split at h
    next path disk haim =>
      cases h
      refine ⟨e, hdestination, by simpa [haim] using hmade, ?_⟩
      obtain ⟨hresult, hdisk⟩ := attempt_of_conversion? hconversion
      rw [hresult, hdisk, Job.deliver, hdestination]
      dsimp only
      rw [Export.write_eq, haim]
      dsimp only
      cases e.writeTo conversion path disk <;> exact ⟨rfl, rfl⟩
    next => cases h
  next => cases h

/-- The turn makes directories at most, and no component is written. -/
structure Spares (turn : Turn) : Prop where
  /-- What is new is a directory. -/
  disk : turn.before.disk.Furnishes turn.after.disk
  /-- There is no component, or it is printed. -/
  file : ∀ d, turn.delivery? = some d → d.file? = none

/-- The turn puts the component of the delivery `d` at the location `at_`, once the directories on
the way are there, as they are on the disk `made`. -/
structure Writes (turn : Turn) (d : Delivery) (made : Disk) (at_ : Location) : Prop where
  /-- What is new before the component is written is a directory. -/
  furnishes : turn.before.disk.Furnishes made
  /-- The file has been converted. -/
  delivery : turn.delivery? = some d
  /-- Its component goes to the location. -/
  liesAt : d.LiesAt made at_
  /-- There is no directory. -/
  noDirectory : made.find? at_ ≠ some .directory
  /-- There is nothing at all if files may not be replaced. -/
  free : turn.job.mayReplace = false → made.find? at_ = none
  /-- The component is the only new file. -/
  disk : turn.after.disk = made.put at_ (.file d.data)

theorem spares_or_writes (turn : Turn) :
    turn.Spares ∨ ∃ d made at_, turn.Writes d made at_ := by
  cases hgoal : turn.goal? with
  | none =>
    obtain ⟨hdisk, hfile⟩ := spares_of_goal?_eq_none hgoal
    exact .inl ⟨by rwa [disk_after], hfile⟩
  | some goal =>
    obtain ⟨e, hdestination, hmade, hwrite⟩ := attempt_of_goal? hgoal
    split at hwrite
    next error _ =>
      refine .inl ⟨by rwa [disk_after, hwrite.2], ?_⟩
      simp [delivery?, hwrite.1]
    next written hwritten =>
      obtain ⟨at_, hlocate, hdirectory, hfree, rfl⟩ := Export.writeTo_eq_ok.1 hwritten
      refine .inr ⟨⟨turn.source, goal.conversion, some goal.path⟩, goal.disk, at_, hmade, ?_,
        Delivery.liesAt_iff.2 ⟨goal.path, rfl, hlocate⟩, hdirectory, ?_, ?_⟩
      · simp [delivery?, hwrite.1]
      · simpa [Job.mayReplace, hdestination] using hfree
      · rw [disk_after, hwrite.2]
        rfl

theorem Writes.grows {made : Disk} {at_ : Location} (h : turn.Writes d made at_) :
    made.Grows turn.after.disk := by
  rw [h.disk]
  exact Disk.grows_put_file h.noDirectory d.data

/-- Turns take nothing away from the disk. -/
theorem grows (turn : Turn) : turn.before.disk.Grows turn.after.disk := by
  obtain hspares | ⟨d, made, at_, hwrites⟩ := turn.spares_or_writes
  · exact hspares.disk.grows
  · exact hwrites.furnishes.grows.trans hwrites.grows

/-- A component that is not printed is in its place after the turn. -/
theorem writes_of_delivery? (h : turn.delivery? = some d) {p : Path} (hp : d.file? = some p) :
    ∃ made at_, turn.Writes d made at_ := by
  obtain hspares | ⟨other, made, at_, hwrites⟩ := turn.spares_or_writes
  · simp [hspares.file d h] at hp
  · obtain rfl := Option.some.inj (h.symm.trans hwrites.delivery)
    exact ⟨made, at_, hwrites⟩

theorem failed_iff : turn.fate.failed = true ↔ turn.delivery? = none := by
  rw [fate, Fate.failed, delivery?]
  cases hresult : turn.attempt.result with
  | ok converted => rw [attemptOne_of_ok hresult]; simp
  | error error => rw [attemptOne_of_error hresult]; simp

theorem result_fate_of_error {error : FileError} (h : turn.attempt.result = .error error) :
    turn.fate.result = .error error := by
  rw [fate, attemptOne_of_error h]

end Turn

/-! ### The turns of a command -/

/-- The turns of the files up to one that ends the command. -/
def Job.turns (job : Job) (s : Session) : List Path → List Turn
  | [] => []
  | source :: sources =>
    let first : Turn := ⟨job, source, s⟩
    if first.fate.Stops then [first] else first :: job.turns first.after sources

variable {job : Job} {s : Session} {files : List Path}

theorem job_of_mem_turns {turn : Turn} (h : turn ∈ job.turns s files) : turn.job = job := by
  induction files generalizing s with
  | nil => simp [Job.turns] at h
  | cons source files ih =>
    rw [Job.turns] at h
    split at h
    · simp_all
    · rcases List.mem_cons.1 h with rfl | h
      · rfl
      · exact ih h

/-- The turns of a command lead from the session before it to the session after it. -/
theorem succession_turns (failed : Bool) (s : Session) (files : List Path) :
    Succession Turn.before Turn.after s (job.turns s files)
      (job.convertAll failed s files).state := by
  induction files generalizing failed s with
  | nil => exact .nil s
  | cons source files ih =>
    rw [Job.turns]
    split
    next hstops =>
      obtain ⟨error, -, -, hrun⟩ := convertAll_cons_of_stops failed files hstops
      rw [hrun]
      exact .cons rfl (.nil _)
    next hgoes =>
      rw [convertAll_cons_of_not_stops hgoes]
      exact .cons rfl (ih _ _)

/-- A command does not succeed once a file has failed. -/
theorem convertAll_true (s : Session) (files : List Path) :
    (job.convertAll true s files).answer = answerCode 1 ∨
      ∃ message, (job.convertAll true s files).answer = .failure message := by
  induction files generalizing s with
  | nil => exact .inl rfl
  | cons source files ih =>
    by_cases hstops : (job.attemptOne s source).1.Stops
    · obtain ⟨error, -, -, hrun⟩ := convertAll_cons_of_stops true files hstops
      exact .inr ⟨error.message, by rw [hrun]⟩
    · rw [convertAll_cons_of_not_stops hstops, Bool.true_or]
      exact ih _

/-- A file that fails without ending the command has its lines, and the command does not
succeed. -/
theorem reports_of_mem_turns {turn : Turn} {error : FileError} (failed : Bool)
    (hturn : turn ∈ job.turns s files) (herror : turn.attempt.result = .error error)
    (hlocal : error.isLocal = true) :
    localFailureOutputs turn.source error <:+: (job.convertAll failed s files).outputs ∧
      ((job.convertAll failed s files).answer = answerCode 1 ∨
        ∃ message, (job.convertAll failed s files).answer = .failure message) := by
  induction files generalizing failed s with
  | nil => simp [Job.turns] at hturn
  | cons source files ih =>
    rw [Job.turns] at hturn
    split at hturn
    next hstops =>
      -- the only turn is one that ends the command
      rw [List.mem_singleton] at hturn
      subst hturn
      obtain ⟨other, hother, hends⟩ := hstops
      have hsame := (Turn.result_fate_of_error herror).symm.trans hother
      rw [← Except.error.inj hsame, FileError.stops_iff, hlocal] at hends
      cases hends
    next hgoes =>
      rw [convertAll_cons_of_not_stops hgoes]
      rcases List.mem_cons.1 hturn with rfl | hturn
      · have hfate := Turn.result_fate_of_error herror
        have hfailed : (job.attemptOne s source).1.failed = true := by
          rw [Fate.failed]
          rw [Turn.fate] at hfate
          simp [hfate]
        refine ⟨?_, ?_⟩
        · have hshown : (job.attemptOne s source).1.shown =
              (job.attemptOne s source).1.outputs ++ localFailureOutputs source error := by
            rw [Fate.shown, source_attemptOne]
            rw [Turn.fate] at hfate
            simp [hfate]
          rw [hshown]
          exact ⟨_, _, rfl⟩
        · rw [hfailed, Bool.or_true]
          exact convertAll_true _ _
      · obtain ⟨houtputs, hanswer⟩ := ih _ hturn
        exact ⟨houtputs.trans (List.suffix_append _ _).isInfix, hanswer⟩

end Componentry.Session
