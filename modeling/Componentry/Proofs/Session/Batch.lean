import Componentry.Session.Shell
import Mathlib.Data.List.Basic

/-!
# Batches of files

The conversion command is given several files and takes them one after another. In a batch without
interruption every file is attempted on the session that the files before it have left, and has a
record in the history or a line that says why it has none. The command comes to that unless a file
meets an error that ends it.

* `Job.attemptAll`: the batch without interruption;
* `FileError.Stops`: the errors that end the command;
* `isolates_files_iff`: when the command is such a batch, and its exit code in any case.
-/

namespace Componentry.Session

open CommandLine

/-! ### Batches without interruption -/

/-- What becomes of a file. -/
structure Fate where
  /-- The file. -/
  source : Path
  /-- What attempting it has made visible. -/
  outputs : List Output
  /-- The record of its conversion, or why there is none. -/
  result : Except FileError Record

namespace Fate

/-- The file has not been converted. -/
def failed (fate : Fate) : Bool :=
  match fate.result with
  | .ok _ => false
  | .error _ => true

/-- The record of the file, if it has been converted. -/
def record? (fate : Fate) : Option Record := fate.result.toOption

/-- What becomes visible of the file: at last a line on its record, or on why it has none. -/
def shown (fate : Fate) : List Output :=
  fate.outputs ++
    match fate.result with
    | .ok record => successOutputs record
    | .error error => localFailureOutputs fate.source error

end Fate

/-- A file is attempted: what becomes of it, and the session after it. -/
def Job.attemptOne (job : Job) (s : Session) (source : Path) : Fate × Session :=
  let attempt := job.attempt source s.disk
  let after := { s with disk := attempt.disk }
  match attempt.result with
  | .ok (conversion, file?) =>
    let r := recordOf source conversion file?
    (⟨source, attempt.outputs, .ok r⟩, after.record r conversion)
  | .error error => (⟨source, attempt.outputs, .error error⟩, after)

/-- Files are attempted in order, whatever becomes of those before them. -/
def Job.attemptAll (job : Job) (s : Session) : List Path → List Fate × Session
  | [] => ([], s)
  | source :: sources =>
    let first := job.attemptOne s source
    let rest := job.attemptAll first.2 sources
    (first.1 :: rest.1, rest.2)

/-- A run has attempted all files in order. It fails exactly if one of them has not been
converted. -/
structure Isolates (job : Job) (s : Session) (files : List Path) (done : Run Session) : Prop where
  /-- The session is the one that the last file has left. -/
  state : done.state = (job.attemptAll s files).2
  /-- Of each file its own lines are visible. -/
  outputs : done.outputs = (job.attemptAll s files).1.flatMap Fate.shown
  /-- The exit code tells whether a file has failed. -/
  code : done.code = if (job.attemptAll s files).1.any Fate.failed then 1 else 0

/-- The error ends the command: the file cannot be converted, a path holds the null character, the
extension of the components is no text, or their directory is in the home of a user who is not
known. -/
inductive FileError.Stops : FileError → Prop
  | unconverted (failure : Conversion.Failure) : Stops (.unconverted failure)
  | nullInSource : Stops (.unread .nullInPath)
  | nullInTarget : Stops (.unwritten (.disk .nullInPath))
  | extension (type : Text) : Stops (.unwritten (.extension type))
  | home : Stops (.unwritten .home)

/-- The file meets an error that ends the command. -/
def Fate.Stops (fate : Fate) : Prop := ∃ error, fate.result = .error error ∧ error.Stops

theorem FileError.stops_iff {error : FileError} : error.Stops ↔ error.isLocal = false := by
  constructor
  · intro h
    cases h <;> rfl
  · intro h
    match error, h with
    | .unread .nullInPath, _ => exact .nullInSource
    | .unwritten (.disk .nullInPath), _ => exact .nullInTarget
    | .unwritten (.extension type), _ => exact .extension type
    | .unwritten .home, _ => exact .home
    | .unconverted failure, _ => exact .unconverted failure

instance (fate : Fate) : Decidable fate.Stops :=
  match h : fate.result with
  | .ok _ => .isFalse fun ⟨_, herror, _⟩ => nomatch h.symm.trans herror
  | .error error =>
    decidable_of_iff (error.isLocal = false)
      ⟨fun hstops => ⟨error, h, FileError.stops_iff.2 hstops⟩, fun ⟨error', herror, hstops⟩ => by
        rw [Except.error.inj (h.symm.trans herror)]
        exact FileError.stops_iff.1 hstops⟩

/-! ### What the files leave -/

variable {job : Job}

theorem attemptOne_of_ok {s : Session} {source : Path} {conversion : Conversion}
    {file? : Option Path} (h : (job.attempt source s.disk).result = .ok (conversion, file?)) :
    job.attemptOne s source =
      (⟨source, (job.attempt source s.disk).outputs, .ok (recordOf source conversion file?)⟩,
        { s with disk := (job.attempt source s.disk).disk }.record
          (recordOf source conversion file?) conversion) := by
  rw [Job.attemptOne]
  dsimp only
  rw [h]

theorem attemptOne_of_error {s : Session} {source : Path} {error : FileError}
    (h : (job.attempt source s.disk).result = .error error) :
    job.attemptOne s source =
      (⟨source, (job.attempt source s.disk).outputs, .error error⟩,
        { s with disk := (job.attempt source s.disk).disk }) := by
  rw [Job.attemptOne]
  dsimp only
  rw [h]

theorem source_attemptOne (s : Session) (source : Path) :
    (job.attemptOne s source).1.source = source := by
  rw [Job.attemptOne]
  split <;> rfl

theorem history_attemptOne (s : Session) (source : Path) :
    (job.attemptOne s source).2.history =
      s.history ++ (job.attemptOne s source).1.record?.toList := by
  rw [Job.attemptOne]
  split
  · rfl
  · exact (List.append_nil _).symm

/-- Every file is attempted, in order. -/
theorem sources_attemptAll (s : Session) (files : List Path) :
    (job.attemptAll s files).1.map Fate.source = files := by
  induction files generalizing s with
  | nil => rfl
  | cons source files ih => rw [Job.attemptAll, List.map_cons, ih, source_attemptOne]

/-- The history grows by the records of the files that have been converted, in order. -/
theorem history_attemptAll (s : Session) (files : List Path) :
    (job.attemptAll s files).2.history =
      s.history ++ (job.attemptAll s files).1.filterMap Fate.record? := by
  induction files generalizing s with
  | nil => exact (List.append_nil _).symm
  | cons source files ih =>
    rw [Job.attemptAll]
    dsimp only
    rw [ih, history_attemptOne, List.append_assoc]
    cases hrecord : (job.attemptOne s source).1.record? with
    | none => rw [List.filterMap_cons_none hrecord]; rfl
    | some r => rw [List.filterMap_cons_some hrecord]; rfl

/-! ### Running the files -/

/-- A file that does not end the command leaves its session to the files after it. -/
theorem convertAll_cons_of_not_stops {failed : Bool} {s : Session} {source : Path}
    {files : List Path} (h : ¬ (job.attemptOne s source).1.Stops) :
    job.convertAll failed s (source :: files) =
      { job.convertAll (failed || (job.attemptOne s source).1.failed)
          (job.attemptOne s source).2 files with
        outputs := (job.attemptOne s source).1.shown ++
          (job.convertAll (failed || (job.attemptOne s source).1.failed)
            (job.attemptOne s source).2 files).outputs } := by
  rw [Job.convertAll]
  dsimp only
  cases hresult : (job.attempt source s.disk).result with
  | ok converted =>
    obtain ⟨conversion, file?⟩ := converted
    rw [attemptOne_of_ok hresult]
    dsimp only [Fate.failed]
    rw [Bool.or_false]
    rfl
  | error error =>
    rw [attemptOne_of_error hresult] at h ⊢
    -- an error that does not end the command is local
    have hlocal : error.isLocal = true := by
      by_contra hstops
      exact h ⟨error, rfl, FileError.stops_iff.2 (Bool.eq_false_iff.2 hstops)⟩
    dsimp only [Fate.failed]
    rw [if_pos hlocal, Bool.or_true]
    rfl

/-- A file that ends the command leaves nothing to those after it. -/
theorem convertAll_cons_of_stops {s : Session} {source : Path} (failed : Bool)
    (files : List Path) (h : (job.attemptOne s source).1.Stops) :
    ∃ error : FileError,
      (job.attemptOne s source).1.shown =
        (job.attemptOne s source).1.outputs ++ localFailureOutputs source error ∧
      (job.attemptOne s source).1.failed = true ∧
      job.convertAll failed s (source :: files) =
        ⟨.failure error.message, (job.attemptOne s source).2,
          (job.attemptOne s source).1.outputs⟩ := by
  obtain ⟨error, herror, hstops⟩ := h
  refine ⟨error, ?_, ?_, ?_⟩
  · rw [Fate.shown, herror, source_attemptOne]
  · rw [Fate.failed, herror]
  · cases hresult : (job.attempt source s.disk).result with
    | ok converted =>
      rw [attemptOne_of_ok hresult] at herror
      cases herror
    | error error' =>
      rw [attemptOne_of_error hresult] at herror ⊢
      cases herror
      have hended : ¬ error.isLocal = true := by
        rw [FileError.stops_iff.1 hstops]
        exact Bool.false_ne_true
      rw [Job.convertAll]
      dsimp only
      rw [hresult]
      dsimp only
      rw [if_neg hended]

/-- Files none of which ends the command are all attempted. -/
theorem convertAll_of_forall_not_stops {failed : Bool} {s : Session} {files : List Path}
    (h : ∀ fate ∈ (job.attemptAll s files).1, ¬ fate.Stops) :
    job.convertAll failed s files =
      ⟨answerCode (if failed || (job.attemptAll s files).1.any Fate.failed then 1 else 0),
        (job.attemptAll s files).2, (job.attemptAll s files).1.flatMap Fate.shown⟩ := by
  -- `failed` tells of the files before these, `s` is the session that they have left
  induction files generalizing failed s with
  | nil => rw [Job.convertAll, Job.attemptAll, List.any_nil, Bool.or_false, List.flatMap_nil]
  | cons source files ih =>
    rw [Job.attemptAll] at h ⊢
    rw [List.forall_mem_cons] at h
    rw [convertAll_cons_of_not_stops h.1, ih h.2, List.any_cons, List.flatMap_cons, Bool.or_assoc]

/-- A file that ends the command does so before any line of its own is visible. -/
theorem convertAll_of_exists_stops {s : Session} {files : List Path} (failed : Bool)
    (h : ∃ fate ∈ (job.attemptAll s files).1, fate.Stops) :
    (job.attemptAll s files).1.any Fate.failed = true ∧
      ∃ message after outputs source error more,
        job.convertAll failed s files = ⟨.failure message, after, outputs⟩ ∧
        (job.attemptAll s files).1.flatMap Fate.shown =
          outputs ++ (localFailureOutputs source error ++ more) := by
  induction files generalizing failed s with
  | nil =>
    obtain ⟨fate, hfate, -⟩ := h
    cases hfate
  | cons source files ih =>
    rw [Job.attemptAll] at h ⊢
    rw [List.any_cons, List.flatMap_cons]
    by_cases hfirst : (job.attemptOne s source).1.Stops
    · -- what the batch shows next is the line of this file, which the command does not show
      obtain ⟨error, hshown, hfailed, hrun⟩ :=
        convertAll_cons_of_stops failed files hfirst
      exact ⟨by rw [hfailed, Bool.true_or], _, _, _, source, error, _, hrun,
        by rw [hshown, List.append_assoc]⟩
    · rw [List.exists_mem_cons_iff, or_iff_right hfirst] at h
      obtain ⟨hany, message, after, outputs, source', error, more, hrun, hshown⟩ :=
        ih (failed || (job.attemptOne s source).1.failed) h
      refine ⟨by rw [hany, Bool.or_true], message, after,
        (job.attemptOne s source).1.shown ++ outputs, source', error, more, ?_, ?_⟩
      · rw [convertAll_cons_of_not_stops hfirst, hrun]
      · rw [hshown, List.append_assoc]

/-! ### The command -/

theorem convertCommand_run {arguments : List Text} {o : RunOptions} {s : Session}
    (harguments : readInquiry false arguments = .run o) (hjob : jobOf s o = .ok job) :
    convertCommand arguments s = job.convertAll false s (o.files.map Path.parse) := by
  have hne : arguments.isEmpty = false := by
    cases arguments with
    | nil => exact nomatch harguments
    | cons argument arguments => rfl
  rw [convertCommand, hne, if_neg Bool.false_ne_true, harguments]
  dsimp only
  rw [convertFiles, hjob]

/-- A command that answers with an exit code has it. -/
theorem call_of_answerCode {σ : Type} {commands : Text → Option (Handler σ)} (segment : Segment)
    {command : Handler σ} {state after : σ} {code : Int} {outputs : List Output}
    (hcommand : commands segment.name = some command)
    (hrun : command segment.arguments state = ⟨answerCode code, after, outputs⟩) :
    call commands segment state = ⟨code, after, outputs⟩ := by
  rw [call, hcommand]
  dsimp only
  rw [hrun]
  rfl

/-- An error that ends a command is reported. -/
theorem call_of_failure {σ : Type} {commands : Text → Option (Handler σ)} (segment : Segment)
    {command : Handler σ} {state after : σ} {message : Text} {outputs : List Output}
    (hcommand : commands segment.name = some command)
    (hrun : command segment.arguments state = ⟨.failure message, after, outputs⟩) :
    call commands segment state =
      ⟨failureCode, after, outputs ++ failureOutputs segment.name message⟩ := by
  rw [call, hcommand]
  dsimp only
  rw [hrun]
  rfl

/-- The report of an error that ends the command is not the line of a file. -/
theorem failureOutputs_ne_localFailureOutputs {name message : Text} {source : Path}
    {error : FileError} {more : List Output} :
    failureOutputs name message ≠ localFailureOutputs source error ++ more := by
  intro h
  rw [failureOutputs, localFailureOutputs, List.cons_append, List.cons.injEq] at h
  -- both are logged, but by different parts of the program
  have hsource := congrArg Log.Entry.source (Output.log.inj h.1)
  cases hsource

section Convert

variable {arguments : List Text} {operator? : Option Operator} {o : RunOptions} {s : Session}

/-- Files none of which ends the command make a batch. -/
theorem isolates_of_forall_not_stops (harguments : readInquiry false arguments = .run o)
    (hjob : jobOf s o = .ok job)
    (h : ∀ fate ∈ (job.attemptAll s (o.files.map Path.parse)).1, ¬ fate.Stops) :
    Isolates job s (o.files.map Path.parse)
      (call handlers ⟨"convert".toList, arguments, operator?⟩ s) := by
  have hrun := convertCommand_run harguments hjob
  rw [convertAll_of_forall_not_stops h, Bool.false_or] at hrun
  rw [call_of_answerCode ⟨"convert".toList, arguments, operator?⟩ rfl hrun]
  exact ⟨rfl, rfl, rfl⟩

/-- A file that ends the command makes it fail, and no batch. -/
theorem not_isolates_of_exists_stops (harguments : readInquiry false arguments = .run o)
    (hjob : jobOf s o = .ok job)
    (h : ∃ fate ∈ (job.attemptAll s (o.files.map Path.parse)).1, fate.Stops) :
    (job.attemptAll s (o.files.map Path.parse)).1.any Fate.failed = true ∧
      (call handlers ⟨"convert".toList, arguments, operator?⟩ s).code = failureCode ∧
      ¬ Isolates job s (o.files.map Path.parse)
        (call handlers ⟨"convert".toList, arguments, operator?⟩ s) := by
  obtain ⟨hany, message, after, outputs, source, error, more, hall, hshown⟩ :=
    convertAll_of_exists_stops false h
  have hrun := (convertCommand_run harguments hjob).trans hall
  rw [call_of_failure ⟨"convert".toList, arguments, operator?⟩ rfl hrun]
  refine ⟨hany, rfl, fun hisolates => ?_⟩
  have houtputs := hisolates.outputs
  -- after what both show, the command has its report and the batch the line of a file
  rw [hshown, List.append_cancel_left_eq] at houtputs
  exact failureOutputs_ne_localFailureOutputs houtputs

/-- The command comes to a batch without interruption exactly if no file of that batch meets an
error that ends the command. A file has a record or a line of its own in the batch, and the exit
code tells in any case whether one has failed. -/
theorem isolates_files_iff (harguments : readInquiry false arguments = .run o)
    (hjob : jobOf s o = .ok job) :
    let files := o.files.map Path.parse
    let fates := (job.attemptAll s files).1
    let done := call handlers ⟨"convert".toList, arguments, operator?⟩ s
    (Isolates job s files done ↔ ∀ fate ∈ fates, ¬ fate.Stops) ∧
      fates.map Fate.source = files ∧
      (job.attemptAll s files).2.history = s.history ++ fates.filterMap Fate.record? ∧
      done.code = if fates.any Fate.failed then 1 else 0 := by
  dsimp only
  refine ⟨?_, sources_attemptAll s _, history_attemptAll s _, ?_⟩
  · constructor
    · intro hisolates fate hfate hstops
      exact (not_isolates_of_exists_stops harguments hjob ⟨fate, hfate, hstops⟩).2.2 hisolates
    · exact isolates_of_forall_not_stops harguments hjob
  · by_cases h : ∃ fate ∈ (job.attemptAll s (o.files.map Path.parse)).1, fate.Stops
    · have hcode : (call handlers ⟨"convert".toList, arguments, operator?⟩ s).code = failureCode :=
        (not_isolates_of_exists_stops harguments hjob h).2.1
      rw [hcode, (convertAll_of_exists_stops false h).1]
      rfl
    · have hnone : ∀ fate ∈ (job.attemptAll s (o.files.map Path.parse)).1, ¬ fate.Stops :=
        fun fate hfate hstops => h ⟨fate, hfate, hstops⟩
      exact (isolates_of_forall_not_stops harguments hjob hnone).code

end Convert

/-- A session with the configuration that the program comes with, in which nothing has been done,
on a disk with the given files in its root. -/
def fresh (files : List (Text × Text)) : Session where
  file := ⟨"settings.json", none, ⟨990, [], .closes⟩⟩
  config := Configuration.shipped
  theme := Theme.default
  history := []
  last? := none
  bindings := []
  disk := ⟨files.map fun file => ([file.1], .file (Utf8.encode file.2)), [], [], []⟩

/-- The job of a command without options under that configuration. -/
def plainJob : Job where
  settings := Settings.default
  styles := []
  theme := Theme.default
  name := []
  destination := .file ⟨none, .string ".tsx", true⟩

/-- The first of two files is not there; the second one has a record. -/
theorem isolates_files_iff_missing :
    readInquiry false ["run".toList, "a.html".toList, "b.html".toList] =
      .run { RunOptions.empty with files := ["a.html".toList, "b.html".toList] } ∧
    jobOf (fresh [("b.html", "<p>x</p>")])
        { RunOptions.empty with files := ["a.html".toList, "b.html".toList] } = .ok plainJob ∧
    Isolates plainJob (fresh [("b.html", "<p>x</p>")])
      (["a.html".toList, "b.html".toList].map Path.parse)
      (call handlers ⟨"convert".toList, ["run".toList, "a.html".toList, "b.html".toList], none⟩
        (fresh [("b.html", "<p>x</p>")])) := by
  have harguments : readInquiry false ["run".toList, "a.html".toList, "b.html".toList] =
      .run { RunOptions.empty with files := ["a.html".toList, "b.html".toList] } := by
    decide +kernel
  have hjob : jobOf (fresh [("b.html", "<p>x</p>")])
      { RunOptions.empty with files := ["a.html".toList, "b.html".toList] } = .ok plainJob := rfl
  exact ⟨harguments, hjob, (isolates_files_iff harguments hjob).1.2 (by decide +kernel)⟩

/-- A marked section with an unknown name in the first of two files ends the command, and the second
one, which would have a record, is not attempted. -/
theorem unknown_section_ends_batch :
    readInquiry false ["run".toList, "a.html".toList, "b.html".toList] =
      .run { RunOptions.empty with files := ["a.html".toList, "b.html".toList] } ∧
    jobOf (fresh [("a.html", "<![x[y]]>"), ("b.html", "<p>x</p>")])
        { RunOptions.empty with files := ["a.html".toList, "b.html".toList] } = .ok plainJob ∧
    (plainJob.attemptAll (fresh [("a.html", "<![x[y]]>"), ("b.html", "<p>x</p>")])
      (["a.html".toList, "b.html".toList].map Path.parse)).2.history.length = 1 ∧
    (call handlers ⟨"convert".toList, ["run".toList, "a.html".toList, "b.html".toList], none⟩
      (fresh [("a.html", "<![x[y]]>"), ("b.html", "<p>x</p>")])).state.history = [] ∧
    ¬ Isolates plainJob (fresh [("a.html", "<![x[y]]>"), ("b.html", "<p>x</p>")])
      (["a.html".toList, "b.html".toList].map Path.parse)
      (call handlers ⟨"convert".toList, ["run".toList, "a.html".toList, "b.html".toList], none⟩
        (fresh [("a.html", "<![x[y]]>"), ("b.html", "<p>x</p>")])) := by
  have harguments : readInquiry false ["run".toList, "a.html".toList, "b.html".toList] =
      .run { RunOptions.empty with files := ["a.html".toList, "b.html".toList] } := by
    decide +kernel
  have hjob : jobOf (fresh [("a.html", "<![x[y]]>"), ("b.html", "<p>x</p>")])
      { RunOptions.empty with files := ["a.html".toList, "b.html".toList] } = .ok plainJob := rfl
  refine ⟨harguments, hjob, by decide +kernel, by decide +kernel, ?_⟩
  exact (not_isolates_of_exists_stops harguments hjob (by decide +kernel)).2.2

end Componentry.Session
