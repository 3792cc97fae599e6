import Componentry.Proofs.Outcome
import Componentry.Proofs.Session.Commands

/-!
# Files after a command

What a file holds after a command that converts files: if components have been written in its place,
the last one of them, and what it held before if not. Two files of one command can have the same
output, since different file names can make the same component name, and the file of a component can
be one that the command has read. Neither happens when files may not be replaced.

* `contentAfter`, `find?_of_succession`: the content of a file after some turns;
* `outputs_hold_last_component`: the outputs of a command;
* `keeps_inputs`: its inputs.
-/

namespace Componentry.Session

open CommandLine

/-- What a file at a location that holds `data` holds after files have been converted: the last
component that goes there takes the place of what was there before. -/
def contentAfter (disk : Disk) (at_ : Location) (data : List UInt8) (converted : List Delivery) :
    List UInt8 :=
  ((converted.filter (·.LiesAt disk at_)).getLast?.map Delivery.data).getD data

theorem contentAfter_append (disk : Disk) (at_ : Location) (data : List UInt8)
    (earlier later : List Delivery) :
    contentAfter disk at_ data (earlier ++ later) =
      contentAfter disk at_ (contentAfter disk at_ data earlier) later := by
  rw [contentAfter, List.filter_append, List.getLast?_append]
  cases hlast : (later.filter (·.LiesAt disk at_)).getLast? <;> simp [contentAfter, hlast]

/-- Where no component goes the content stays. -/
theorem contentAfter_of_forall_not {disk : Disk} {at_ : Location} {converted : List Delivery}
    (h : ∀ d ∈ converted, ¬ d.LiesAt disk at_) (data : List UInt8) :
    contentAfter disk at_ data converted = data := by
  have hnone : converted.filter (·.LiesAt disk at_) = [] := by
    simpa [List.filter_eq_nil_iff] using h
  rw [contentAfter, hnone]
  rfl

/-- What was there before does not matter where a component goes. -/
theorem contentAfter_of_getLast? {disk : Disk} {at_ : Location} {converted : List Delivery}
    {last : Delivery} (h : (converted.filter (·.LiesAt disk at_)).getLast? = some last)
    (data : List UInt8) : contentAfter disk at_ data converted = last.data := by
  rw [contentAfter, h]
  rfl

/-! ### One turn -/

namespace Turn

variable {turn : Turn} {final : Disk} {at_ : Location}

/-- What a file holds after a turn, where locations are those on a disk that has grown from the one
after the turn. -/
theorem find?_after (hfinal : turn.after.disk.Grows final) {data : List UInt8}
    (hfile : turn.before.disk.find? at_ = some (.file data)) :
    turn.after.disk.find? at_ =
      some (.file (contentAfter final at_ data turn.delivery?.toList)) := by
  obtain hspares | ⟨d, made, place, hwrites⟩ := turn.spares_or_writes
  · have hnowhere : ∀ d ∈ turn.delivery?.toList, ¬ d.LiesAt final at_ := by
      intro d hd
      simp [Delivery.LiesAt, hspares.file d (Option.mem_toList.1 hd)]
    rw [contentAfter_of_forall_not hnowhere, hspares.disk.find?_of_some hfile]
  · have hplace : d.LiesAt final place := hwrites.liesAt.grows (hwrites.grows.trans hfinal)
    rw [hwrites.delivery, hwrites.disk]
    -- the component goes to this file or to another one
    by_cases hsame : at_ = place
    · subst hsame
      rw [Disk.find?_put_self (Disk.ne_nil_of_find? hwrites.noDirectory)]
      simp [contentAfter, hplace]
    · have hother : ¬ d.LiesAt final at_ := fun hat => hsame (hat.unique hplace)
      rw [Disk.find?_put_of_ne hsame, hwrites.furnishes.find?_of_some hfile]
      simp [contentAfter, hother]

/-- A component that is not printed lies where its path leads to. -/
theorem exists_find?_after {d : Delivery} {p : Path} (hd : turn.delivery? = some d)
    (hp : d.file? = some p) (hfinal : turn.after.disk.Grows final) :
    ∃ at_, final.locate p = .ok at_ ∧ d.LiesAt final at_ ∧
      turn.after.disk.find? at_ = some (.file d.data) := by
  obtain ⟨made, at_, hwrites⟩ := turn.writes_of_delivery? hd hp
  have hplace : d.LiesAt final at_ := hwrites.liesAt.grows (hwrites.grows.trans hfinal)
  refine ⟨at_, ?_, hplace, ?_⟩
  · simpa [Delivery.LiesAt, hp] using hplace
  · rw [hwrites.disk, Disk.find?_put_self (Disk.ne_nil_of_find? hwrites.noDirectory)]

/-- Where there is something, no component goes unless files may be replaced. -/
theorem not_liesAt_of_not_mayReplace (hoff : turn.job.mayReplace = false) {d : Delivery}
    (hd : turn.delivery? = some d) (hfinal : turn.after.disk.Grows final)
    (hthere : turn.before.disk.find? at_ ≠ none) : ¬ d.LiesAt final at_ := by
  intro hat
  obtain ⟨p, hp, -⟩ := Delivery.liesAt_iff.1 hat
  obtain ⟨made, place, hwrites⟩ := turn.writes_of_delivery? hd hp
  obtain rfl := hat.unique (hwrites.liesAt.grows (hwrites.grows.trans hfinal))
  exact hthere (hwrites.furnishes.find?_of_none (hwrites.free hoff))

end Turn

/-! ### Some turns -/

section Succession

variable {s t : Session} {turns : List Turn} {at_ : Location}

theorem grows_of_succession (h : Succession Turn.before Turn.after s turns t) :
    s.disk.Grows t.disk :=
  h.lift (R := fun s t => s.disk.Grows t.disk) (fun s => .refl s.disk) Disk.Grows.trans
    fun turn _ => turn.grows

/-- What a file holds after some turns. -/
theorem find?_of_succession (h : Succession Turn.before Turn.after s turns t) {data : List UInt8}
    (hfile : s.disk.find? at_ = some (.file data)) :
    t.disk.find? at_ =
      some (.file (contentAfter t.disk at_ data (turns.filterMap Turn.delivery?))) := by
  induction h generalizing data with
  | nil => exact hfile
  | @cons turn turns s t start rest ih =>
    subst start
    have hafter := Turn.find?_after (grows_of_succession rest) hfile
    rw [ih hafter, ← contentAfter_append]
    cases hd : turn.delivery? <;> simp [hd]

/-- Where there is something, no component goes unless files may be replaced. -/
theorem forall_not_liesAt (h : Succession Turn.before Turn.after s turns t)
    (hoff : ∀ turn ∈ turns, turn.job.mayReplace = false) (hthere : s.disk.find? at_ ≠ none) :
    ∀ d ∈ turns.filterMap Turn.delivery?, ¬ d.LiesAt t.disk at_ := by
  induction h with
  | nil => simp
  | @cons turn turns s t start rest ih =>
    subst start
    rw [List.forall_mem_cons] at hoff
    intro d hd
    obtain ⟨other, hother, hdelivery⟩ := List.mem_filterMap.1 hd
    rcases List.mem_cons.1 hother with rfl | hother
    · exact Turn.not_liesAt_of_not_mayReplace hoff.1 hdelivery (grows_of_succession rest) hthere
    · -- what was there is still there when the turns after this one begin
      have hstill : turn.after.disk.find? at_ ≠ none := by
        obtain ⟨entry, hentry⟩ := Option.ne_none_iff_exists'.1 hthere
        cases entry with
        | directory => simp [turn.grows.directory at_ hentry]
        | file data =>
          obtain ⟨data', hdata'⟩ := turn.grows.file at_ data hentry
          simp [hdata']
      exact ih hoff.2 hstill d (List.mem_filterMap.2 ⟨other, hother, hdelivery⟩)

/-- The file of a component that has been written holds the last component that went there. -/
theorem exists_last_of_succession (h : Succession Turn.before Turn.after s turns t) {d : Delivery}
    {p : Path} (hd : d ∈ turns.filterMap Turn.delivery?) (hp : d.file? = some p) :
    ∃ at_ last, t.disk.locate p = .ok at_ ∧
      ((turns.filterMap Turn.delivery?).filter (·.LiesAt t.disk at_)).getLast? = some last ∧
      t.disk.find? at_ = some (.file last.data) := by
  obtain ⟨turn, hturn, hdelivery⟩ := List.mem_filterMap.1 hd
  obtain ⟨earlier, later, rfl⟩ := List.append_of_mem hturn
  obtain ⟨u, -, hrest⟩ := Succession.append_iff.1 h
  obtain ⟨-, hlater⟩ := Succession.cons_iff.1 hrest
  obtain ⟨at_, hlocate, hat, hfile⟩ :=
    turn.exists_find?_after hdelivery hp (grows_of_succession hlater)
  have hmem : d ∈ ((earlier ++ turn :: later).filterMap Turn.delivery?).filter
      (·.LiesAt t.disk at_) := List.mem_filter.2 ⟨hd, by simpa using hat⟩
  have hlast := List.getLast?_eq_getLast_of_ne_nil (List.ne_nil_of_mem hmem)
  refine ⟨at_, _, hlocate, hlast, ?_⟩
  rw [find?_of_succession hlater hfile, ← contentAfter_of_getLast? hlast d.data]
  -- what the turns up to this one leave is the component of this one
  have hown : ∀ data, contentAfter t.disk at_ data [d] = d.data := by
    intro data
    exact contentAfter_of_getLast? (by simp [hat]) data
  rw [List.filterMap_append, List.filterMap_cons_some hdelivery, contentAfter_append,
    ← List.singleton_append, contentAfter_append, hown]

/-- Where files may not be replaced, no two components are written to the same place. -/
theorem filter_liesAt_eq_singleton (h : Succession Turn.before Turn.after s turns t)
    (hoff : ∀ turn ∈ turns, turn.job.mayReplace = false) {d : Delivery}
    (hd : d ∈ turns.filterMap Turn.delivery?) (hat : d.LiesAt t.disk at_) :
    (turns.filterMap Turn.delivery?).filter (·.LiesAt t.disk at_) = [d] := by
  obtain ⟨turn, hturn, hdelivery⟩ := List.mem_filterMap.1 hd
  obtain ⟨earlier, later, rfl⟩ := List.append_of_mem hturn
  obtain ⟨u, hearlier, hrest⟩ := Succession.append_iff.1 h
  obtain ⟨rfl, hlater⟩ := Succession.cons_iff.1 hrest
  rw [List.forall_mem_append, List.forall_mem_cons] at hoff
  have hgrows := grows_of_succession hlater
  -- a component that went there before would still be there when this one is to be written
  have hbefore : ∀ other ∈ earlier.filterMap Turn.delivery?, ¬ other.LiesAt t.disk at_ := by
    intro other hother hothers
    obtain ⟨p, hp, hlocate⟩ := Delivery.liesAt_iff.1 hothers
    obtain ⟨place, last, hplace, -, hfile⟩ := exists_last_of_succession hearlier hother hp
    obtain rfl := Except.ok.inj (hlocate.symm.trans ((turn.grows.trans hgrows).locate hplace))
    exact turn.not_liesAt_of_not_mayReplace hoff.2.1 hdelivery hgrows (by simp [hfile]) hat
  have hafter : ∀ other ∈ later.filterMap Turn.delivery?, ¬ other.LiesAt t.disk at_ := by
    obtain ⟨p, hp, hlocate⟩ := Delivery.liesAt_iff.1 hat
    obtain ⟨place, hplace, -, hfile⟩ := turn.exists_find?_after hdelivery hp hgrows
    obtain rfl := Except.ok.inj (hlocate.symm.trans hplace)
    exact forall_not_liesAt hlater hoff.2.2 (by simp [hfile])
  rw [List.filterMap_append, List.filterMap_cons_some hdelivery, List.filter_append,
    List.filter_cons_of_pos (by simpa using hat), List.filter_eq_nil_iff.2 (by simpa using hbefore),
    List.filter_eq_nil_iff.2 (by simpa using hafter), List.nil_append]

end Succession

/-! ### A command -/

section Command

variable {s : Session} {segment : Segment} {job : Job} {files : List Path} {o : RunOptions}

/-- Files may be replaced under the configuration of the session. -/
def mayReplace (s : Session) : Bool := (exportOf s.config none).overwrite

theorem destination_of_jobOf (h : jobOf s o = .ok job) :
    job.destination = if o.prints then .print else .file (exportOf s.config o.directory?) := by
  obtain ⟨theme, styles, settings, -, -, -, rfl⟩ := exists_of_jobOf h
  rfl

/-- A job replaces files if its components are not printed and the configuration allows it. -/
theorem mayReplace_of_jobOf (h : jobOf s o = .ok job) :
    job.mayReplace = (!o.prints && s.mayReplace) := by
  rw [Job.mayReplace, destination_of_jobOf h]
  cases o.prints <;> rfl

/-- The disk after a command is the one that its turns leave. -/
theorem exists_succession_disk (s : Session) (segment : Segment) :
    ∃ t, Succession Turn.before Turn.after s (s.turns segment) t ∧
      (call handlers segment s).state.disk = t.disk := by
  obtain ⟨t, hturns, config, theme, hstate⟩ := exists_succession_call s segment
  exact ⟨t, hturns, by rw [hstate]⟩

/-- What is written replaces files if the configuration allows it. -/
theorem overwrite_of_mem_turns {turn : Turn} {e : Export} (hturn : turn ∈ s.turns segment)
    (he : turn.job.destination = .file e) : e.overwrite = s.mayReplace := by
  obtain ⟨o, -, hjob⟩ := exists_options_of_mem_turns hturn
  rw [destination_of_jobOf hjob] at he
  split at he
  · cases he
  · rw [← Destination.file.inj he]
    rfl

theorem forall_mem_turns_not_mayReplace (hoff : s.mayReplace = false) :
    ∀ turn ∈ s.turns segment, turn.job.mayReplace = false := by
  intro turn hturn
  rw [Job.mayReplace]
  split
  · rfl
  next e he => rw [overwrite_of_mem_turns hturn he, hoff]

/-- After a command the history tells of the files that it has converted, each of them with the
conversion of what it held at its turn, and the output of each is a file with the last component
that the command has written there. Where files may not be replaced, that is the component of the
file itself, and no other one has been written there. -/
theorem outputs_hold_last_component (s : Session) (segment : Segment) :
    let after := (call handlers segment s).state
    let converted := s.deliveries segment
    after.history = s.history ++ converted.map Delivery.record ∧
      (∀ d ∈ converted, ∃ turn ∈ s.turns segment,
        turn.source = d.source ∧ turn.conversion? = some d.conversion) ∧
      ∀ d ∈ converted, ∀ p, d.file? = some p →
        ∃ at_ last, after.disk.locate p = .ok at_ ∧
          (converted.filter (·.LiesAt after.disk at_)).getLast? = some last ∧
          after.disk.read p = .ok last.data ∧
          (s.mayReplace = false → converted.filter (·.LiesAt after.disk at_) = [d]) := by
  intro after converted
  refine ⟨history_call s segment, ?_, ?_⟩
  · intro d hd
    obtain ⟨turn, hturn, hdelivery⟩ := List.mem_filterMap.1 hd
    exact ⟨turn, hturn, turn.conversion?_of_delivery? hdelivery⟩
  · intro d hd p hp
    obtain ⟨t, hturns, hdisk⟩ := exists_succession_disk s segment
    obtain ⟨at_, last, hlocate, hlast, hfile⟩ := exists_last_of_succession hturns hd hp
    rw [← hdisk] at hlocate hlast hfile
    refine ⟨at_, last, hlocate, hlast, Disk.read_eq_ok.2 ⟨at_, hlocate, hfile⟩, fun hoff => ?_⟩
    have hat : d.LiesAt t.disk at_ := Delivery.liesAt_iff.2 ⟨p, hp, hdisk ▸ hlocate⟩
    have honly := filter_liesAt_eq_singleton hturns (forall_mem_turns_not_mayReplace hoff) hd hat
    rwa [← hdisk] at honly

/-- Two files, where files may not be replaced: each output holds its own component. -/
theorem outputs_hold_last_component_two :
    let s : Session := { fresh [("a.html", "<p>x</p>"), ("b.html", "<p>y</p>")] with
      config := .object [("export", .object [("overwrite", .bool false)])] }
    let segment : Segment :=
      ⟨"convert".toList, ["run".toList, "a.html".toList, "b.html".toList], none⟩
    let after := (call handlers segment s).state
    (s.deliveries segment).map Delivery.file? =
        [some ⟨"/", ["A.tsx"]⟩, some ⟨"/", ["B.tsx"]⟩] ∧
      ∀ d ∈ s.deliveries segment, ∀ p, d.file? = some p → after.disk.read p = .ok d.data := by
  intro s segment after
  have hoff : s.mayReplace = false := by decide +kernel
  refine ⟨by decide +kernel, fun d hd p hp => ?_⟩
  obtain ⟨at_, last, -, hlast, hread, honly⟩ :=
    (outputs_hold_last_component s segment).2.2 d hd p hp
  rw [honly hoff] at hlast
  obtain rfl : d = last := Option.some.inj hlast
  exact hread

/-- Two files make the same component name: both are converted, and there is one file with one of
the two components. -/
theorem same_name_same_output :
    let s := fresh [("a-b.html", "<p>x</p>"), ("a_b.html", "<input name=x>")]
    let segment : Segment :=
      ⟨"convert".toList, ["run".toList, "a-b.html".toList, "a_b.html".toList], none⟩
    (s.deliveries segment).map (fun d => (d.source, d.file?, d.conversion.fields.length)) =
        [(Path.parse "a-b.html", some ⟨"/", ["AB.tsx"]⟩, 0),
          (Path.parse "a_b.html", some ⟨"/", ["AB.tsx"]⟩, 1)] ∧
      (call handlers segment s).state.disk.entries.map Prod.fst =
        [["a-b.html".toList], ["a_b.html".toList], ["AB.tsx".toList]] := by
  decide +kernel

/-- The files that a command with these options reads: its documents, and the one with the styles
that replace theirs. -/
def RunOptions.inputs (o : RunOptions) : List Path := (o.files ++ o.styles?.toList).map Path.parse

/-- Where there is something already, components are written only if they are not printed and files
may be replaced. -/
theorem mayReplace_of_mem_deliveries {d : Delivery} {at_ : Location}
    (harguments : readInquiry false segment.arguments = .run o) (hd : d ∈ s.deliveries segment)
    (hat : d.LiesAt (call handlers segment s).state.disk at_) (hthere : s.disk.find? at_ ≠ none) :
    o.prints = false ∧ s.mayReplace = true := by
  obtain ⟨t, hturns, hdisk⟩ := exists_succession_disk s segment
  rw [hdisk] at hat
  by_contra hoff
  refine forall_not_liesAt hturns ?_ hthere d hd hat
  intro turn hturn
  obtain ⟨other, hother, hjob⟩ := exists_options_of_mem_turns hturn
  obtain rfl := Inquiry.run.inj (harguments.symm.trans hother)
  rw [mayReplace_of_jobOf hjob]
  simpa [not_and] using hoff

/-- What a command that converts files does to a file that it reads: the file keeps its content
unless a component is written in its place. That happens only if components are not printed and
files may be replaced, and the file then holds the last component that has been written there. -/
theorem keeps_inputs {arguments : List Text} (operator? : Option Operator)
    (harguments : readInquiry false arguments = .run o) (s : Session) :
    let segment : Segment := ⟨"convert".toList, arguments, operator?⟩
    let after := (call handlers segment s).state
    ∀ p ∈ o.inputs, ∀ data, s.disk.read p = .ok data →
      ∃ at_, s.disk.locate p = .ok at_ ∧ after.disk.locate p = .ok at_ ∧
        match ((s.deliveries segment).filter (·.LiesAt after.disk at_)).getLast? with
        | none => after.disk.read p = .ok data
        | some last =>
          after.disk.read p = .ok last.data ∧ o.prints = false ∧ s.mayReplace = true := by
  intro segment after p _ data hread
  obtain ⟨at_, hlocate, hfile⟩ := Disk.read_eq_ok.1 hread
  obtain ⟨t, hturns, hdisk⟩ := exists_succession_disk s segment
  have hstill : after.disk.locate p = .ok at_ := by
    rw [hdisk]
    exact (grows_of_succession hturns).locate hlocate
  have hafter : after.disk.read p =
      .ok (contentAfter after.disk at_ data (s.deliveries segment)) := by
    refine Disk.read_eq_ok.2 ⟨at_, hstill, ?_⟩
    rw [hdisk]
    exact find?_of_succession hturns hfile
  refine ⟨at_, hlocate, hstill, ?_⟩
  split
  next hnone => rw [hafter, contentAfter, hnone]; rfl
  next last hlast =>
    refine ⟨by rw [hafter, contentAfter_of_getLast? hlast], ?_⟩
    obtain ⟨hd, hat⟩ := List.mem_filter.1 (List.mem_of_getLast? hlast)
    have hthere : s.disk.find? at_ ≠ none := by simp [hfile]
    have hsegment : readInquiry false segment.arguments = .run o := harguments
    exact mayReplace_of_mem_deliveries hsegment hd (of_decide_eq_true hat) hthere

/-- A document whose component has another name keeps its content. -/
theorem keeps_inputs_paragraph :
    let s := fresh [("a.html", "<p>x</p>")]
    let segment : Segment := ⟨"convert".toList, ["run".toList, "a.html".toList], none⟩
    let after := (call handlers segment s).state
    readInquiry false segment.arguments =
        .run { RunOptions.empty with files := ["a.html".toList] } ∧
      after.history.length = 1 ∧
      after.disk.read (Path.parse "a.html") = .ok (Utf8.encode "<p>x</p>") := by
  intro s segment after
  have harguments : readInquiry false segment.arguments =
      .run { RunOptions.empty with files := ["a.html".toList] } := by decide +kernel
  refine ⟨harguments, by decide +kernel, ?_⟩
  obtain ⟨at_, hlocate, -, hcontent⟩ := keeps_inputs none harguments s (Path.parse "a.html")
    (by decide +kernel) (Utf8.encode "<p>x</p>") (by decide +kernel)
  have hplace : s.disk.locate (Path.parse "a.html") = .ok ["a.html".toList] := by decide +kernel
  obtain rfl := Except.ok.inj (hplace.symm.trans hlocate)
  have hnone : ((s.deliveries segment).filter
      (·.LiesAt after.disk ["a.html".toList])).getLast? = none := by decide +kernel
  rw [hnone] at hcontent
  exact hcontent

/-- A document with the name of its component is replaced by it. -/
theorem component_replaces_document :
    let s := fresh [("Card.tsx", "<p>1</p>")]
    let segment : Segment := ⟨"convert".toList, ["run".toList, "Card.tsx".toList], none⟩
    let after := (call handlers segment s).state
    readInquiry false segment.arguments =
        .run { RunOptions.empty with files := ["Card.tsx".toList] } ∧
      s.disk.read (Path.parse "Card.tsx") = .ok (Utf8.encode "<p>1</p>") ∧
      after.disk.read (Path.parse "Card.tsx") ≠ .ok (Utf8.encode "<p>1</p>") := by
  decide +kernel

end Command

end Componentry.Session
