import Componentry.Configuration.File
import Componentry.Proofs.Configuration.Locality

/-!
# Accesses to the configuration

The configuration is asked for values, changed by texts and read again from its settings file. As
long as it is a section none of these accesses fails, and it stays one if the settings file gives
one. A settings file may also hold a value that is no section. Then the first change fails.

* `Access`, `performAll`: accesses one after another;
* `exists_perform_of_isSection`, `exists_performAll_of_isSection`: accesses to a section;
* `performAll_of_not_isSection`: accesses to anything else;
* `accesses_succeed_iff`: the settings files with which no access ever fails.
-/

namespace Componentry.Configuration

/-- An access to the configuration. -/
inductive Access
  /-- The value at a path is asked for, or `fallback` if there is none. -/
  | get (path : Text) (fallback : Json)
  /-- The value at a path is changed by a text. -/
  | set (path text : Text)
  /-- The whole configuration is asked for. -/
  | all
  /-- The settings file is read again. -/
  | reset

/-- What an access gives back. -/
inductive Reply
  /-- A value. -/
  | value (value : Json)
  /-- Whether a change was made. -/
  | done (changed : Bool)
  /-- Nothing. -/
  | nothing

/-- Why an access fails. -/
inductive AccessError
  /-- The settings file cannot be read. -/
  | unread (error : Json.Error)
  /-- A change is impossible. -/
  | unset (error : SetError)

/-- What an access gives back, and the configuration after it. -/
def Access.perform (file : File) (config : Json) : Access → Except AccessError (Reply × Json)
  | .get path fallback => .ok (.value (Configuration.get config path fallback), config)
  | .set path text =>
    match Configuration.set config path (.string text) with
    | .ok (.stored after _) => .ok (.done true, after)
    | .ok (.refused _) => .ok (.done false, config)
    | .error error => .error (.unset error)
  | .all => .ok (.value config, config)
  | .reset =>
    match file.load with
    | .ok (after, _) => .ok (.nothing, after)
    | .error error => .error (.unread error)

/-- What accesses give back one after another, and the configuration after them. -/
def performAll (file : File) (config : Json) : List Access → Except AccessError (List Reply × Json)
  | [] => .ok ([], config)
  | access :: accesses =>
    match access.perform file config with
    | .error error => .error error
    | .ok (reply, after) =>
      (performAll file after accesses).map fun (replies, last) => (reply :: replies, last)

variable {file : File} {config loaded : Json} {entries : List Log.Entry}

/-! ### Accesses to a section -/

/-- An access to a section does not fail, and it leaves a section. -/
theorem exists_perform_of_isSection (hload : file.load = .ok (loaded, entries))
    (hloaded : IsSection loaded) (hconfig : IsSection config) (access : Access) :
    ∃ reply after, access.perform file config = .ok (reply, after) ∧ IsSection after := by
  cases access with
  | get path fallback => exact ⟨_, config, rfl, hconfig⟩
  | set path text =>
    cases config with
    | object fields =>
      rw [Access.perform]
      rcases set_string_cases fields path text with ⟨key, hset, -⟩ | ⟨changed, warnings, hset, -⟩
      · exact ⟨.done false, .object fields, by rw [hset], trivial⟩
      · exact ⟨.done true, .object changed, by rw [hset], trivial⟩
    | _ => exact hconfig.elim
  | all => exact ⟨_, config, rfl, hconfig⟩
  | reset => exact ⟨.nothing, loaded, by rw [Access.perform, hload], hloaded⟩

/-- Accesses to a section do not fail, and they leave a section. -/
theorem exists_performAll_of_isSection (hload : file.load = .ok (loaded, entries))
    (hloaded : IsSection loaded) (hconfig : IsSection config) (accesses : List Access) :
    ∃ replies after, performAll file config accesses = .ok (replies, after) ∧ IsSection after := by
  induction accesses generalizing config with
  | nil => exact ⟨[], config, rfl, hconfig⟩
  | cons access accesses ih =>
    obtain ⟨reply, next, hperform, hnext⟩ :=
      exists_perform_of_isSection hload hloaded hconfig access
    obtain ⟨replies, after, hrest, hafter⟩ := ih hnext
    exact ⟨reply :: replies, after, by rw [performAll, hperform]; simp [hrest, Except.map], hafter⟩

/-! ### Accesses to anything else -/

/-- The access changes nothing by itself. -/
def Access.IsReading : Access → Prop
  | .set .. => False
  | _ => True

/-- Reading does not fail, and it leaves the configuration if that is what the settings file
gives. -/
theorem exists_perform_of_isReading (hload : file.load = .ok (config, entries)) {access : Access}
    (h : access.IsReading) : ∃ reply, access.perform file config = .ok (reply, config) := by
  cases access with
  | get path fallback => exact ⟨_, rfl⟩
  | set path text => exact h.elim
  | all => exact ⟨_, rfl⟩
  | reset => exact ⟨.nothing, by rw [Access.perform, hload]⟩

theorem exists_performAll_of_isReading (hload : file.load = .ok (config, entries))
    {accesses : List Access} (h : ∀ access ∈ accesses, access.IsReading) :
    ∃ replies, performAll file config accesses = .ok (replies, config) := by
  induction accesses with
  | nil => exact ⟨[], rfl⟩
  | cons access accesses ih =>
    rw [List.forall_mem_cons] at h
    obtain ⟨reply, hperform⟩ := exists_perform_of_isReading hload h.1
    obtain ⟨replies, hrest⟩ := ih h.2
    exact ⟨reply :: replies, by rw [performAll, hperform]; simp [hrest, Except.map]⟩

/-- The error that a value that is no section cannot be changed. -/
def changeError (config : Json) (path : Text) : SetError :=
  .noObject config.typeName (firstMember (keys path))

theorem set_of_not_isSection (h : ¬ IsSection config) (path : Text) (value : Json) :
    set config path value = .error (changeError config path) := by
  cases config with
  | object fields => exact absurd trivial h
  | _ => rfl

/-- The first change of a configuration that is no section fails. -/
theorem performAll_of_not_isSection (hload : file.load = .ok (config, entries))
    (hconfig : ¬ IsSection config) {earlier : List Access}
    (h : ∀ access ∈ earlier, access.IsReading) (path text : Text) (later : List Access) :
    performAll file config (earlier ++ .set path text :: later) =
      .error (.unset (changeError config path)) := by
  induction earlier with
  | nil => rw [List.nil_append, performAll, Access.perform, set_of_not_isSection hconfig]
  | cons access earlier ih =>
    rw [List.forall_mem_cons] at h
    obtain ⟨reply, hperform⟩ := exists_perform_of_isReading hload h.1
    rw [List.cons_append, performAll, hperform]
    simp [ih h.2, Except.map]

/-! ### Settings files -/

/-- The content of a settings file that is read to some depth is a section, or it has a fault where
it is read. In the second case it counts for an empty section. -/
def IsAdmissible (maxDepth : Nat) (content : Text) : Prop :=
  match Json.parse maxDepth (Text.unifyNewlines content) with
  | .ok value => IsSection value
  | .error (.fault ..) => True
  | .error _ => False

theorem exists_load_iff :
    (∃ config entries, file.load = .ok (config, entries) ∧ IsSection config) ↔
      ∀ content, file.content? = some content → IsAdmissible file.platform.maxDepth content := by
  rw [File.load]
  cases file.content? with
  | none => simp [IsSection]
  | some content =>
    simp only [Option.some.injEq, forall_eq', IsAdmissible]
    cases Json.parse file.platform.maxDepth (Text.unifyNewlines content) with
    | ok value => simp
    | error error => cases error <;> simp [IsSection]

/-- No access ever fails, and the configuration is always a section, exactly with those settings
files that are missing, that have a fault where they are read, or that hold a section. With any
other one that can be read at all the configuration is no section. It can be read from then on, and
the first change of it fails. -/
theorem accesses_succeed_iff (file : File) :
    ((∃ config entries, file.load = .ok (config, entries) ∧ ∀ accesses,
        ∃ replies after, performAll file config accesses = .ok (replies, after) ∧
          IsSection after) ↔
      ∀ content, file.content? = some content → IsAdmissible file.platform.maxDepth content) ∧
    ∀ config entries, file.load = .ok (config, entries) → ¬ IsSection config →
      ∀ earlier : List Access, (∀ access ∈ earlier, access.IsReading) →
        (∃ replies, performAll file config earlier = .ok (replies, config)) ∧
        ∀ path text later, performAll file config (earlier ++ .set path text :: later) =
          .error (.unset (changeError config path)) := by
  constructor
  · rw [← exists_load_iff]
    constructor
    · rintro ⟨config, entries, hload, haccesses⟩
      obtain ⟨replies, after, hnone, hafter⟩ := haccesses []
      cases hnone
      exact ⟨config, entries, hload, hafter⟩
    · rintro ⟨config, entries, hload, hconfig⟩
      exact ⟨config, entries, hload, exists_performAll_of_isSection hload hconfig hconfig⟩
  · intro config entries hload hconfig earlier hreading
    exact ⟨exists_performAll_of_isReading hload hreading,
      performAll_of_not_isSection hload hconfig hreading⟩

/-- A settings file that holds a list is not taken for an empty one, and the first change of the
configuration fails. -/
theorem list_fails_change :
    let file : File := ⟨"settings.json", some "[]", ⟨990, [], .closes⟩⟩
    file.load = .ok (.array [], []) ∧ ¬ IsSection (.array []) ∧
      performAll file (.array []) [.all, .get "a" (.string "b"), .set "a" "b"] =
        .error (.unset (.noObject "list" "get")) := by
  refine ⟨rfl, id, rfl⟩

end Componentry.Configuration
