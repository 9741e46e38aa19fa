import SharedVm.Journal.Draft
import SharedVm.Proofs.Json.OneLine
import SharedVm.Proofs.Json.Read
import Mathlib.Data.List.Nodup
import Mathlib.Tactic.Lemma

/-!
# Lines of the log

A record whose time and message can be told becomes one line, whatever its texts and marks hold.
Reading the line gives an object with a member for each part in turn, for each mark that is set and,
if something failed, for the failure.
-/

namespace SharedVm

namespace Json

lemma member?_of_mem {ms : List (Text × Json)} (hk : (ms.map Prod.fst).Nodup) {name : Text} {v : Json}
    (h : (name, v) ∈ ms) : member? (.object ms) name = some v := by
  have hfound : (ms.reverse.find? (·.1 = name)).isSome :=
    List.find?_isSome.2 ⟨_, List.mem_reverse.2 h, decide_eq_true rfl⟩
  obtain ⟨m, hm⟩ := Option.isSome_iff_exists.1 hfound
  have hname : m.1 = name := by simpa using List.find?_some hm
  have hsame : m = (name, v) :=
    List.inj_on_of_nodup_map hk (List.mem_reverse.1 (List.mem_of_find?_eq_some hm)) h hname
  rw [member?, hm, hsame]
  rfl

lemma areExactMembers_eq_true {ms : List (Text × Json)} (h : ∀ m ∈ ms, isExact m.2 = true) :
    areExactMembers ms = true := by
  induction ms with
  | nil => rfl
  | cons m rest ih =>
    rw [areExactMembers, h m List.mem_cons_self, Bool.true_and]
    exact ih fun m hm => h m (List.mem_cons_of_mem _ hm)

end Json

namespace Journal

namespace Record

/-- A mark as it is read from a line: text, but for whole numbers and truth values. -/
def spoken : Value → Json
  | .bool b => .bool b
  | .int n => .int n
  | .text t => .text t
  | v => .text v.display

lemma markJson_eq_spoken {v : Value} (h : v ≠ .null) : markJson v = some (spoken v) := by
  cases v with
  | null => exact absurd rfl h
  | _ => rfl

lemma isExact_of_markJson {v : Value} {j : Json} (h : markJson v = some j) :
    Json.isExact j = true := by
  cases v with
  | null => cases h
  | _ => cases h; rfl

def isMarked (marks : Bindings Value) (name : Text) : Bool :=
  match marks.get? name with
  | none | some .null => false
  | some _ => true

lemma everyMark_mono {marks : Bindings Value} {p q : Value → Bool}
    (h : ∀ v, p v = true → q v = true) (hp : everyMark marks p = true) :
    everyMark marks q = true := by
  refine List.all_eq_true.2 fun name hname => ?_
  have hm := List.all_eq_true.1 hp name hname
  cases hg : marks.get? name with
  | none => rfl
  | some v =>
    rw [hg] at hm
    exact h v hm

lemma markMembers_names (marks : Bindings Value) :
    (markMembers marks).map Prod.fst = markNames.filter (isMarked marks) := by
  rw [markMembers, List.map_filterMap, ← List.filterMap_eq_filter]
  refine List.filterMap_congr fun name _ => ?_
  rw [Option.guard, isMarked]
  cases marks.get? name with
  | none => rfl
  | some v => cases v <;> rfl

lemma mem_markMembers {marks : Bindings Value} {name : Text} {v : Value} (hname : name ∈ markNames)
    (hv : marks.get? name = some v) (hnull : v ≠ .null) : (name, spoken v) ∈ markMembers marks := by
  refine List.mem_filterMap.2 ⟨name, hname, ?_⟩
  rw [hv, Option.bind_some, markJson_eq_spoken hnull]
  rfl

lemma isExact_of_mem_markMembers {marks : Bindings Value} {m : Text × Json}
    (h : m ∈ markMembers marks) : Json.isExact m.2 = true := by
  obtain ⟨name, -, hm⟩ := List.mem_filterMap.1 h
  obtain ⟨j, hj, rfl⟩ := Option.map_eq_some_iff.1 hm
  obtain ⟨v, -, hv⟩ := Option.bind_eq_some_iff.1 hj
  exact isExact_of_markJson hv

end Record

/-- Whether something failed: what is there in place of a failure may be nothing. -/
def Attached.isSomething : Attached → Bool
  | .failure _ => true
  | .value v => v.isTruthy

namespace Draft

lemma isSome_of_failure? {a : Attached} {said : Option Text} (h : failure? a = .ok said) :
    said.isSome = a.isSomething := by
  cases a with
  | failure t =>
    cases h
    rfl
  | value v =>
    rw [failure?] at h
    rw [Attached.isSomething]
    split at h
    · rename_i ht
      cases hf : failureOf v with
      | error e =>
        rw [hf] at h
        cases h
      | ok t =>
        rw [hf] at h
        cases h
        exact ht.symm
    · rename_i ht
      cases h
      exact (Bool.eq_false_iff.2 ht).symm

/-- What the parts of a record come to. -/
structure Parts where
  time : Text
  process : Json
  level : Json
  logger : Json
  message : Text
  failure : Option Text

/-- A part is there and can be written without numbers with a point. -/
def Gives (part : Option Value) (v : Json) : Prop :=
  ∃ x, part = some x ∧ Json.ofValue coding 0 x = .ok v ∧ Json.isExact v = true

/-- The parts of the record that the draft is of. Its marks have no more digits than can be shown. -/
structure Parts.Of (p : Parts) (d : Draft) : Prop where
  time : ∃ v m, d.created = some v ∧ Moment.ofValue v = .ok m ∧ m.text = .ok p.time
  process : Gives d.process p.process
  level : Gives d.level p.level
  logger : Gives d.logger p.logger
  message : d.message = .ok p.message
  failure : ∃ a, d.attached = some a ∧ failure? a = .ok p.failure
  marks : Record.everyMark d.marks Value.isShowable = true

def Parts.members (p : Parts) (marks : Bindings Value) : List (Text × Json) :=
  let stamp : List (Text × Json) := [("ts", .text p.time), ("pid", p.process)]
  stamp ++ Record.membersWith p.level p.logger p.message marks p.failure

variable {p : Parts} {d : Draft}

lemma Parts.Of.line (h : p.Of d) :
    d.line = .ok (Json.write Json.spaced (.object (p.members d.marks))) := by
  obtain ⟨created, moment, hcreated, hmoment, htime⟩ := h.time
  obtain ⟨process, hprocess, hprocess', -⟩ := h.process
  obtain ⟨level, hlevel, hlevel', -⟩ := h.level
  obtain ⟨logger, hlogger, hlogger', -⟩ := h.logger
  obtain ⟨a, ha, hfailure⟩ := h.failure
  have htold : Record.everyMark d.marks isTellable = true := by
    refine Record.everyMark_mono (fun v hv => ?_) h.marks
    cases v with
    | int n => rfl
    | _ => exact hv
  rw [Draft.line, hcreated, hprocess, hlevel, hlogger, ha, h.message, htold, h.marks]
  simp only [part, bind, Except.bind, hmoment, htime, hfailure, hprocess', hlevel', hlogger',
    Except.mapError, pure, Except.pure, if_true]
  rfl

lemma Parts.Of.isExact (h : p.Of d) : Json.isExact (.object (p.members d.marks)) = true := by
  obtain ⟨-, -, -, hprocess⟩ := h.process
  obtain ⟨-, -, -, hlevel⟩ := h.level
  obtain ⟨-, -, -, hlogger⟩ := h.logger
  refine Json.areExactMembers_eq_true fun m hm => ?_
  rw [Parts.members, Record.membersWith] at hm
  simp only [List.mem_append, List.mem_cons, List.not_mem_nil, or_false, List.mem_map] at hm
  rcases hm with (rfl | rfl) | ((rfl | rfl | rfl) | hm) | ⟨t, -, rfl⟩
  · rfl
  · exact hprocess
  · exact hlevel
  · exact hlogger
  · rfl
  · exact Record.isExact_of_mem_markMembers hm
  · rfl

/-- What is read from the line of a record: which members there are, in turn, and what they say. -/
structure Tells (p : Parts) (d : Draft) (ms : List (Text × Json)) : Prop where
  names : ms.map Prod.fst = Text.ofString "ts" :: "pid" :: "level" :: "logger" :: "msg" ::
    Record.markNames.filter (Record.isMarked d.marks) ++
      if d.attached.any Attached.isSomething then [Text.ofString "exc"] else []
  time : Json.member? (.object ms) "ts" = some (.text p.time)
  process : Json.member? (.object ms) "pid" = some p.process
  level : Json.member? (.object ms) "level" = some p.level
  logger : Json.member? (.object ms) "logger" = some p.logger
  message : Json.member? (.object ms) "msg" = some (.text p.message)
  marks : ∀ name ∈ Record.markNames, ∀ v, d.marks.get? name = some v → v ≠ .null →
    Json.member? (.object ms) name = some (Record.spoken v)
  failure : ∀ t ∈ p.failure, Json.member? (.object ms) "exc" = some (.text t)

lemma Parts.Of.names (h : p.Of d) : (p.members d.marks).map Prod.fst =
    Text.ofString "ts" :: "pid" :: "level" :: "logger" :: "msg" ::
      Record.markNames.filter (Record.isMarked d.marks) ++
        if d.attached.any Attached.isSomething then [Text.ofString "exc"] else [] := by
  obtain ⟨a, ha, hfailure⟩ := h.failure
  rw [Parts.members, Record.membersWith, List.map_append, List.map_append, List.map_append,
    Record.markMembers_names, ha, Option.any_some, ← isSome_of_failure? hfailure]
  cases p.failure <;> rfl

lemma Parts.Of.nodup (h : p.Of d) : ((p.members d.marks).map Prod.fst).Nodup := by
  have hall : (Text.ofString "ts" :: "pid" :: "level" :: "logger" :: "msg" ::
      Record.markNames ++ [Text.ofString "exc"]).Nodup := by decide
  rw [h.names]
  refine List.Sublist.nodup (List.Sublist.append ?_ ?_) hall
  · exact ((((List.filter_sublist.cons_cons _).cons_cons _).cons_cons _).cons_cons _).cons_cons _
  · split
    · exact List.Sublist.refl _
    · exact List.nil_sublist _

/-- A record whose time and message can be told is one line without control characters, and what is
read from it has the parts of the record, the marks that are set and the failure, if there is one. -/
theorem line_decodes (h : p.Of d) : ∃ line ms, d.line = .ok line ∧ (∀ s ∈ line, 0x20 ≤ s.code) ∧
    Json.read? line = some (.object ms) ∧ Tells p d ms := by
  refine ⟨_, p.members d.marks, h.line, fun s => Json.le_of_mem_write Json.oneLine_spaced h.isExact,
    Json.read?_write Json.readable_spaced h.isExact, ?_⟩
  have hmember : ∀ m ∈ p.members d.marks,
      Json.member? (.object (p.members d.marks)) m.1 = some m.2 :=
    fun m hm => Json.member?_of_mem h.nodup hm
  have hmark : ∀ m ∈ Record.markMembers d.marks, m ∈ p.members d.marks := fun m hm =>
    List.mem_append_right _ (List.mem_append_left _ (List.mem_append_right _ hm))
  have hparts : [(Text.ofString "ts", .text p.time), ("pid", p.process), ("level", p.level),
      ("logger", p.logger), ("msg", .text p.message)] ⊆ p.members d.marks :=
    List.IsPrefix.subset ⟨_, rfl⟩
  refine ⟨h.names, hmember ("ts", .text p.time) (hparts ?_), hmember ("pid", p.process) (hparts ?_),
    hmember ("level", p.level) (hparts ?_), hmember ("logger", p.logger) (hparts ?_),
    hmember ("msg", .text p.message) (hparts ?_), ?_, ?_⟩
  · simp
  · simp
  · simp
  · simp
  · simp
  · intro name hname v hv hnull
    exact hmember (name, _) (hmark _ (Record.mem_markMembers hname hv hnull))
  · intro t ht
    refine hmember ("exc", .text t) (List.mem_append_right _ (List.mem_append_right _ ?_))
    exact List.mem_map.2 ⟨t, Option.mem_toList.2 ht, rfl⟩

/-- A message of two lines, a mark that is a path, one that is not set, and a failure. -/
def multiline : Draft where
  created := some (.int 0)
  process := some (.int 7)
  level := some (.text "INFO")
  logger := some (.text "krun_launch.lock")
  template := some (.text "took\n%s")
  values := some (.inOrder [.text "it"])
  attached := some (.failure "E\n\"x\"")
  marks := [("attempt", .null), ("lock_path", .path "run/krun.lock"), ("port", .int 3333)]

theorem line_decodes_multiline :
    let p : Parts := ⟨"1970-01-01T00:00:00Z", .int 7, .text "INFO", .text "krun_launch.lock",
      "took\nit", some "E\n\"x\""⟩
    p.Of multiline ∧ ∃ line ms, multiline.line = .ok line ∧ (∀ s ∈ line, 0x20 ≤ s.code) ∧
      Json.read? line = some (.object ms) ∧
      ms.map Prod.fst = [Text.ofString "ts", "pid", "level", "logger", "msg", "port", "lock_path",
        "exc"] ∧
      Json.member? (.object ms) "msg" = some (.text "took\nit") ∧
      Json.member? (.object ms) "port" = some (.int 3333) ∧
      Json.member? (.object ms) "lock_path" = some (.text "run/krun.lock") ∧
      Json.member? (.object ms) "exc" = some (.text "E\n\"x\"") := by
  intro p
  have hp : p.Of multiline := {
    time := ⟨.int 0, ⟨0, 0⟩, rfl, rfl, rfl⟩
    process := ⟨.int 7, rfl, rfl, rfl⟩
    level := ⟨.text "INFO", rfl, rfl, rfl⟩
    logger := ⟨.text "krun_launch.lock", rfl, rfl, rfl⟩
    message := rfl
    failure := ⟨.failure "E\n\"x\"", rfl, rfl⟩
    marks := by decide }
  obtain ⟨line, ms, hline, hcode, hread, htells⟩ := line_decodes hp
  refine ⟨hp, line, ms, hline, hcode, hread, htells.names.trans (by decide), htells.message, ?_, ?_,
    htells.failure _ rfl⟩
  · exact htells.marks "port" (by decide) (.int 3333) rfl nofun
  · exact htells.marks "lock_path" (by decide) (.path "run/krun.lock") rfl nofun

end Draft

end Journal

end SharedVm
