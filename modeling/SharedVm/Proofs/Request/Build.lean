import SharedVm.Request
import Mathlib.Tactic.Lemma

/-!
# Building requests

A request is built from what it fits and from nothing else: the command stands for a text, the
arguments are texts, and so are the names and the values of the variables. What is built holds the
texts that were given. Whatever else is given is told as a request that cannot be written.
-/

namespace SharedVm.Request

/-- What is given is the texts of the request, the command as the name that it stands for. -/
structure Fits (r : Request) (command args : Value) (entries : List (Value × Value)) : Prop where
  command : commandName command = .ok (.text r.command)
  args : args.items? = some (r.args.map .text)
  env : entries = r.env.map fun (k, v) => (.text k, .text v)

/-! ### Flaws -/

lemma isText_iff (v : Value) : isText v = true ↔ v = .text (textOf v) := by
  cases v <;> simp [isText, textOf]

lemma commandFlaws_eq_nil_iff (v : Value) : commandFlaws (some v) = [] ↔ v = .text (textOf v) := by
  cases v <;> simp [commandFlaws, textOf]

lemma itemFlaws_eq_nil_iff (i : Nat) (items : List Value) :
    itemFlaws i items = [] ↔ items = (items.map textOf).map .text := by
  induction items generalizing i with
  | nil => simp [itemFlaws]
  | cons item rest ih => cases item <;> simp [itemFlaws, textOf, ih (i + 1)]

lemma entryFlaws_eq_nil_iff (entry : Value × Value) :
    entryFlaws entry = [] ↔ entry = (.text (textOf entry.1), .text (textOf entry.2)) := by
  rw [Prod.ext_iff, ← isText_iff, ← isText_iff, entryFlaws]
  simp

lemma flatMap_entryFlaws_eq_nil_iff (entries : List (Value × Value)) :
    entries.flatMap entryFlaws = [] ↔
      entries = (envOf (some (.mapping entries))).map fun (k, v) => (.text k, .text v) := by
  unfold envOf
  induction entries with
  | nil => simp
  | cons entry rest ih =>
    rw [List.flatMap_cons, List.append_eq_nil_iff, entryFlaws_eq_nil_iff, ih]
    exact (List.cons.injEq ..).to_iff.symm

lemma flaws_fields (command : Value) (args : List Value) (entries : List (Value × Value)) :
    flaws [("command", command), ("command_args", .list args), ("env", .mapping entries)] =
      commandFlaws (some command) ++ itemFlaws 0 args ++ entries.flatMap entryFlaws := by
  have hnamed : areNamed [("command", command), ("command_args", .list args),
      ("env", .mapping entries)] = true := rfl
  rw [flaws, hnamed]
  exact List.append_nil _

/-! ### What is built -/

variable {command args env : Value} {entries : List (Value × Value)}

lemma check_eq_ok_iff {items : List Value} {r : Request} :
    check [("command", command), ("command_args", .list items), ("env", .mapping entries)] = .ok r ↔
      command = .text r.command ∧ items = r.args.map .text ∧
        entries = r.env.map fun (k, v) => (.text k, .text v) := by
  have hfields : ofFields [("command", command), ("command_args", .list items),
      ("env", .mapping entries)] =
      ⟨textOf command, items.map textOf, envOf (some (.mapping entries))⟩ := rfl
  have hnil : flaws [("command", command), ("command_args", .list items),
      ("env", .mapping entries)] = [] ↔
      command = .text (textOf command) ∧ items = (items.map textOf).map .text ∧
        entries = (envOf (some (.mapping entries))).map fun (k, v) => (.text k, .text v) := by
    rw [flaws_fields, List.append_eq_nil_iff, List.append_eq_nil_iff, commandFlaws_eq_nil_iff,
      itemFlaws_eq_nil_iff, flatMap_entryFlaws_eq_nil_iff, and_assoc]
  unfold check
  constructor
  · intro h
    split at h
    · rename_i hflaws
      rw [hfields] at h
      cases h
      exact hnil.1 hflaws
    · cases h
  · obtain ⟨c, as, e⟩ := r
    rintro ⟨rfl, rfl, rfl⟩
    have has : (as.map Value.text).map textOf = as := by
      rw [List.map_map]
      exact List.map_id as
    have he : envOf (some (.mapping (e.map fun (k, v) => (.text k, .text v)))) = e := by
      rw [envOf, List.map_map]
      exact List.map_id e
    rw [hnil.2 ⟨rfl, by rw [has], by rw [he]⟩, hfields, has, he]
    rfl

lemma mapError_eq_ok_iff {α β γ : Type} {x : Except α β} {f : α → γ} {b : β} :
    x.mapError f = .ok b ↔ x = .ok b := by
  cases x with
  | error e => exact iff_of_false nofun nofun
  | ok a => exact ⟨fun h => congrArg _ (Except.ok.inj h), fun h => congrArg _ (Except.ok.inj h)⟩

lemma build_eq_ok_iff {r : Request} :
    build command args (.mapping entries) = .ok r ↔ r.Fits command args entries := by
  unfold build itemsOf
  dsimp only
  cases hc : commandName command with
  | error f =>
    refine iff_of_false nofun fun h => ?_
    rw [h.command] at hc
    cases hc
  | ok name =>
    cases ha : args.items? with
    | none =>
      refine iff_of_false nofun fun h => ?_
      rw [h.args] at ha
      cases ha
    | some items =>
      refine (mapError_eq_ok_iff.trans check_eq_ok_iff).trans ⟨?_, ?_⟩
      · rintro ⟨rfl, rfl, he⟩
        exact ⟨hc, ha, he⟩
      · intro h
        have hname := h.command
        have hitems := h.args
        rw [hc] at hname
        rw [ha] at hitems
        exact ⟨Except.ok.inj hname, Option.some.inj hitems, h.env⟩

/-- Only variables that are no mapping are refused otherwise than as a request that cannot be
written. -/
lemma build_refused {f : Failure} (h : build command args env = .error f) :
    (∃ e, f = .launch e ∧ e.kind = .serialization) ∨
      ∃ kind, f = .noEntries kind ∧ ∀ entries, env ≠ .mapping entries := by
  unfold build at h
  dsimp only at h
  cases hc : commandName command with
  | error x =>
    rw [hc] at h
    exact .inl ⟨_, (Except.error.inj h).symm, rfl⟩
  | ok name =>
    cases ha : itemsOf args with
    | error x =>
      rw [hc, ha] at h
      exact .inl ⟨_, (Except.error.inj h).symm, rfl⟩
    | ok items =>
      rw [hc, ha] at h
      cases env with
      | mapping entries =>
        change (check _).mapError _ = _ at h
        generalize check _ = checked at h
        cases checked with
        | error details => exact .inl ⟨_, (Except.error.inj h).symm, rfl⟩
        | ok r => cases h
      | _ => exact .inr ⟨_, (Except.error.inj h).symm, nofun⟩

/-- A request that cannot be built is no failure to connect. -/
lemma kind_of_build {e : LaunchError} (h : build command args env = .error (.launch e)) :
    e.kind = .serialization := by
  rcases build_refused h with ⟨e', he, hk⟩ | ⟨_, hf, -⟩
  · cases he
    exact hk
  · cases hf

/-- Of a request whose variables are a mapping everything that can be wrong is told as such. -/
lemma launch_of_build {f : Failure} (h : build command args (.mapping entries) = .error f) :
    ∃ e, f = .launch e := by
  rcases build_refused h with ⟨e, he, -⟩ | ⟨_, -, hne⟩
  · exact ⟨e, he⟩
  · exact absurd rfl (hne entries)

end SharedVm.Request
