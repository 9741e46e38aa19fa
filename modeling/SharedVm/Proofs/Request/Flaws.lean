import SharedVm.Proofs.Request.Build

/-!
# What is told of a request that is refused

What is given for a request is checked item by item: the command, the arguments, and of each variable
the name and then the value. A request is built just when all items are texts. Otherwise each item
that is no text is told once, in this order, at the place where it was given.
-/

namespace SharedVm.Request

/-- Where an item was given. -/
inductive Place where
  | command
  | argument (i : Nat)
  | name (key : Value)
  | value (key : Value)

def Place.path : Place → List Text
  | command => ["command"]
  | argument i => ["command_args", Decimal.ofNat i]
  | name key => ["env", nameText key, "[key]"]
  | value key => ["env", nameText key]

/-- What is given, item by item. -/
def given (command : Value) (args : List Value) (entries : List (Value × Value)) :
    List (Place × Value) :=
  (.command, command) :: args.mapIdx (fun i v => (.argument i, v)) ++
    entries.flatMap fun entry => [(.name entry.1, entry.1), (.value entry.1, entry.2)]

/-- What is told of items: of each one that is no text, where it is. -/
def illTyped (items : List (Place × Value)) : List Detail :=
  (items.filter fun item => !isText item.2).map fun item => ⟨item.1.path, .notText⟩

/-! ### Flaws of items -/

section Items

variable {p : Place} {v : Value} {items more : List (Place × Value)}

lemma illTyped_cons : illTyped ((p, v) :: items) =
    (if isText v then [] else [⟨p.path, .notText⟩]) ++ illTyped items := by
  cases h : isText v <;> simp [illTyped, h]

lemma illTyped_append : illTyped (items ++ more) = illTyped items ++ illTyped more := by
  simp [illTyped]

lemma illTyped_eq_nil_iff : illTyped items = [] ↔ ∀ item ∈ items, isText item.2 = true := by
  simp [illTyped]

lemma commandFlaws_eq (v : Value) :
    commandFlaws (some v) = if isText v then [] else [⟨Place.command.path, .notText⟩] := by
  cases v <;> rfl

lemma itemFlaws_eq (i : Nat) (args : List Value) :
    itemFlaws i args = illTyped (args.mapIdx fun k v => (.argument (i + k), v)) := by
  induction args generalizing i with
  | nil => rfl
  | cons v rest ih =>
    have hshift : (fun k v => (Place.argument (i + (k + 1)), v)) =
        fun k (v : Value) => (Place.argument (i + 1 + k), v) := by
      funext k v
      rw [Nat.add_right_comm, Nat.add_assoc]
    rw [List.mapIdx_cons, illTyped_cons, hshift, ← ih (i + 1)]
    cases v <;> rfl

lemma flatMap_entryFlaws_eq (entries : List (Value × Value)) :
    entries.flatMap entryFlaws =
      illTyped (entries.flatMap fun entry => [(.name entry.1, entry.1), (.value entry.1, entry.2)]) := by
  induction entries with
  | nil => rfl
  | cons entry rest ih =>
    rw [List.flatMap_cons, List.flatMap_cons, illTyped_append, ← ih, illTyped_cons, illTyped_cons]
    rw [show illTyped [] = [] from rfl, List.append_nil]
    rfl

/-- Each item that is no text is told once. -/
lemma flaws_eq_illTyped (command : Value) (args : List Value) (entries : List (Value × Value)) :
    flaws [("command", command), ("command_args", .list args), ("env", .mapping entries)] =
      illTyped (given command args entries) := by
  have hargs : itemFlaws 0 args = illTyped (args.mapIdx fun i v => (.argument i, v)) := by
    rw [itemFlaws_eq]
    simp only [Nat.zero_add]
  rw [flaws_fields, given, illTyped_append, illTyped_cons, commandFlaws_eq, hargs,
    flatMap_entryFlaws_eq]

end Items

/-! ### What comes of what is given -/

/-- What comes of a command, arguments and variables: the request that they are the texts of, or what
is told of them. -/
structure Judges (command : Value) (args : List Value) (entries : List (Value × Value))
    (result : Except Failure Request) : Prop where
  built : (∃ r, result = .ok r) ↔ ∀ item ∈ given command args entries, isText item.2 = true
  same : ∀ r, result = .ok r → command = .text r.command ∧ args = r.args.map .text ∧
    entries = r.env.map fun (k, v) => (.text k, .text v)
  refused : ∀ f, result = .error f → ∃ e, f = .launch e ∧ e.kind = .serialization ∧
    e.details = some (illTyped (given command args entries))

lemma check_judges (command : Value) (args : List Value) (entries : List (Value × Value)) :
    Judges command args entries ((check [("command", command), ("command_args", .list args),
      ("env", .mapping entries)]).mapError fun details => .launch (.invalid details)) := by
  have hflaws := flaws_eq_illTyped command args entries
  cases hc : check [("command", command), ("command_args", .list args),
      ("env", .mapping entries)] with
  | ok r =>
    have hnone : illTyped (given command args entries) = [] := by
      unfold check at hc
      rw [hflaws] at hc
      split at hc
      · assumption
      · cases hc
    refine ⟨iff_of_true ⟨r, rfl⟩ (illTyped_eq_nil_iff.1 hnone), ?_, ?_⟩
    · rintro _ ⟨⟩
      exact check_eq_ok_iff.1 hc
    · intro f hf
      cases hf
  | error details =>
    have hsome : illTyped (given command args entries) = details ∧ details ≠ [] := by
      unfold check at hc
      rw [hflaws] at hc
      split at hc
      · cases hc
      · rename_i hne
        exact ⟨Except.error.inj hc, fun hd => hne ((Except.error.inj hc).trans hd)⟩
    refine ⟨iff_of_false ?_ ?_, ?_, ?_⟩
    · rintro ⟨r, hr⟩
      cases hr
    · rw [← illTyped_eq_nil_iff, hsome.1]
      exact hsome.2
    · intro r hr
      cases hr
    · rintro _ ⟨⟩
      exact ⟨_, rfl, rfl, congrArg some hsome.1.symm⟩

/-- A request is built just when the command stands for a text and everything else that is given is a
text. It then holds these texts. Otherwise all items that are no texts are told, each one once and in
the order in which they were given. Of a command that stands for no name, or of arguments that cannot
be gone through, nothing is told item by item. -/
theorem build_judges (command args : Value) (entries : List (Value × Value)) :
    (∀ name items, commandName command = .ok name → args.items? = some items →
      Judges name items entries (build command args (.mapping entries))) ∧
    ((∃ f, commandName command = .error f) ∨ args.items? = none →
      ∃ e, build command args (.mapping entries) = .error (.launch e) ∧ e.kind = .serialization ∧
        e.details = none) := by
  unfold build itemsOf
  dsimp only
  constructor
  · intro name items hname hitems
    rw [hname, hitems]
    exact check_judges name items entries
  · cases hname : commandName command with
    | error f => exact fun _ => ⟨_, rfl, rfl, rfl⟩
    | ok name =>
      cases hitems : args.items? with
      | none => exact fun _ => ⟨_, rfl, rfl, rfl⟩
      | some items =>
        rintro (⟨f, hf⟩ | hnone)
        · cases hf
        · cases hnone

/-- Arguments and variables of all kinds. -/
theorem build_judges_mixed :
    let entries : List (Value × Value) :=
      [(.text "A", .text "1"), (.bool true, .null), (.text "B", .int 2)]
    let args : Value := .list [.text "x", .int 1, .text "y", .bytes [0x7A]]
    commandName (.bytes [0x63]) = .ok (.bytes [0x63]) ∧
      ∃ e, build (.bytes [0x63]) args (.mapping entries) = .error (.launch e) ∧
        e.kind = .serialization ∧ e.details = some [
          ⟨["command"], .notText⟩, ⟨["command_args", "1"], .notText⟩,
          ⟨["command_args", "3"], .notText⟩, ⟨["env", "1", "[key]"], .notText⟩,
          ⟨["env", "1"], .notText⟩, ⟨["env", "B"], .notText⟩] := by
  intro entries args
  refine ⟨rfl, ?_⟩
  have hjudges := (build_judges (.bytes [0x63]) args entries).1 _ _ rfl rfl
  cases hb : build (.bytes [0x63]) args (.mapping entries) with
  | ok r => cases (hjudges.same r hb).1
  | error f =>
    obtain ⟨e, rfl, hk, hd⟩ := hjudges.refused f hb
    exact ⟨e, rfl, hk, hd⟩

end SharedVm.Request
