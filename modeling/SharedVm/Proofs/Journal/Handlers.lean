import SharedVm.Journal.Handlers
import SharedVm.Proofs.Decimal
import Mathlib.Data.List.Induction
import Mathlib.Data.List.Perm.Basic
import Mathlib.Tactic.Lemma

/-!
# Handlers after any history

However often the handler for lines of JSON is set up, and however many others are added in between,
there is one of the former, on the stream of the last set-up, and each of the latter. A record of the
package that matters enough is written once by each of them, and other records by none.
-/

namespace SharedVm.Journal

/-- What a threshold comes to. Where it is zero, that of the logger above all others counts. -/
def inForce (threshold : Int) : Int := if threshold = 0 then usualLevel else threshold

lemma isWritten_iff {threshold level : Int} :
    isWritten threshold level = true ↔ 0 < level ∧ inForce threshold ≤ level := by
  rw [isWritten, Bool.and_eq_true, decide_eq_true_eq, decide_eq_true_eq, inForce]

/-- A record that can be made and written: its level and its marks can be shown, and no mark stands in
the place of a part of it or of what makes its message. -/
structure Record.IsWritable (r : Record) : Prop where
  level : (Decimal.write? r.level).isSome
  shown : Record.everyMark r.marks Value.isShowable = true
  parts : ∀ m ∈ r.marks, m.1 ∉ Handlers.partNames
  message : r.marks.get? messageMark = none

namespace Handlers

/-! ### Handlers that are taken away -/

lemma foldl_erase (handlers left : List Handler)
    (h : ∀ x ∈ left, x.form = .json → left.count x ≤ handlers.count x) :
    handlers.foldl (fun left x => if x.form = .json then left.erase x else left) left =
      left.filter (·.form ≠ .json) := by
  induction handlers generalizing left with
  | nil =>
    have hnone : ∀ x ∈ left, decide (x.form ≠ .json) = true := by
      intro x hx
      refine decide_eq_true fun hjson => ?_
      have hle := h x hx hjson
      rw [List.count_nil] at hle
      exact Nat.not_le.2 (List.count_pos_iff.2 hx) hle
    rw [List.foldl_nil, List.filter_eq_self.2 hnone]
  | cons y rest ih =>
    rw [List.foldl_cons]
    split
    · rename_i hy
      -- Each handler that is passed takes away one of those that are equal to it.
      have hkept : ∀ x ∈ left.erase y, x.form = .json → (left.erase y).count x ≤ rest.count x := by
        intro x hx hjson
        have hle := h x (List.mem_of_mem_erase hx) hjson
        rw [List.count_cons] at hle
        rw [List.count_erase]
        exact Nat.sub_le_of_le_add hle
      have hgone : y ∉ left.filter (·.form ≠ .json) := fun hmem =>
        of_decide_eq_true (List.mem_filter.1 hmem).2 hy
      rw [ih _ hkept, ← List.erase_filter, List.erase_of_not_mem hgone]
    · rename_i hy
      refine ih left fun x hx hjson => ?_
      have hne : y ≠ x := fun he => hy (he ▸ hjson)
      have hle := h x hx hjson
      rwa [List.count_cons_of_ne hne] at hle

lemma withoutJson_eq (handlers : List Handler) :
    withoutJson handlers = handlers.filter (·.form ≠ .json) :=
  foldl_erase handlers handlers fun _ _ _ => Nat.le_refl _

lemma filter_json_withoutJson (handlers : List Handler) :
    (withoutJson handlers).filter (·.form = .json) = [] := by
  rw [withoutJson_eq, List.filter_eq_nil_iff]
  intro x hx hjson
  exact of_decide_eq_true (List.mem_filter.1 hx).2 (of_decide_eq_true hjson)

lemma filter_message_withoutJson (handlers : List Handler) :
    (withoutJson handlers).filter (·.form = .message) = handlers.filter (·.form = .message) := by
  rw [withoutJson_eq, List.filter_filter]
  refine List.filter_congr fun x _ => ?_
  cases x.form <;> rfl

/-! ### Histories -/

/-- What may happen to the handlers of the package. -/
inductive Deed where
  | setUp (level : Int) (stream : Text) (flag : Option Bool)
  | addForeign (stream : Text)
  | log (r : Record)

def Deed.threshold? : Deed → Option (Int × Text)
  | .setUp level stream _ => some (level, stream)
  | _ => none

def Deed.foreign? : Deed → Option Text
  | .addForeign stream => some stream
  | _ => none

/-- The level and the stream of the last set-up. -/
def lastSetUp? (deeds : List Deed) : Option (Int × Text) := (deeds.filterMap Deed.threshold?).getLast?

/-- The streams of the other handlers, as they were added. -/
def foreignStreams (deeds : List Deed) : List Text := deeds.filterMap Deed.foreign?

/-- Telling the log something changes no handler. -/
def after (h : Handlers) : Deed → Handlers
  | .setUp level stream flag => h.setUp level stream flag
  | .addForeign stream => h.addForeign stream
  | .log _ => h

def afterAll (h : Handlers) (deeds : List Deed) : Handlers := deeds.foldl after h

/-- The handlers are those that these deeds leave behind. -/
structure Follow (deeds : List Deed) (h : Handlers) : Prop where
  json : h.list.filter (·.form = .json) = (lastSetUp? deeds).toList.map fun x => ⟨.json, x.2⟩
  foreign : h.list.filter (·.form = .message) = (foreignStreams deeds).map (⟨.message, ·⟩)
  threshold : ∀ x ∈ lastSetUp? deeds, h.threshold = x.1
  passesOn : h.passesOn = (lastSetUp? deeds).isNone

lemma Follow.after {deeds : List Deed} {h : Handlers} (hf : Follow deeds h) (d : Deed) :
    Follow (deeds ++ [d]) (h.after d) := by
  cases d with
  | setUp level stream flag =>
    have hlast : lastSetUp? (deeds ++ [.setUp level stream flag]) = some (level, stream) := by
      rw [lastSetUp?, List.filterMap_append]
      exact List.getLast?_concat
    have hsame : foreignStreams (deeds ++ [.setUp level stream flag]) = foreignStreams deeds := by
      rw [foreignStreams, List.filterMap_append]
      exact List.append_nil _
    refine ⟨?_, ?_, ?_, ?_⟩
    · rw [hlast, Handlers.after, setUp, List.filter_append, filter_json_withoutJson]
      rfl
    · rw [hsame, ← hf.foreign, Handlers.after, setUp, List.filter_append,
        filter_message_withoutJson]
      exact List.append_nil _
    · rw [hlast]
      rintro _ ⟨⟩
      rfl
    · rw [hlast]
      rfl
  | addForeign stream =>
    have hlast : lastSetUp? (deeds ++ [.addForeign stream]) = lastSetUp? deeds := by
      rw [lastSetUp?, List.filterMap_append]
      exact congrArg _ (List.append_nil _)
    have hone : foreignStreams (deeds ++ [.addForeign stream]) =
        foreignStreams deeds ++ [stream] := List.filterMap_append
    refine ⟨?_, ?_, hlast ▸ hf.threshold, hlast ▸ hf.passesOn⟩
    · rw [hlast, ← hf.json, Handlers.after, addForeign, List.filter_append]
      exact List.append_nil _
    · rw [hone, List.map_append, ← hf.foreign, Handlers.after, addForeign, List.filter_append]
      rfl
  | log r =>
    have hlast : lastSetUp? (deeds ++ [.log r]) = lastSetUp? deeds := by
      rw [lastSetUp?, List.filterMap_append]
      exact congrArg _ (List.append_nil _)
    have hsame : foreignStreams (deeds ++ [.log r]) = foreignStreams deeds := by
      rw [foreignStreams, List.filterMap_append]
      exact List.append_nil _
    exact ⟨hlast ▸ hf.json, hsame ▸ hf.foreign, hlast ▸ hf.threshold, hlast ▸ hf.passesOn⟩

theorem follow_afterAll (deeds : List Deed) : Follow deeds (afterAll {} deeds) := by
  induction deeds using List.reverseRecOn with
  | nil => exact ⟨rfl, rfl, nofun, rfl⟩
  | append_singleton deeds d ih =>
    rw [afterAll, List.foldl_concat]
    exact ih.after d

/-! ### What is written -/

lemma isEnabled_iff {h : Handlers} {logger : Text} {level : Int} (hc : covers logger = true) :
    h.isEnabled logger level = true ↔ 0 < level ∧ inForce h.threshold ≤ level := by
  rw [isEnabled, if_pos hc, isWritten_iff]

/-- A record that can be made comes to every handler, also where its marks cannot be shown. -/
lemma log_of_made {h : Handlers} {r : Record} (hc : covers r.logger = true)
    (hl : 0 < r.level ∧ inForce h.threshold ≤ r.level) (hlevel : (Decimal.write? r.level).isSome)
    (hparts : ∀ m ∈ r.marks, m.1 ∉ partNames)
    (hmessage : r.marks.get? Record.messageMark = none) : h.log r = .ok (h.emit r) := by
  have hnone : r.marks.find? (fun m => partNames.contains m.1) = none :=
    List.find?_eq_none.2 fun m hm hc => hparts m hm (List.contains_iff_mem.1 hc)
  have hmade : refusal? r = none := by
    rw [refusal?, Option.isNone_eq_false_iff.2 hlevel, hnone]
    rfl
  rw [log, if_pos ((isEnabled_iff hc).2 hl), hmade]
  dsimp only
  rw [hmessage]
  rfl

lemma log_of_not_reached {h : Handlers} {r : Record} (hc : covers r.logger = true)
    (hl : ¬ (0 < r.level ∧ inForce h.threshold ≤ r.level)) : h.log r = .ok [] := by
  rw [log, if_neg fun he => hl ((isEnabled_iff hc).1 he)]

lemma emit_of_reached {h : Handlers} {r : Record} (hr : r.IsWritable) (hc : covers r.logger = true)
    (hl : 0 < r.level ∧ inForce h.threshold ≤ r.level) :
    h.emit r = h.list.map fun x => ⟨x.stream, match x.form with
      | .json => .record r
      | .message => .message r.message⟩ := by
  rw [emit, hc, isWritten_iff.2 hl, ← List.filterMap_eq_map]
  refine List.filterMap_congr fun ⟨form, stream⟩ _ => ?_
  cases form with
  | json => rw [entryOf?, if_pos hr.shown]; rfl
  | message => rfl

lemma exists_handler_of_mem_log {h : Handlers} {r : Record} {ws : List Written}
    (hw : h.log r = .ok ws) {w : Written} (hmem : w ∈ ws) : ∃ x ∈ h.list, x.stream = w.stream := by
  have hemit : w ∈ h.emit r := by
    unfold log at hw
    split at hw
    · split at hw
      · cases hw
      · cases hw
        split at hmem
        · cases hmem
        · exact hmem
    · cases hw
      cases hmem
  unfold emit at hemit
  split at hemit
  · obtain ⟨x, hx, hsome⟩ := List.mem_filterMap.1 hemit
    obtain ⟨_, _, rfl⟩ := Option.map_eq_some_iff.1 hsome
    exact ⟨x, hx, rfl⟩
  · cases hemit

lemma log_of_level_not_shown {h : Handlers} {r : Record} (hc : covers r.logger = true)
    (hl : 0 < r.level ∧ inForce h.threshold ≤ r.level) (hr : Decimal.write? r.level = none) :
    h.log r = .error .digits := by
  rw [log, if_pos ((isEnabled_iff hc).2 hl), refusal?, hr]
  rfl

/-- A record with a mark that cannot be shown becomes no line of JSON. -/
lemma emit_of_not_shown {h : Handlers} {r : Record}
    (hr : Record.everyMark r.marks Value.isShowable = false)
    (hjson : ∀ x ∈ h.list, x.form = .json) : h.emit r = [] := by
  unfold emit
  split
  · refine List.filterMap_eq_nil_iff.2 fun x hx => ?_
    rw [hjson x hx, entryOf?, hr]
    rfl
  · rfl

lemma everyMark_port (v : Value) :
    Record.everyMark [("port", v)] Value.isShowable = v.isShowable := by
  rw [← Bool.and_true v.isShowable]
  rfl

/-- After a last set-up on this stream at this level, with others on these streams. -/
structure Settles (level : Int) (stream : Text) (others : List Text) (h : Handlers) : Prop where
  json : h.list.filter (·.form = .json) = [⟨.json, stream⟩]
  foreign : h.list.filter (·.form = .message) = others.map (⟨.message, ·⟩)
  threshold : h.threshold = level
  passesOn : h.passesOn = false
  /-- Each handler writes a record that matters enough once. -/
  once : ∀ r : Record, r.IsWritable → covers r.logger = true → 0 < r.level →
    inForce level ≤ r.level → ∃ ws, h.log r = .ok ws ∧
      ws.Perm (⟨stream, .record r⟩ :: others.map fun s => ⟨s, .message r.message⟩)
  below : ∀ r : Record, covers r.logger = true → ¬ (0 < r.level ∧ inForce level ≤ r.level) →
    h.log r = .ok []
  /-- Streams from before get nothing. -/
  silent : ∀ (r : Record) ws, h.log r = .ok ws → ∀ w ∈ ws, w.stream = stream ∨ w.stream ∈ others

lemma Follow.perm {deeds : List Deed} {h : Handlers} (hf : Follow deeds h) {level : Int}
    {stream : Text} (hs : lastSetUp? deeds = some (level, stream)) :
    h.list.Perm (⟨.json, stream⟩ :: (foreignStreams deeds).map (⟨.message, ·⟩)) := by
  have hsplit := List.filter_append_perm (fun x : Handler => decide (x.form = .json)) h.list
  have hrest : h.list.filter (fun x => !decide (x.form = .json)) =
      h.list.filter (·.form = .message) := by
    refine List.filter_congr fun x _ => ?_
    cases x.form <;> rfl
  rw [hrest, hf.json, hf.foreign, hs] at hsplit
  exact hsplit.symm

/-- Whatever has happened to the handlers, if one for lines of JSON has been set up at all, then there
is one, on the stream of the last set-up, beside all others that were added. The package passes nothing
on and has the level of the last set-up. A record of the package at a level above zero that reaches the
level in force is written once by each handler, if it can be made and written at all; one that does
not reach it is not written. -/
theorem never_pile_up {deeds : List Deed} {level : Int} {stream : Text}
    (h : lastSetUp? deeds = some (level, stream)) :
    Settles level stream (foreignStreams deeds) (afterAll {} deeds) := by
  have hf := follow_afterAll deeds
  have hlevel : (afterAll {} deeds).threshold = level := hf.threshold _ h
  have hperm := hf.perm h
  refine ⟨by rw [hf.json, h]; rfl, hf.foreign, hlevel, by rw [hf.passesOn, h]; rfl, ?_, ?_, ?_⟩
  · intro r hr hc hpos hreach
    have hl : 0 < r.level ∧ inForce (afterAll {} deeds).threshold ≤ r.level := ⟨hpos, hlevel ▸ hreach⟩
    refine ⟨_, log_of_made hc hl hr.level hr.parts hr.message, ?_⟩
    rw [emit_of_reached hr hc hl]
    refine (hperm.map _).trans (List.Perm.of_eq ?_)
    rw [List.map_cons, List.map_map]
    rfl
  · intro r hc hl
    exact log_of_not_reached hc (hlevel ▸ hl)
  · intro r ws hw w hmem
    obtain ⟨x, hx, hstream⟩ := exists_handler_of_mem_log hw hmem
    rw [← hstream]
    rcases List.mem_cons.1 (hperm.mem_iff.1 hx) with rfl | hx
    · exact .inl rfl
    · obtain ⟨s, hs, rfl⟩ := List.mem_map.1 hx
      exact .inr hs

def sample (level : Int) (marks : Bindings Value := []) : Record where
  logger := "krun_launch.lock"
  level
  message := "m"
  marks

/-- A handler is set up, another is added, and the first is set up anew, on the stream of the other. -/
theorem never_pile_up_moved :
    let deeds : List Deed :=
      [.setUp 10 "a" none, .addForeign "b", .log (sample 40), .setUp 30 "b" none]
    lastSetUp? deeds = some ((30 : Int), ("b" : Text)) ∧ (sample 40).IsWritable ∧
      ∃ ws, (afterAll {} deeds).log (sample 40) = .ok ws ∧
        ws.Perm [⟨"b", .record (sample 40)⟩, ⟨"b", .message "m"⟩] := by
  have hr : (sample 40).IsWritable := ⟨by decide, rfl, nofun, rfl⟩
  exact ⟨rfl, hr, (never_pile_up rfl).once (sample 40) hr rfl (by decide) (by decide)⟩

/-- At a level below zero, a record that reaches it is not written. No more is a record with a mark in
the place of what makes its message, or with one that has too many digits. One with a mark in the place
of a part, or with so many digits in its level, is not even made. -/
theorem unheard :
    let deeds : List Deed := [.setUp (-5) "a" none]
    let h := afterAll {} deeds
    let n := Nat.pow 10 Decimal.limit
    lastSetUp? deeds = some ((-5 : Int), ("a" : Text)) ∧ covers (sample (-3)).logger = true ∧
      inForce (-5) ≤ (sample (-3)).level ∧ h.log (sample (-3)) = .ok [] ∧
      h.log (sample 30 [("getMessage", .int 5)]) = .ok [] ∧
      h.log (sample 30 [("msg", .int 5)]) = .error (.nameTaken "msg") ∧
      h.log (sample 30 [("port", .int n)]) = .ok [] ∧ h.log (sample n) = .error .digits := by
  intro deeds h n
  have hn : Decimal.write? n = none := Decimal.write?_eq_none le_rfl
  -- The number has to stay a name from here on: its digits are never to be written out.
  clear_value n
  have hpos : 0 < n := by
    refine Nat.pos_of_ne_zero fun hzero => ?_
    rw [hzero] at hn
    exact absurd hn (by decide)
  have hforce : inForce h.threshold ≤ 0 := by decide
  have hthirty : (0 : Int) < 30 := by decide
  refine ⟨rfl, rfl, by decide, rfl, rfl, rfl, ?_, ?_⟩
  · have hmark : Record.everyMark [("port", Value.int n)] Value.isShowable = false := by
      rw [everyMark_port, Value.isShowable, hn]
      rfl
    have hport : ("port" : Text) ∉ partNames := by decide
    have hwritten : (Decimal.write? 30).isSome = true := rfl
    have hlog : h.log (sample 30 [("port", .int n)]) =
        .ok (h.emit (sample 30 [("port", .int n)])) :=
      log_of_made rfl ⟨hthirty, Int.le_trans hforce (Int.le_of_lt hthirty)⟩ hwritten
        (fun m hm => List.mem_singleton.1 hm ▸ hport) rfl
    have hjson : ∀ x ∈ h.list, x.form = .json := fun x hx => List.mem_singleton.1 hx ▸ rfl
    rw [hlog, emit_of_not_shown hmark hjson]
  · exact log_of_level_not_shown rfl
      ⟨Int.natCast_pos.2 hpos, Int.le_trans hforce (Int.natCast_nonneg n)⟩ hn

end Handlers

end SharedVm.Journal
