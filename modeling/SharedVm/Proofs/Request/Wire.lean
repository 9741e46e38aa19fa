import SharedVm.Proofs.Json.OneLine
import SharedVm.Proofs.Json.Read
import SharedVm.Request.Wire

/-!
# Requests that come back from the wire

The body of a request has no control character, so the mark that ends it is found where it is and
nowhere before. A reader that cuts a stream of requests at each mark gets the bodies back, and
reading a body gives the request. Only the name of a variable may hold a lone surrogate without
stopping the request; it travels in its lossy form.
-/

namespace SharedVm.Request

/-! ### The end of a request -/

def endMark : Bytes := [0x0A, 0x45, 0x4F, 0x4D, 0x0A]

lemma encode_sentinel : Utf8.encode sentinel = endMark := by decide

/-- The bytes before the first mark, and those after it. -/
def untilEnd : Bytes → Option (Bytes × Bytes)
  | [] => none
  | b :: rest =>
    if endMark.isPrefixOf (b :: rest) then some ([], (b :: rest).drop endMark.length)
    else (untilEnd rest).map fun (body, more) => (b :: body, more)

lemma length_lt_of_untilEnd {bs body rest : Bytes} (h : untilEnd bs = some (body, rest)) :
    rest.length < bs.length := by
  induction bs generalizing body with
  | nil => cases h
  | cons b bs ih =>
    rw [untilEnd] at h
    split at h
    · obtain ⟨-, rfl⟩ := Prod.mk.inj (Option.some.inj h)
      rw [List.length_drop, List.length_cons]
      exact Nat.sub_lt (Nat.succ_pos _) (by decide)
    · obtain ⟨⟨body', rest'⟩, hm, he⟩ := Option.map_eq_some_iff.1 h
      obtain ⟨-, rfl⟩ := Prod.mk.inj he
      exact Nat.lt_succ_of_lt (ih hm)

/-- The bodies in a stream that the mark ends each of. -/
def bodies (bs : Bytes) : Option (List Bytes) :=
  match _h : untilEnd bs with
  | some (body, rest) => (bodies rest).map (body :: ·)
  | none => if bs.isEmpty then some [] else none
termination_by bs.length
decreasing_by exact length_lt_of_untilEnd _h

/-- No mark begins with anything but a control character. -/
lemma not_endMark_prefix {b : UInt8} (hb : 0x20 ≤ b.toNat) (bs : Bytes) :
    ¬ endMark <+: b :: bs := by
  rintro ⟨t, ht⟩
  have h : (0x0A : UInt8) = b := (List.cons.inj ht).1
  rw [← h] at hb
  exact absurd hb (by decide)

lemma untilEnd_append {body : Bytes} (hb : ∀ b ∈ body, 0x20 ≤ b.toNat) (rest : Bytes) :
    untilEnd (body ++ endMark ++ rest) = some (body, rest) := by
  induction body with
  | nil => rfl
  | cons b body ih =>
    have hm : List.isPrefixOf endMark (b :: (body ++ endMark ++ rest)) = false := by
      rw [← Bool.not_eq_true, List.isPrefixOf_iff_prefix]
      exact not_endMark_prefix (hb b List.mem_cons_self) _
    rw [List.cons_append, List.cons_append, untilEnd, hm, if_neg Bool.false_ne_true,
      ih fun x hx => hb x (List.mem_cons_of_mem _ hx)]
    rfl

lemma bodies_nil : bodies [] = some [] := by
  rw [bodies]
  rfl

lemma bodies_append {body : Bytes} (hb : ∀ b ∈ body, 0x20 ≤ b.toNat) (rest : Bytes) :
    bodies (body ++ endMark ++ rest) = (bodies rest).map (body :: ·) := by
  have h := untilEnd_append hb rest
  rw [bodies]
  split
  · rename_i h'
    obtain ⟨rfl, rfl⟩ := Prod.mk.inj (Option.some.inj (h.symm.trans h'))
    rfl
  · rename_i h'
    cases h.symm.trans h'

/-- The mark first shows where the body ends. -/
lemma length_le_of_endMark_prefix {body : Bytes} (hb : ∀ b ∈ body, 0x20 ≤ b.toNat) {k : Nat}
    (hk : endMark <+: (body ++ endMark).drop k) : body.length ≤ k := by
  by_contra hlt
  have hlt : k < body.length := Nat.lt_of_not_le hlt
  rw [List.drop_append_of_le_length (Nat.le_of_lt hlt), List.drop_eq_getElem_cons hlt] at hk
  exact not_endMark_prefix (hb _ (List.getElem_mem hlt)) _ hk

/-! ### The body of a request -/

def body (r : Request) : Bytes := Utf8.encode (r.toJson.write Json.compact)

/-- No text of the request holds a lone surrogate. -/
def IsUnicode (r : Request) : Prop :=
  ∀ t ∈ r.texts ++ r.env.map (·.1), t.any Utf8.isLone = false

def object (r : Request) : Json :=
  .object [
    ("command", .text r.command),
    ("command_args", .array (r.args.map .text)),
    ("env", .object (r.env.map fun (k, v) => (k, .text v)))]

def textOf? : Json → Option Text
  | .text t => some t
  | _ => none

def ofJson? : Json → Option Request
  | .object [(c, .text command), (a, .array args), (e, .object env)] =>
    if [c, a, e] = fieldNames then do
      let args ← args.mapM textOf?
      let env ← env.mapM fun (k, v) => (textOf? v).map fun t => (k, t)
      return { command, args, env }
    else none
  | _ => none

def ofBody? (bs : Bytes) : Option Request :=
  ((Utf8.decode? bs).bind Json.read?).bind ofJson?

def ofStream? (bs : Bytes) : Option (List Request) := (bodies bs).bind (·.mapM ofBody?)

variable (r : Request)

lemma areExact_map_text (ts : List Text) : Json.areExact (ts.map .text) = true := by
  induction ts with
  | nil => rfl
  | cons t ts ih => exact ih

lemma areExactMembers_map_text (env : Bindings Text) (f : Text → Text) :
    Json.areExactMembers (env.map fun (k, v) => (f k, .text v)) = true := by
  induction env with
  | nil => rfl
  | cons entry env ih => exact ih

lemma isExact_toJson : r.toJson.isExact = true := by
  simp [toJson, Json.isExact, Json.areExactMembers, areExact_map_text, areExactMembers_map_text]

lemma le_of_mem_body : ∀ b ∈ r.body, 0x20 ≤ b.toNat := fun _ =>
  Utf8.le_of_mem_encode fun _ => Json.le_of_mem_write Json.oneLine_compact r.isExact_toJson

lemma frame_toJson : frame r.toJson = r.body ++ endMark := by
  rw [frame, Utf8.encode_append, encode_sentinel, body]

variable {r}

lemma IsUnicode.toJson (h : r.IsUnicode) : r.toJson = r.object := by
  have henv : r.env.map (fun (k, v) => (Utf8.lossy k, Json.text v)) =
      r.env.map fun (k, v) => (k, Json.text v) := by
    apply List.map_congr_left
    rintro ⟨k, v⟩ hkv
    have hk : k ∈ r.texts ++ r.env.map (·.1) :=
      List.mem_append_right _ (List.mem_map.2 ⟨(k, v), hkv, rfl⟩)
    change (Utf8.lossy k, _) = _
    rw [Utf8.lossy_eq_self (h k hk)]
  rw [Request.toJson, henv, object]

lemma itemTexts_map_text (ts : List Text) : Json.itemTexts (ts.map .text) = ts := by
  induction ts with
  | nil => rfl
  | cons t ts ih => rw [List.map_cons, Json.itemTexts, ih, Json.texts, List.singleton_append]

lemma mem_memberTexts {env : Bindings Text} {t : Text}
    (h : t ∈ Json.memberTexts (env.map fun (k, v) => (k, .text v))) :
    t ∈ env.map (·.1) ∨ t ∈ env.map (·.2) := by
  induction env with
  | nil => cases h
  | cons entry env ih =>
    simp only [List.map_cons, Json.memberTexts, Json.texts, List.mem_append, List.mem_cons,
      List.not_mem_nil, or_false] at h ⊢
    rcases h with (rfl | rfl) | h
    · exact .inl (.inl rfl)
    · exact .inr (.inl rfl)
    · exact (ih h).imp .inr .inr

lemma IsUnicode.any_isLone_write (h : r.IsUnicode) :
    (r.toJson.write Json.compact).any Utf8.isLone = false := by
  apply Json.any_isLone_write Json.oneLine_compact r.isExact_toJson
  intro t ht
  have hname : ∀ t ∈ fieldNames, t.any Utf8.isLone = false := by decide
  rw [h.toJson, object] at ht
  simp only [Json.texts, Json.memberTexts, itemTexts_map_text, List.cons_append, List.nil_append,
    List.mem_cons, List.mem_append, List.append_nil] at ht
  rcases ht with rfl | rfl | rfl | ht | rfl | ht
  · exact hname _ (by decide)
  · exact h _ (List.mem_append_left _ List.mem_cons_self)
  · exact hname _ (by decide)
  · exact h t (List.mem_append_left _ (List.mem_cons_of_mem _ (List.mem_append_left _ ht)))
  · exact hname _ (by decide)
  · rcases mem_memberTexts ht with ht | ht
    · exact h t (List.mem_append_right _ ht)
    · exact h t (List.mem_append_left _ (List.mem_cons_of_mem _ (List.mem_append_right _ ht)))

lemma IsUnicode.read?_body (h : r.IsUnicode) :
    (Utf8.decode? r.body).bind Json.read? = some r.object := by
  rw [body, Utf8.decode?_encode, Utf8.lossy_eq_self h.any_isLone_write, Option.bind_some,
    Json.read?_write Json.readable_compact r.isExact_toJson, h.toJson]

lemma ofJson?_object (r : Request) : ofJson? r.object = some r := by
  have hargs : (r.args.map Json.text).mapM textOf? = some r.args := by
    generalize r.args = ts
    induction ts with
    | nil => rfl
    | cons t ts ih =>
      rw [List.map_cons, List.mapM_cons, ih]
      rfl
  have henv : (r.env.map fun (k, v) => (k, Json.text v)).mapM
      (fun (k, v) => (textOf? v).map fun t => (k, t)) = some r.env := by
    generalize r.env = env
    induction env with
    | nil => rfl
    | cons entry env ih =>
      rw [List.map_cons, List.mapM_cons, ih]
      rfl
  have hnames : (["command", "command_args", "env"] : List Text) = fieldNames := rfl
  rw [object, ofJson?, if_pos hnames, hargs]
  dsimp only [Option.bind_eq_bind, Option.bind_some]
  rw [henv]
  rfl

lemma IsUnicode.ofBody?_body (h : r.IsUnicode) : ofBody? r.body = some r := by
  rw [ofBody?, h.read?_body, Option.bind_some, ofJson?_object]

/-! ### What stops a request -/

lemma textError?_eq_none_iff (ts : List Text) :
    textError? ts = none ↔ ∀ t ∈ ts, t.any Utf8.isLone = false := by
  rw [textError?, Option.map_eq_none_iff, List.findSome?_eq_none_iff]
  exact forall₂_congr fun t _ => Utf8.firstLone?_eq_none_iff (fun _ => id) t

/-- A request is stopped by a lone surrogate in its command, an argument or a value. -/
lemma wire_eq_error_iff (r : Request) :
    (∃ f, r.wire = .error f) ↔ ∃ t ∈ r.texts, t.any Utf8.isLone = true := by
  have hall : textError? r.texts = none ↔ ¬ ∃ t ∈ r.texts, t.any Utf8.isLone = true := by
    rw [textError?_eq_none_iff]
    simp
  unfold wire
  cases he : textError? r.texts with
  | none => simpa using hall.1 he
  | some e =>
    have h : ∃ t ∈ r.texts, t.any Utf8.isLone = true := by
      by_contra hn
      rw [hall.2 hn] at he
      cases he
    exact ⟨fun _ => h, fun _ => ⟨_, rfl⟩⟩

lemma IsUnicode.wire (h : r.IsUnicode) : r.wire = .ok (r.body ++ endMark) := by
  have hn : textError? r.texts = none :=
    (textError?_eq_none_iff _).2 fun t ht => h t (List.mem_append_left _ ht)
  rw [Request.wire, hn, frame_toJson]

/-- The name of a variable travels in its lossy form. -/
lemma wire_lossy (r : Request) :
    ({ r with env := r.env.map fun (k, v) => (Utf8.lossy k, v) } : Request).wire = r.wire := by
  have hlossy : ∀ t : Text, Utf8.lossy (Utf8.lossy t) = Utf8.lossy t := fun t =>
    Utf8.lossy_eq_self (Utf8.any_isLone_lossy t)
  have htexts : ({ r with env := r.env.map fun (k, v) => (Utf8.lossy k, v) } : Request).texts =
      r.texts := by
    simp [texts]
  have hjson : ({ r with env := r.env.map fun (k, v) => (Utf8.lossy k, v) } : Request).toJson =
      r.toJson := by
    simp [Request.toJson, hlossy]
  rw [Request.wire, Request.wire, htexts, hjson]

/-! ### Streams of requests -/

lemma mapM_wire {rs : List Request} (h : ∀ r ∈ rs, r.IsUnicode) :
    rs.mapM Request.wire = .ok (rs.map fun r => r.body ++ endMark) := by
  induction rs with
  | nil => rfl
  | cons r rs ih =>
    rw [List.mapM_cons, (h r List.mem_cons_self).wire,
      ih fun s hs => h s (List.mem_cons_of_mem _ hs)]
    rfl

lemma bodies_flatten (rs : List Request) :
    bodies (rs.map fun r => r.body ++ endMark).flatten = some (rs.map body) := by
  induction rs with
  | nil => exact bodies_nil
  | cons r rs ih =>
    rw [List.map_cons, List.flatten_cons, bodies_append r.le_of_mem_body, ih]
    rfl

lemma ofStream?_flatten {rs : List Request} (h : ∀ r ∈ rs, r.IsUnicode) :
    ofStream? (rs.map fun r => r.body ++ endMark).flatten = some rs := by
  rw [ofStream?, bodies_flatten, Option.bind_some]
  induction rs with
  | nil => rfl
  | cons r rs ih =>
    rw [List.map_cons, List.mapM_cons, (h r List.mem_cons_self).ofBody?_body,
      ih fun s hs => h s (List.mem_cons_of_mem _ hs)]
    rfl

/-- A request with a lone surrogate somewhere is stopped just when one is outside the names of its
variables, if there is one in a name. -/
lemma stopped_iff (r : Request) :
    (¬ r.IsUnicode → ∃ f, r.wire = .error f) ↔
      ((∃ k ∈ r.env.map (·.1), k.any Utf8.isLone = true) →
        ∃ t ∈ r.texts, t.any Utf8.isLone = true) := by
  rw [wire_eq_error_iff]
  constructor
  · rintro h ⟨k, hk, hlone⟩
    apply h
    intro hr
    rw [hr k (List.mem_append_right _ hk)] at hlone
    cases hlone
  · intro h hr
    by_contra hn
    apply hr
    intro t ht
    rw [← Bool.not_eq_true]
    intro hlone
    rcases List.mem_append.1 ht with ht | ht
    · exact hn ⟨t, ht, hlone⟩
    · exact hn (h ⟨t, ht, hlone⟩)

/-- The bytes of a request without lone surrogates are a body and the mark that ends it; the mark
first shows where the body ends, decoding the body gives the request, and so the requests in a
stream are what was written. Lone surrogates stop a request except in the names of its variables,
which travel in their lossy form. -/
theorem wire_faithful (r : Request) (rs : List Request) :
    (r.IsUnicode → ∃ body, r.wire = .ok (body ++ endMark) ∧
      (∀ b ∈ body, 0x20 ≤ b.toNat) ∧
      (∀ k, endMark <+: (body ++ endMark).drop k → body.length ≤ k) ∧
      (Utf8.decode? body).bind Json.read? = some r.object) ∧
    ((∀ s ∈ rs, s.IsUnicode) →
      ∃ wires, rs.mapM Request.wire = .ok wires ∧ ofStream? wires.flatten = some rs) ∧
    (∀ s : Request, r.IsUnicode → s.IsUnicode → r.wire = s.wire → r = s) ∧
    ((∃ f, r.wire = .error f) ↔ ∃ t ∈ r.texts, t.any Utf8.isLone = true) ∧
    ((¬ r.IsUnicode → ∃ f, r.wire = .error f) ↔
      ((∃ k ∈ r.env.map (·.1), k.any Utf8.isLone = true) →
        ∃ t ∈ r.texts, t.any Utf8.isLone = true)) ∧
    ({ r with env := r.env.map fun (k, v) => (Utf8.lossy k, v) } : Request).wire = r.wire := by
  refine ⟨?_, ?_, ?_, r.wire_eq_error_iff, r.stopped_iff, r.wire_lossy⟩
  · intro hr
    exact ⟨r.body, hr.wire, r.le_of_mem_body,
      fun _ => length_le_of_endMark_prefix r.le_of_mem_body, hr.read?_body⟩
  · intro hrs
    exact ⟨_, mapM_wire hrs, ofStream?_flatten hrs⟩
  · intro s hr hs h
    rw [hr.wire, hs.wire] at h
    have hbody : r.body = s.body := List.append_cancel_right (Except.ok.inj h)
    exact Option.some.inj (hr.ofBody?_body.symm.trans ((congrArg _ hbody).trans hs.ofBody?_body))

theorem wire_faithful_mark :
    let r : Request := ⟨"c", ["\nEOM\n", "a"], [("K", "v")]⟩
    r.IsUnicode ∧ ∃ wires, [r, r].mapM Request.wire = .ok wires ∧
      ofStream? wires.flatten = some [r, r] := by
  intro r
  have hr : r.IsUnicode := by
    intro t ht
    revert t
    decide
  refine ⟨hr, (wire_faithful r [r, r]).2.1 fun s hs => ?_⟩
  obtain rfl : s = r := by simpa using hs
  exact hr

/-- A lone surrogate in the name of a variable does not stop a request: two names become one. -/
theorem wire_lone_name :
    let r : Request := ⟨"c", [], [([.lone 0x4FF], "v")]⟩
    let s : Request := ⟨"c", [], [([.lone 0x4FE], "v")]⟩
    (¬ r.IsUnicode ∧ ¬ s.IsUnicode) ∧ r ≠ s ∧ ∃ bs, r.wire = .ok bs ∧ s.wire = .ok bs := by
  refine ⟨⟨?_, ?_⟩, by decide, _, rfl, rfl⟩
  · intro h
    exact absurd (h [.lone 0x4FF] (by decide)) (by decide)
  · intro h
    exact absurd (h [.lone 0x4FE] (by decide)) (by decide)

end SharedVm.Request
