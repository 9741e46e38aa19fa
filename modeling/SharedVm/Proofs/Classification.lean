import SharedVm.Proofs.Reply
import SharedVm.Proofs.Request.Wire

/-!
# How exchanges end

An exchange is refused without a trace when there is no request to write, and otherwise it is one
connection whose end is classified by what fails. That the connection fails is said of the peer
alone: it is not reached, it does not take the request, or it breaks off before there is a line to
read.
-/

namespace SharedVm

open Act

namespace Request

/-- No lone surrogate keeps the request from being written. Those in the names of variables do
not. -/
def IsWritable (r : Request) : Prop := ∀ t ∈ r.texts, t.any Utf8.isLone = false

variable {r : Request}

lemma IsWritable.wire (h : r.IsWritable) : r.wire = .ok (r.body ++ endMark) := by
  rw [Request.wire, (textError?_eq_none_iff _).2 h, frame_toJson]

lemma not_isWritable_iff : ¬ r.IsWritable ↔ ∃ f, r.wire = .error f := by
  rw [wire_eq_error_iff, IsWritable]
  simp

end Request

namespace Exchange

/-! ### Ends of an exchange -/

/-- Nothing is sent, and what is told is a request that cannot be written. -/
structure Refused (w : World) (result : Except Failure Unit) (v : World) : Prop where
  told : ∃ e, result = .error (.launch e) ∧ e.kind = .serialization ∧ e.retryable = false
  unchanged : w.Local v

/-- One connection is made for the request, to the next peer, and what comes of it is told by
whether the connection fails: as a failure to connect if the operating system reports it, unchanged
if it does not, and otherwise by the line that answers. -/
structure Classified (port : Value) (number : Int) (host : Text) (timeout : Option Value)
    (payload : Bytes) (w : World) (result : Except Failure Unit) (v : World) : Prop where
  events : v.events = w.events ++ .connect host number timeout :: w.peer.talk payload
  peers : v.peers = w.peers.tail
  failed : ∀ x, w.peer.FailsWith x →
    result = .error (if x.isSystem then .launch (.connection x (some port)) else .report x)
  answered : (∀ x, ¬ w.peer.FailsWith x) →
    ∃ line, w.peer.reply = .ok line ∧ result = verdict port line
  connection : (∃ e, result = .error (.launch e) ∧ e.kind = .connection) ↔
    ∃ x, w.peer.FailsWith x ∧ x.isSystem = true
  launch : ∀ e, result = .error (.launch e) →
    e.port = some port ∧ e.kind ≠ .serialization ∧ (e.retryable = true ↔ e.kind = .connection)

/-- What is told of an exchange with a peer is told of the port. -/
lemma launch_of_outcome {port : Value} {s : Except Report Bytes} {e : LaunchError}
    (h : outcome port s = .error (.launch e)) :
    e.port = some port ∧ e.kind ≠ .serialization := by
  cases s with
  | ok line =>
    unfold outcome verdict at h
    dsimp only at h
    split at h
    · cases h
    · cases h
      exact ⟨rfl, nofun⟩
  | error x =>
    unfold outcome at h
    dsimp only at h
    split at h
    · cases h
      exact ⟨rfl, nofun⟩
    · cases h

lemma classified_of_talked {port : Value} {number : Int} {host : Text} {timeout : Option Value}
    {payload : Bytes} {w v : World} (hv : (w.talked host number timeout payload).Local v) :
    Classified port number host timeout payload w (outcome port w.peer.reply) v where
  events := hv.events
  peers := by
    rw [hv]
    rfl
  failed x hx := by
    rw [Peer.reply_eq_error_iff.2 hx]
    rfl
  answered h := by
    cases hp : w.peer.reply with
    | ok line => exact ⟨line, rfl, rfl⟩
    | error x => exact absurd (Peer.reply_eq_error_iff.1 hp) (h x)
  connection := by
    constructor
    · rintro ⟨e, he, hk⟩
      obtain ⟨x, hx, hsystem⟩ := outcome_connection he hk
      exact ⟨x, Peer.reply_eq_error_iff.1 hx, hsystem⟩
    · rintro ⟨x, hx, hsystem⟩
      rw [Peer.reply_eq_error_iff.2 hx, outcome, if_pos hsystem]
      exact ⟨_, rfl, rfl⟩
  launch e he := by
    obtain ⟨hport, hkind⟩ := launch_of_outcome he
    exact ⟨hport, hkind, decide_eq_true_iff⟩

/-- The request is on its way as `payload`. Only the port may still keep it from being sent. -/
structure Tried (port : Value) (host : Text) (timeout : Option Value) (payload : Bytes) (w : World)
    (result : Except Failure Unit) (v : World) : Prop where
  unnumbered : ∀ e, port.whole = .error e → result = .error (.notWhole e) ∧ w.Local v
  numbered : ∀ number, port.whole = .ok number →
    Classified port number host timeout payload w result v

lemma Tried.not_refused {port : Value} {host : Text} {timeout : Option Value} {payload : Bytes}
    {w v : World} {result : Except Failure Unit} (h : Tried port host timeout payload w result v) :
    ¬ Refused w result v := by
  rintro ⟨⟨e, rfl, hk, -⟩, -⟩
  cases hn : port.whole with
  | error x => cases (h.unnumbered x hn).1
  | ok number => exact ((h.numbered number hn).launch e rfl).2.1 hk

/-! ### Requests -/

section Request

variable (port : Value) {command args : Value} {entries : List (Value × Value)} {r : Request}
  (host : Text) (timeout : Option Value) (w : World)

lemma run_request (hr : r.Fits command args entries) :
    ∃ u, w.Local u ∧ (request port command args (.mapping entries) host timeout).run w =
      (send port r.wire host timeout).run u := by
  unfold request
  rw [Request.build_eq_ok_iff.2 hr, run_bind_of_ok (run_ofExcept (.ok r) w),
    run_bind_of_ok (run_note _ w)]
  exact ⟨_, Within.local_note _ w, rfl⟩

lemma run_request_of_not_writable
    (h : ¬ ∃ r : Request, r.Fits command args entries ∧ r.IsWritable) :
    ∃ result v, (request port command args (.mapping entries) host timeout).run w = (result, v) ∧
      Refused w result v := by
  cases hb : Request.build command args (.mapping entries) with
  | error f =>
    obtain ⟨e, rfl⟩ := Request.launch_of_build hb
    have hk := Request.kind_of_build hb
    refine ⟨.error (.launch e), w, ?_, ⟨e, rfl, hk, ?_⟩, refl_of World.Local w⟩
    · unfold request
      rw [hb, run_bind_of_error (run_ofExcept (.error _) w)]
    · rw [LaunchError.retryable, hk]
      rfl
  | ok r =>
    have hfits := Request.build_eq_ok_iff.1 hb
    cases hw : r.wire with
    | ok payload =>
      have hwritable : r.IsWritable := by
        by_contra hn
        obtain ⟨f, hf⟩ := Request.not_isWritable_iff.1 hn
        cases hw.symm.trans hf
      exact absurd ⟨r, hfits, hwritable⟩ h
    | error f =>
      obtain ⟨u, hu, hrun⟩ := run_request port host timeout w hfits
      rw [hrun, hw]
      exact ⟨_, u, rfl, ⟨_, rfl, rfl, rfl⟩, hu⟩

lemma run_request_of_wire (hr : r.Fits command args entries) {payload : Bytes}
    (hw : r.wire = .ok payload) :
    ∃ result v, (request port command args (.mapping entries) host timeout).run w = (result, v) ∧
      Tried port host timeout payload w result v := by
  obtain ⟨u, hu, hrun⟩ := run_request port host timeout w hr
  rw [hrun, hw]
  cases hn : port.whole with
  | error e =>
    rw [run_send_of_not_whole hn]
    refine ⟨_, u, rfl, ⟨fun x hx => ?_, fun number hnumber => ?_⟩⟩
    · cases hn.symm.trans hx
      exact ⟨rfl, hu⟩
    · cases hn.symm.trans hnumber
  | ok number =>
    obtain ⟨v, hsend, hv⟩ := exists_run_send hn payload host timeout u
    rw [hsend, hu.peer]
    have htalked := trans_of World.Local (hu.talked host number timeout payload) hv
    refine ⟨_, v, rfl, ⟨fun e he => ?_, fun m hm => ?_⟩⟩
    · cases hn.symm.trans he
    · cases hn.symm.trans hm
      exact classified_of_talked htalked

end Request

/-- A request is refused without a trace just when what is given fits no request that can be
written. Otherwise it is one exchange with the next peer, which is classified by what fails. Lone
surrogates keep a request from being sent unless they are all in the names of variables, which
travel in their lossy form. -/
theorem request_classified (port command args : Value) (entries : List (Value × Value))
    (host : Text) (timeout : Option Value) (w : World) :
    ∃ result v, (request port command args (.mapping entries) host timeout).run w = (result, v) ∧
      (Refused w result v ↔ ¬ ∃ r : Request, r.Fits command args entries ∧ r.IsWritable) ∧
      ∀ r : Request, r.Fits command args entries →
        (r.IsWritable → ∃ payload, r.wire = .ok payload ∧
          ({ r with env := r.env.map fun (k, v) => (Utf8.lossy k, v) } : Request).wire =
            .ok payload ∧
          Tried port host timeout payload w result v) ∧
        ((¬ r.IsUnicode → Refused w result v) ↔
          ((∃ k ∈ r.env.map (·.1), k.any Utf8.isLone = true) →
            ∃ t ∈ r.texts, t.any Utf8.isLone = true)) := by
  have hsame : ∀ r s : Request, r.Fits command args entries → s.Fits command args entries →
      r = s := fun r s hr hs =>
    Except.ok.inj ((Request.build_eq_ok_iff.2 hr).symm.trans (Request.build_eq_ok_iff.2 hs))
  by_cases h : ∃ r : Request, r.Fits command args entries ∧ r.IsWritable
  · obtain ⟨r, hr, hwritable⟩ := h
    obtain ⟨result, v, hrun, htried⟩ :=
      run_request_of_wire port host timeout w hr hwritable.wire
    refine ⟨result, v, hrun, iff_of_false htried.not_refused (not_not.2 ⟨r, hr, hwritable⟩),
      fun s hs => ?_⟩
    obtain rfl : r = s := hsame r s hr hs
    refine ⟨fun _ => ⟨_, hwritable.wire, r.wire_lossy.trans hwritable.wire, htried⟩, ?_⟩
    rw [← r.stopped_iff]
    exact imp_congr_right fun _ =>
      iff_of_false htried.not_refused fun hstopped => Request.not_isWritable_iff.2 hstopped hwritable
  · obtain ⟨result, v, hrun, hrefused⟩ := run_request_of_not_writable port host timeout w h
    refine ⟨result, v, hrun, iff_of_true hrefused h, fun r hr => ?_⟩
    have hunwritable : ¬ r.IsWritable := fun hwritable => h ⟨r, hr, hwritable⟩
    refine ⟨fun hwritable => absurd hwritable hunwritable, ?_⟩
    rw [← r.stopped_iff]
    exact imp_congr_right fun _ =>
      iff_of_true hrefused (Request.not_isWritable_iff.1 hunwritable)

def reset : Report := .ofNumber 104 "Connection reset by peer"

/-- A leader that breaks off in the middle of the line that accepts. -/
theorem request_classified_reset :
    let w : World := { peers := [.answering [[0x4F]] (some reset)] }
    let r : Request := ⟨"c", ["a"], [("K", "v")]⟩
    ∃ payload v, r.wire = .ok payload ∧
      (request (.int 3333) (.text "c") (.list [.text "a"])
        (.mapping [(.text "K", .text "v")])).run w =
          (.error (.launch (.connection reset (some (.int 3333)))), v) ∧
      v.events = [.connect loopback 3333 none, .send payload, .closed] := by
  intro w r
  have hr : r.Fits (.text "c") (.list [.text "a"]) [(.text "K", .text "v")] := ⟨rfl, rfl, rfl⟩
  have hwritable : r.IsWritable := by
    intro t ht
    revert t
    decide
  have hfails : w.peer.FailsWith reset := .broken reset (by decide) (by decide) (by decide)
  obtain ⟨result, v, hrun, -, hof⟩ := request_classified (.int 3333) (.text "c")
    (.list [.text "a"]) [(.text "K", .text "v")] loopback none w
  obtain ⟨payload, hwire, -, htried⟩ := (hof r hr).1 hwritable
  have hclassified := htried.numbered 3333 rfl
  refine ⟨payload, v, hwire, ?_, hclassified.events⟩
  rw [hrun, hclassified.failed reset hfails]
  rfl

/-- A lone surrogate in the name of a variable does not keep a request from being sent. -/
theorem request_lone_name :
    let w : World := { peers := [.answering [[0x4F, 0x4B, 0x0A]] none] }
    let r : Request := ⟨"c", [], [([.lone 0x4FF], "v")]⟩
    r.Fits (.text "c") (.list []) [(.text [.lone 0x4FF], .text "v")] ∧ ¬ r.IsUnicode ∧
      ∃ payload v, r.wire = .ok payload ∧
        (request (.int 3333) (.text "c") (.list [])
          (.mapping [(.text [.lone 0x4FF], .text "v")])).run w = (.ok (), v) ∧
        v.events = [.connect loopback 3333 none, .send payload, .closed] := by
  intro w r
  have hr : r.Fits (.text "c") (.list []) [(.text [.lone 0x4FF], .text "v")] := ⟨rfl, rfl, rfl⟩
  have hwritable : r.IsWritable := by
    intro t ht
    revert t
    decide
  have hreply : w.peer.reply = .ok [0x4F, 0x4B] := by
    change readLine none [] (received [[0x4F, 0x4B, 0x0A]]) = _
    rw [received, List.flatMap_singleton, cut, if_pos (by decide)]
    decide
  obtain ⟨result, v, hrun, htried⟩ :=
    run_request_of_wire (.int 3333) loopback none w hr hwritable.wire
  have hclassified := htried.numbered 3333 rfl
  refine ⟨hr, fun h => ?_, _, v, hwritable.wire, ?_, hclassified.events⟩
  · exact absurd (h [.lone 0x4FF] (by decide)) (by decide)
  · obtain ⟨line, hline, hresult⟩ := hclassified.answered fun x hx => by
      cases hreply.symm.trans (Peer.reply_eq_error_iff.2 hx)
    cases hreply.symm.trans hline
    rw [hrun, hresult]
    rfl

end Exchange

end SharedVm
