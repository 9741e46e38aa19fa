import SharedVm.Proofs.Classification
import SharedVm.Proofs.Decimal
import SharedVm.Proofs.Launch.Relays

/-!
# Launches that are refused

A launch and the same launch through a relay are refused alike if its arguments are texts: escaping
and joining texts neither brings in a lone surrogate nor takes one out, so the request that goes to
the relay can be written just when the direct one can. An argument that is no text stops an interactive
launch earlier, with its relay running and nobody to wait for it.
-/

namespace SharedVm

open Act

/-! ### Texts on the way to a relay -/

lemma Text.any_join {p : Symbol → Bool} {sep : Text} (hsep : sep.any p = false) (ts : List Text) :
    (join sep ts).any p = ts.any (·.any p) := by
  fun_induction join sep ts with
  | case1 => rfl
  | case2 t => simp
  | case3 t rest _ ih => simp [hsep, ih]

namespace Relay

/-- The backslashes that quote are no surrogates. -/
lemma any_isLone_escape (t : Text) : (escape t).any Utf8.isLone = t.any Utf8.isLone := by
  induction t with
  | nil => rfl
  | cons s t ih =>
    rw [escape, List.flatMap_cons, ← escape, List.any_append, ih, List.any_cons]
    split
    · rw [List.any_cons, List.any_cons, List.any_nil, Bool.or_false]
      rfl
    · rw [List.any_cons, List.any_nil, Bool.or_false]

lemma any_isLone_commandAddress (line : Text) :
    (commandAddress line).any Utf8.isLone = line.any Utf8.isLone := by
  have hverb : ("exec:" : Text).any Utf8.isLone = false := by decide
  have hoptions : (",pty,setsid,stderr" : Text).any Utf8.isLone = false := by decide
  rw [commandAddress, List.any_append, List.any_append, hverb, hoptions, any_isLone_escape,
    Bool.false_or, Bool.or_false]

lemma any_isLone_socketAddress (n : Int) : (socketAddress (.int n)).any Utf8.isLone = false := by
  have hfront : ("vsock:" ++ Decimal.ofNat hostCid ++ ":" : Text).any Utf8.isLone = false := by decide
  have hport : (Value.int n).display.any Utf8.isLone = false := Decimal.any_isLone_ofInt n
  rw [socketAddress, List.any_append, hfront, hport, Bool.false_or]

/-- What a command and its arguments become on the way to a relay. -/
def wrapped (command : Text) (args : List Text) (port : Int) : Text × List Text :=
  (program, [socketAddress (.int port), commandAddress (Text.join " " (command :: args))])

/-- The first text that is missing is told by its number. -/
lemma textsFrom_append {v : Value} (hv : Request.isText v = false) (i : Nat) (ts : List Text)
    (rest : List Value) :
    textsFrom i (ts.map .text ++ v :: rest) = .error (.notJoinable (i + ts.length) v.kindName) := by
  induction ts generalizing i with
  | nil =>
    cases v with
    | text t => cases hv
    | _ => rfl
  | cons t ts ih =>
    rw [List.map_cons, List.cons_append, textsFrom, ih, List.length_cons, Nat.add_assoc,
      Nat.add_comm 1]
    rfl

lemma wrap_of_not_text {v : Value} (hv : Request.isText v = false) (command : Text)
    (ts : List Text) (rest : List Value) (port : Value) :
    wrap (.text command) (.list (ts.map .text ++ v :: rest)) port =
      .error (.notJoinable (ts.length + 1) v.kindName) := by
  have h := textsFrom_append hv 0 (command :: ts) rest
  rw [Nat.zero_add, List.length_cons, List.map_cons, List.cons_append] at h
  unfold wrap texts
  rw [Value.items?]
  dsimp only
  rw [h]
  rfl

lemma run_start_of_ok {base : Option Path} {host : Environ} {relay : Relay} {w : World}
    (h : ((start base none host).run w).1 = .ok relay) :
    ∃ argv v, (start base none host).run w = (.ok relay, v) ∧ relay.process = w.relay ∧
      (w.spawned argv).Local v := by
  have hstarts := start_starts base none host w
  rcases hrun : (start base none host).run w with ⟨r, v⟩
  rw [hrun] at h hstarts
  obtain rfl : r = .ok relay := h
  cases hstarts with
  | running argv hv _ hprocess => exact ⟨argv, v, rfl, hprocess, hv⟩

end Relay

/-! ### Requests that are refused -/

namespace Request

/-- What is given for a request is refused: it fits no request that can be written. -/
def Refuses (command args env : Value) : Prop :=
  ∃ entries, env = .mapping entries ∧
    ¬ ∃ r : Request, r.Fits command args entries ∧ r.IsWritable

lemma isWritable_iff {r : Request} : r.IsWritable ↔ r.texts.any (·.any Utf8.isLone) = false := by
  rw [IsWritable, List.any_eq_false]
  exact forall₂_congr fun t _ => Bool.not_eq_true _ |>.to_iff.symm

lemma isWritable_wrapped (command : Text) (args : List Text) (port : Int) (env : Bindings Text) :
    (⟨(Relay.wrapped command args port).1, (Relay.wrapped command args port).2, env⟩ :
      Request).IsWritable ↔ (⟨command, args, env⟩ : Request).IsWritable := by
  have hprogram : Relay.program.any Utf8.isLone = false := by decide
  have hspace : (" " : Text).any Utf8.isLone = false := by decide
  rw [isWritable_iff, isWritable_iff]
  simp only [texts, Relay.wrapped, List.any_append, List.any_cons, List.any_nil, hprogram,
    Relay.any_isLone_socketAddress, Relay.any_isLone_commandAddress, Text.any_join hspace,
    Bool.false_or, Bool.or_false]

lemma fits_texts_iff {r : Request} {command : Text} {args : List Text}
    {entries : List (Value × Value)} :
    r.Fits (.text command) (.list (args.map .text)) entries ↔
      r.command = command ∧ r.args = args ∧ entries = r.env.map fun (k, v) => (.text k, .text v) := by
  have htexts : Function.Injective (List.map Value.text) :=
    List.map_injective_iff.2 fun _ _ h => Value.text.inj h
  constructor
  · intro h
    exact ⟨(Value.text.inj (Except.ok.inj h.command)).symm, (htexts (Option.some.inj h.args)).symm, h.env⟩
  · rintro ⟨rfl, rfl, henv⟩
    exact ⟨rfl, rfl, henv⟩

lemma refuses_of_not_text {v : Value} (hv : isText v = false) (command : Value) (ts : List Text)
    (rest : List Value) (entries : List (Value × Value)) :
    Refuses command (.list (ts.map .text ++ v :: rest)) (.mapping entries) := by
  refine ⟨entries, rfl, ?_⟩
  rintro ⟨r, hr, -⟩
  have hargs : ts.map .text ++ v :: rest = r.args.map .text := Option.some.inj hr.args
  have hmem : v ∈ r.args.map Value.text := hargs ▸ List.mem_append_right _ List.mem_cons_self
  obtain ⟨t, -, rfl⟩ := List.mem_map.1 hmem
  cases hv

/-- A command with text for arguments is refused just when it is refused on the way to a relay. -/
lemma refuses_wrapped_iff (command : Text) (args : List Text) (port : Int) (env : Value) :
    Refuses (.text (Relay.wrapped command args port).1)
        (.list ((Relay.wrapped command args port).2.map .text)) env ↔
      Refuses (.text command) (.list (args.map .text)) env := by
  have hfits : ∀ (c : Text) (ts : List Text) entries,
      (∃ r : Request, r.Fits (.text c) (.list (ts.map .text)) entries ∧ r.IsWritable) ↔
        ∃ env, entries = env.map (fun (k, v) => (Value.text k, Value.text v)) ∧
          (⟨c, ts, env⟩ : Request).IsWritable := by
    intro c ts entries
    constructor
    · rintro ⟨r, hr, hwritable⟩
      obtain ⟨rfl, rfl, henv⟩ := fits_texts_iff.1 hr
      exact ⟨r.env, henv, hwritable⟩
    · rintro ⟨env, henv, hwritable⟩
      exact ⟨_, fits_texts_iff.2 ⟨rfl, rfl, henv⟩, hwritable⟩
  simp only [Refuses, hfits, isWritable_wrapped]

end Request

namespace Launch

/-- The launch has failed since its request cannot be written. -/
def Unwritten {β : Type} (r : Except Failure β) : Prop :=
  ∃ e attempts, r = .error (.forwarding e attempts) ∧ e.kind = .serialization

end Launch

namespace Exchange

open Launch

lemma Classified.not_unwritten {β : Type} {port : Value} {number : Int} {host : Text}
    {timeout : Option Value} {payload : Bytes} {w v : World} {r : Except Failure Unit}
    (h : Classified port number host timeout payload w r v) (x : β) :
    ¬ Unwritten (concluded x 1 r) := by
  rintro ⟨e, attempts, he, hk⟩
  by_cases hfails : ∃ y, w.peer.FailsWith y
  · obtain ⟨y, hy⟩ := hfails
    rw [h.failed y hy] at he
    split at he
    · cases he
      cases hk
    · cases he
  · obtain ⟨line, -, rfl⟩ := h.answered (not_exists.1 hfails)
    unfold verdict at he
    split at he
    · cases he
    · cases he
      cases hk

/-- A launch fails over a request that cannot be written just when what it gives is refused. -/
lemma unwritten_request_iff {β : Type} (x : β) (port : Int) (command : Text) (args : List Value)
    (env : Value) (w : World) :
    Unwritten (concluded x 1 ((request (.int port) (.text command) (.list args) env).run w).1) ↔
      Request.Refuses (.text command) (.list args) env := by
  cases env with
  | mapping entries =>
    by_cases h : ∃ r : Request, r.Fits (.text command) (.list args) entries ∧ r.IsWritable
    · obtain ⟨r, hr, hwritable⟩ := h
      obtain ⟨result, v, hrun, htried⟩ :=
        run_request_of_wire (.int port) loopback none w hr hwritable.wire
      rw [hrun]
      refine iff_of_false ((htried.numbered port rfl).not_unwritten x) ?_
      rintro ⟨_, ⟨⟩, hn⟩
      exact hn ⟨r, hr, hwritable⟩
    · obtain ⟨result, v, hrun, ⟨e, rfl, hk, -⟩, -⟩ :=
        run_request_of_not_writable (.int port) loopback none w h
      rw [hrun]
      exact iff_of_true ⟨e, 1, rfl, hk⟩ ⟨entries, rfl, h⟩
  | _ =>
    refine iff_of_false ?_ ?_
    · rintro ⟨e, attempts, he, -⟩
      cases he
    · rintro ⟨_, ⟨⟩, -⟩

lemma run_request_of_refuses (port : Value) {command args env : Value}
    (h : Request.Refuses command args env) (w : World) :
    ∃ f v, (request port command args env).run w = (.error f, v) ∧ w.Local v := by
  obtain ⟨entries, rfl, h⟩ := h
  obtain ⟨result, v, hrun, ⟨e, rfl, -⟩, hv⟩ := run_request_of_not_writable port loopback none w h
  exact ⟨_, v, hrun, hv⟩

end Exchange

namespace Launch

/-! ### The two ways to launch -/

variable {α : Type}

/-- The launch without a relay. -/
def direct (l : Launch α) : Launch α := { l with interactive := false }

/-- The launch through a relay. -/
def relayed (l : Launch α) : Launch α := { l with interactive := true }

section Relayed

variable {l : Launch α} {base : Option Path} {relay : Relay} {x : World}

lemma deliver_of_texts (hl : l.interactive = true)
    (hs : ((Relay.start base none x.environ).run x).1 = .ok relay) (port : Int) (c : Text)
    (ts : List Text) (env : Value) :
    let wrapped := Relay.wrapped c ts relay.port
    ∃ argv v y, (x.spawned argv).Local v ∧
      let asked := (Exchange.request (.int port) (.text wrapped.1)
        (.list (wrapped.2.map .text)) env).run v
      (l.deliver byExchange base port (.text c) (ts.map .text) env).run x = (asked.1, y) ∧
        { asked.2 with events := asked.2.events ++ Relay.seenOff x.relay asked.1 }.Local y := by
  intro wrapped
  obtain ⟨argv, v, hstart, hprocess, hv⟩ := Relay.run_start_of_ok hs
  have hd := l.deliver_delivers byExchange base port (.text c) (ts.map .text) env x
  rcases hrun : (l.deliver byExchange base port (.text c) (ts.map .text) env).run x with ⟨r, y⟩
  rw [hrun] at hd
  cases hd with
  | plain hplain _ => cases hplain.symm.trans hl
  | unopened _ hs' => cases hstart.symm.trans hs'
  | unwrapped _ _ hw =>
    rw [Relay.wrap_texts] at hw
    cases hw
  | relayed _ hs' hw hr hx =>
    cases hstart.symm.trans hs'
    rw [Relay.wrap_texts] at hw
    cases hw
    rw [byExchange] at hr
    rw [hprocess] at hx
    refine ⟨argv, v, y, hv, ?_⟩
    dsimp only [wrapped, Relay.wrapped]
    rw [hr]
    exact ⟨rfl, hx⟩

/-- Over an argument that is no text a relay is left behind. -/
lemma deliver_of_not_text (hl : l.interactive = true)
    (hs : ((Relay.start base none x.environ).run x).1 = .ok relay) {v : Value}
    (hv : Request.isText v = false) (port : Int) (c : Text) (ts : List Text) (rest : List Value)
    (env : Value) :
    ∃ argv y, (x.spawned argv).Local y ∧
      (l.deliver byExchange base port (.text c) (ts.map .text ++ v :: rest) env).run x =
        (.error (.notJoinable (ts.length + 1) v.kindName), y) := by
  obtain ⟨argv, y, hstart, -, hy⟩ := Relay.run_start_of_ok hs
  refine ⟨argv, y, hy, ?_⟩
  unfold deliver
  rw [hl, if_neg (by decide), run_bind_of_ok (run_environ x), run_bind_of_ok hstart,
    Relay.wrap_of_not_text hv, run_bind_of_error (run_ofExcept (.error _) y)]

end Relayed

/-- How a launch that asks a known server is refused, and the same launch through a relay. The
variables that go with the request have been made in `x`. -/
structure Refusals (l : Launch α) (prepare : List α → Act Value) (w : World) (c : Text)
    (args : List Value) (env : Value) (x : World) : Prop where
  direct : Unwritten ((l.direct.run prepare).run w).1 ↔ Request.Refuses (.text c) (.list args) env
  /-- Nothing has happened if the direct launch is refused. -/
  silent : Unwritten ((l.direct.run prepare).run w).1 → x.Local ((l.direct.run prepare).run w).2
  alike : ∀ ts : List Text, args = ts.map .text →
    (Unwritten ((l.relayed.run prepare).run w).1 ↔ Unwritten ((l.direct.run prepare).run w).1)
  /-- The relay of a launch that is refused is ended and waited for, and nobody is talked to. -/
  seenOff : Unwritten ((l.relayed.run prepare).run w).1 → ∃ argv,
    { x.spawned argv with
      events := x.events ++ Event.spawn argv :: (Relay.ended x.relay ++ [Event.wait]) }.Local
      ((l.relayed.run prepare).run w).2
  /-- Over an argument that is no text the relay is left running. -/
  left : ∀ (ts : List Text) (v : Value) (rest : List Value),
    args = ts.map .text ++ v :: rest → Request.isText v = false →
      (∀ entries, env = .mapping entries → Unwritten ((l.direct.run prepare).run w).1) ∧
      ((l.relayed.run prepare).run w).1 = .error (.notJoinable (ts.length + 1) v.kindName) ∧
      ∃ argv, (x.spawned argv).Local ((l.relayed.run prepare).run w).2

lemma exists_texts (args : List Value) : (∃ ts : List Text, args = ts.map .text) ∨
    ∃ (ts : List Text) (v : Value) (rest : List Value),
      args = ts.map .text ++ v :: rest ∧ Request.isText v = false := by
  induction args with
  | nil => exact .inl ⟨[], rfl⟩
  | cons arg args ih =>
    cases harg : Request.isText arg with
    | false => exact .inr ⟨[], arg, args, rfl, harg⟩
    | true =>
      rw [Request.isText_iff] at harg
      rw [harg]
      rcases ih with ⟨ts, rfl⟩ | ⟨ts, v, rest, rfl, hv⟩
      · exact .inl ⟨_ :: ts, rfl⟩
      · exact .inr ⟨_ :: ts, v, rest, rfl, hv⟩

section Both

variable {l : Launch α} {prepare : List α → Act Value} {w x : World} {port : Nat} {c : Text}
  {args : List Value} {base : Option Path} {env : Value} {relay : Relay}
  (hk : (l.host.getD w.environ).serverPort = .ok (some port))
  (hc : Request.commandName l.command = .ok (.text c)) (ha : Request.itemsOf l.args = .ok args)
  (hp : (prepare l.overrides).run w = (.ok env, x))

include hk hc ha hp

lemma run_direct : (l.direct.run prepare).run w =
    (concluded (.requested port 1) 1
      ((Exchange.request (.int port) (.text c) (.list args) env).run x).1,
      ((Exchange.request (.int port) (.text c) (.list args) env).run x).2) := by
  exact (run_known (l := l.direct) hk hc ha (relayBase_of_direct rfl _ _ _)).trans
    (run_askOnce (l := l.direct) hp)

lemma unwritten_direct_iff : Unwritten ((l.direct.run prepare).run w).1 ↔
    Request.Refuses (.text c) (.list args) env := by
  rw [run_direct hk hc ha hp]
  exact Exchange.unwritten_request_iff _ port c args env x

variable (hb : l.relayed.relayBase (l.host.getD w.environ) w.environ w.system.users = .ok base)

include hb

lemma run_relayed : (l.relayed.run prepare).run w =
    (concluded (.requested port 1) 1
      ((l.relayed.deliver byExchange base port (.text c) args env).run x).1,
      ((l.relayed.deliver byExchange base port (.text c) args env).run x).2) :=
  (run_known (l := l.relayed) hk hc ha hb).trans
    (run_askOnce (l := l.relayed) hp)

variable (hs : ((Relay.start base none x.environ).run x).1 = .ok relay)

include hs

lemma unwritten_relayed_iff {ts : List Text} (hts : args = ts.map .text) :
    (Unwritten ((l.relayed.run prepare).run w).1 ↔
      Request.Refuses (.text c) (.list args) env) ∧
    (Request.Refuses (.text c) (.list args) env → ∃ argv,
      { x.spawned argv with
        events := x.events ++ Event.spawn argv :: (Relay.ended x.relay ++ [Event.wait]) }.Local
        ((l.relayed.run prepare).run w).2) := by
  subst hts
  obtain ⟨argv, v, y, hv, hrun, hy⟩ := deliver_of_texts (l := l.relayed) rfl hs port c ts env
  rw [run_relayed hk hc ha hp hb, hrun, ← Request.refuses_wrapped_iff c ts relay.port env]
  refine ⟨Exchange.unwritten_request_iff _ port _ _ env v, fun hrefuses => ⟨argv, ?_⟩⟩
  obtain ⟨f, u, hasked, hu⟩ := Exchange.run_request_of_refuses (.int port) hrefuses v
  rw [hasked] at hy
  have htrace : x.events ++ Event.spawn argv :: (Relay.ended x.relay ++ [Event.wait]) =
      (x.spawned argv).events ++ (Relay.ended x.relay ++ [Event.wait]) :=
    List.append_cons x.events _ _
  dsimp only
  rw [htrace]
  exact trans_of World.Local ((trans_of World.Local hv hu).traced _) hy

lemma relayed_of_not_text {ts : List Text} {v : Value} {rest : List Value}
    (hargs : args = ts.map .text ++ v :: rest) (hv : Request.isText v = false) :
    ((l.relayed.run prepare).run w).1 = .error (.notJoinable (ts.length + 1) v.kindName) ∧
      ∃ argv, (x.spawned argv).Local ((l.relayed.run prepare).run w).2 := by
  subst hargs
  obtain ⟨argv, y, hy, hrun⟩ := deliver_of_not_text (l := l.relayed) rfl hs hv port c ts rest env
  rw [run_relayed hk hc ha hp hb, hrun]
  exact ⟨rfl, argv, hy⟩

lemma refusals : l.Refusals prepare w c args env x where
  direct := unwritten_direct_iff hk hc ha hp
  silent h := by
    have hrefuses := (unwritten_direct_iff hk hc ha hp).1 h
    obtain ⟨f, v, hrun, hv⟩ := Exchange.run_request_of_refuses (.int port) hrefuses x
    rw [run_direct hk hc ha hp, hrun]
    exact hv
  alike ts hts :=
    (unwritten_relayed_iff hk hc ha hp hb hs hts).1.trans (unwritten_direct_iff hk hc ha hp).symm
  seenOff h := by
    rcases exists_texts args with ⟨ts, hts⟩ | ⟨ts, v, rest, hargs, hv⟩
    · obtain ⟨hiff, htrace⟩ := unwritten_relayed_iff hk hc ha hp hb hs hts
      exact htrace (hiff.1 h)
    · obtain ⟨e, attempts, he, -⟩ := h
      cases he.symm.trans (relayed_of_not_text hk hc ha hp hb hs hargs hv).1
  left ts v rest hargs hv := by
    refine ⟨?_, relayed_of_not_text hk hc ha hp hb hs hargs hv⟩
    rintro entries rfl
    rw [unwritten_direct_iff hk hc ha hp, hargs]
    exact Request.refuses_of_not_text hv (.text c) ts rest entries

end Both

/-- A launch that asks a known server and the same launch through a relay that starts fail in the same
way if the variables cannot be made. Once they are, a command with texts for arguments is refused
alike by both, and then the relay is ended and waited for and nobody is talked to. An argument that is
no text is where they part: the direct launch is refused, and the one through a relay stops at the
argument and leaves its relay running. -/
theorem relayed_refuses (l : Launch α) (prepare : List α → Act Value) {w : World} {port : Nat}
    {c : Text} {args : List Value} {base : Option Path}
    (hk : (l.host.getD w.environ).serverPort = .ok (some port))
    (hc : Request.commandName l.command = .ok (.text c)) (ha : Request.itemsOf l.args = .ok args)
    (hb : l.relayed.relayBase (l.host.getD w.environ) w.environ w.system.users = .ok base)
    (hs : ∀ env x, (prepare l.overrides).run w = (.ok env, x) →
      ∃ relay, ((Relay.start base none x.environ).run x).1 = .ok relay) :
    (∀ f x, (prepare l.overrides).run w = (.error f, x) →
      (l.direct.run prepare).run w = (.error f, x) ∧ (l.relayed.run prepare).run w = (.error f, x)) ∧
    ∀ env x, (prepare l.overrides).run w = (.ok env, x) → l.Refusals prepare w c args env x := by
  constructor
  · intro f x hp
    have hb' := relayBase_of_direct (l := l.direct) rfl (l.host.getD w.environ) w.environ
      w.system.users
    exact ⟨(run_known (l := l.direct) hk hc ha hb').trans (run_bind_of_error hp _),
      (run_known (l := l.relayed) hk hc ha hb).trans (run_bind_of_error hp _)⟩
  · intro env x hp
    obtain ⟨relay, hrelay⟩ := hs env x hp
    exact refusals hk hc ha hp hb hrelay

/-- A lone surrogate among the arguments, and a relay that is gone when it is told to end. -/
theorem relayed_refuses_lone :
    let l : Launch Unit :=
      { serverPort := .int 4444, command := .text "c", args := .list [.text [.lone 0x4FF]],
        runtimeDir := some "run" }
    let prepare : List Unit → Act Value := fun _ => pure (.mapping [])
    Unwritten ((l.direct.run prepare).run silentLeader).1 ∧
      Unwritten ((l.relayed.run prepare).run silentLeader).1 ∧
      ∃ argv, ((l.relayed.run prepare).run silentLeader).2.events =
        [.spawn argv, .poll, .terminate, .wait] := by
  intro l prepare
  have hrefuses : Request.Refuses (.text "c") (.list [.text [.lone 0x4FF]]) (.mapping []) := by
    refine ⟨[], rfl, ?_⟩
    rintro ⟨r, hr, hwritable⟩
    have hargs : r.args = [[.lone 0x4FF]] := (Request.fits_texts_iff.1 hr).2.1
    have hlone := hwritable [.lone 0x4FF]
      (List.mem_cons_of_mem _ (List.mem_append_left _ (by rw [hargs]; exact List.mem_cons_self)))
    cases hlone
  have hk : (l.host.getD silentLeader.environ).serverPort = .ok (some 3333) := rfl
  have hb : l.relayed.relayBase (l.host.getD silentLeader.environ) silentLeader.environ {} =
      .ok (some "run") := rfl
  have hs : ∀ env x, (prepare l.overrides).run silentLeader = (.ok env, x) →
      ∃ relay, ((Relay.start (some "run") none x.environ).run x).1 = .ok relay := by
    intro env x hp
    cases hp
    exact ⟨_, rfl⟩
  have hrefusals : l.Refusals prepare silentLeader "c" [.text [.lone 0x4FF]] (.mapping [])
      silentLeader := (relayed_refuses l prepare hk rfl rfl hb hs).2 _ _ rfl
  have hdirect := hrefusals.direct.2 hrefuses
  have hrelayed := (hrefusals.alike [[.lone 0x4FF]] rfl).2 hdirect
  obtain ⟨argv, htrace⟩ := hrefusals.seenOff hrelayed
  exact ⟨hdirect, hrelayed, argv, htrace.events⟩

/-- Over an argument that is a number the direct launch is refused, and the one through a relay leaves
it running. -/
theorem relayed_abandons :
    let l : Launch Unit :=
      { serverPort := .int 4444, command := .text "c", args := .list [.int 1],
        runtimeDir := some "run" }
    let prepare : List Unit → Act Value := fun _ => pure (.mapping [])
    Unwritten ((l.direct.run prepare).run silentLeader).1 ∧
      ((l.relayed.run prepare).run silentLeader).1 = .error (.notJoinable 1 "int") ∧
      ¬ Unwritten ((l.relayed.run prepare).run silentLeader).1 ∧
      ((l.relayed.run prepare).run silentLeader).2.events =
        [.spawn ["/work/socat", "unix-l:run/krun/socket/port-50000", "-,raw,echo=0"]] ∧
      ¬ Cleared ((l.relayed.run prepare).run silentLeader).2.events := by
  intro l prepare
  have hresult : ((l.relayed.run prepare).run silentLeader).1 = .error (.notJoinable 1 "int") := rfl
  have hevents : ((l.relayed.run prepare).run silentLeader).2.events =
      [.spawn ["/work/socat", "unix-l:run/krun/socket/port-50000", "-,raw,echo=0"]] := rfl
  refine ⟨⟨_, _, rfl, rfl⟩, hresult, ?_, hevents, ?_⟩
  · rw [hresult]
    rintro ⟨e, attempts, he, -⟩
    cases he
  · rw [hevents]
    exact Nat.one_ne_zero

end Launch

end SharedVm
