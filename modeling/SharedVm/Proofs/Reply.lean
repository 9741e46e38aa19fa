import SharedVm.Proofs.Exchange

/-!
# Reading a reply

The reading loop stops at a line feed, at the end of the stream, or when it holds more bytes than a
reply may have. What becomes of a request depends on the line that the stream begins with, and not
on the pieces in which the stream arrives; only of a line that is too long, the pieces say where it
is cut off. There is no line just when the connection fails, which is said of the peer without the
loop.
-/

namespace SharedVm

/-- What kind of failure it is to whoever sent a request. -/
def Failure.kind? : Failure → Option LaunchErrorKind
  | launch e => some e.kind
  | _ => none

namespace Exchange

open Act

/-! ### First lines -/

variable {a b : Bytes}

lemma firstLine_append_of_notMem (h : lineFeed ∉ a) (b : Bytes) :
    firstLine (a ++ b) = a ++ firstLine b :=
  List.takeWhile_append_of_pos fun _ hx => decide_eq_true fun he => h (he ▸ hx)

lemma firstLine_of_notMem (h : lineFeed ∉ b) : firstLine b = b := by
  have hline := firstLine_append_of_notMem h []
  rw [List.append_nil] at hline
  exact hline.trans (List.append_nil b)

lemma firstLine_append_of_mem (h : lineFeed ∈ a) (b : Bytes) : firstLine (a ++ b) = firstLine a := by
  obtain ⟨front, rest, rfl, hfront⟩ := List.eq_append_cons_of_mem h
  have hline : ∀ c, firstLine (front ++ lineFeed :: c) = front := by
    intro c
    rw [firstLine_append_of_notMem hfront, firstLine, List.takeWhile_cons_of_neg (by simp),
      List.append_nil]
  rw [List.append_assoc, List.cons_append, hline, hline]

lemma firstLine_isPrefix (b : Bytes) : firstLine b <+: b := List.takeWhile_prefix _

lemma firstLine_prefix_append (a b : Bytes) : firstLine a <+: firstLine (a ++ b) := by
  by_cases h : lineFeed ∈ a
  · exact ⟨[], by rw [List.append_nil, firstLine_append_of_mem h]⟩
  · rw [firstLine_of_notMem h, firstLine_append_of_notMem h]
    exact List.prefix_append _ _

/-! ### The reading loop -/

/-- A run of the reading loop over the pieces that a connection has for it. `calls` says how often
the connection is asked for a piece, and `held` what has been read in the end. -/
inductive Reads (ending : Option Report) :
    Bytes → List Bytes → (calls : Nat) → (held : Bytes) → Except Report Bytes → Prop
  | line {seen : Bytes} (pieces : List Bytes) (h : lineFeed ∈ seen) :
      Reads ending seen pieces 0 seen (.ok (firstLine seen))
  | ended {seen : Bytes} (h : lineFeed ∉ seen) (he : ending = none) :
      Reads ending seen [] 1 seen (.ok seen)
  | broken {seen : Bytes} {r : Report} (h : lineFeed ∉ seen) (he : ending = some r) :
      Reads ending seen [] 1 seen (.error r)
  | empty {seen : Bytes} (rest : List Bytes) (h : lineFeed ∉ seen) :
      Reads ending seen ([] :: rest) 1 seen (.ok seen)
  | full {seen piece : Bytes} (rest : List Bytes) (h : lineFeed ∉ seen) (hp : piece ≠ [])
      (hl : replyLimit < (seen ++ piece).length) :
      Reads ending seen (piece :: rest) 1 (seen ++ piece) (.ok (firstLine (seen ++ piece)))
  | more {seen piece held : Bytes} {rest : List Bytes} {calls : Nat} {r : Except Report Bytes}
      (h : lineFeed ∉ seen) (hp : piece ≠ []) (hl : (seen ++ piece).length ≤ replyLimit)
      (hr : Reads ending (seen ++ piece) rest calls held r) :
      Reads ending seen (piece :: rest) (calls + 1) held r

lemma Reads.readLine_eq {ending : Option Report} {seen held : Bytes} {pieces : List Bytes}
    {calls : Nat} {r : Except Report Bytes} (h : Reads ending seen pieces calls held r) :
    readLine ending seen pieces = r := by
  induction h with
  | line pieces h =>
    cases pieces with
    | nil => cases ending <;> rw [readLine, if_pos (by simpa using h)]
    | cons piece rest => rw [readLine, if_pos (by simpa using h)]
  | ended h he =>
    subst he
    rw [readLine, if_neg (by simpa using h)]
  | broken h he =>
    subst he
    rw [readLine, if_neg (by simpa using h)]
  | empty rest h => rw [readLine, if_neg (by simpa using h), if_pos List.isEmpty_nil]
  | full rest h hp hl =>
    rw [readLine, if_neg (by simpa using h), if_neg (by simpa using hp), if_pos hl]
  | more h hp hl _ ih =>
    rw [readLine, if_neg (by simpa using h), if_neg (by simpa using hp), if_neg (Nat.not_lt.2 hl), ih]

lemma exists_reads (ending : Option Report) (seen : Bytes) (pieces : List Bytes) :
    ∃ calls held, Reads ending seen pieces calls held (readLine ending seen pieces) := by
  fun_induction readLine ending seen pieces with
  | case1 seen h => exact ⟨0, seen, .line [] (by simpa using h)⟩
  | case2 seen h r he => exact ⟨1, seen, .broken (by simpa using h) he⟩
  | case3 seen h he => exact ⟨1, seen, .ended (by simpa using h) he⟩
  | case4 seen piece rest h => exact ⟨0, seen, .line _ (by simpa using h)⟩
  | case5 seen piece rest h hp =>
    rw [List.isEmpty_iff.1 hp]
    exact ⟨1, seen, .empty rest (by simpa using h)⟩
  | case6 seen piece rest h hp hl => exact ⟨1, _, .full rest (by simpa using h) (by simpa using hp) hl⟩
  | case7 seen piece rest h hp hl ih =>
    obtain ⟨calls, held, hr⟩ := ih
    exact ⟨calls + 1, held, .more (by simpa using h) (by simpa using hp) (Nat.not_lt.1 hl) hr⟩

/-- What the stream `b` comes to, with what is behind it: its first line, the failure that it breaks
off with, or the front of a line that is too long. -/
inductive Settles (ending : Option Report) (b : Bytes) : Except Report Bytes → Prop
  | line (hl : (firstLine b).length ≤ replyLimit) (he : lineFeed ∈ b ∨ ending = none) :
      Settles ending b (.ok (firstLine b))
  | broken {r : Report} (hl : b.length ≤ replyLimit) (hn : lineFeed ∉ b) (he : ending = some r) :
      Settles ending b (.error r)
  | long {front : Bytes} (hp : front <+: firstLine b) (hl : replyLimit < front.length) :
      Settles ending b (.ok front)

namespace Reads

variable {ending : Option Report} {seen held : Bytes} {pieces : List Bytes} {calls : Nat}
  {r : Except Report Bytes}

lemma settles (h : Reads ending seen pieces calls held r) (hs : seen.length ≤ replyLimit)
    (hp : ∀ piece ∈ pieces, piece ≠ []) : Settles ending (seen ++ pieces.flatten) r := by
  induction h with
  | line pieces h =>
    rw [← firstLine_append_of_mem h pieces.flatten]
    refine .line ?_ (.inl (List.mem_append_left _ h))
    rw [firstLine_append_of_mem h]
    exact Nat.le_trans (firstLine_isPrefix _).length_le hs
  | @ended seen h he =>
    have hline := firstLine_of_notMem h
    rw [List.flatten_nil, List.append_nil]
    have hsettles : Settles ending seen (.ok (firstLine seen)) := .line (hline.symm ▸ hs) (.inr he)
    rwa [hline] at hsettles
  | broken h he =>
    rw [List.flatten_nil, List.append_nil]
    exact .broken hs h he
  | empty rest h => exact absurd rfl (hp [] List.mem_cons_self)
  | @full seen piece rest h _ hl =>
    rw [List.flatten_cons, ← List.append_assoc]
    by_cases hm : lineFeed ∈ seen ++ piece
    · have hline := firstLine_append_of_mem hm rest.flatten
      by_cases hlong : replyLimit < (firstLine (seen ++ piece)).length
      · exact .long (firstLine_prefix_append _ _) hlong
      · rw [← hline] at hlong ⊢
        exact .line (Nat.not_lt.1 hlong) (.inl (List.mem_append_left _ hm))
    · refine .long (firstLine_prefix_append _ _) ?_
      rwa [firstLine_of_notMem hm]
  | more _ _ hl _ ih =>
    rw [List.flatten_cons, ← List.append_assoc]
    exact ih hl fun piece hmem => hp piece (List.mem_cons_of_mem _ hmem)

/-- Every piece that is read on from has a byte in it, so there are no more of them than bytes. -/
lemma calls_le (h : Reads ending seen pieces calls held r) (hs : seen.length ≤ replyLimit) :
    calls + seen.length ≤ replyLimit + 1 := by
  induction h with
  | line pieces h => omega
  | ended h he => omega
  | broken h he => omega
  | empty rest h => omega
  | full rest h hp hl => omega
  | more h hp hl _ ih =>
    have hrest := ih hl
    have hpos := List.length_pos_iff.2 hp
    rw [List.length_append] at hrest
    omega

lemma held_le (h : Reads ending seen pieces calls held r) (hs : seen.length ≤ replyLimit)
    (hp : ∀ piece ∈ pieces, piece.length ≤ pieceLimit) : held.length ≤ replyLimit + pieceLimit := by
  induction h with
  | line pieces h => omega
  | ended h he => omega
  | broken h he => omega
  | empty rest h => omega
  | full rest h _ hl =>
    have hpiece := hp _ List.mem_cons_self
    rw [List.length_append]
    omega
  | more h _ hl _ ih => exact ih hl fun piece hmem => hp piece (List.mem_cons_of_mem _ hmem)

/-- What is behind the pieces that the loop has asked for plays no part. -/
lemma extend (h : Reads ending seen pieces calls held r) (hc : calls ≤ pieces.length)
    (ending' : Option Report) (more : List Bytes) :
    Reads ending' seen (pieces ++ more) calls held r := by
  induction h with
  | line pieces h => exact .line _ h
  | ended h he => exact absurd hc (by decide)
  | broken h he => exact absurd hc (by decide)
  | empty rest h => exact .empty _ h
  | full rest h hp hl => exact .full _ h hp hl
  | more h hp hl _ ih => exact .more h hp hl (ih (Nat.le_of_succ_le_succ hc))

end Reads

/-! ### Pieces as they are received -/

lemma length_le_of_mem_received {pieces : List Bytes} {piece : Bytes} (h : piece ∈ received pieces) :
    piece.length ≤ pieceLimit := by
  obtain ⟨whole, -, hm⟩ := List.mem_flatMap.1 h
  exact length_le_of_mem_cut hm

lemma ne_nil_of_mem_cut {n : Nat} {bs piece : Bytes} (hb : bs ≠ []) (h : piece ∈ cut n bs) :
    piece ≠ [] := by
  fun_induction cut n bs with
  | case1 bs _ => exact List.mem_singleton.1 h ▸ hb
  | case2 bs hl ih =>
    rcases List.mem_cons.1 h with rfl | h
    · exact fun he => hb ((List.take_eq_nil_iff.1 he).resolve_left (Nat.succ_ne_zero n))
    · exact ih (fun he => hl (List.drop_eq_nil_iff.1 he)) h

lemma ne_nil_of_mem_received {pieces : List Bytes} (hp : ∀ piece ∈ pieces, piece ≠ [])
    {piece : Bytes} (h : piece ∈ received pieces) : piece ≠ [] := by
  obtain ⟨whole, hw, hm⟩ := List.mem_flatMap.1 h
  exact ne_nil_of_mem_cut (hp whole hw) hm

lemma settles_received (ending : Option Report) {pieces : List Bytes}
    (hp : ∀ piece ∈ pieces, piece ≠ []) :
    Settles ending pieces.flatten (readLine ending [] (received pieces)) := by
  obtain ⟨calls, held, hr⟩ := exists_reads ending [] (received pieces)
  have hs := hr.settles (Nat.zero_le _) fun piece hm => ne_nil_of_mem_received hp hm
  rwa [List.nil_append, flatten_received] at hs

/-! ### Connections that fail -/

lemma readLine_eq_error_iff {ending : Option Report} {seen : Bytes} {pieces : List Bytes}
    {x : Report} (hs : seen.length ≤ replyLimit) :
    readLine ending seen pieces = .error x ↔
      ending = some x ∧ [] ∉ pieces ∧ lineFeed ∉ seen ++ pieces.flatten ∧
        (seen ++ pieces.flatten).length ≤ replyLimit := by
  have hfound : ∀ {seen rest : Bytes}, seen.contains lineFeed = true → lineFeed ∈ seen ++ rest :=
    fun h => List.mem_append_left _ (by simpa using h)
  fun_induction readLine ending seen pieces with
  | case1 seen h => exact iff_of_false nofun fun ⟨_, _, hline, _⟩ => hline (hfound h)
  | case2 seen h y he =>
    have hline : lineFeed ∉ seen := by simpa using h
    rw [he, List.flatten_nil, List.append_nil]
    simp [hline, hs]
  | case3 seen h he => exact iff_of_false nofun fun ⟨hx, _⟩ => nomatch he.symm.trans hx
  | case4 seen piece rest h => exact iff_of_false nofun fun ⟨_, _, hline, _⟩ => hline (hfound h)
  | case5 seen piece rest h hp =>
    obtain rfl : piece = [] := List.isEmpty_iff.1 hp
    exact iff_of_false nofun fun ⟨_, hempty, _⟩ => hempty List.mem_cons_self
  | case6 seen piece rest h hp hl =>
    refine iff_of_false nofun fun ⟨_, _, _, hlength⟩ => ?_
    rw [List.flatten_cons, ← List.append_assoc, List.length_append] at hlength
    omega
  | case7 seen piece rest h hp hl ih =>
    have hpiece : [] ≠ piece := fun he => hp (by rw [← he]; rfl)
    refine (ih (Nat.not_lt.1 hl)).trans ?_
    rw [List.flatten_cons, List.append_assoc, List.mem_cons, not_or]
    exact and_congr_right fun _ => and_congr_left fun _ => (and_iff_right hpiece).symm

lemma nil_mem_received_iff (pieces : List Bytes) : [] ∈ received pieces ↔ [] ∈ pieces := by
  constructor
  · intro h
    refine Decidable.of_not_not fun hn => ?_
    exact ne_nil_of_mem_received (fun piece hm he => hn (he ▸ hm)) h rfl
  · intro h
    refine List.mem_flatMap.2 ⟨[], h, ?_⟩
    rw [cut, List.length_nil, if_pos (Nat.zero_le _)]
    exact List.mem_singleton_self _

end Exchange

namespace Peer

/-- The connection to the peer fails: it is not made, the request does not get through, or it breaks
off while the line that it has begun is neither complete nor too long. -/
inductive FailsWith : Peer → Report → Prop
  | unreached (x : Report) : FailsWith (.unreachable x) x
  | unheard (x : Report) : FailsWith (.deaf x) x
  | broken {pieces : List Bytes} (x : Report) (hp : [] ∉ pieces)
      (hline : Exchange.lineFeed ∉ pieces.flatten)
      (hlength : pieces.flatten.length ≤ Exchange.replyLimit) :
      FailsWith (.answering pieces (some x)) x

lemma reply_eq_error_iff {p : Peer} {x : Report} : p.reply = .error x ↔ p.FailsWith x := by
  cases p with
  | unreachable y =>
    constructor
    · rintro ⟨⟩
      exact .unreached x
    · rintro ⟨⟩
      rfl
  | deaf y =>
    constructor
    · rintro ⟨⟩
      exact .unheard x
    · rintro ⟨⟩
      rfl
  | answering pieces ending =>
    rw [Peer.reply, Exchange.readLine_eq_error_iff (Nat.zero_le _), List.nil_append,
      Exchange.flatten_received, Exchange.nil_mem_received_iff]
    constructor
    · rintro ⟨rfl, hp, hline, hlength⟩
      exact .broken x hp hline hlength
    · intro h
      cases h with
      | broken _ hp hline hlength => exact ⟨rfl, hp, hline, hlength⟩

end Peer

namespace Exchange

/-! ### What becomes of a request -/

lemma verdict_of_long (port : Value) {line : Bytes} (h : replyLimit < line.length) :
    verdict port line = .error (.launch (.server (replyText line) (some port))) := by
  refine if_neg ?_
  rintro (rfl | rfl) <;> exact absurd h (by decide)

/-- What becomes of a request to a port that the stream `b` answers, by what is behind the stream:
`none` if it ends, and otherwise what it breaks off with. -/
inductive Answers (port : Value) (ending : Option Report) (b : Bytes) : Except Failure Unit → Prop
  | line (hl : (firstLine b).length ≤ replyLimit) (he : lineFeed ∈ b ∨ ending = none) :
      Answers port ending b (verdict port (firstLine b))
  | broken {r : Report} (hl : b.length ≤ replyLimit) (hn : lineFeed ∉ b) (he : ending = some r)
      (hr : r.isSystem = true) :
      Answers port ending b (.error (.launch (.connection r (some port))))
  | failed {r : Report} (hl : b.length ≤ replyLimit) (hn : lineFeed ∉ b) (he : ending = some r)
      (hr : r.isSystem = false) : Answers port ending b (.error (.report r))
  | long {front : Bytes} (hp : front <+: firstLine b) (hl : replyLimit < front.length) :
      Answers port ending b (.error (.launch (.server (replyText front) (some port))))

lemma Settles.answers {ending : Option Report} {b : Bytes} {s : Except Report Bytes} (port : Value)
    (h : Settles ending b s) : Answers port ending b (outcome port s) := by
  cases h with
  | line hl he => exact .line hl he
  | @broken r hl hlf he =>
    unfold outcome
    dsimp only
    by_cases hr : r.isSystem = true
    · rw [if_pos hr]
      exact .broken hl hlf he hr
    · rw [if_neg hr]
      exact .failed hl hlf he (by simpa using hr)
  | long hp hl =>
    rw [outcome, verdict_of_long port hl]
    exact .long hp hl

/-- The same stream has the same answer, apart from where a line that is too long is cut off. -/
lemma Answers.eq_or_long {port : Value} {ending : Option Report} {b : Bytes}
    {r r' : Except Failure Unit} (h : Answers port ending b r) (h' : Answers port ending b r') :
    r = r' ∨ replyLimit < (firstLine b).length ∧ ∃ t t',
      r = .error (.launch (.server t (some port))) ∧ r' = .error (.launch (.server t' (some port))) := by
  have hover : ∀ front, front <+: firstLine b → replyLimit < front.length →
      replyLimit < (firstLine b).length := fun _ hp hl => Nat.lt_of_lt_of_le hl hp.length_le
  have hwhole : lineFeed ∉ b → (firstLine b).length = b.length := fun hn => by
    rw [firstLine_of_notMem hn]
  cases h with
  | line hl he =>
    cases h' with
    | line _ _ => exact .inl rfl
    | broken _ hn he' => exact absurd (he.resolve_left hn) (by rw [he']; exact nofun)
    | failed _ hn he' => exact absurd (he.resolve_left hn) (by rw [he']; exact nofun)
    | long hp hlong => exact absurd (hover _ hp hlong) (Nat.not_lt.2 hl)
  | @broken e hl hn he hr =>
    cases h' with
    | line _ he' => exact absurd (he'.resolve_left hn) (by rw [he]; exact nofun)
    | @broken e' _ _ he' _ =>
      obtain rfl : e = e' := Option.some.inj (he.symm.trans he')
      exact .inl rfl
    | @failed e' _ _ he' hr' =>
      obtain rfl : e = e' := Option.some.inj (he.symm.trans he')
      exact absurd (hr.symm.trans hr') nofun
    | long hp hlong => exact absurd (hover _ hp hlong) (Nat.not_lt.2 (hwhole hn ▸ hl))
  | @failed e hl hn he hr =>
    cases h' with
    | line _ he' => exact absurd (he'.resolve_left hn) (by rw [he]; exact nofun)
    | @broken e' _ _ he' hr' =>
      obtain rfl : e = e' := Option.some.inj (he.symm.trans he')
      exact absurd (hr.symm.trans hr') nofun
    | @failed e' _ _ he' _ =>
      obtain rfl : e = e' := Option.some.inj (he.symm.trans he')
      exact .inl rfl
    | long hp hlong => exact absurd (hover _ hp hlong) (Nat.not_lt.2 (hwhole hn ▸ hl))
  | long hp hlong =>
    have hlen := hover _ hp hlong
    cases h' with
    | line hl _ => exact absurd hlen (Nat.not_lt.2 hl)
    | broken hl hn _ _ => exact absurd hlen (Nat.not_lt.2 (hwhole hn ▸ hl))
    | failed hl hn _ _ => exact absurd hlen (Nat.not_lt.2 (hwhole hn ▸ hl))
    | long _ _ => exact .inr ⟨hlen, _, _, rfl, rfl⟩

/-! ### Streams without an end -/

/-- What has come of a stream once so many pieces of it are there. -/
def streamed (pieces : Nat → Bytes) (count : Nat) : Bytes := ((List.range count).map pieces).flatten

/-- What becomes of a request to a port that a stream without an end answers. -/
inductive Unending (port : Value) (pieces : Nat → Bytes) : Except Failure Unit → Prop
  | line {count : Nat} (hm : lineFeed ∈ streamed pieces count)
      (hl : (firstLine (streamed pieces count)).length ≤ replyLimit) :
      Unending port pieces (verdict port (firstLine (streamed pieces count)))
  | long {count : Nat} {front : Bytes} (hp : front <+: firstLine (streamed pieces count))
      (hl : replyLimit < front.length) :
      Unending port pieces (.error (.launch (.server (replyText front) (some port))))

lemma length_le_flatten {pieces : List Bytes} (hp : ∀ piece ∈ pieces, piece ≠ []) :
    pieces.length ≤ pieces.flatten.length := by
  induction pieces with
  | nil => exact Nat.le_refl 0
  | cons piece rest ih =>
    have hpos := List.length_pos_iff.2 (hp piece List.mem_cons_self)
    have hrest := ih fun p hm => hp p (List.mem_cons_of_mem _ hm)
    rw [List.flatten_cons, List.length_append, List.length_cons]
    omega

lemma length_le_streamed {pieces : Nat → Bytes} (hp : ∀ i, pieces i ≠ []) (count : Nat) :
    count ≤ (streamed pieces count).length := by
  have hle : ((List.range count).map pieces).length ≤ _ := length_le_flatten fun piece hm => by
    obtain ⟨i, -, rfl⟩ := List.mem_map.1 hm
    exact hp i
  rwa [List.length_map, List.length_range] at hle

lemma length_le_received (pieces : List Bytes) : pieces.length ≤ (received pieces).length := by
  induction pieces with
  | nil => exact Nat.le_refl 0
  | cons piece rest ih =>
    have hpos : 0 < (cut (pieceLimit - 1) piece).length := by
      rw [cut]
      split <;> exact Nat.succ_pos _
    rw [received, List.flatMap_cons, List.length_append, List.length_cons]
    rw [received] at ih
    omega

/-- Before a line is read there are no more calls than bytes in a reply, so what comes after as many
pieces makes no difference. -/
lemma readLine_append {front : List Bytes} (hf : replyLimit < front.length)
    (ending ending' : Option Report) (rest : List Bytes) :
    readLine ending' [] (received (front ++ rest)) = readLine ending [] (received front) := by
  obtain ⟨calls, held, hr⟩ := exists_reads ending [] (received front)
  have hcalls : calls ≤ replyLimit + 1 := hr.calls_le (Nat.zero_le _)
  have hlen := length_le_received front
  rw [received, List.flatMap_append]
  exact (hr.extend (by omega) ending' _).readLine_eq

lemma Answers.unending {port : Value} {ending : Option Report} {pieces : Nat → Bytes} {count : Nat}
    {r : Except Failure Unit} (h : Answers port ending (streamed pieces count) r)
    (hl : replyLimit < (streamed pieces count).length) : Unending port pieces r := by
  cases h with
  | line hline _ =>
    refine .line ?_ hline
    by_cases hm : lineFeed ∈ streamed pieces count
    · exact hm
    · rw [firstLine_of_notMem hm] at hline
      omega
  | broken hb _ _ _ => omega
  | failed hb _ _ _ => omega
  | long hp hlong => exact .long hp hlong

/-! ### Requests -/

section Send

variable {port : Value} {number : Int} (hn : port.whole = .ok number) (payload : Bytes) (host : Text)
  (timeout : Option Value)

include hn

lemma run_send {w : World} {pieces : List Bytes} {ending : Option Report}
    (hw : w.peer = .answering pieces ending) :
    ((send port (.ok payload) host timeout).run w).1 =
      outcome port (readLine ending [] (received pieces)) := by
  obtain ⟨v, hrun, -⟩ := exists_run_send hn payload host timeout w
  rw [hrun, hw]
  rfl

/-- What becomes of a request that has been sent depends on the stream that answers it, and not on
the pieces in which the stream is received. Reading it takes no more calls and no more room than
the limits allow, so that a stream without an end is answered as well. -/
theorem send_reads :
    (∀ (w : World) (pieces : List Bytes) (ending : Option Report),
      w.peer = .answering pieces ending → (∀ piece ∈ pieces, piece ≠ []) →
      Answers port ending pieces.flatten ((send port (.ok payload) host timeout).run w).1 ∧
      ∃ calls held,
        Reads ending [] (received pieces) calls held (readLine ending [] (received pieces)) ∧
        calls ≤ replyLimit + 1 ∧ held.length ≤ replyLimit + pieceLimit) ∧
    (∀ (w w' : World) (pieces pieces' : List Bytes) (ending : Option Report),
      w.peer = .answering pieces ending → w'.peer = .answering pieces' ending →
      pieces.flatten = pieces'.flatten →
      (∀ piece ∈ pieces, piece ≠ []) → (∀ piece ∈ pieces', piece ≠ []) →
      ((send port (.ok payload) host timeout).run w).1.mapError Failure.kind? =
        ((send port (.ok payload) host timeout).run w').1.mapError Failure.kind? ∧
      ((firstLine pieces.flatten).length ≤ replyLimit →
        ((send port (.ok payload) host timeout).run w).1 =
          ((send port (.ok payload) host timeout).run w').1)) ∧
    ∀ pieces : Nat → Bytes, (∀ i, pieces i ≠ []) → ∃ r, Unending port pieces r ∧
      ∀ (w : World) (count : Nat) (ending : Option Report), replyLimit < count →
        w.peer = .answering ((List.range count).map pieces) ending →
        ((send port (.ok payload) host timeout).run w).1 = r := by
  have hanswers : ∀ (w : World) (pieces : List Bytes) (ending : Option Report),
      w.peer = .answering pieces ending → (∀ piece ∈ pieces, piece ≠ []) →
      Answers port ending pieces.flatten ((send port (.ok payload) host timeout).run w).1 := by
    intro w pieces ending hw hp
    rw [run_send hn payload host timeout hw]
    exact (settles_received ending hp).answers port
  refine ⟨fun w pieces ending hw hp => ⟨hanswers w pieces ending hw hp, ?_⟩,
    fun w w' pieces pieces' ending hw hw' hflat hp hp' => ?_, fun pieces hp => ?_⟩
  · obtain ⟨calls, held, hr⟩ := exists_reads ending [] (received pieces)
    exact ⟨calls, held, hr, hr.calls_le (Nat.zero_le _),
      hr.held_le (Nat.zero_le _) fun piece hm => length_le_of_mem_received hm⟩
  · have h := hanswers w pieces ending hw hp
    have h' := hanswers w' pieces' ending hw' hp'
    rw [← hflat] at h'
    rcases h.eq_or_long h' with he | ⟨hlong, t, t', he, he'⟩
    · exact ⟨congrArg _ he, fun _ => he⟩
    · rw [he, he']
      exact ⟨rfl, fun hl => absurd hlong (Nat.not_lt.2 hl)⟩
  · have hmap : ∀ count, ∀ piece ∈ (List.range count).map pieces, piece ≠ [] := by
      intro count piece hm
      obtain ⟨i, -, rfl⟩ := List.mem_map.1 hm
      exact hp i
    have hlen := length_le_streamed hp (replyLimit + 1)
    refine ⟨outcome port (readLine none [] (received ((List.range (replyLimit + 1)).map pieces))),
      ((settles_received none (hmap _)).answers port).unending hlen,
      fun w count ending hcount hw => ?_⟩
    obtain ⟨more, rfl⟩ := Nat.exists_eq_add_of_lt hcount
    rw [run_send hn payload host timeout hw,
      show replyLimit + more + 1 = replyLimit + 1 + more by omega, List.range_add, List.map_append,
      readLine_append (by simp) none]

end Send

/-- A leader whose reply comes in three pieces, with its line end torn apart, and which breaks off
behind it. -/
def torn : World where
  peers := [.answering [[0x4F], [0x4B, 0x0D], [0x0A, 0x21]] (some .contended)]

theorem send_reads_torn : ((send (.int 3333) (.ok []) loopback).run torn).1 = .ok () := by
  have hanswers := ((@send_reads (.int 3333) 3333 rfl [] loopback none).1 torn _ _ rfl (by decide)).1
  have hline : Answers (.int 3333) (some .contended) [0x4F, 0x4B, 0x0D, 0x0A, 0x21] (.ok ()) :=
    .line (by decide) (.inl (by decide))
  rcases hanswers.eq_or_long hline with he | ⟨hlong, -⟩
  · exact he
  · exact absurd hlong (by decide)

end Exchange

end SharedVm
