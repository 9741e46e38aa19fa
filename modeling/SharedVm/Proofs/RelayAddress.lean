import SharedVm.Proofs.Decimal
import SharedVm.Proofs.Relay

/-!
# Addresses read back

An address is read from left to right, and a backslash quotes the symbol behind it. Reading an
escaped text gives the symbols of the text, the marks of the address language among them quoted, and
leaves no backslash open; so whatever the command line says, it stays one part of its address and
comes out as it was.
-/

namespace SharedVm.Relay

/-- What an address is made up of. -/
inductive Token where
  | plain (s : Symbol)
  | quoted (s : Symbol)
  /-- A backslash at the end, which would quote whatever came next. -/
  | dangling
  deriving DecidableEq, Repr

def backslash : Symbol := .char '\\'

/-- Reads an address on. `quoting` says that a backslash has just been read. -/
def scan (quoting : Bool) : Text → List Token
  | [] => if quoting then [.dangling] else []
  | s :: rest =>
    if quoting then .quoted s :: scan false rest
    else if s = backslash then scan true rest
    else .plain s :: scan false rest

def tokens (t : Text) : List Token := scan false t

namespace Token

/-- How the token is written. -/
def source : Token → Text
  | plain s => [s]
  | quoted s => [backslash, s]
  | dangling => [backslash]

def symbol? : Token → Option Symbol
  | plain s => some s
  | quoted s => some s
  | dangling => none

/-- A symbol of a command line, which is quoted if it is a mark of the address language. -/
def ofSymbol (s : Symbol) : Token := if marks.contains s then quoted s else plain s

end Token

/-- The parts of an address between the separators that are not quoted, as they are written. -/
def parts (separator : Symbol) (address : Text) : List Text :=
  ((tokens address).splitOn (.plain separator)).map (·.flatMap Token.source)

/-- What an address says once its quoting is removed. -/
def unescape (t : Text) : Text := (tokens t).filterMap Token.symbol?

/-- Reading an address loses nothing of it. -/
lemma source_scan (quoting : Bool) (t : Text) :
    (scan quoting t).flatMap Token.source = (if quoting then [backslash] else []) ++ t := by
  induction t generalizing quoting with
  | nil => cases quoting <;> rfl
  | cons s rest ih =>
    cases quoting with
    | true =>
      rw [scan, if_pos rfl, List.flatMap_cons, ih]
      rfl
    | false =>
      by_cases hs : s = backslash
      · rw [scan, if_neg Bool.false_ne_true, if_pos hs, ih, hs]
        rfl
      · rw [scan, if_neg Bool.false_ne_true, if_neg hs, List.flatMap_cons, ih]
        rfl

lemma source_tokens (t : Text) : (tokens t).flatMap Token.source = t := source_scan false t

/-! ### Escaped texts -/

lemma escape_append (s t : Text) : escape (s ++ t) = escape s ++ escape t := List.flatMap_append

lemma mark_of_backslash {s : Symbol} (h : s = backslash) : marks.contains s = true := by
  rw [h]
  decide

/-- Behind an escaped text the reader is where it was before it: no backslash is open. -/
lemma tokens_escape_append (t rest : Text) :
    tokens (escape t ++ rest) = t.map Token.ofSymbol ++ tokens rest := by
  induction t with
  | nil => rfl
  | cons s t ih =>
    rw [escape, List.flatMap_cons, ← escape, List.append_assoc, List.map_cons, List.cons_append, ← ih]
    cases hs : marks.contains s with
    | true =>
      rw [if_pos rfl, Token.ofSymbol, hs, if_pos rfl]
      rfl
    | false =>
      have hn : s ≠ backslash := fun he => by
        rw [mark_of_backslash he] at hs
        cases hs
      rw [if_neg Bool.false_ne_true, Token.ofSymbol, hs, if_neg Bool.false_ne_true, tokens,
        List.cons_append, scan, if_neg Bool.false_ne_true, if_neg hn]
      rfl

lemma tokens_escape (t : Text) : tokens (escape t) = t.map Token.ofSymbol := by
  have h := tokens_escape_append t []
  rwa [List.append_nil, show tokens [] = [] from rfl, List.append_nil] at h

lemma unescape_escape (t : Text) : unescape (escape t) = t := by
  have hsymbol : ∀ s, (Token.ofSymbol s).symbol? = some s := by
    intro s
    unfold Token.ofSymbol
    split <;> rfl
  rw [unescape, tokens_escape, List.filterMap_map]
  exact (List.filterMap_congr fun s _ => hsymbol s).trans List.filterMap_some

lemma escape_injective : Function.Injective escape := Function.LeftInverse.injective unescape_escape

/-- Marks of the address language are quoted. -/
lemma plain_notMem_map {s : Symbol} (hs : marks.contains s = true) (t : Text) :
    Token.plain s ∉ t.map Token.ofSymbol := by
  intro h
  obtain ⟨s', -, he⟩ := List.mem_map.1 h
  unfold Token.ofSymbol at he
  split at he
  · cases he
  · cases he
    contradiction

lemma dangling_notMem_map (t : Text) : Token.dangling ∉ t.map Token.ofSymbol := by
  intro h
  obtain ⟨s, -, he⟩ := List.mem_map.1 h
  unfold Token.ofSymbol at he
  split at he <;> cases he

/-! ### Addresses of commands -/

/-- How an address is read that hands over a command line: it has four parts, the first of which says
what is done, and the command line in it is quoted so that nothing of it is read as a mark. -/
structure Hands (address line : Text) : Prop where
  commas : parts (.char ',') address = ["exec:" ++ escape line, "pty", "setsid", "stderr"]
  colons : parts (.char ':') address = [("exec" : Text), escape line ++ ",pty,setsid,stderr"]
  read : tokens address =
    tokens "exec:" ++ tokens (escape line) ++ tokens ",pty,setsid,stderr"
  said : unescape (escape line) = line
  quoted : ∀ s ∈ marks, .plain s ∉ tokens (escape line)
  closed : .dangling ∉ tokens (escape line)

lemma tokens_commandAddress (line : Text) : tokens (commandAddress line) =
    tokens "exec:" ++ line.map Token.ofSymbol ++ tokens ",pty,setsid,stderr" := by
  have hverb : ∀ t : Text, tokens ("exec:" ++ t) = tokens "exec:" ++ tokens t := fun _ => rfl
  rw [commandAddress, List.append_assoc, hverb, tokens_escape_append, List.append_assoc]

lemma source_tokens_append (a : Text) (t : Text) :
    (tokens a ++ t.map Token.ofSymbol).flatMap Token.source = a ++ escape t := by
  rw [List.flatMap_append, source_tokens, ← tokens_escape, source_tokens]

lemma commas_commandAddress (line : Text) : parts (.char ',') (commandAddress line) =
    ["exec:" ++ escape line, "pty", "setsid", "stderr"] := by
  have hfront : Token.plain (.char ',') ∉ tokens "exec:" ++ line.map Token.ofSymbol := by
    rw [List.mem_append, not_or]
    exact ⟨by decide, plain_notMem_map (by decide) line⟩
  have hback : tokens ",pty,setsid,stderr" =
      .plain (.char ',') :: tokens "pty,setsid,stderr" := rfl
  have hoptions : (tokens "pty,setsid,stderr").splitOn (.plain (.char ',')) =
      [tokens "pty", tokens "setsid", tokens "stderr"] := by decide
  rw [parts, tokens_commandAddress, hback, List.splitOn_append_cons_self_of_not_mem hfront, hoptions]
  simp only [List.map_cons, List.map_nil, source_tokens, source_tokens_append]

lemma colons_commandAddress (line : Text) : parts (.char ':') (commandAddress line) =
    [("exec" : Text), escape line ++ ",pty,setsid,stderr"] := by
  have hfront : Token.plain (.char ':') ∉ tokens "exec" := by decide
  have hback : Token.plain (.char ':') ∉
      line.map Token.ofSymbol ++ tokens ",pty,setsid,stderr" := by
    rw [List.mem_append, not_or]
    exact ⟨plain_notMem_map (by decide) line, by decide⟩
  have hverb : tokens "exec:" = tokens "exec" ++ [.plain (.char ':')] := rfl
  rw [parts, tokens_commandAddress, hverb, List.append_assoc, List.append_assoc, List.singleton_append,
    List.splitOn_append_cons_self_of_not_mem hfront, List.splitOn_eq_singleton hback]
  simp only [List.map_cons, List.map_nil, source_tokens, List.flatMap_append, ← tokens_escape]

lemma hands_commandAddress (line : Text) : Hands (commandAddress line) line where
  commas := commas_commandAddress line
  colons := colons_commandAddress line
  read := by rw [tokens_commandAddress, tokens_escape]
  said := unescape_escape line
  quoted s hs := by
    rw [tokens_escape]
    exact plain_notMem_map (List.contains_iff_mem.2 hs) line
  closed := by
    rw [tokens_escape]
    exact dangling_notMem_map line

/-- Two command lines have the same address only if they are the same. -/
lemma commandAddress_injective : Function.Injective commandAddress := by
  intro line line' h
  have hparts := congrArg (parts (.char ',')) h
  rw [commas_commandAddress, commas_commandAddress] at hparts
  exact escape_injective (List.append_cancel_left (List.cons.inj hparts).1)

lemma socketAddress_int_injective : Function.Injective fun n : Int => socketAddress (.int n) := by
  intro n n' h
  exact Decimal.ofInt_injective (List.append_cancel_left h)

/-- Whatever a command and its arguments say, the guest's relay gets an address that hands over just
them, joined by spaces, and reads none of their symbols as a mark of its own. Escaping can be undone,
and goes along with joining texts; so commands are wrapped alike just when their ports and their
joined texts are the same. -/
theorem wrap_hands_over (command : Text) (args : List Text) (port : Value) :
    (∃ address, wrap (.text command) (.list (args.map .text)) port =
        .ok (program, [socketAddress port, address]) ∧
      Hands address (Text.join " " (command :: args))) ∧
    (∀ t, unescape (escape t) = t) ∧ Function.Injective escape ∧
    (∀ s t, escape (s ++ t) = escape s ++ escape t) ∧
    ∀ (command' : Text) (args' : List Text) (n n' : Int),
      wrap (.text command) (.list (args.map .text)) (.int n) =
          wrap (.text command') (.list (args'.map .text)) (.int n') ↔
        n = n' ∧ Text.join " " (command :: args) = Text.join " " (command' :: args') := by
  refine ⟨⟨_, wrap_texts command args port, hands_commandAddress _⟩, unescape_escape,
    escape_injective, escape_append, ?_⟩
  intro command' args' n n'
  rw [wrap_texts, wrap_texts]
  constructor
  · intro h
    obtain ⟨hport, hrest⟩ := List.cons.inj (Prod.mk.inj (Except.ok.inj h)).2
    exact ⟨socketAddress_int_injective hport, commandAddress_injective (List.cons.inj hrest).1⟩
  · rintro ⟨rfl, hline⟩
    rw [hline]

/-- An argument that tries to add an option of its own stays a part of the command line. -/
example : parts (.char ',') (commandAddress "a\\,system:b") =
    ["exec:a\\\\\\,system\\:b", "pty", "setsid", "stderr"] := by decide

end SharedVm.Relay
