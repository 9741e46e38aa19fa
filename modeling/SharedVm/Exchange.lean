import SharedVm.Request.Wire
import SharedVm.World

/-!
# Exchanges

One exchange with the leader: connect, send the request, read one line, close. The line is read up
to its end, to the end of the stream, or until it is too long, whatever the pieces in which it
arrives. Only a failure of the connection itself is worth another attempt.
-/

namespace SharedVm.Exchange

def loopback : Text := "127.0.0.1"

def accepted : Text := "OK"

/-- Reading stops when there are more bytes than this. -/
def replyLimit : Nat := 1000000

def pieceLimit : Nat := 65536

def lineFeed : UInt8 := 0x0A

/-- Bytes in pieces of at most `n + 1`; no bytes make one empty piece. -/
def cut (n : Nat) (bs : Bytes) : List Bytes :=
  if bs.length ≤ n + 1 then [bs] else bs.take (n + 1) :: cut n (bs.drop (n + 1))
termination_by bs.length
decreasing_by simp only [List.length_drop]; omega

def received (pieces : List Bytes) : List Bytes := pieces.flatMap (cut (pieceLimit - 1))

theorem flatten_cut (n : Nat) (bs : Bytes) : (cut n bs).flatten = bs := by
  fun_induction cut n bs <;> simp_all

theorem length_le_of_mem_cut {n : Nat} {bs piece : Bytes} (h : piece ∈ cut n bs) :
    piece.length ≤ n + 1 := by
  fun_induction cut n bs with
  | case1 bs hbs => simp_all
  | case2 bs _ ih =>
    rcases List.mem_cons.1 h with rfl | h
    · exact List.length_take_le _ _
    · exact ih h

theorem flatten_received (pieces : List Bytes) : (received pieces).flatten = pieces.flatten := by
  induction pieces with
  | nil => rfl
  | cons piece rest ih =>
    simp only [received, List.flatMap_cons, List.flatten_append, flatten_cut, List.flatten_cons] at ih ⊢
    rw [ih]

def firstLine (bs : Bytes) : Bytes := bs.takeWhile (· ≠ lineFeed)

/-- Reads on from `seen` up to a line feed, the end, a failure, or the limit. -/
def readLine (ending : Option Report) (seen : Bytes) : List Bytes → Except Report Bytes
  | [] =>
    if seen.contains lineFeed then .ok (firstLine seen)
    else match ending with
      | some r => .error r
      | none => .ok seen
  | piece :: rest =>
    if seen.contains lineFeed then .ok (firstLine seen)
    else if piece.isEmpty then .ok seen
    else if (seen ++ piece).length > replyLimit then .ok (firstLine (seen ++ piece))
    else readLine ending (seen ++ piece) rest

/-- What the next attempt to connect meets. Nobody listens when no more is said. -/
def nextPeer : Act Peer := do
  let w ← get
  match w.peers with
  | [] => return .unreachable .refused
  | p :: rest =>
    set { w with peers := rest }
    return p

def converse (host : Text) (port : Int) (timeout : Option Value) (payload : Bytes) : Act Bytes := do
  Act.event (.connect host port timeout)
  match ← nextPeer with
  | .unreachable r => throw (.report r)
  | .deaf r =>
    Act.event .closed
    throw (.report r)
  | .answering pieces ending =>
    Act.event (.send payload)
    Act.event .closed
    match readLine ending [] (received pieces) with
    | .ok line => return line
    | .error r => throw (.report r)

/-- The text of a reply, without a carriage return at its end. -/
def replyText (line : Bytes) : Text :=
  let t := Utf8.decode line
  if t.getLast? = some (.char '\r') then t.dropLast else t

/-- Sends a request to the leader and fails unless it is accepted. `wire` is the request as it
travels. -/
def send (port : Value) (wire : Except Failure Bytes) (host : Text := loopback)
    (timeout : Option Value := none) : Act Unit := do
  match wire with
  | .error f => throw (.launch (.serialization f.message))
  | .ok payload =>
    let number ← Act.whole port
    let line ← Act.orReport (converse host number timeout payload) fun e => do
      Act.note (.requestFailed port e.message)
      throw (.launch (.connection e (some port)))
    let reply := replyText line
    if reply ≠ accepted then throw (.launch (.server reply (some port)))

def request (port : Value) (command args env : Value) (host : Text := loopback)
    (timeout : Option Value := none) : Act Unit := do
  let r ← Act.ofExcept (Request.build command args env)
  Act.note (.requesting r.command port)
  send port r.wire host timeout

end SharedVm.Exchange
