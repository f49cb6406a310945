import Mathlib
import NightWatcher.Lib.Framing

/-!
# `tcp_transport.cpp`, `serial_transport.cpp`: bytes to and from a unit

The loops of the two transports, run on the results of the system calls they make. A call may be
given too few results to end on: then it is waiting. What was received and not returned stays in
the transport's buffer on every exit, so a caller who was thrown at may call again.

Both are readers in the sense of `Framing`, so the lines they return are those of the stream,
however it is cut (`readLines_framed`). Whether a call ends is another matter: the loops have turns
that bring them no further (`calls_end_iff`).
-/

namespace NightWatcher.Sqm

open Framing

/-! ## System calls -/

/-- `errno` after a system call that failed. -/
inductive Errno where
  | eintr
  /-- `EAGAIN`, which is `EWOULDBLOCK`: nothing to be had, or the timeout of the socket expired -/
  | eagain
  | other (text : String)

def Errno.strerror : Errno → String
  | .eintr => "Interrupted system call"
  | .eagain => "Resource temporarily unavailable"
  | .other text => text

/-- What one call of `recv` or `read` brings, with a buffer of 256 bytes. -/
structure Chunk where
  bytes : List UInt8
  nonempty : bytes ≠ []
  fits : bytes.length ≤ 256

/-- The result of `recv` or `read`. -/
inductive Received where
  | data (chunk : Chunk)
  /-- the result is 0 -/
  | closed
  | failed (errno : Errno)

/-- The result of `poll`. -/
inductive Polled where
  | ready
  | expired
  | failed (errno : Errno)

/-- The result of `send` or `write`. -/
inductive Sent where
  | accepted (n : Nat)
  | failed (errno : Errno)

def Received.bytes : Received → List UInt8
  | .data chunk => chunk.bytes
  | _ => []

/-- The bytes that these calls bring. -/
def bytesOf (recvs : List Received) : List UInt8 := recvs.flatMap Received.bytes

/-! ## Lines -/

/-- `'\n'` -/
def nl : UInt8 := 10

/-- `'\r'` -/
def cr : UInt8 := 13

/-- A line less the CR at its end, if there is one. -/
def dropCr (line : List UInt8) : List UInt8 := if line.getLast? = some cr then line.dropLast else line

/-! ## The loops -/

/-- How a call of `write` goes. What was handed over at that point is `data.take sent`. -/
inductive Written where
  | returned
  | thrown (error : String)
  | waiting

def Written.Ends : Written → Prop
  | .waiting => False
  | _ => True

namespace TcpTransport

/-- `TcpTransport::write`, after so many bytes. -/
def write (data : List UInt8) (sent : Nat) (sends : List Sent) : Written :=
  if sent < data.length then
    match sends with
    | [] => .waiting
    | .accepted n :: rest => write data (sent + n) rest
    | .failed .eintr :: rest => write data sent rest
    | .failed errno :: _ => .thrown ("send: " ++ errno.strerror)
  else .returned

/-- `TcpTransport::read_line`. -/
def readLine (buf : List UInt8) (recvs : List Received) : Call UInt8 (List Received) :=
  match cutLine nl buf, recvs with
  | some (line, buf'), recvs => .returned (dropCr line) buf' recvs
  | none, [] => .waiting buf []
  | none, .data chunk :: rest => readLine (buf ++ chunk.bytes) rest
  | none, .closed :: rest => .thrown "connection closed by peer" buf rest
  | none, .failed .eintr :: rest => readLine buf rest
  | none, .failed .eagain :: rest => .thrown "read timeout" buf rest
  | none, .failed (.other text) :: rest => .thrown ("recv: " ++ text) buf rest

end TcpTransport

namespace SerialTransport

/-- `SerialTransport::write`, after so many bytes. -/
def write (data : List UInt8) (sent : Nat) (writes : List Sent) (polls : List Polled) : Written :=
  if sent < data.length then
    match writes, polls with
    | [], _ => .waiting
    | .accepted n :: rest, polls => write data (sent + n) rest polls
    | .failed .eintr :: rest, polls => write data sent rest polls
    -- it waits for room, but goes on whatever `poll` says
    | .failed .eagain :: _, [] => .waiting
    | .failed .eagain :: rest, _ :: polls => write data sent rest polls
    | .failed (.other text) :: _, _ => .thrown ("serial write: " ++ text)
  else .returned

/-- `SerialTransport::read_line`. -/
def readLine (buf : List UInt8) (polls : List Polled) (reads : List Received) :
    Call UInt8 (List Polled × List Received) :=
  match cutLine nl buf, polls, reads with
  | some (line, buf'), polls, reads => .returned (dropCr line) buf' (polls, reads)
  | none, [], reads => .waiting buf ([], reads)
  | none, .failed .eintr :: polls, reads => readLine buf polls reads
  | none, .expired :: polls, reads => .thrown "read timeout" buf (polls, reads)
  | none, .failed errno :: polls, reads => .thrown ("poll: " ++ errno.strerror) buf (polls, reads)
  | none, .ready :: polls, [] => .waiting buf (.ready :: polls, [])
  | none, .ready :: polls, .data chunk :: reads => readLine (buf ++ chunk.bytes) polls reads
  | none, .ready :: polls, .closed :: reads => .thrown "serial closed" buf (polls, reads)
  | none, .ready :: polls, .failed (.other text) :: reads =>
      .thrown ("serial read: " ++ text) buf (polls, reads)
  -- interrupted, or nothing there after all
  | none, .ready :: polls, .failed _ :: reads => readLine buf polls reads

end SerialTransport

/-! ## Lines are those of the stream -/

/-- A line that is in the buffer is returned. -/
theorem sound_cut {ρ : Type} {arriving : ρ → List UInt8} {buf line buf' : List UInt8} {rest : ρ}
    (hcut : cutLine nl buf = some (line, buf')) :
    (Call.returned (dropCr line) buf' rest).Sound nl dropCr arriving (buf ++ arriving rest) := by
  obtain ⟨hfree, hbuf⟩ := cutLine_some hcut
  exact ⟨line, hfree, rfl, by rw [hbuf, List.append_assoc, List.cons_append]⟩

/-- By induction on the results of `recv`. -/
theorem TcpTransport.readLine_framer : Framer nl dropCr bytesOf TcpTransport.readLine := by
  intro buf recvs
  induction recvs generalizing buf with
  | nil =>
    unfold TcpTransport.readLine
    cases hcut : cutLine nl buf with
    | some cut => exact sound_cut hcut
    | none => exact ⟨cutLine_none.mp hcut, rfl⟩
  | cons recv rest ih =>
    unfold TcpTransport.readLine
    cases hcut : cutLine nl buf with
    | some cut => exact sound_cut hcut
    | none =>
      have hfree := cutLine_none.mp hcut
      cases recv with
      | data chunk =>
        have hrest := ih (buf ++ chunk.bytes)
        rw [List.append_assoc] at hrest
        exact hrest
      | closed => exact ⟨hfree, rfl⟩
      | failed errno =>
        cases errno with
        | eintr => exact ih buf
        | eagain => exact ⟨hfree, rfl⟩
        | other text => exact ⟨hfree, rfl⟩

/-- By induction on the results of `poll`: each turn of the loop takes one at least. -/
theorem SerialTransport.readLine_framer :
    Framer nl dropCr (fun rest : List Polled × List Received => bytesOf rest.2)
      fun buf rest => SerialTransport.readLine buf rest.1 rest.2 := by
  rintro buf ⟨polls, reads⟩
  induction polls generalizing buf reads with
  | nil =>
    dsimp only
    unfold SerialTransport.readLine
    cases hcut : cutLine nl buf with
    | some cut => exact sound_cut hcut
    | none => exact ⟨cutLine_none.mp hcut, rfl⟩
  | cons poll polls ih =>
    dsimp only
    unfold SerialTransport.readLine
    cases hcut : cutLine nl buf with
    | some cut => exact sound_cut hcut
    | none =>
      have hfree := cutLine_none.mp hcut
      cases poll with
      | expired => exact ⟨hfree, rfl⟩
      | failed errno =>
        cases errno with
        | eintr => exact ih buf reads
        | eagain => exact ⟨hfree, rfl⟩
        | other text => exact ⟨hfree, rfl⟩
      | ready =>
        cases reads with
        | nil => exact ⟨hfree, rfl⟩
        | cons recv reads =>
          cases recv with
          | data chunk =>
            have hrest := ih (buf ++ chunk.bytes) reads
            rw [List.append_assoc] at hrest
            exact hrest
          | closed => exact ⟨hfree, rfl⟩
          | failed errno =>
            cases errno with
            | eintr => exact ih buf reads
            | eagain => exact ih buf reads
            | other text => exact ⟨hfree, rfl⟩

/-- The session of a caller who calls `read_line` so many times. -/
def TcpTransport.session (recvs : List Received) (n : Nat) : Session UInt8 (List Received) :=
  (Session.call TcpTransport.readLine)^[n] ⟨[], [], recvs⟩

def SerialTransport.session (polls : List Polled) (reads : List Received) (n : Nat) :
    Session UInt8 (List Polled × List Received) :=
  (Session.call fun buf rest => SerialTransport.readLine buf rest.1 rest.2)^[n] ⟨[], [], (polls, reads)⟩

/-- What a session with a unit is, whatever the transport: the lines returned so far are the first of
the stream, each less its terminator; these, the buffer and what is to come are the whole stream; and
a call that returned no line left no whole line behind. -/
structure ReadsInOrder {ρ : Type} (arriving : ρ → List UInt8) (stream : List UInt8)
    (session : Nat → Session UInt8 ρ) : Prop where
  lines : ∀ (n k : Nat) (line : List UInt8), (session n).lines[k]? = some line →
    ∃ body, (terminated nl stream)[k]? = some body ∧ line = dropCr body
  conserved : ∀ n, stream = ((terminated nl stream).take (session n).lines.length).flatMap
    (fun body => body ++ [nl]) ++ ((session n).buf ++ arriving (session n).rest)
  prompt : ∀ n, (session (n + 1)).lines = (session n).lines → nl ∉ (session (n + 1)).buf

theorem Framer.readsInOrder {ρ : Type} {arriving : ρ → List UInt8}
    {read : List UInt8 → ρ → Call UInt8 ρ}
    (h : Framer nl dropCr arriving read) (rest : ρ) :
    ReadsInOrder arriving (arriving rest) fun n => (Session.call read)^[n] ⟨[], [], rest⟩ where
  lines n k line hline := by
    rw [(h.calls_framed rest n).lines_eq.1, List.getElem?_map, Option.map_eq_some_iff] at hline
    obtain ⟨body, hbody, rfl⟩ := hline
    rw [List.getElem?_take] at hbody
    split at hbody
    · exact ⟨body, hbody, rfl⟩
    · cases hbody
  conserved n := (h.calls_framed rest n).lines_eq.2
  prompt n hsame := by
    rw [Function.iterate_succ_apply'] at hsame ⊢
    exact h.no_line_left _ hsame

/-- Both transports return the lines of the stream in order, however it is cut and whatever comes in
between. -/
theorem readLines_framed (polls : List Polled) (recvs : List Received) :
    ReadsInOrder bytesOf (bytesOf recvs) (TcpTransport.session recvs) ∧
      ReadsInOrder (fun rest => bytesOf rest.2) (bytesOf recvs) (SerialTransport.session polls recvs) :=
  ⟨Framer.readsInOrder TcpTransport.readLine_framer recvs,
    Framer.readsInOrder SerialTransport.readLine_framer (polls, recvs)⟩

/-! ## Which calls end -/

/-- A failure after which a system call is made again at once. -/
def Errno.isInterrupt : Errno → Bool
  | .eintr => true
  | _ => false

/-- A failure after which a serial port is polled. -/
def Errno.isTransient : Errno → Bool
  | .other _ => false
  | _ => true

/-- The device refuses what it is sent. -/
def Sent.Refuses (retried : Errno → Bool) : Sent → Prop
  | .accepted _ => False
  | .failed errno => retried errno = false

/-- The device ends the line, or the connection ends or fails. -/
def Received.Settles (retried : Errno → Bool) : Received → Prop
  | .data chunk => nl ∈ chunk.bytes
  | .closed => True
  | .failed errno => retried errno = false

/-- The device stays silent, or the port fails. -/
def Polled.Settles : Polled → Prop
  | .ready => False
  | .expired => True
  | .failed errno => errno.isInterrupt = false

def Sent.count : Sent → Nat
  | .accepted n => n
  | .failed _ => 0

/-- How many bytes these calls hand over. -/
def acceptedBytes (sends : List Sent) : Nat := (sends.map Sent.count).sum

theorem acceptedBytes_cons (r : Sent) (rest : List Sent) :
    acceptedBytes (r :: rest) = r.count + acceptedBytes rest := by
  unfold acceptedBytes
  rw [List.map_cons, List.sum_cons]

/-- Without results, only a call that has nothing left to hand over ends. -/
theorem nothing_accepted {size sent : Nat} {P : Sent → Prop} :
    (size ≤ sent + acceptedBytes [] ∨ ∃ r ∈ ([] : List Sent), P r) ↔ ¬sent < size := by
  constructor
  · intro h
    rcases h with hall | ⟨r, hmem, -⟩
    · have hnone : size ≤ sent + 0 := hall
      omega
    · exact absurd hmem List.not_mem_nil
  · intro h
    refine Or.inl ?_
    show size ≤ sent + 0
    omega

/-- By induction on the results of `send`. -/
theorem TcpTransport.write_ends_iff (data : List UInt8) (sent : Nat) (sends : List Sent) :
    (TcpTransport.write data sent sends).Ends ↔
      data.length ≤ sent + acceptedBytes sends ∨ ∃ r ∈ sends, r.Refuses Errno.isInterrupt := by
  induction sends generalizing sent with
  | nil =>
    unfold TcpTransport.write
    rw [nothing_accepted]
    by_cases hleft : sent < data.length
    · rw [if_pos hleft]
      exact iff_of_false id fun h => h hleft
    · rw [if_neg hleft]
      exact iff_of_true trivial hleft
  | cons r rest ih =>
    unfold TcpTransport.write
    rw [acceptedBytes_cons]
    simp only [List.mem_cons, exists_eq_or_imp]
    by_cases hleft : sent < data.length
    · rw [if_pos hleft]
      cases r with
      | accepted n =>
        show (TcpTransport.write data (sent + n) rest).Ends ↔
            data.length ≤ sent + (n + acceptedBytes rest) ∨
          False ∨ _
        rw [ih, Nat.add_assoc, false_or]
      | failed errno =>
        cases errno with
        | eintr =>
          show (TcpTransport.write data sent rest).Ends ↔
              data.length ≤ sent + (0 + acceptedBytes rest) ∨
            true = false ∨ _
          rw [ih, Nat.zero_add, or_iff_right (show ¬true = false from nofun)]
        | eagain => exact iff_of_true trivial (Or.inr (Or.inl rfl))
        | other text => exact iff_of_true trivial (Or.inr (Or.inl rfl))
    · rw [if_neg hleft]
      exact iff_of_true trivial (Or.inl (by omega))

/-- The same on a serial port, where each `EAGAIN` takes a `poll` as well. -/
theorem SerialTransport.write_ends_iff (data : List UInt8) (sent : Nat) {writes : List Sent}
    {polls : List Polled} (hpolls : writes.length ≤ polls.length) :
    (SerialTransport.write data sent writes polls).Ends ↔
      data.length ≤ sent + acceptedBytes writes ∨ ∃ r ∈ writes, r.Refuses Errno.isTransient := by
  induction writes generalizing sent polls with
  | nil =>
    unfold SerialTransport.write
    rw [nothing_accepted]
    by_cases hleft : sent < data.length
    · rw [if_pos hleft]
      exact iff_of_false id fun h => h hleft
    · rw [if_neg hleft]
      exact iff_of_true trivial hleft
  | cons r rest ih =>
    unfold SerialTransport.write
    rw [acceptedBytes_cons]
    simp only [List.mem_cons, exists_eq_or_imp]
    rw [List.length_cons] at hpolls
    by_cases hleft : sent < data.length
    · rw [if_pos hleft]
      cases r with
      | accepted n =>
        show (SerialTransport.write data (sent + n) rest polls).Ends ↔
          data.length ≤ sent + (n + acceptedBytes rest) ∨ False ∨ _
        rw [ih (sent + n) (by omega), Nat.add_assoc, false_or]
      | failed errno =>
        cases errno with
        | eintr =>
          show (SerialTransport.write data sent rest polls).Ends ↔
            data.length ≤ sent + (0 + acceptedBytes rest) ∨ true = false ∨ _
          rw [ih sent (by omega), Nat.zero_add, or_iff_right (show ¬true = false from nofun)]
        | eagain =>
          cases polls with
          | nil => exact absurd hpolls (Nat.not_succ_le_zero _)
          | cons poll polls =>
            rw [List.length_cons] at hpolls
            show (SerialTransport.write data sent rest polls).Ends ↔
              data.length ≤ sent + (0 + acceptedBytes rest) ∨ true = false ∨ _
            rw [ih sent (by omega), Nat.zero_add, or_iff_right (show ¬true = false from nofun)]
        | other text => exact iff_of_true trivial (Or.inr (Or.inl rfl))
    · rw [if_neg hleft]
      exact iff_of_true trivial (Or.inl (by omega))

theorem mem_of_cut {buf line rest : List UInt8}
    (h : cutLine nl buf = some (line, rest)) : nl ∈ buf := by
  rw [(cutLine_some h).2]
  exact List.mem_append_right _ List.mem_cons_self

/-- By induction on the results of `recv`. -/
theorem TcpTransport.readLine_ends_iff (buf : List UInt8) (recvs : List Received) :
    (TcpTransport.readLine buf recvs).Ends ↔ nl ∈ buf ∨ ∃ r ∈ recvs, r.Settles Errno.isInterrupt := by
  induction recvs generalizing buf with
  | nil =>
    unfold TcpTransport.readLine
    cases hcut : cutLine nl buf with
    | some cut => exact iff_of_true trivial (Or.inl (mem_of_cut hcut))
    | none =>
      have hfree := cutLine_none.mp hcut
      exact iff_of_false id fun h => h.elim hfree fun ⟨_, hmem, _⟩ => absurd hmem List.not_mem_nil
  | cons recv rest ih =>
    unfold TcpTransport.readLine
    simp only [List.mem_cons, exists_eq_or_imp]
    cases hcut : cutLine nl buf with
    | some cut => exact iff_of_true trivial (Or.inl (mem_of_cut hcut))
    | none =>
      have hfree := cutLine_none.mp hcut
      cases recv with
      | data chunk =>
        show (TcpTransport.readLine (buf ++ chunk.bytes) rest).Ends ↔ nl ∈ buf ∨ nl ∈ chunk.bytes ∨ _
        rw [ih, List.mem_append, or_assoc]
      | closed => exact iff_of_true trivial (Or.inr (Or.inl trivial))
      | failed errno =>
        cases errno with
        | eintr =>
          show (TcpTransport.readLine buf rest).Ends ↔ nl ∈ buf ∨ true = false ∨ _
          rw [ih, or_iff_right (show ¬true = false from nofun)]
        | eagain => exact iff_of_true trivial (Or.inr (Or.inl rfl))
        | other text => exact iff_of_true trivial (Or.inr (Or.inl rfl))

/-- A call on a serial port that ends has a reason to. -/
theorem SerialTransport.readLine_reason {buf : List UInt8} {polls : List Polled} {reads : List Received}
    (h : (SerialTransport.readLine buf polls reads).Ends) :
    nl ∈ buf ∨ (∃ p ∈ polls, p.Settles) ∨ ∃ r ∈ reads, r.Settles Errno.isTransient := by
  induction polls generalizing buf reads with
  | nil =>
    unfold SerialTransport.readLine at h
    cases hcut : cutLine nl buf with
    | some cut => exact Or.inl (mem_of_cut hcut)
    | none =>
      rw [hcut] at h
      exact h.elim
  | cons poll polls ih =>
    -- what a later turn ends on is there for this one
    have hlater : ∀ {buf' reads'}, (SerialTransport.readLine buf' polls reads').Ends →
        (nl ∈ buf' → nl ∈ buf ∨ ∃ r ∈ reads, r.Settles Errno.isTransient) → (∀ r ∈ reads', r ∈ reads) →
        nl ∈ buf ∨ (∃ p ∈ poll :: polls, p.Settles) ∨ ∃ r ∈ reads, r.Settles Errno.isTransient := by
      intro buf' reads' hends hbuf hreads
      rcases ih hends with hline | ⟨p, hp, hsettles⟩ | ⟨r, hr, hsettles⟩
      · exact (hbuf hline).imp_right Or.inr
      · exact Or.inr (Or.inl ⟨p, List.mem_cons_of_mem _ hp, hsettles⟩)
      · exact Or.inr (Or.inr ⟨r, hreads r hr, hsettles⟩)
    unfold SerialTransport.readLine at h
    cases hcut : cutLine nl buf with
    | some cut => exact Or.inl (mem_of_cut hcut)
    | none =>
      rw [hcut] at h
      cases poll with
      | expired => exact Or.inr (Or.inl ⟨.expired, List.mem_cons_self, trivial⟩)
      | failed errno =>
        cases errno with
        | eintr => exact hlater h Or.inl fun r hr => hr
        | eagain => exact Or.inr (Or.inl ⟨.failed .eagain, List.mem_cons_self, rfl⟩)
        | other text => exact Or.inr (Or.inl ⟨.failed (.other text), List.mem_cons_self, rfl⟩)
      | ready =>
        cases reads with
        | nil => exact h.elim
        | cons recv reads =>
          have hrest : ∀ r ∈ reads, r ∈ recv :: reads := fun r hr => List.mem_cons_of_mem _ hr
          cases recv with
          | data chunk =>
            refine hlater h (fun hmem => ?_) hrest
            exact (List.mem_append.mp hmem).imp_right fun hline => ⟨_, List.mem_cons_self, hline⟩
          | closed => exact Or.inr (Or.inr ⟨.closed, List.mem_cons_self, trivial⟩)
          | failed errno =>
            cases errno with
            | eintr => exact hlater h Or.inl hrest
            | eagain => exact hlater h Or.inl hrest
            | other text => exact Or.inr (Or.inr ⟨.failed (.other text), List.mem_cons_self, rfl⟩)

/-- A call ends by the time `poll` settles it, or has said so often that there is something to read
that a read settles it. -/
theorem SerialTransport.readLine_ends {buf : List UInt8} {polls : List Polled} {reads : List Received}
    (hreads : polls.length ≤ reads.length)
    (h : nl ∈ buf ∨ (∃ p ∈ polls, p.Settles) ∨
      ∃ r ∈ reads.take (polls.countP fun p => p matches .ready), r.Settles Errno.isTransient) :
    (SerialTransport.readLine buf polls reads).Ends := by
  -- on the polls; a read uses one result up only if its poll is ready
  induction polls generalizing buf reads with
  | nil =>
    unfold SerialTransport.readLine
    cases hcut : cutLine nl buf with
    | some cut => exact trivial
    | none =>
      have hfree := cutLine_none.mp hcut
      rcases h with hline | ⟨p, hp, -⟩ | ⟨r, hr, -⟩
      · exact absurd hline hfree
      · exact absurd hp List.not_mem_nil
      · exact absurd hr List.not_mem_nil
  | cons poll polls ih =>
    unfold SerialTransport.readLine
    rw [List.length_cons] at hreads
    simp only [List.mem_cons, exists_eq_or_imp, List.countP_cons] at h
    cases hcut : cutLine nl buf with
    | some cut => exact trivial
    | none =>
      have hfree := cutLine_none.mp hcut
      have h := h.resolve_left hfree
      cases poll with
      | expired => exact trivial
      | failed errno =>
        cases errno with
        | eintr =>
          refine ih (by omega) (Or.inr ?_)
          exact h.imp_left fun hsettles => hsettles.resolve_left nofun
        | eagain => exact trivial
        | other text => exact trivial
      | ready =>
        cases reads with
        | nil => exact absurd hreads (Nat.not_succ_le_zero _)
        | cons recv reads =>
          rw [List.length_cons] at hreads
          have h : (∃ p ∈ polls, p.Settles) ∨ recv.Settles Errno.isTransient ∨
              ∃ r ∈ reads.take (polls.countP fun p => p matches .ready),
                  r.Settles Errno.isTransient := by
            refine h.imp (fun hsettles => hsettles.resolve_left id) fun ⟨r, hr, hsettles⟩ => ?_
            rcases List.mem_cons.mp hr with rfl | hr
            · exact Or.inl hsettles
            · exact Or.inr ⟨r, hr, hsettles⟩
          cases recv with
          | data chunk =>
            refine ih (by omega) ?_
            rcases h with hpoll | hline | hread
            · exact Or.inr (Or.inl hpoll)
            · exact Or.inl (List.mem_append_right _ hline)
            · exact Or.inr (Or.inr hread)
          | closed => exact trivial
          | failed errno =>
            cases errno with
            | eintr => exact ih (by omega) (Or.inr (h.imp_right fun hread => hread.resolve_left nofun))
            | eagain => exact ih (by omega) (Or.inr (h.imp_right fun hread => hread.resolve_left nofun))
            | other text => exact trivial

/-! ### Results without end -/

theorem exists_take_iff {β : Type} {P : β → Prop} {s : Stream' β} :
    (∃ n, ∃ r ∈ s.take n, P r) ↔ ∃ k, P (s.get k) := by
  constructor
  · intro h
    obtain ⟨n, r, hmem, hr⟩ := h
    obtain ⟨k, hk, rfl⟩ := List.getElem_of_mem hmem
    rw [Stream'.length_take] at hk
    refine ⟨k, ?_⟩
    have hget := Stream'.getElem?_take (s := s) hk
    rw [List.getElem?_eq_getElem (by rw [Stream'.length_take]; exact hk)] at hget
    rw [← Option.some.inj hget]
    exact hr
  · intro h
    obtain ⟨k, hk⟩ := h
    exact ⟨k + 1, s.get k, List.mem_of_getElem? (Stream'.getElem?_take (Nat.lt_succ_self k)), hk⟩

/-- If polls are not interrupted for ever and none of them settles the call, there is something to
read again and again. -/
theorem ready_often {polls : Stream' Polled} (hpolls : ∀ k, ∃ j ≥ k, polls.get j ≠ .failed .eintr)
    (hopen : ∀ k, ¬(polls.get k).Settles) (m : Nat) :
    ∃ n, m ≤ (polls.take n).countP fun p => p matches .ready := by
  have hmono : Monotone fun n => (polls.take n).countP fun p => p matches .ready := by
    refine monotone_nat_of_le_succ fun n => ?_
    rw [Stream'.take_succ', List.countP_append]
    omega
  induction m with
  | zero => exact ⟨0, Nat.zero_le _⟩
  | succ m ih =>
    obtain ⟨n, hn⟩ := ih
    obtain ⟨j, hj, hgoing⟩ := hpolls n
    have hready : polls.get j = .ready := by
      have hunsettled := hopen j
      cases hp : polls.get j with
      | ready => rfl
      | expired =>
        rw [hp] at hunsettled
        exact absurd trivial hunsettled
      | failed errno =>
        rw [hp] at hgoing hunsettled
        cases errno with
        | eintr => exact absurd rfl hgoing
        | eagain => exact absurd rfl hunsettled
        | other text => exact absurd rfl hunsettled
    refine ⟨j + 1, ?_⟩
    have hbefore := hmono hj
    dsimp only at hbefore
    rw [Stream'.take_succ', List.countP_append, hready, List.countP_singleton, if_pos rfl]
    omega

theorem SerialTransport.readLine_ends_iff (buf : List UInt8) {polls : Stream' Polled}
    (reads : Stream' Received)
    (hpolls : ∀ k, ∃ j ≥ k, polls.get j ≠ .failed .eintr) :
    (∃ n, (SerialTransport.readLine buf (polls.take n) (reads.take n)).Ends) ↔
      nl ∈ buf ∨ (∃ k, (polls.get k).Settles) ∨ ∃ k, (reads.get k).Settles Errno.isTransient := by
  have hlengths : ∀ n, (polls.take n).length ≤ (reads.take n).length := by
    intro n
    rw [Stream'.length_take, Stream'.length_take]
  constructor
  · intro h
    obtain ⟨n, hends⟩ := h
    rcases SerialTransport.readLine_reason hends with hline | hpoll | hread
    · exact Or.inl hline
    · exact Or.inr (Or.inl (exists_take_iff.mp ⟨n, hpoll⟩))
    · exact Or.inr (Or.inr (exists_take_iff.mp ⟨n, hread⟩))
  · intro h
    by_cases hsettles : ∃ k, (polls.get k).Settles
    · obtain ⟨n, hn⟩ := exists_take_iff.mpr hsettles
      exact ⟨n, SerialTransport.readLine_ends (hlengths n) (Or.inr (Or.inl hn))⟩
    · rcases h with hline | hpoll | ⟨k, hk⟩
      · exact ⟨0, SerialTransport.readLine_ends (hlengths 0) (Or.inl hline)⟩
      · exact absurd hpoll hsettles
      · obtain ⟨n, hn⟩ := ready_often hpolls (not_exists.mp hsettles) (k + 1)
        refine ⟨n, SerialTransport.readLine_ends (hlengths n) (Or.inr (Or.inr ⟨reads.get k, ?_, hk⟩))⟩
        have hle : (polls.take n).countP (fun p => p matches .ready) ≤ n := by
          refine List.countP_le_length.trans ?_
          rw [Stream'.length_take]
        refine List.mem_of_getElem? (i := k) ?_
        rw [List.getElem?_take_of_lt (by omega)]
        exact Stream'.getElem?_take (by omega)

/-- Which calls on a transport end, on results without end: a `write`, if all bytes are accepted in the
end or one call fails in a way that is not retried; a `read_line`, if a line is there or ends some time,
if the connection ends or fails, or, on a serial port, if a `poll` expires. -/
theorem calls_end_iff (data buf : List UInt8) (sends writes : Stream' Sent)
    (recvs reads : Stream' Received)
    (polls : Stream' Polled) (hpolls : ∀ k, ∃ j ≥ k, polls.get j ≠ .failed .eintr) :
    ((∃ n, (TcpTransport.write data 0 (sends.take n)).Ends) ↔
      (∃ n, data.length ≤ acceptedBytes (sends.take n)) ∨ ∃ k,
          (sends.get k).Refuses Errno.isInterrupt) ∧
    ((∃ n, (TcpTransport.readLine buf (recvs.take n)).Ends) ↔
      nl ∈ buf ∨ ∃ k, (recvs.get k).Settles Errno.isInterrupt) ∧
    ((∃ n, (SerialTransport.write data 0 (writes.take n) (polls.take n)).Ends) ↔
      (∃ n, data.length ≤ acceptedBytes (writes.take n)) ∨ ∃ k,
          (writes.get k).Refuses Errno.isTransient) ∧
    ((∃ n, (SerialTransport.readLine buf (polls.take n) (reads.take n)).Ends) ↔
      nl ∈ buf ∨ (∃ k, (polls.get k).Settles) ∨ ∃ k, (reads.get k).Settles Errno.isTransient) := by
  refine ⟨?_, ?_, ?_, SerialTransport.readLine_ends_iff buf reads hpolls⟩
  · simp only [TcpTransport.write_ends_iff, Nat.zero_add, exists_or, exists_take_iff]
  · simp only [TcpTransport.readLine_ends_iff, exists_or, exists_const, exists_take_iff]
  · have hlist : ∀ n, (SerialTransport.write data 0 (writes.take n) (polls.take n)).Ends ↔
        data.length ≤ 0 + acceptedBytes (writes.take n) ∨
          ∃ r ∈ writes.take n, r.Refuses Errno.isTransient := by
      intro n
      apply SerialTransport.write_ends_iff
      rw [Stream'.length_take, Stream'.length_take]
    simp only [hlist, Nat.zero_add, exists_or, exists_take_iff]

/-- A line of one character, as a unit sends it. -/
def shortLine : Chunk := ⟨[114, cr, nl], by decide, by decide⟩

/-- A byte that ends no line. -/
def babble : Chunk := ⟨[114], by decide, by decide⟩

/-- With a unit that takes a byte at a time and then sends a line, every call ends. -/
theorem quick_calls_end :
    (∃ n, (TcpTransport.write [114, 120] 0 ((Stream'.const (Sent.accepted 1)).take n)).Ends) ∧
      (∃ n, (TcpTransport.readLine [] ((Stream'.const (Received.data shortLine)).take n)).Ends) ∧
      (∃ n, (SerialTransport.write [114, 120] 0 ((Stream'.const (Sent.accepted 1)).take n)
        ((Stream'.const Polled.ready).take n)).Ends) ∧
      ∃ n, (SerialTransport.readLine [] ((Stream'.const Polled.ready).take n)
        ((Stream'.const (Received.data shortLine)).take n)).Ends := by
  have hline : (Received.data shortLine).Settles Errno.isInterrupt := by
    show nl ∈ [114, cr, nl]
    decide
  obtain ⟨hsend, hrecv, hwrite, hread⟩ := calls_end_iff [114, 120] [] (Stream'.const (.accepted 1))
    (Stream'.const (.accepted 1)) (Stream'.const (.data shortLine)) (Stream'.const (.data shortLine))
    (Stream'.const .ready) fun k => ⟨k, le_rfl, nofun⟩
  exact ⟨hsend.mpr (Or.inl ⟨2, by decide⟩), hrecv.mpr (Or.inr ⟨0, hline⟩),
    hwrite.mpr (Or.inl ⟨2, by decide⟩), hread.mpr (Or.inr (Or.inr ⟨0, hline⟩))⟩

/-- A serial port that takes nothing keeps `write` for ever, though every `poll` expires; and a
unit that sends on and on without ending a line keeps `read_line`. -/
theorem stuck_calls_hang :
    (¬∃ n, (SerialTransport.write [114, 120] 0 ((Stream'.const (Sent.failed .eagain)).take n)
        ((Stream'.const Polled.expired).take n)).Ends) ∧
      (¬∃ n, (TcpTransport.readLine [] ((Stream'.const (Received.data babble)).take n)).Ends) ∧
      ¬∃ n, (SerialTransport.readLine [] ((Stream'.const Polled.ready).take n)
        ((Stream'.const (Received.data babble)).take n)).Ends := by
  have hbabble : nl ∉ babble.bytes := by
    show nl ∉ [114]
    decide
  refine ⟨?_, ?_, ?_⟩
  · intro h
    obtain ⟨n, hends⟩ := h
    have hcase := (SerialTransport.write_ends_iff [114, 120] 0 (by
      rw [Stream'.length_take, Stream'.length_take])).mp hends
    rcases hcase with hall | hrefused
    · have hnone : acceptedBytes ((Stream'.const (Sent.failed .eagain)).take n) = 0 := by
        clear hends hall
        induction n with
        | zero => rfl
        | succ n ih =>
          rw [Stream'.take_succ, acceptedBytes_cons]
          exact (Nat.zero_add _).trans ih
      rw [hnone] at hall
      exact absurd hall (by decide)
    · obtain ⟨k, hk⟩ := exists_take_iff.mp ⟨n, hrefused⟩
      exact absurd hk (show ¬true = false from nofun)
  · intro h
    obtain ⟨n, hends⟩ := h
    rcases (TcpTransport.readLine_ends_iff [] _).mp hends with hline | hsettles
    · exact absurd hline List.not_mem_nil
    · obtain ⟨k, hk⟩ := exists_take_iff.mp ⟨n, hsettles⟩
      exact hbabble hk
  · intro h
    obtain ⟨n, hends⟩ := h
    rcases SerialTransport.readLine_reason hends with hline | hpoll | hread
    · exact absurd hline List.not_mem_nil
    · obtain ⟨k, hk⟩ := exists_take_iff.mp ⟨n, hpoll⟩
      exact hk
    · obtain ⟨k, hk⟩ := exists_take_iff.mp ⟨n, hread⟩
      exact hbabble hk

end NightWatcher.Sqm
