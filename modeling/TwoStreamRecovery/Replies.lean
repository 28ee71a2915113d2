import TwoStreamRecovery.Lib.Http
import TwoStreamRecovery.WebServer

/-!
# Replies on the connection (`send_all`, `send_response`)

* `sendAll`: the loop over `send`, for any answers of the socket.
* `Delivers`: what a routine has sent after such answers; `Transmits`: it does so for all of them.
* `sendResponseHeader`, `sendResponse`, `sendFile`: the header from its buffer, and the body.
* `Response.message`: the HTTP message that a reply is.
* **`handleClient_message`**: every reply is a well-formed message, whose header fits its buffer; what
  the client receives is the start of it, all of it exactly if no `send` has failed.
-/

namespace TwoStream

variable {files : FileSystem} {server : WebServer} {received : List UInt8}

/-! ### Sending -/

/-- What one `send` does: it takes at most `n` bytes, is interrupted, or fails. -/
inductive SendAnswer where
  | took (n : ℕ)
  | interrupted
  | failed
  deriving DecidableEq

/-- One `send`: what it is given, and its answer. -/
structure SendCall where
  offered : List UInt8
  answer : SendAnswer
  deriving DecidableEq

/-- What it takes. -/
def SendCall.taken (call : SendCall) : List UInt8 :=
  match call.answer with
  | .took n => call.offered.take n
  | _ => []

/-- It returns 0 or an error other than `EINTR`. -/
def SendCall.Fails (call : SendCall) : Prop := call.answer = .failed ∨ call.answer = .took 0

/-- Whether a routine succeeds, its sends, and the answers that follow. -/
structure Sent where
  ok : Bool
  calls : List SendCall
  answers : List SendAnswer

/-- There were sends before. -/
def Sent.after (calls : List SendCall) (sent : Sent) : Sent := { sent with calls := calls ++ sent.calls }

/-- `send_all`; `none` while it waits for another answer. -/
def sendAll : List SendAnswer → List UInt8 → Option Sent
  | answers, [] => some ⟨true, [], answers⟩
  | [], _ :: _ => none
  | .interrupted :: answers, b :: rest =>
    (sendAll answers (b :: rest)).map (Sent.after [⟨b :: rest, .interrupted⟩])
  | .failed :: answers, b :: rest => some ⟨false, [⟨b :: rest, .failed⟩], answers⟩
  | .took n :: answers, b :: rest =>
    if n = 0 then some ⟨false, [⟨b :: rest, .took n⟩], answers⟩
    else (sendAll answers ((b :: rest).drop n)).map (Sent.after [⟨b :: rest, .took n⟩])

/-- A part of a format that stands for itself. -/
@[irreducible] def literal (s : String) : CString := s.toList

/-- The text that `snprintf` formats in `send_response_header`. -/
def headerText (r : Response) : CString :=
  (literal "HTTP/1.1 " ++ Nat.toDigits 10 r.status ++ literal " " ++ r.reason ++ literal "\r\n") ++
    (literal "Connection: close\r\n" ++
      (literal "Cache-Control: no-store\r\n" ++
        (literal "Content-Type: " ++ r.contentType ++ literal "\r\n" ++
          (literal "Content-Length: " ++ Nat.toDigits 10 r.bodySize ++ literal "\r\n" ++
            literal "\r\n"))))

/-- `send_response_header`: the buffer holds 511 characters and the zero byte; `none` also if more than
the buffer would be sent. -/
def sendResponseHeader (answers : List SendAnswer) (r : Response) : Option Sent :=
  let headerSize := (headerText r).length
  let header := bytesOf ((headerText r).take 511) ++ [0]
  if headerSize ≤ 512 then sendAll answers (header.take headerSize) else none

/-- The routine goes on if the first part has been sent. -/
def Sent.andThen (first : Option Sent) (next : List SendAnswer → Option Sent) : Option Sent :=
  first.bind fun sent =>
    if sent.ok then (next sent.answers).map (Sent.after sent.calls) else some sent

/-- `send_response`. -/
def sendResponse (answers : List SendAnswer) (r : Response) : Option Sent :=
  Sent.andThen (sendResponseHeader answers r) fun answers => sendAll answers (r.body.take r.bodySize)

/-- `HTTP_FILE_CHUNK_SIZE`. -/
abbrev httpFileChunkSize : ℕ := 16384

/-- The loop of `handle_static_file` over the chunks of the file. -/
def sendChunks : List SendAnswer → List UInt8 → Option Sent
  | answers, [] => some ⟨true, [], answers⟩
  | answers, b :: rest =>
    Sent.andThen (sendAll answers ((b :: rest).take httpFileChunkSize)) fun answers =>
      sendChunks answers ((b :: rest).drop httpFileChunkSize)
termination_by _ contents => contents.length
decreasing_by
  rw [List.length_drop]
  exact Nat.sub_lt (Nat.succ_pos _) (by decide)

/-- The end of `handle_static_file`. -/
def sendFile (answers : List SendAnswer) (r : Response) : Option Sent :=
  Sent.andThen (sendResponseHeader answers r) fun answers => sendChunks answers r.body

/-- How a reply is sent: a file by its chunks, and all else at once. -/
def sendReply (answers : List SendAnswer) (isFile : Bool) (r : Response) : Option Sent :=
  if isFile then sendFile answers r else sendResponse answers r

/-! ### What is sent -/

/-- What the client receives. -/
def clientReceives (calls : List SendCall) : List UInt8 := calls.flatMap SendCall.taken

/-- Each `send` is given the start of what is left, and none follows one that fails. -/
def SendsInTurn : List UInt8 → List SendCall → Prop
  | _, [] => True
  | left, call :: later =>
    call.offered ≠ [] ∧ call.offered <+: left ∧ (call.Fails → later = []) ∧
      SendsInTurn (left.drop call.taken.length) later

/-- The number of answers that are not interruptions. -/
def attempts (answers : List SendAnswer) : ℕ := answers.countP (· ≠ .interrupted)

/-- The routine uses the first of the answers. It succeeds exactly if no `send` fails, and then exactly
the client receives the bytes, else a start of them. Interrupted sends are repeated, and of the others
there are at most as many as there are bytes. -/
structure Delivers (bytes : List UInt8) (answers : List SendAnswer) (sent : Sent) : Prop where
  answered : sent.calls.map SendCall.answer ++ sent.answers = answers
  inTurn : SendsInTurn bytes sent.calls
  start : clientReceives sent.calls <+: bytes
  ok_iff : sent.ok = true ↔ ∀ call ∈ sent.calls, ¬ call.Fails
  all_iff : clientReceives sent.calls = bytes ↔ sent.ok = true
  attempts_le : attempts (sent.calls.map SendCall.answer) ≤ bytes.length

/-- The routine delivers the bytes, and returns if it is answered often enough. -/
structure Transmits (bytes : List UInt8) (routine : List SendAnswer → Option Sent) : Prop where
  delivers : ∀ answers sent, routine answers = some sent → Delivers bytes answers sent
  returns : ∀ answers, bytes.length ≤ attempts answers → ∃ sent, routine answers = some sent

section SendsInTurn

variable {left start bytes : List UInt8} {call : SendCall} {calls later : List SendCall}
  {answers : List SendAnswer} {sent : Sent}

theorem SendCall.taken_prefix (call : SendCall) : call.taken <+: call.offered := by
  obtain ⟨offered, answer⟩ := call
  cases answer with
  | took n => exact List.take_prefix n offered
  | interrupted => exact List.nil_prefix
  | failed => exact List.nil_prefix

theorem SendCall.taken_of_fails (h : call.Fails) : call.taken = [] := by
  obtain ⟨offered, answer⟩ := call
  obtain h | h := h <;> obtain rfl : answer = _ := h <;> rfl

theorem clientReceives_append (calls later : List SendCall) :
    clientReceives (calls ++ later) = clientReceives calls ++ clientReceives later :=
  List.flatMap_append

theorem attempts_append (answers later : List SendAnswer) :
    attempts (answers ++ later) = attempts answers + attempts later := List.countP_append

theorem SendsInTurn.taken (h : SendsInTurn left (call :: later)) : call.taken <+: left :=
  call.taken_prefix.trans h.2.1

/-- What is left after a `send`. -/
theorem SendsInTurn.taken_append_drop (h : SendsInTurn left (call :: later)) :
    call.taken ++ left.drop call.taken.length = left := by
  obtain ⟨rest, rfl⟩ := h.taken
  rw [List.drop_left]

theorem SendsInTurn.receives_prefix (h : SendsInTurn left calls) : clientReceives calls <+: left := by
  induction calls generalizing left with
  | nil => exact List.nil_prefix
  | cons call later ih =>
    rw [← h.taken_append_drop]
    exact (List.prefix_append_right_inj _).mpr (ih h.2.2.2)

/-- Something is left where a `send` fails. -/
theorem SendsInTurn.receives_ne (h : SendsInTurn left calls) (hcall : call ∈ calls) (hfails : call.Fails) :
    clientReceives calls ≠ left := by
  induction calls generalizing left with
  | nil => cases hcall
  | cons first later ih =>
    obtain ⟨hoffers, hleft, hlast, hlater⟩ := id h
    rw [← h.taken_append_drop, clientReceives, List.flatMap_cons]
    refine fun heq => ?_
    have hrest := List.append_cancel_left heq
    rcases List.mem_cons.mp hcall with rfl | hcall
    · rw [hlast hfails, SendCall.taken_of_fails hfails] at hrest
      obtain rfl : [] = left := hrest
      exact hoffers (List.prefix_nil.mp hleft)
    · exact ih hlater hcall hrest

/-- Every `send` that is not interrupted takes a byte, or it is the last and leaves one. -/
theorem SendsInTurn.attempts_le (h : SendsInTurn left calls) :
    attempts (calls.map SendCall.answer) ≤ left.length := by
  induction calls generalizing left with
  | nil => exact Nat.zero_le _
  | cons call later ih =>
    have hdrop := congrArg List.length h.taken_append_drop
    obtain ⟨hoffers, hleft, hlast, hlater⟩ := h
    have hrest := ih hlater
    have hsome : 0 < call.offered.length := List.length_pos_iff.mpr hoffers
    have hroom := hleft.length_le
    rw [List.length_append] at hdrop
    rw [List.map_cons, attempts, List.countP_cons, ← attempts]
    by_cases hfails : call.Fails
    · rw [hlast hfails]
      simp only [List.map_nil, attempts, List.countP_nil]
      split <;> omega
    · obtain ⟨offered, answer⟩ := call
      cases answer with
      | failed => exact absurd (.inl rfl) hfails
      | interrupted =>
        rw [if_neg (by simp), Nat.add_zero]
        exact hrest.trans (by omega)
      | took n =>
        have hn : n ≠ 0 := fun hzero => hfails (.inr (congrArg SendAnswer.took hzero))
        have htaken : 0 < (SendCall.taken ⟨offered, .took n⟩).length := by
          rw [SendCall.taken, List.length_take]
          exact lt_min (Nat.pos_of_ne_zero hn) hsome
        rw [if_pos (by simp)]
        omega

theorem SendsInTurn.more (h : SendsInTurn start calls) : SendsInTurn (start ++ bytes) calls := by
  induction calls generalizing start with
  | nil => trivial
  | cons call later ih =>
    have hroom := h.taken.length_le
    obtain ⟨hoffers, hleft, hlast, hlater⟩ := h
    refine ⟨hoffers, hleft.trans (List.prefix_append _ _), hlast, ?_⟩
    rw [List.drop_append_of_le_length hroom]
    exact ih hlater

theorem SendsInTurn.append (h : SendsInTurn start calls) (hall : clientReceives calls = start)
    (hok : ∀ call ∈ calls, ¬ call.Fails) (hlater : SendsInTurn bytes later) :
    SendsInTurn (start ++ bytes) (calls ++ later) := by
  induction calls generalizing start with
  | nil =>
    obtain rfl : [] = start := hall
    exact hlater
  | cons call rest ih =>
    have hroom := h.taken.length_le
    have hdrop := h.taken_append_drop
    obtain ⟨hoffers, hleft, -, hrest⟩ := h
    refine ⟨hoffers, hleft.trans (List.prefix_append _ _), ?_, ?_⟩
    · exact fun hfails => absurd hfails (hok call List.mem_cons_self)
    · rw [List.drop_append_of_le_length hroom]
      refine ih hrest ?_ fun other hother => hok other (List.mem_cons_of_mem call hother)
      rw [← hdrop, clientReceives, List.flatMap_cons] at hall
      exact List.append_cancel_left hall

theorem SendsInTurn.delivers (h : SendsInTurn bytes sent.calls)
    (hanswered : sent.calls.map SendCall.answer ++ sent.answers = answers)
    (hok : sent.ok = true ↔ ∀ call ∈ sent.calls, ¬ call.Fails)
    (hall : sent.ok = true → clientReceives sent.calls = bytes) : Delivers bytes answers sent where
  answered := hanswered
  inTurn := h
  start := h.receives_prefix
  ok_iff := hok
  all_iff := ⟨fun heq => hok.mpr fun _ hcall hfails => h.receives_ne hcall hfails heq, hall⟩
  attempts_le := h.attempts_le

end SendsInTurn

/-- One part after another. -/
theorem Transmits.andThen {start bytes : List UInt8} {first next : List SendAnswer → Option Sent}
    (hfirst : Transmits start first) (hnext : Transmits bytes next) :
    Transmits (start ++ bytes) fun answers => Sent.andThen (first answers) next where
  delivers answers sent h := by
    obtain ⟨begun, hbegun, h⟩ := Option.bind_eq_some_iff.mp h
    have hstart := hfirst.delivers answers begun hbegun
    by_cases hok : begun.ok = true
    · rw [if_pos hok] at h
      obtain ⟨later, hlater, rfl⟩ := Option.map_eq_some_iff.mp h
      have hrest := hnext.delivers _ later hlater
      have hbegan := hstart.ok_iff.mp hok
      have hwhole := hstart.all_iff.mpr hok
      refine (hstart.inTurn.append hwhole hbegan hrest.inTurn).delivers ?_ ?_ ?_
      · simp only [Sent.after, List.map_append, List.append_assoc]
        rw [hrest.answered, hstart.answered]
      · simp only [Sent.after, List.forall_mem_append]
        exact hrest.ok_iff.trans (and_iff_right hbegan).symm
      · intro hlater
        rw [Sent.after, clientReceives_append, hwhole, hrest.all_iff.mpr hlater]
    · rw [if_neg hok] at h
      obtain rfl := Option.some.inj h
      exact hstart.inTurn.more.delivers hstart.answered hstart.ok_iff fun hok' => absurd hok' hok
  returns answers h := by
    rw [List.length_append] at h
    obtain ⟨begun, hbegun⟩ := hfirst.returns answers (by omega)
    have hstart := hfirst.delivers answers begun hbegun
    simp only [Sent.andThen, hbegun, Option.bind_some]
    by_cases hok : begun.ok = true
    · have hused := hstart.attempts_le
      rw [← hstart.answered, attempts_append] at h
      obtain ⟨later, hlater⟩ := hnext.returns begun.answers (by omega)
      rw [if_pos hok, hlater]
      exact ⟨_, rfl⟩
    · rw [if_neg hok]
      exact ⟨begun, rfl⟩

/-- A routine without bytes sends nothing. -/
theorem transmits_nil : Transmits [] fun answers => some ⟨true, [], answers⟩ where
  delivers answers sent h := by
    obtain rfl := Option.some.inj h
    exact SendsInTurn.delivers trivial rfl (by simp) fun _ => rfl
  returns answers _ := ⟨_, rfl⟩

/-- One `send` that does not fail, and the rest. -/
theorem Delivers.cons {bytes : List UInt8} {answer : SendAnswer} {answers : List SendAnswer} {sent : Sent}
    (hbytes : bytes ≠ []) (hok : ¬ SendCall.Fails ⟨bytes, answer⟩)
    (h : Delivers (bytes.drop (SendCall.taken ⟨bytes, answer⟩).length) answers sent) :
    Delivers bytes (answer :: answers) (sent.after [⟨bytes, answer⟩]) := by
  have hturn : SendsInTurn bytes (⟨bytes, answer⟩ :: sent.calls) :=
    ⟨hbytes, List.prefix_rfl, fun hfails => absurd hfails hok, h.inTurn⟩
  refine SendsInTurn.delivers hturn (congrArg (answer :: ·) h.answered) ?_ fun hsent => ?_
  · simp only [Sent.after, List.singleton_append, List.forall_mem_cons]
    exact h.ok_iff.trans (and_iff_right hok).symm
  · rw [Sent.after, List.singleton_append, clientReceives, List.flatMap_cons, ← clientReceives,
      h.all_iff.mpr hsent, hturn.taken_append_drop]

/-- One `send` that fails. -/
theorem Delivers.fails {bytes : List UInt8} {answer : SendAnswer} (answers : List SendAnswer)
    (hbytes : bytes ≠ []) (hfails : SendCall.Fails ⟨bytes, answer⟩) :
    Delivers bytes (answer :: answers) ⟨false, [⟨bytes, answer⟩], answers⟩ := by
  have hturn : SendsInTurn bytes [⟨bytes, answer⟩] := ⟨hbytes, List.prefix_rfl, fun _ => rfl, trivial⟩
  exact hturn.delivers rfl (by simpa using hfails) fun hok => Bool.noConfusion hok

theorem drop_length_take {α : Type} (n : ℕ) (l : List α) : l.drop (l.take n).length = l.drop n := by
  rcases le_total n l.length with hn | hn
  · rw [List.length_take_of_le hn]
  · rw [List.take_of_length_le hn, List.drop_length, List.drop_of_length_le hn]

theorem sendAll_delivers {answers : List SendAnswer} {bytes : List UInt8} {sent : Sent}
    (h : sendAll answers bytes = some sent) : Delivers bytes answers sent := by
  fun_induction sendAll answers bytes generalizing sent with
  | case1 answers => exact transmits_nil.delivers answers sent h
  | case2 b rest => cases h
  | case3 answers b rest ih =>
    obtain ⟨later, hlater, rfl⟩ := Option.map_eq_some_iff.mp h
    exact .cons (List.cons_ne_nil b rest) (by simp [SendCall.Fails]) (ih hlater)
  | case4 answers b rest =>
    obtain rfl := Option.some.inj h
    exact .fails answers (List.cons_ne_nil b rest) (.inl rfl)
  | case5 answers b rest =>
    obtain rfl := Option.some.inj h
    exact .fails answers (List.cons_ne_nil b rest) (.inr rfl)
  | case6 n answers b rest hn ih =>
    obtain ⟨later, hlater, rfl⟩ := Option.map_eq_some_iff.mp h
    refine .cons (List.cons_ne_nil b rest) (by simpa [SendCall.Fails] using hn) ?_
    rw [SendCall.taken, drop_length_take]
    exact ih hlater

/-- **`send_all` returns** after at most as many attempts as there are bytes. -/
theorem sendAll_returns {answers : List SendAnswer} {bytes : List UInt8}
    (h : bytes.length ≤ attempts answers) : ∃ sent, sendAll answers bytes = some sent := by
  fun_induction sendAll answers bytes with
  | case1 answers => exact ⟨_, rfl⟩
  | case2 b rest => cases h
  | case3 answers b rest ih =>
    have hsame : attempts (.interrupted :: answers) = attempts answers := by simp [attempts]
    rw [hsame] at h
    obtain ⟨later, hlater⟩ := ih h
    exact ⟨_, congrArg (Option.map _) hlater⟩
  | case4 answers b rest => exact ⟨_, rfl⟩
  | case5 answers b rest => exact ⟨_, rfl⟩
  | case6 n answers b rest hn ih =>
    have hmore : attempts (.took n :: answers) = attempts answers + 1 := by simp [attempts]
    have hless : ((b :: rest).drop n).length + 1 ≤ (b :: rest).length := by
      rw [List.length_drop, List.length_cons]
      omega
    rw [hmore] at h
    obtain ⟨later, hlater⟩ := ih (by omega)
    exact ⟨_, congrArg (Option.map _) hlater⟩

theorem sendAll_transmits (bytes : List UInt8) : Transmits bytes (sendAll · bytes) where
  delivers _ _ h := sendAll_delivers h
  returns _ h := sendAll_returns h

/-- The chunks of a file are sent like the whole. -/
theorem sendChunks_transmits (contents : List UInt8) : Transmits contents (sendChunks · contents) := by
  induction hn : contents.length using Nat.strong_induction_on generalizing contents with
  | h n ih =>
    cases contents with
    | nil => simpa only [sendChunks] using transmits_nil
    | cons b rest =>
      have hless : ((b :: rest).drop httpFileChunkSize).length < n := by
        rw [← hn, List.length_drop]
        exact Nat.sub_lt (Nat.succ_pos _) (by decide)
      have hparts := (sendAll_transmits ((b :: rest).take httpFileChunkSize)).andThen
        (ih _ hless _ rfl)
      rw [List.take_append_drop] at hparts
      simpa only [sendChunks] using hparts

/-! ### Messages -/

/-- A reply as a message. -/
def Response.message (r : Response) : HttpMessage where
  start := literal "HTTP/1.1 " ++ Nat.toDigits 10 r.status ++ literal " " ++ r.reason
  fields :=
    [(literal "Connection", literal "close"), (literal "Cache-Control", literal "no-store"),
      (literal "Content-Type", r.contentType),
      (literal "Content-Length", Nat.toDigits 10 r.bodySize)]
  body := r.body

theorem bytesOf_append (text text' : CString) : bytesOf (text ++ text') = bytesOf text ++ bytesOf text' :=
  List.map_append

theorem bytesOf_crlf : bytesOf (literal "\r\n") = crlf := by decide +kernel

theorem encodeLine_eq (line : CString) : encodeLine line = bytesOf (line ++ literal "\r\n") := by
  rw [bytesOf_append, bytesOf_crlf, encodeLine]

/-- A line of the format with a field whose value is put in. -/
theorem encodeLine_encodeField {name value start : CString} (h : name ++ [':', ' '] = start) :
    encodeLine (encodeField (name, value)) = bytesOf (start ++ value ++ literal "\r\n") := by
  rw [encodeLine_eq, encodeField, ← List.append_assoc, h]

theorem flatMap_four {α β : Type} {f : α → List β} {a b c d : α} {a' b' c' d' : List β} (ha : f a = a')
    (hb : f b = b') (hc : f c = c') (hd : f d = d') :
    [a, b, c, d].flatMap f = a' ++ (b' ++ (c' ++ d')) := by
  simp only [List.flatMap_cons, List.flatMap_nil, List.append_nil, ha, hb, hc, hd]

/-- The lines of the format in one piece. -/
theorem bytesOf_lines (start connection cache contentType length last : CString) :
    bytesOf start ++ (bytesOf connection ++ (bytesOf cache ++ (bytesOf contentType ++ bytesOf length))) ++
        bytesOf last =
      bytesOf (start ++ (connection ++ (cache ++ (contentType ++ (length ++ last))))) := by
  simp only [bytesOf_append, List.append_assoc]

theorem Response.message_fields (r : Response) :
    (r.message.fields.flatMap fun field => encodeLine (encodeField field)) =
      bytesOf (literal "Connection: close\r\n") ++ (bytesOf (literal "Cache-Control: no-store\r\n") ++
        (bytesOf (literal "Content-Type: " ++ r.contentType ++ literal "\r\n") ++
          bytesOf (literal "Content-Length: " ++ Nat.toDigits 10 r.bodySize ++ literal "\r\n"))) :=
  flatMap_four (by decide +kernel) (by decide +kernel) (encodeLine_encodeField (by decide +kernel))
    (encodeLine_encodeField (by decide +kernel))

theorem Response.message_head (r : Response) : r.message.head = bytesOf (headerText r) := by
  rw [HttpMessage.head, message_fields, encodeLine_eq, ← bytesOf_crlf]
  exact bytesOf_lines _ _ _ _ _ _

theorem sendResponseHeader_transmits {r : Response} (hfits : (headerText r).length < 512) :
    Transmits r.message.head (sendResponseHeader · r) := by
  have hlength : (bytesOf (headerText r)).length = (headerText r).length := List.length_map _
  have hbuffer : (bytesOf ((headerText r).take 511) ++ [0]).take (headerText r).length =
      bytesOf (headerText r) := by
    rw [List.take_of_length_le (Nat.le_of_lt_succ hfits), List.take_append_of_le_length hlength.ge,
      List.take_of_length_le hlength.le]
  have hsame (answers : List SendAnswer) :
      sendResponseHeader answers r = sendAll answers (bytesOf (headerText r)) := by
    rw [sendResponseHeader, if_pos hfits.le, hbuffer]
  simp only [hsame, r.message_head]
  exact sendAll_transmits _

/-! ### Replies -/

/-- A part of a line, with at most `n` characters. -/
def IsLinePart (n : ℕ) (text : CString) : Prop := text.length ≤ n ∧ ∀ c ∈ text, IsLineChar c

instance (n : ℕ) (text : CString) : Decidable (IsLinePart n text) :=
  have : Decidable (∀ c ∈ text, IsLineChar c) := List.decidableBAll IsLineChar text
  instDecidableAnd

/-- What the lines of a reply and its length allow. -/
structure Response.Sendable (r : Response) : Prop where
  status : r.status < 1000
  reason : IsLinePart 32 r.reason
  contentType : IsLinePart 64 r.contentType
  bodySize : r.bodySize = r.body.length
  size : r.body.length < 2 ^ 63

theorem isLineChar_of_isDigit {c : Char} (hc : c.isDigit = true) : IsLineChar c := by
  obtain ⟨-, hhigh⟩ := isDigit_iff_toNat.mp hc
  refine ⟨hhigh.trans_lt (by decide), ?_⟩
  rintro rfl
  cases hc

theorem isLineChar_toDigits (n : ℕ) : ∀ c ∈ Nat.toDigits 10 n, IsLineChar c :=
  fun c hc => isLineChar_of_isDigit ((isDecimal_toDigits n).2 c hc)

theorem length_toDigits_lt {n k : ℕ} (hk : 0 < k) (h : n < 10 ^ k) : (Nat.toDigits 10 n).length ≤ k :=
  (Nat.length_toDigits_le_iff (by decide) hk).mpr h

/-- **The header fits its buffer.** -/
theorem Response.Sendable.fits {r : Response} (h : r.Sendable) : (headerText r).length < 512 := by
  have hstatus := length_toDigits_lt (k := 3) (by decide) h.status
  have hsize := length_toDigits_lt (n := r.bodySize) (k := 19) (by decide) (by
    rw [h.bodySize]
    exact h.size.trans (by decide))
  have hreason := h.reason.1
  have htype := h.contentType.1
  have hlengths : (literal "HTTP/1.1 ").length = 9 ∧ (literal " ").length = 1 ∧ (literal "\r\n").length = 2 ∧
      (literal "Connection: close\r\n").length = 19 ∧ (literal "Cache-Control: no-store\r\n").length = 25 ∧
      (literal "Content-Type: ").length = 14 ∧ (literal "Content-Length: ").length = 16 := by decide +kernel
  obtain ⟨h1, h2, h3, h4, h5, h6, h7⟩ := hlengths
  simp only [headerText, List.length_append, h1, h2, h3, h4, h5, h6, h7]
  omega

theorem lookup_fourth {a b c d : CString} (ha : d ≠ a) (hb : d ≠ b) (hc : d ≠ c) (x y z v : CString) :
    [(a, x), (b, y), (c, z), (d, v)].lookup d = some v := by
  simp [List.lookup_cons, beq_eq_false_iff_ne.mpr ha, beq_eq_false_iff_ne.mpr hb, beq_eq_false_iff_ne.mpr hc]

theorem decimalNumber_toDigits (n : ℕ) : decimalNumber (Nat.toDigits 10 n) = some n := by
  obtain ⟨hne, hdigits⟩ := isDecimal_toDigits n
  rw [decimalNumber, if_pos ⟨hne, List.all_eq_true.mpr hdigits⟩, decimalValue_toDigits]

/-- A line that starts with the name of a field. -/
theorem isLineChar_encodeField {name value : CString} (hname : ∀ c ∈ name ++ [':', ' '], IsLineChar c)
    (hvalue : ∀ c ∈ value, IsLineChar c) : ∀ c ∈ encodeField (name, value), IsLineChar c := by
  intro c hc
  rw [encodeField, ← List.append_assoc] at hc
  exact (List.mem_append.mp hc).elim (hname c) (hvalue c)

/-- The names of the fields. -/
theorem fieldNames : (∀ name ∈ [literal "Connection", literal "Cache-Control", literal "Content-Type",
      literal "Content-Length"], IsLinePart 16 (name ++ [':', ' ']) ∧ ':' ∉ name) ∧
    literal "Content-Length" ∉ [literal "Connection", literal "Cache-Control", literal "Content-Type"] ∧
    literal "Content-Length" = "Content-Length".toList := by decide +kernel

theorem Response.Sendable.wellFormed {r : Response} (h : r.Sendable) : r.message.WellFormed where
  start c hc := by
    have hversion : IsLinePart 9 (literal "HTTP/1.1 ") := by decide +kernel
    have hspace : IsLinePart 1 (literal " ") := by decide +kernel
    simp only [message, List.mem_append] at hc
    rcases hc with ((hc | hc) | hc) | hc
    · exact hversion.2 c hc
    · exact isLineChar_toDigits _ c hc
    · exact hspace.2 c hc
    · exact h.reason.2 c hc
  fields field hfield := by
    have hnames := fieldNames.1
    have hclose : IsLinePart 5 (literal "close") := by decide +kernel
    have hstore : IsLinePart 8 (literal "no-store") := by decide +kernel
    simp only [List.forall_mem_cons] at hnames
    obtain ⟨h1, h2, h3, h4, -⟩ := hnames
    simp only [message, List.mem_cons, List.not_mem_nil, or_false] at hfield
    rcases hfield with rfl | rfl | rfl | rfl
    · exact ⟨isLineChar_encodeField h1.1.2 hclose.2, h1.2⟩
    · exact ⟨isLineChar_encodeField h2.1.2 hstore.2, h2.2⟩
    · exact ⟨isLineChar_encodeField h3.1.2 h.contentType.2, h3.2⟩
    · exact ⟨isLineChar_encodeField h4.1.2 (isLineChar_toDigits _), h4.2⟩
  body := by
    obtain ⟨-, hother, hname⟩ := fieldNames
    simp only [List.mem_cons, List.not_mem_nil, or_false, not_or] at hother
    have hlookup := lookup_fourth hother.1 hother.2.1 hother.2.2 (literal "close") (literal "no-store")
      r.contentType (Nat.toDigits 10 r.bodySize)
    rw [contentLength, ← hname, message]
    simp only
    rw [hlookup, Option.bind_some, decimalNumber_toDigits, h.bodySize]

/-- A file has the size that `stat` says, and a size is an `off_t`. -/
def FileSystem.Steady (files : FileSystem) : Prop :=
  ∀ path st body, files.stat path = some st → files.fopen path = some body →
    st.size = body.length ∧ body.length < 2 ^ 63

theorem sendError_sendable {status : ℕ} {reason : CString} (hstatus : status < 1000)
    (hreason : IsLinePart 32 reason) : (sendError status reason).Sendable where
  status := hstatus
  reason := hreason
  contentType :=
    have hplain : IsLinePart 64 "text/plain; charset=utf-8".toList := by decide +kernel
    hplain
  bodySize := (List.length_map _).symm
  size := by
    rw [sendError, List.length_map]
    exact hreason.1.trans_lt (by decide)

theorem contentTypeForPath_isLinePart (path : CString) : IsLinePart 64 (contentTypeForPath path) := by
  have hother : IsLinePart 64 "application/octet-stream".toList := by decide +kernel
  rw [contentTypeForPath]
  cases strrchr path '.' with
  | none => exact hother
  | some dot =>
    dsimp only
    split_ifs
    · decide +kernel
    · decide +kernel
    · decide +kernel
    · decide +kernel
    · exact hother

theorem handleStaticFile_sendable (hfiles : files.Steady) {urlPath : CString} {r : Response}
    (hr : (handleStaticFile files server urlPath).response = some r) : r.Sendable := by
  rw [handleStaticFile] at hr
  split at hr
  · obtain rfl := Option.some.inj hr
    exact sendError_sendable (by decide) (by decide +kernel)
  · dsimp only at hr
    split at hr
    · obtain rfl := Option.some.inj hr
      exact sendError_sendable (by decide) (by decide +kernel)
    · split at hr
      · obtain rfl := Option.some.inj hr
        exact sendError_sendable (by decide) (by decide +kernel)
      · next st hstat =>
        split at hr
        · obtain rfl := Option.some.inj hr
          exact sendError_sendable (by decide) (by decide +kernel)
        · split at hr
          · obtain rfl := Option.some.inj hr
            exact sendError_sendable (by decide) (by decide +kernel)
          · split at hr
            · obtain rfl := Option.some.inj hr
              exact sendError_sendable (by decide) (by decide +kernel)
            · next body hopen =>
              obtain rfl := Option.some.inj hr
              obtain ⟨hsize, hfits⟩ := hfiles _ st body hstat hopen
              have hok : IsLinePart 32 "OK".toList := by decide +kernel
              refine ⟨(by decide : 200 < 1000), hok, contentTypeForPath_isLinePart _, ?_, hfits⟩
              rw [hsize]
              rfl

theorem handleClient_sendable {statsJson : Option (List UInt8)} (hfiles : files.Steady)
    (hstats : ∀ body, statsJson = some body → body.length < 16384) {r : Response}
    (hr : (handleClient files statsJson server received).response = some r) : r.Sendable := by
  rw [handleClient] at hr
  split at hr
  · cases hr
  · split at hr
    · obtain rfl := Option.some.inj hr
      exact sendError_sendable (by decide) (by decide +kernel)
    · split at hr
      · obtain rfl := Option.some.inj hr
        exact sendError_sendable (by decide) (by decide +kernel)
      · split at hr
        · cases statsJson with
          | none =>
            obtain rfl := Option.some.inj hr
            exact sendError_sendable (by decide) (by decide +kernel)
          | some body =>
            obtain rfl := Option.some.inj hr
            have hok : IsLinePart 32 "OK".toList := by decide +kernel
            have hjson : IsLinePart 64 "application/json; charset=utf-8".toList := by decide +kernel
            exact ⟨(by decide : 200 < 1000), hok, hjson, rfl, (hstats body rfl).trans (by decide)⟩
        · exact handleStaticFile_sendable hfiles hr

theorem sendReply_transmits {r : Response} (hr : r.Sendable) (isFile : Bool) :
    Transmits r.message.encode (sendReply · isFile r) := by
  have hheader := sendResponseHeader_transmits hr.fits
  cases isFile with
  | true => exact hheader.andThen (sendChunks_transmits r.body)
  | false =>
    have hwhole : r.body.take r.bodySize = r.body := List.take_of_length_le hr.bodySize.ge
    have hall := hheader.andThen (sendAll_transmits (r.body.take r.bodySize))
    rw [hwhole] at hall
    have hsame (answers : List SendAnswer) : sendReply answers false r =
        Sent.andThen (sendResponseHeader answers r) fun answers => sendAll answers r.body := by
      rw [sendReply, if_neg (by decide), sendResponse, hwhole]
    simp only [hsame]
    exact hall

/-- **Every reply is a well-formed message**, whose header fits its buffer. The client receives the start
of it, and all of it exactly if no `send` fails; and there are at most as many sends as it has bytes, but
for those that are interrupted. -/
theorem handleClient_message {statsJson : Option (List UInt8)} (hfiles : files.Steady)
    (hstats : ∀ body, statsJson = some body → body.length < 16384) {r : Response}
    (hr : (handleClient files statsJson server received).response = some r) (isFile : Bool) :
    HttpMessage.decode r.message.encode = some (r.message, []) ∧ (headerText r).length < 512 ∧
      Transmits r.message.encode (sendReply · isFile r) := by
  have hsendable := handleClient_sendable hfiles hstats hr
  have hdecode := HttpMessage.decode_encode hsendable.wellFormed []
  rw [List.append_nil] at hdecode
  exact ⟨hdecode, hsendable.fits, sendReply_transmits hsendable isFile⟩

/-- Three bytes of a file. -/
def siblingReply : Response := ⟨200, "OK".toList, "application/octet-stream".toList, 3, [1, 2, 3]⟩

/-- A short `send`, one that is interrupted, and one that fails. -/
example : (sendReply [.took 2, .interrupted, .failed] true siblingReply).map (fun sent =>
    (sent.ok, clientReceives sent.calls, sent.calls.length)) = some (false, [0x48, 0x54], 3) := by
  decide +kernel

theorem handleClient_message_siblingReply :
    HttpMessage.decode siblingReply.message.encode = some (siblingReply.message, []) ∧
      Transmits siblingReply.message.encode (sendReply · true siblingReply) := by
  have hfiles : siblingFiles.Steady := by
    intro path st body hstat hopen
    simp only [siblingFiles, Option.ite_none_right_eq_some, Option.some.injEq] at hstat hopen
    obtain ⟨-, rfl⟩ := hstat
    obtain ⟨-, rfl⟩ := hopen
    exact ⟨rfl, by decide⟩
  have hr : (handleClient siblingFiles none (webServerOpen "webroot".toList) siblingRequest).response =
      some siblingReply := by decide +kernel
  obtain ⟨hdecode, -, htransmits⟩ := handleClient_message hfiles (by simp) hr true
  exact ⟨hdecode, htransmits⟩

end TwoStream
