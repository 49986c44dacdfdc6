import EncosDriver.Serial.Framing

set_option autoImplicit false

namespace EncosDriver.Serial

open Lib Message

def examineNext (unread : List UInt8) : Option (MotorMessages × Nat) :=
  if unread = [] then none
  else
    match examine unread with
    | .advance => some ([], 1)
    | .stop => none
    | .frame len message => some ([message], len)

variable (unread : List UInt8)

theorem examine_next_invalid (invalid : Invalid unread) : examineNext unread = some ([], 1) := by
  have present : unread ≠ [] := by
    rintro rfl
    cases invalid with
    | badLength extended len _ candidate bad => cases candidate.starts
    | badChecksum extended len _ candidate fits complete bad => cases candidate.starts
  simp only [examineNext, present, ↓reduceIte, examine_invalid unread invalid]

theorem examine_next_incomplete (waits : Incomplete unread) : examineNext unread = none := by
  by_cases empty : unread = []
  · simp only [examineNext, empty, ↓reduceIte]
  · simp only [examineNext, empty, ↓reduceIte, examine_incomplete unread waits]

theorem examine_next_parts (parts : FrameParts) (rest : List UInt8) :
    examineNext (parts.bytes ++ rest) = some ([parts.message], parts.bytes.length) := by
  have present : parts.bytes ++ rest ≠ [] := by
    have size := parts_length parts
    intro empty
    rw [List.append_eq_nil_iff] at empty
    rw [empty.1] at size
    simp at size
  simp only [examineNext, present, ↓reduceIte, examine_parts parts rest]

theorem examine_next_cases :
    (examineNext unread = none ∧ (unread = [] ∨ Incomplete unread)) ∨
      (examineNext unread = some ([], 1) ∧ ∃ byte rest, unread = byte :: rest ∧ Invalid unread) ∨
      ∃ parts rest, unread = FrameParts.bytes parts ++ rest ∧ examineNext unread = some ([parts.message], parts.bytes.length) := by
  by_cases empty : unread = []
  · subst empty
    exact .inl ⟨rfl, .inl rfl⟩
  · have decided := examine_decided unread empty
    cases examined : examine unread with
    | advance =>
      rw [examined] at decided
      cases decided with
      | advance invalid =>
        obtain ⟨byte, rest, rfl⟩ := List.exists_cons_of_ne_nil empty
        exact .inr (.inl ⟨examine_next_invalid _ invalid, byte, rest, rfl, invalid⟩)
    | stop =>
      rw [examined] at decided
      cases decided with
      | stop waits => exact .inl ⟨examine_next_incomplete unread waits, .inr waits⟩
    | frame len message =>
      rw [examined] at decided
      cases decided with
      | frame parts rest whole =>
        subst whole
        exact .inr (.inr ⟨parts, rest, rfl, examine_next_parts parts rest⟩)

def frameScanner : Scanner UInt8 MotorMessage where
  next := examineNext
  consumes := by
    intro unread items count found
    rcases examine_next_cases unread with ⟨waits, -⟩ | ⟨skips, byte, rest, rfl, -⟩ | ⟨parts, rest, rfl, takes⟩
    · rw [waits] at found
      cases found
    · rw [skips] at found
      cases found
      simp
    · rw [takes] at found
      cases found
      have size := parts_length parts
      rw [List.length_append]
      omega
  stable := by
    intro unread more items count found
    rcases examine_next_cases unread with ⟨waits, -⟩ | ⟨skips, byte, rest, rfl, invalid⟩ | ⟨parts, rest, rfl, takes⟩
    · rw [waits] at found
      cases found
    · rw [skips] at found
      cases found
      exact examine_next_invalid _ (invalid_append _ more invalid)
    · rw [takes] at found
      cases found
      rw [List.append_assoc]
      exact examine_next_parts parts (rest ++ more)

theorem parse_loop_scan (messages : MotorMessages) :
    parseLoop unread messages = (messages ++ (frameScanner.scan unread).1, (frameScanner.scan unread).2) := by
  induction unread, messages using parseLoop.induct with
  | case1 messages =>
    rw [parseLoop, Scanner.scan_waits frameScanner [] rfl]
    simp
  | case2 unread messages present examined ih =>
    have next : frameScanner.next unread = some ([], 1) := by simp [frameScanner, examineNext, present, examined]
    rw [Scanner.scan_steps frameScanner unread [] 1 next, parseLoop, if_neg present]
    simp only [List.nil_append]
    rw [← ih]
    split <;> simp_all
  | case3 unread messages present examined =>
    have next : frameScanner.next unread = none := by simp [frameScanner, examineNext, present, examined]
    rw [Scanner.scan_waits frameScanner unread next, parseLoop, if_neg present]
    split <;> simp_all
  | case4 unread messages present len message examined ih =>
    have next : frameScanner.next unread = some ([message], len) := by simp [frameScanner, examineNext, present, examined]
    rw [Scanner.scan_steps frameScanner unread [message] len next, parseLoop, if_neg present, ← List.append_assoc]
    rw [← ih]
    split <;> simp_all

theorem scans_scan : Scans unread (frameScanner.scan unread).1 (frameScanner.scan unread).2 := by
  induction unread using Scanner.scan.induct frameScanner with
  | case1 unread waits =>
    rw [Scanner.scan_waits frameScanner unread waits]
    rcases examine_next_cases unread with ⟨-, rfl | incomplete⟩ | ⟨skips, -⟩ | ⟨parts, rest, rfl, takes⟩
    · exact .done
    · exact .incomplete unread incomplete
    · cases waits.symm.trans skips
    · cases waits.symm.trans takes
  | case2 unread items count found ih =>
    rw [Scanner.scan_steps frameScanner unread items count found]
    rcases examine_next_cases unread with ⟨waits, -⟩ | ⟨skips, byte, rest, rfl, invalid⟩ | ⟨parts, rest, rfl, takes⟩
    · cases waits.symm.trans found
    · cases skips.symm.trans found
      exact .skip byte rest _ _ invalid ih
    · cases takes.symm.trans found
      rw [List.drop_left' rfl] at ih ⊢
      exact .frame parts rest _ _ ih

theorem scans_unique (unread left : List UInt8) (messages : MotorMessages) (scans : Scans unread messages left) :
    messages = (frameScanner.scan unread).1 ∧ left = (frameScanner.scan unread).2 := by
  induction scans with
  | done =>
    rw [Scanner.scan_waits frameScanner [] rfl]
    exact ⟨rfl, rfl⟩
  | skip byte rest left messages invalid following ih =>
    rw [Scanner.scan_steps frameScanner _ _ _ (examine_next_invalid _ invalid)]
    exact ih
  | frame parts rest left messages following ih =>
    rw [Scanner.scan_steps frameScanner (parts.bytes ++ rest) _ _ (examine_next_parts parts rest), List.drop_left' rfl]
    exact ⟨congrArg (parts.message :: ·) ih.1, ih.2⟩
  | incomplete unread waits =>
    rw [Scanner.scan_waits frameScanner unread (examine_next_incomplete unread waits)]
    exact ⟨rfl, rfl⟩

def BelowFrame (unread : List UInt8) : Prop :=
  unread = [] ∨ ∃ extended, unread.head? = some (headerByte extended) ∧ unread.length < headerSize extended + 9

theorem pending_below_frame (waits : frameScanner.next unread = none) : BelowFrame unread := by
  rcases examine_next_cases unread with ⟨-, empty | incomplete⟩ | ⟨skips, -⟩ | ⟨parts, rest, rfl, takes⟩
  · exact .inl empty
  · right
    cases incomplete with
    | header extended _ starts short => exact ⟨extended, starts, by omega⟩
    | body extended len _ candidate fits short =>
      obtain ⟨-, below⟩ := fits
      exact ⟨extended, candidate.starts, by omega⟩
  · cases waits.symm.trans skips
  · cases waits.symm.trans takes

theorem below_frame_length (below : BelowFrame unread) : unread.length < 15 := by
  rcases below with rfl | ⟨extended, -, short⟩
  · simp
  · have size : headerSize extended ≤ 6 := by cases extended <;> decide
    omega

theorem receive_pass_scan (adapter : UsbSerialAdapter) (data : List UInt8) :
    ∃ count, (receivePass adapter data).2 = data.drop count ∧
      (0 < data.length → adapter.readBuffer.length < kReadBufferSize → 0 < count) ∧
      (receivePass adapter data).1.delivered = adapter.delivered ++ (frameScanner.scan (adapter.readBuffer ++ data.take count)).1 ∧
      (receivePass adapter data).1.readBuffer = (frameScanner.scan (adapter.readBuffer ++ data.take count)).2 := by
  refine ⟨min data.length (kReadBufferSize - adapter.readBuffer.length), rfl, ?_, ?_, ?_⟩
  · intro some room
    omega
  · simp [receivePass, parseBuffer, parse_loop_scan]
  · simp [receivePass, parseBuffer, parse_loop_scan]

theorem receive_bytes_scan (passes : Nat) (adapter : UsbSerialAdapter) (data : List UInt8) (enough : data.length ≤ passes)
    (waits : frameScanner.next adapter.readBuffer = none) :
    receiveBytes passes adapter data =
      some { readBuffer := (frameScanner.scan (adapter.readBuffer ++ data)).2
             delivered := adapter.delivered ++ (frameScanner.scan (adapter.readBuffer ++ data)).1 } := by
  induction passes generalizing adapter data with
  | zero =>
    have empty : data = [] := List.length_eq_zero_iff.mp (by omega)
    subst empty
    simp [receiveBytes, Scanner.scan_waits frameScanner _ waits]
  | succ passes ih =>
    cases data with
    | nil => simp [receiveBytes, Scanner.scan_waits frameScanner _ waits]
    | cons byte rest =>
      have room : adapter.readBuffer.length < kReadBufferSize := by
        have short := below_frame_length _ (pending_below_frame _ waits)
        have size : kReadBufferSize = 4096 := rfl
        omega
      obtain ⟨count, left, taken, delivered, buffered⟩ := receive_pass_scan adapter (byte :: rest)
      have positive := taken (Nat.zero_lt_succ _) room
      have pending : frameScanner.next (receivePass adapter (byte :: rest)).1.readBuffer = none := by
        rw [buffered]
        exact Scanner.scan_pending frameScanner _
      have shorter : (receivePass adapter (byte :: rest)).2.length ≤ passes := by
        rw [left, List.length_drop]
        omega
      have whole := Scanner.scan_append frameScanner (adapter.readBuffer ++ (byte :: rest).take count) ((byte :: rest).drop count)
      rw [List.append_assoc, List.take_append_drop] at whole
      rw [receiveBytes, ih _ _ shorter pending, left, delivered, buffered, whole, List.append_assoc]
      exact nofun

def receiveCalls (adapter : UsbSerialAdapter) : List (List UInt8) → Option UsbSerialAdapter
  | [] => some adapter
  | data :: rest => (receiveBytes data.length adapter data).bind fun adapter => receiveCalls adapter rest

theorem receive_calls_feed (adapter : UsbSerialAdapter) (chunks : List (List UInt8))
    (waits : frameScanner.next adapter.readBuffer = none) :
    receiveCalls adapter chunks =
      some { readBuffer := (chunks.foldl frameScanner.feed (adapter.delivered, adapter.readBuffer)).2
             delivered := (chunks.foldl frameScanner.feed (adapter.delivered, adapter.readBuffer)).1 } := by
  induction chunks generalizing adapter with
  | nil => rfl
  | cons chunk rest ih =>
    rw [receiveCalls, receive_bytes_scan chunk.length adapter chunk le_rfl waits, Option.bind_some,
      ih _ (Scanner.scan_pending frameScanner _)]
    rfl

theorem receive_chunks_scan (chunks : List (List UInt8)) :
    receiveCalls {} chunks =
      some { readBuffer := (frameScanner.scan chunks.flatten).2, delivered := (frameScanner.scan chunks.flatten).1 } := by
  have start : frameScanner.next ([] : List UInt8) = none := rfl
  have fed := Scanner.feed_chunks frameScanner [] [] start chunks
  rw [List.nil_append, List.nil_append] at fed
  rw [receive_calls_feed {} chunks start, fed]

/-- However a stream is cut into calls, every call returns, the messages delivered are those of the one scan of the
whole stream and less than a frame stays in the buffer. -/
theorem serial_chunking_independent (chunks : List (List UInt8)) :
    ∃ adapter, receiveCalls {} chunks = some adapter ∧ Scans chunks.flatten adapter.delivered adapter.readBuffer ∧
      (∀ messages left, Scans chunks.flatten messages left → messages = adapter.delivered ∧ left = adapter.readBuffer) ∧
      BelowFrame adapter.readBuffer ∧ adapter.readBuffer.length < kReadBufferSize := by
  have below := pending_below_frame _ (Scanner.scan_pending frameScanner chunks.flatten)
  refine ⟨_, receive_chunks_scan chunks, scans_scan chunks.flatten, ?_, below, ?_⟩
  · intro messages left scans
    exact scans_unique chunks.flatten left messages scans
  · have short := below_frame_length _ below
    have size : kReadBufferSize = 4096 := rfl
    simp only
    omega

end EncosDriver.Serial
