import Iperf.Library.BigEndian
import Iperf.Library.Buffer
import Iperf.Model.Test

/-! The wait loop of `iperf_udp_connect`: how many datagrams it reads, and which of them it takes
for the reply of the server.
-/

namespace Iperf

variable {test : Test} {arrivals : List (List UInt8)}

-----------------------------------------------------------------------------------------
-- The loop
-----------------------------------------------------------------------------------------

/-- `UDP_CONNECT_MSG` and the two replies, as their bytes lie in memory; hosts of either byte order
have the same ones.
-/
def udpConnectMsg : List UInt8 := BigEndian.encode 4 0x39383736

def udpConnectReply : List UInt8 := BigEndian.encode 4 0x36373839

def legacyUdpConnectReply : List UInt8 := BigEndian.encode 4 0xb168de3a

def maxReverseOutOfOrderPackets : Nat := 2

/-- What is in `buf` says that the server has accepted. -/
def IsReply (buf : List UInt8) : Prop := buf = udpConnectReply ∨ buf = legacyUdpConnectReply

instance (buf : List UInt8) : Decidable (IsReply buf) :=
  inferInstanceAs (Decidable (buf = udpConnectReply ∨ buf = legacyUdpConnectReply))

/-- How often the loop read, and `buf` behind it unless `recv(2)` failed. -/
structure Waited where
  reads : Nat
  buf : Option (List UInt8)
deriving DecidableEq

/-- `recv(2)` copies at most the four bytes of `buf`; a shorter datagram leaves the rest of `buf` as
it was. When no datagram is left the receive timeout ends the loop.
-/
def waitForReply (maxLenWaitForReply : Int) : List UInt8 → Int → List (List UInt8) → Waited
  | _, _, [] => { reads := 0, buf := none }
  | buf, i, datagram :: rest =>
      let sz := min datagram.length 4
      let buf := Buffer.copyAt buf 0 (datagram.take 4)
      let i := i + sz
      if ¬ IsReply buf ∧ i < maxLenWaitForReply then
        let later := waitForReply maxLenWaitForReply buf i rest
        { later with reads := later.reads + 1 }
      else
        { reads := 1, buf := some buf }

def maxLenWaitForReply (test : Test) : Int :=
  4 + if test.reverse then maxReverseOutOfOrderPackets * test.settings.blksize.toInt else 0

/-- `iperf_udp_connect` behind its `write(2)`. `dialled` is the socket, or the error that the steps
before the loop end with; the number of datagrams it reads comes with the result.
-/
def iperfUdpConnect (test : Test) (dialled : Except IError Int) (arrivals : List (List UInt8))
    : Nat × Except IError Int :=
  match dialled with
  | .error error => (0, .error error)
  | .ok s =>
      let waited := waitForReply (maxLenWaitForReply test) udpConnectMsg 0 arrivals
      match waited.buf with
      | none => (waited.reads, .error .iestreamread)
      | some buf => (waited.reads, if IsReply buf then .ok s else .error .iestreamread)

-----------------------------------------------------------------------------------------
-- Where the loop ends
-----------------------------------------------------------------------------------------

/-- `buf` behind some datagrams. -/
def bufAfter (buf : List UInt8) (taken : List (List UInt8)) : List UInt8 :=
  Buffer.overlay buf (taken.map (List.take 4))

def bytesTaken (taken : List (List UInt8)) : Nat :=
  (taken.map fun datagram => min datagram.length 4).sum

/-- The loop does not go on behind these datagrams. -/
def Stops (limit : Int) (buf : List UInt8) (i : Int) (taken : List (List UInt8)) : Prop :=
  IsReply (bufAfter buf taken) ∨ limit ≤ i + bytesTaken taken

/-- The loop ends behind the shortest non-empty prefix that stops it, or fails behind all datagrams.
-/
structure EndsFirst (limit : Int) (buf : List UInt8) (i : Int) (arrivals : List (List UInt8))
    (waited : Waited) : Prop where
  within : waited.reads ≤ arrivals.length
  before : ∀ k, 0 < k → k < waited.reads → ¬ Stops limit buf i (arrivals.take k)
  ended : ∀ last, waited.buf = some last → 0 < waited.reads
    ∧ last = bufAfter buf (arrivals.take waited.reads)
    ∧ Stops limit buf i (arrivals.take waited.reads)
  failed : waited.buf = none →
    waited.reads = arrivals.length ∧ ∀ k, 0 < k → k ≤ arrivals.length →
      ¬ Stops limit buf i (arrivals.take k)

theorem stops_cons {limit i : Int} {buf datagram : List UInt8} {rest : List (List UInt8)}
    : Stops limit buf i (datagram :: rest)
      ↔ Stops limit (Buffer.copyAt buf 0 (datagram.take 4))
          (i + (min datagram.length 4 : Nat)) rest := by
  unfold Stops bytesTaken
  rw [List.map_cons, List.sum_cons, Nat.cast_add, ← add_assoc]
  exact Iff.rfl

/-- By induction on the datagrams, for every state of the loop. -/
theorem waitForReply_endsFirst (limit : Int) (buf : List UInt8) (i : Int)
    (arrivals : List (List UInt8))
    : EndsFirst limit buf i arrivals (waitForReply limit buf i arrivals) := by
  induction arrivals generalizing buf i with
  | nil =>
      refine ⟨le_rfl, fun k _ below => ?_, fun last isLast => ?_,
        fun _ => ⟨rfl, fun k some none => ?_⟩⟩
      · exact absurd below (Nat.not_lt_zero k)
      · cases isLast
      · exact absurd (some.trans_le none) (lt_irrefl 0)
  | cons datagram rest ih =>
      have later := ih (Buffer.copyAt buf 0 (datagram.take 4)) (i + (min datagram.length 4 : Nat))
      rw [waitForReply]
      dsimp only
      have one : Stops limit buf i [datagram]
          ↔ IsReply (Buffer.copyAt buf 0 (datagram.take 4))
            ∨ limit ≤ i + (min datagram.length 4 : Nat) := by
        rw [stops_cons]
        simp [Stops, bytesTaken, bufAfter, Buffer.overlay]
      split_ifs with goesOn
      · have first : ¬ Stops limit buf i [datagram] := by
          rw [one]
          exact not_or.mpr ⟨goesOn.1, not_le.mpr goesOn.2⟩
        refine ⟨Nat.succ_le_succ later.within, fun k some below => ?_, fun last isLast => ?_,
          fun isNone => ?_⟩
        · rcases k with - | - | k
          · exact absurd some (lt_irrefl 0)
          · exact first
          · rw [List.take_succ_cons, stops_cons]
            exact later.before (k + 1) k.succ_pos (Nat.lt_of_succ_lt_succ below)
        · obtain ⟨-, isBuf, stops⟩ := later.ended last isLast
          refine ⟨Nat.succ_pos _, isBuf, ?_⟩
          rw [List.take_succ_cons, stops_cons]
          exact stops
        · obtain ⟨all, never⟩ := later.failed isNone
          refine ⟨congrArg Nat.succ all, fun k some below => ?_⟩
          rcases k with - | - | k
          · exact absurd some (lt_irrefl 0)
          · exact first
          · rw [List.take_succ_cons, stops_cons]
            exact never (k + 1) k.succ_pos (Nat.le_of_succ_le_succ below)
      · have first : Stops limit buf i [datagram] := by
          rw [one]
          by_contra neither
          obtain ⟨noReply, below⟩ := not_or.mp neither
          exact goesOn ⟨noReply, not_le.mp below⟩
        refine ⟨Nat.succ_le_succ (Nat.zero_le _), fun k some below => ?_, fun last isLast => ?_,
          fun isNone => ?_⟩
        · exact absurd below (by dsimp only; omega)
        · obtain rfl := Option.some.inj isLast
          exact ⟨Nat.one_pos, rfl, first⟩
        · cases isNone

theorem EndsFirst.reads_le {limit i : Int} {buf : List UInt8} {waited : Waited} {k : Nat}
    (ends : EndsFirst limit buf i arrivals waited) (some : 0 < k)
    (stops : Stops limit buf i (arrivals.take k))
    : waited.reads ≤ k := by
  by_contra beyond
  exact ends.before k some (not_le.mp beyond) stops

/-- The loop stops unless it runs out of datagrams. -/
theorem EndsFirst.stops {limit i : Int} {buf : List UInt8} {waited : Waited} {k : Nat}
    (ends : EndsFirst limit buf i arrivals waited) (some : 0 < k) (inside : k ≤ arrivals.length)
    (stops : Stops limit buf i (arrivals.take k))
    : 0 < waited.reads ∧ Stops limit buf i (arrivals.take waited.reads) := by
  cases last : waited.buf with
  | none => exact absurd stops ((ends.failed last).2 k some inside)
  | some bytes =>
      obtain ⟨positive, -, stopped⟩ := ends.ended bytes last
      exact ⟨positive, stopped⟩

-----------------------------------------------------------------------------------------
-- Replies
-----------------------------------------------------------------------------------------

/-- The first four bytes of a datagram are a reply. -/
def CarriesReply (datagram : List UInt8) : Prop := IsReply (datagram.take 4)

/-- Each byte of a reply is that of the last datagram that is long enough. -/
def Pieced (taken : List (List UInt8)) : Prop :=
  ∃ reply : List UInt8, IsReply reply
    ∧ ∀ (k : Nat) (byte : UInt8), reply[k]? = some byte →
      (taken.filterMap (fun datagram => datagram[k]?)).getLast? = some byte

theorem IsReply.length {buf : List UInt8} (isReply : IsReply buf) : buf.length = 4 := by
  rcases isReply with rfl | rfl <;> rfl

/-- No byte of a reply is that of the message. -/
theorem IsReply.differs {reply : List UInt8} (isReply : IsReply reply) {k : Nat} (inside : k < 4)
    : reply[k]? ≠ udpConnectMsg[k]? := by
  rcases isReply with rfl | rfl
  · exact (by decide : ∀ k < 4, udpConnectReply[k]? ≠ udpConnectMsg[k]?) k inside
  · exact (by decide : ∀ k < 4, legacyUdpConnectReply[k]? ≠ udpConnectMsg[k]?) k inside

theorem getElem?_bufAfter (buf : List UInt8) (taken : List (List UInt8)) {k : Nat} (inside : k < 4)
    : (bufAfter buf taken)[k]?
      = ((taken.filterMap (fun datagram => datagram[k]?)).getLast?).or buf[k]? := by
  rw [bufAfter, Buffer.getElem?_overlay, List.filterMap_map]
  have same : (fun block : List UInt8 => block[k]?) ∘ List.take 4
      = fun datagram : List UInt8 => datagram[k]? :=
    funext fun datagram => List.getElem?_take_of_lt inside
  rw [same]

theorem length_bufAfter (taken : List (List UInt8))
    : (bufAfter udpConnectMsg taken).length = 4 := by
  induction taken using List.reverseRecOn with
  | nil => rfl
  | append_singleton front datagram ih =>
      have last : bufAfter udpConnectMsg (front ++ [datagram])
          = Buffer.copyAt (bufAfter udpConnectMsg front) 0 (datagram.take 4) := by
        simp [bufAfter, Buffer.overlay]
      rw [last, Buffer.length_copyAt (by rw [List.length_take]; omega), ih]

/-- What `buf` takes for a reply. -/
theorem isReply_bufAfter_iff (taken : List (List UInt8))
    : IsReply (bufAfter udpConnectMsg taken) ↔ Pieced taken := by
  constructor
  · intro isReply
    refine ⟨_, isReply, fun k byte found => ?_⟩
    have inside : k < 4 := by
      rw [← isReply.length]
      exact (List.getElem?_eq_some_iff.mp found).1
    have differs := isReply.differs inside
    rw [getElem?_bufAfter _ _ inside] at found differs
    cases latest : (taken.filterMap (fun datagram => datagram[k]?)).getLast? with
    | none => exact absurd (by rw [latest, Option.none_or]) differs
    | some last =>
        rw [latest, Option.some_or] at found
        exact found
  · rintro ⟨reply, isReply, pieces⟩
    have same : bufAfter udpConnectMsg taken = reply := by
      refine List.ext_getElem? fun k => ?_
      rcases Nat.lt_or_ge k 4 with inside | behind
      · obtain ⟨byte, found⟩ : ∃ byte, reply[k]? = some byte :=
          ⟨_, List.getElem?_eq_getElem (by rw [isReply.length]; exact inside)⟩
        rw [getElem?_bufAfter _ _ inside, pieces k byte found, found, Option.some_or]
      · rw [List.getElem?_eq_none (by rw [length_bufAfter]; exact behind),
          List.getElem?_eq_none (by rw [isReply.length]; exact behind)]
    rw [same]
    exact isReply

theorem not_pieced_nil : ¬ Pieced [] := by
  rintro ⟨reply, isReply, pieces⟩
  rcases isReply with rfl | rfl
  · exact absurd (pieces 0 _ rfl) nofun
  · exact absurd (pieces 0 _ rfl) nofun

/-- A datagram that carries a reply is taken for one, whatever came before. -/
theorem pieced_of_carries {k : Nat} {datagram : List UInt8} (found : arrivals[k]? = some datagram)
    (carries : CarriesReply datagram)
    : Pieced (arrivals.take (k + 1)) := by
  refine ⟨_, carries, fun position byte isByte => ?_⟩
  have inside : position < 4 := by
    have bound := (List.getElem?_eq_some_iff.mp isByte).1
    rw [IsReply.length carries] at bound
    exact bound
  rw [List.getElem?_take_of_lt inside] at isByte
  have last : [datagram].filterMap (fun datagram => datagram[position]?) = [byte] := by
    simp [isByte]
  rw [List.take_add_one, found, Option.toList_some, List.filterMap_append, last,
    List.getLast?_concat]

-----------------------------------------------------------------------------------------
-- Keeping to the first datagrams
-----------------------------------------------------------------------------------------

/-- How many datagrams the loop is meant to look at. -/
def handshakeLimit (test : Test) : Nat :=
  1 + if test.reverse then maxReverseOutOfOrderPackets else 0

/-- No more datagrams are read, and one of those that are read decides. -/
structure HandshakeKept (test : Test) (s : Int) (arrivals : List (List UInt8)) : Prop where
  bounded : (iperfUdpConnect test (.ok s) arrivals).1 ≤ handshakeLimit test
  connected : (iperfUdpConnect test (.ok s) arrivals).2 = .ok s
    ↔ ∃ datagram ∈ arrivals.take (iperfUdpConnect test (.ok s) arrivals).1, CarriesReply datagram
  refused : (iperfUdpConnect test (.ok s) arrivals).2 ≠ .ok s →
    (iperfUdpConnect test (.ok s) arrivals).2 = .error .iestreamread

/-- The loop has a reason to stop in time, and no reply is put together from several datagrams. -/
structure Decisive (test : Test) (arrivals : List (List UInt8)) : Prop where
  soon : arrivals.length ≤ handshakeLimit test
    ∨ ∃ datagram ∈ arrivals.take (handshakeLimit test),
      CarriesReply datagram ∨ (test.reverse = false ∧ 4 ≤ datagram.length)
  genuine : ∀ front, front <+: arrivals.take (handshakeLimit test) → Pieced front →
    ∃ datagram ∈ front, CarriesReply datagram

/-- The reads of the loop. -/
def handshakeReads (test : Test) (arrivals : List (List UInt8)) : Nat :=
  (waitForReply (maxLenWaitForReply test) udpConnectMsg 0 arrivals).reads

theorem handshake_endsFirst (test : Test) (arrivals : List (List UInt8))
    : EndsFirst (maxLenWaitForReply test) udpConnectMsg 0 arrivals
      (waitForReply (maxLenWaitForReply test) udpConnectMsg 0 arrivals) :=
  waitForReply_endsFirst ..

/-- The result, from the datagrams that are read. -/
theorem iperfUdpConnect_result (s : Int)
    : (iperfUdpConnect test (.ok s) arrivals).1 = handshakeReads test arrivals
      ∧ (Pieced (arrivals.take (handshakeReads test arrivals))
        ∧ (iperfUdpConnect test (.ok s) arrivals).2 = .ok s
        ∨ ¬ Pieced (arrivals.take (handshakeReads test arrivals))
        ∧ (iperfUdpConnect test (.ok s) arrivals).2 = .error .iestreamread) := by
  have ends := handshake_endsFirst test arrivals
  unfold iperfUdpConnect
  dsimp only
  cases last : (waitForReply (maxLenWaitForReply test) udpConnectMsg 0 arrivals).buf with
  | none =>
      refine ⟨rfl, .inr ⟨?_, rfl⟩⟩
      obtain ⟨all, never⟩ := ends.failed last
      rw [handshakeReads, all]
      cases arrivals with
      | nil => exact not_pieced_nil
      | cons datagram rest =>
          intro pieced
          refine never _ (Nat.succ_pos _) le_rfl (.inl ?_)
          exact (isReply_bufAfter_iff _).mpr pieced
  | some buf =>
      obtain ⟨-, isBuf, -⟩ := ends.ended buf last
      refine ⟨rfl, ?_⟩
      rw [handshakeReads, ← isReply_bufAfter_iff, ← isBuf]
      dsimp only
      by_cases isReply : IsReply buf
      · exact .inl ⟨isReply, if_pos isReply⟩
      · exact .inr ⟨isReply, if_neg isReply⟩

theorem bytesTaken_le (taken : List (List UInt8)) : bytesTaken taken ≤ 4 * taken.length := by
  induction taken with
  | nil => exact le_rfl
  | cons datagram rest ih =>
      have step : bytesTaken (datagram :: rest) = min datagram.length 4 + bytesTaken rest := rfl
      rw [step, List.length_cons]
      omega

/-- A few datagrams do not exhaust the bytes that a reverse test waits for. -/
theorem not_exhausted (minimum : minUdpBlocksize.toInt ≤ test.settings.blksize.toInt)
    (reverse : test.reverse = true) {taken : List (List UInt8)}
    (few : taken.length ≤ handshakeLimit test)
    : ¬ maxLenWaitForReply test ≤ 0 + bytesTaken taken := by
  have bytes := bytesTaken_le taken
  have smallest : minUdpBlocksize.toInt = 16 := by decide
  rw [handshakeLimit, reverse, if_pos rfl] at few
  rw [maxLenWaitForReply, reverse, if_pos rfl]
  unfold maxReverseOutOfOrderPackets at few ⊢
  omega

theorem Decisive.kept {s : Int} (decisive : Decisive test arrivals)
    : HandshakeKept test s arrivals := by
  have ends := handshake_endsFirst test arrivals
  obtain ⟨reads, result⟩ := @iperfUdpConnect_result test arrivals s
  -- a datagram that carries a reply is the last one that is read
  have stop {k : Nat} {datagram : List UInt8} (found : arrivals[k]? = some datagram)
      (carries : CarriesReply datagram)
      : handshakeReads test arrivals ≤ k + 1 :=
    ends.reads_le k.succ_pos (.inl ((isReply_bufAfter_iff _).mpr (pieced_of_carries found carries)))
  have bounded : handshakeReads test arrivals ≤ handshakeLimit test := by
    rcases decisive.soon with few | ⟨datagram, isOne, carries | ⟨forward, long⟩⟩
    · exact ends.within.trans few
    · obtain ⟨k, below, found⟩ := List.mem_take_iff_getElem.mp isOne
      have inside := lt_min_iff.mp below
      exact (stop (List.getElem?_eq_some_iff.mpr ⟨inside.2, found⟩) carries).trans inside.1
    · have one : handshakeLimit test = 1 := by simp [handshakeLimit, forward]
      rw [one] at isOne ⊢
      refine ends.reads_le Nat.one_pos (.inr ?_)
      obtain ⟨rest, rfl⟩ : ∃ rest, arrivals = datagram :: rest := by
        cases arrivals with
        | nil => exact absurd isOne List.not_mem_nil
        | cons first rest => exact ⟨rest, by rw [List.mem_singleton.mp isOne]⟩
      simp [maxLenWaitForReply, forward, bytesTaken]
      omega
  refine ⟨reads.trans_le bounded, ?_, ?_⟩
  · rw [reads]
    rcases result with ⟨pieced, connected⟩ | ⟨unpieced, refused⟩
    · exact iff_of_true connected
        (decisive.genuine _ (List.take_prefix_take_left bounded) pieced)
    · refine iff_of_false (by rw [refused]; nofun) ?_
      rintro ⟨datagram, isOne, carries⟩
      obtain ⟨k, below, found⟩ := List.mem_take_iff_getElem.mp isOne
      have inside := lt_min_iff.mp below
      have isThere := List.getElem?_eq_some_iff.mpr ⟨inside.2, found⟩
      have last : handshakeReads test arrivals = k + 1 :=
        le_antisymm (stop isThere carries) inside.1
      rw [last] at unpieced
      exact unpieced (pieced_of_carries isThere carries)
  · intro notConnected
    rcases result with ⟨-, connected⟩ | ⟨-, refused⟩
    · exact absurd connected notConnected
    · exact refused

theorem HandshakeKept.decisive {s : Int}
    (minimum : minUdpBlocksize.toInt ≤ test.settings.blksize.toInt)
    (kept : HandshakeKept test s arrivals)
    : Decisive test arrivals := by
  have ends := handshake_endsFirst test arrivals
  obtain ⟨reads, result⟩ := @iperfUdpConnect_result test arrivals s
  have bounded := kept.bounded
  have connectedIff := kept.connected
  rw [reads] at bounded connectedIff
  have carried (pieced : Pieced (arrivals.take (handshakeReads test arrivals)))
      : ∃ datagram ∈ arrivals.take (handshakeReads test arrivals), CarriesReply datagram := by
    rcases result with ⟨-, connected⟩ | ⟨unpieced, -⟩
    · exact connectedIff.mp connected
    · exact absurd pieced unpieced
  have length : (arrivals.take (handshakeReads test arrivals)).length ≤ handshakeLimit test :=
    (List.length_take_le ..).trans bounded
  constructor
  · cases last : (waitForReply (maxLenWaitForReply test) udpConnectMsg 0 arrivals).buf with
    | none => exact .inl ((ends.failed last).1.symm.trans_le bounded)
    | some buf =>
        obtain ⟨positive, -, isReply | exhausted⟩ := ends.ended buf last
        · obtain ⟨datagram, isOne, carries⟩ := carried ((isReply_bufAfter_iff _).mp isReply)
          exact .inr ⟨datagram, (List.take_prefix_take_left bounded).subset isOne, .inl carries⟩
        · cases forward : test.reverse with
          | true => exact absurd exhausted (not_exhausted minimum forward length)
          | false =>
              have one : handshakeLimit test = 1 := by simp [handshakeLimit, forward]
              have single : handshakeReads test arrivals = 1 :=
                le_antisymm (bounded.trans_eq one) positive
              cases arrivals with
              | nil => exact .inl (Nat.zero_le _)
              | cons datagram rest =>
                  refine .inr ⟨datagram, by simp [one], .inr ⟨rfl, ?_⟩⟩
                  rw [← handshakeReads, single] at exhausted
                  simp [maxLenWaitForReply, forward, bytesTaken] at exhausted
                  omega
  · intro front isFront pieced
    have few : front.length ≤ handshakeLimit test :=
      isFront.length_le.trans (List.length_take_le ..)
    have inside := (isFront.trans (List.take_prefix _ _)).length_le
    have isTake := List.prefix_iff_eq_take.mp (isFront.trans (List.take_prefix _ _))
    have some : 0 < front.length := by
      refine List.length_pos_iff.mpr ?_
      rintro rfl
      exact not_pieced_nil pieced
    have stops : Stops (maxLenWaitForReply test) udpConnectMsg 0 (arrivals.take front.length) := by
      rw [← isTake]
      exact .inl ((isReply_bufAfter_iff _).mpr pieced)
    have below := ends.reads_le some stops
    obtain ⟨positive, stopped⟩ := ends.stops some inside stops
    have isReply : Pieced (arrivals.take (handshakeReads test arrivals)) := by
      rcases stopped with isReply | exhausted
      · exact (isReply_bufAfter_iff _).mp isReply
      · cases forward : test.reverse with
        | true => exact absurd exhausted (not_exhausted minimum forward length)
        | false =>
            have one : handshakeLimit test = 1 := by simp [handshakeLimit, forward]
            have all : handshakeReads test arrivals = front.length :=
              le_antisymm below ((few.trans_eq one).trans positive)
            rw [all, ← isTake]
            exact pieced
    obtain ⟨datagram, isOne, carries⟩ := carried isReply
    refine ⟨datagram, ?_, carries⟩
    rw [isTake]
    exact (List.take_prefix_take_left below).subset isOne

/-- The wait loop keeps to the first datagrams exactly when they are decisive. -/
theorem handshakeKept_iff {s : Int} (minimum : minUdpBlocksize.toInt ≤ test.settings.blksize.toInt)
    : HandshakeKept test s arrivals ↔ Decisive test arrivals :=
  ⟨fun kept => kept.decisive minimum, Decisive.kept⟩

/-- A client with the smallest block size. -/
def connectingTest (reverse : Bool) : Test :=
  { protocol := .udp, reverse, settings := { blksize := minUdpBlocksize } }

/-- Witness: in a reverse test a reply behind a datagram of the test. -/
theorem handshakeKept_reordered
    : HandshakeKept (connectingTest true) 5 [List.replicate 16 0, udpConnectReply] := by
  refine (handshakeKept_iff (by decide)).mpr ⟨.inl (by decide), fun front isFront pieced => ?_⟩
  rcases List.prefix_cons_iff.mp isFront with rfl | ⟨rest, rfl, isRest⟩
  · exact absurd pieced not_pieced_nil
  · rcases List.prefix_cons_iff.mp isRest with rfl | ⟨rest, rfl, -⟩
    · rw [← isReply_bufAfter_iff] at pieced
      exact absurd pieced (by decide)
    · exact ⟨udpConnectReply, by simp, .inl rfl⟩

/-- An empty datagram does not count, and the loop reads a second one. -/
theorem handshakeKept_fails
    : ¬ ∀ (test : Test) (s : Int) (arrivals : List (List UInt8)),
        minUdpBlocksize.toInt ≤ test.settings.blksize.toInt → HandshakeKept test s arrivals := by
  intro all
  have kept := all (connectingTest false) 5 [[], udpConnectReply] (by decide)
  have reads : (iperfUdpConnect (connectingTest false) (.ok 5) [[], udpConnectReply]).1 = 2 := by
    decide
  have bounded := kept.bounded
  rw [reads] at bounded
  exact absurd bounded (by decide)

end Iperf
