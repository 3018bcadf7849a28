import Iperf.Session.Framing
import Iperf.Tcp.Accounting

/-! What `JSON_write` makes of the results of its two calls of `Nwrite`, each of which can be cut
at any byte.
-/

namespace Iperf

open Transfer

/-- `JSON_write` of a text, with the results of `write(2)` for the length and for the text. -/
def jsonWriteCall (str : List UInt8) (first second : List WriteResult) : Option Sent := do
  let header ← nwrite (BigEndian.encode 4 (hsize str)) first
  if header.ret < 0 then
    return { ret := -1, accepted := header.accepted }
  else
    let payload ← nwrite (str.take (hsize str)) second
    let accepted := header.accepted ++ payload.accepted
    return { ret := if payload.ret < 0 then -1 else 0, accepted }

/-- Success stands for a complete frame. -/
def FrameComplete (str : List UInt8) (sent : Sent) : Prop :=
  sent.ret = 0 → sent.accepted = BigEndian.encode 4 (hsize str) ++ str

/-- What `write(2)` accepts before its first result that ends the loop. -/
def taken (results : List WriteResult) : Nat := before (results.map WriteResult.round)

/-- `EINTR` or `EAGAIN` is the first result that ends the loop. -/
def interrupted (results : List WriteResult) : Bool :=
  (stopping (results.map WriteResult.round)).any fun last => last.2 = .again

/-- A part is accepted, then the write is interrupted. -/
def CutAfterPart (count : Nat) (results : List WriteResult) : Prop :=
  0 < taken results ∧ taken results < count ∧ taken results < 2 ^ 31 ∧ interrupted results

/-- The write is complete, and its size fits into an `int`. -/
def Complete (count : Nat) (results : List WriteResult) : Prop :=
  count ≤ taken results ∧ count < 2 ^ 31

/-- Nothing is accepted before the interruption, another error ends the loop, or the number of
bytes does not fit.
-/
def Refused (count : Nat) (results : List WriteResult) : Prop :=
  ¬ Complete count results ∧ ¬ CutAfterPart count results

theorem stopping_write {results : List WriteResult} {last : Nat} {stop : SendStop}
    (stops : stopping (results.map WriteResult.round) = some (last, stop))
    : last = 0 := by
  induction results with
  | nil => cases stops
  | cons result results ih =>
      cases result with
      | accepted n =>
          cases n with
          | zero => exact (Prod.mk.inj (Option.some.inj stops)).1.symm
          | succ n => exact ih stops
      | failed errno => exact (Prod.mk.inj (Option.some.inj stops)).1.symm

theorem nonneg_toInt {n : Nat} (fits : n < 2 ^ 32) : 0 ≤ toInt n ↔ n < 2 ^ 31 := by
  constructor
  · intro nonneg
    by_contra large
    exact absurd (toInt_neg (Nat.not_lt.mp large) fits) (not_lt.mpr nonneg)
  · intro small
    rw [toInt_of_lt small]
    exact Int.natCast_nonneg n

/-- The three kinds of a write: all of the buffer, a part of it with its size as the result, or
a negative result.
-/
theorem nwrite_kinds {buf : List UInt8} {results : List WriteResult} {sent : Sent}
    (fits : buf.length < 2 ^ 32) (returns : nwrite buf results = some sent)
    : Complete buf.length results ∧ 0 ≤ sent.ret ∧ sent.accepted = buf
      ∨ CutAfterPart buf.length results ∧ 0 ≤ sent.ret ∧ sent.accepted.length < buf.length
      ∨ Refused buf.length results ∧ sent.ret < 0 := by
  rw [nwrite_transfer, transfer_eq, min_self] at returns
  have isTaken : before (results.map WriteResult.round) = taken results := rfl
  have soft : netSofterror < 0 := by decide
  have hard : netHarderror < 0 := by decide
  split_ifs at returns with whole
  · obtain rfl := Option.some.inj returns
    have enough : buf.length ≤ taken results := whole.trans (min_le_right _ _)
    dsimp only [stopRet]
    rw [List.take_length]
    by_cases small : buf.length < 2 ^ 31
    · have nonneg := (nonneg_toInt fits).mpr small
      exact .inl ⟨⟨enough, small⟩, nonneg, rfl⟩
    · have negative := toInt_neg (not_lt.mp small) fits
      refine .inr (.inr ⟨⟨fun complete => small complete.2, fun cut => ?_⟩, negative⟩)
      exact absurd cut.2.1 (not_lt.mpr enough)
  · rw [Option.map_map] at returns
    obtain ⟨⟨last, stop⟩, stops, rfl⟩ := Option.map_eq_some_iff.mp returns
    obtain rfl := stopping_write stops
    have less : taken results < buf.length := by
      rw [← isTaken]
      omega
    have moved : min (before (results.map WriteResult.round) + 0) buf.length = taken results := by
      rw [isTaken]
      omega
    have incomplete : ¬ Complete buf.length results := fun complete =>
      absurd complete.1 (not_le.mpr less)
    dsimp only [Function.comp]
    rw [moved]
    cases stop with
    | again =>
        have again : interrupted results = true := by
          unfold interrupted
          rw [stops]
          rfl
        by_cases none_ : taken results = 0
        · refine .inr (.inr ⟨⟨incomplete, fun cut => cut.1.ne' none_⟩, ?_⟩)
          unfold stopRet
          rw [if_pos none_]
          exact soft
        · have reported : stopRet buf.length (taken results) (some .again)
              = toInt (taken results) :=
            if_neg none_
          rw [reported]
          by_cases small : taken results < 2 ^ 31
          · have nonneg := (nonneg_toInt (less.trans fits)).mpr small
            refine .inr (.inl ⟨⟨Nat.pos_of_ne_zero none_, less, small, again⟩, nonneg, ?_⟩)
            rw [List.length_take]
            omega
          · have negative := toInt_neg (not_lt.mp small) (less.trans fits)
            exact .inr (.inr ⟨⟨incomplete, fun cut => small cut.2.2.1⟩, negative⟩)
    | soft | hard =>
        have other : ¬ interrupted results = true := by
          unfold interrupted
          rw [stops]
          decide
        refine .inr (.inr ⟨⟨incomplete, fun cut => other cut.2.2.2⟩, ?_⟩)
        first
          | exact soft
          | exact hard

/-- If one write is cut after a part, or the text is too long for its size, a write is refused. -/
structure FrameKept (str : List UInt8) (first second : List WriteResult) : Prop where
  header : CutAfterPart 4 first → Refused (hsize str) second
  payload : CutAfterPart (hsize str) second → Refused 4 first
  length : 2 ^ 32 ≤ str.length → Refused 4 first ∨ Refused (hsize str) second

theorem Complete.not_refused {count : Nat} {results : List WriteResult}
    (complete : Complete count results)
    : ¬ Refused count results :=
  fun refused => refused.1 complete

theorem CutAfterPart.not_refused {count : Nat} {results : List WriteResult}
    (cut : CutAfterPart count results)
    : ¬ Refused count results :=
  fun refused => refused.2 cut

theorem hsize_le (str : List UInt8) : hsize str ≤ str.length := Nat.mod_le _ _

/-- `JSON_write` reports success only for a complete frame exactly when no write is cut after a
part of its bytes while the other is not refused.
-/
theorem jsonWriteCall_complete_iff {str : List UInt8} {first second : List WriteResult}
    {sent : Sent} (returns : jsonWriteCall str first second = some sent)
    : FrameComplete str sent ↔ FrameKept str first second := by
  have headerSize : (BigEndian.encode 4 (hsize str)).length = 4 := BigEndian.length_encode ..
  have payloadSize : (str.take (hsize str)).length = hsize str := by
    rw [List.length_take]
    exact Nat.min_eq_left (hsize_le str)
  unfold jsonWriteCall at returns
  obtain ⟨header, sentHeader, returns⟩ := Option.bind_eq_some_iff.mp returns
  have headerKinds := nwrite_kinds (by rw [headerSize]; norm_num) sentHeader
  rw [headerSize] at headerKinds
  split at returns
  · next negative =>
      obtain rfl := Option.some.inj returns
      have refused : Refused 4 first := by
        rcases headerKinds with ⟨-, nonneg, -⟩ | ⟨-, nonneg, -⟩ | ⟨refused, -⟩
        · exact absurd nonneg (not_le.mpr negative)
        · exact absurd nonneg (not_le.mpr negative)
        · exact refused
      refine ⟨fun _ => ⟨fun cut => absurd refused cut.not_refused, fun _ => refused,
        fun _ => .inl refused⟩, fun _ => ?_⟩
      intro success
      have failed : (-1 : Int) = 0 := success
      cases failed
  · next nonneg =>
      obtain ⟨payload, sentPayload, returns⟩ := Option.bind_eq_some_iff.mp returns
      obtain rfl := Option.some.inj returns
      have payloadKinds := nwrite_kinds (by rw [payloadSize]; exact hsize_lt str) sentPayload
      rw [payloadSize] at payloadKinds
      have reports : ¬ Refused 4 first := by
        rcases headerKinds with ⟨complete, -⟩ | ⟨cut, -⟩ | ⟨-, negative⟩
        · exact complete.not_refused
        · exact cut.not_refused
        · exact absurd negative nonneg
      rcases payloadKinds with
          ⟨complete, nonneg', whole⟩ | ⟨cut, nonneg', short⟩ | ⟨refused, negative⟩
      · rcases headerKinds with ⟨completeHeader, -, wholeHeader⟩ | ⟨cutHeader, -, shortHeader⟩
          | ⟨refused, -⟩
        · -- both writes are complete: the length alone matters
          constructor
          · intro frame
            refine ⟨fun cut => ?_, fun cut => ?_, fun long => ?_⟩
            · exact absurd completeHeader.1 (not_le.mpr cut.2.1)
            · exact absurd complete.1 (not_le.mpr cut.2.1)
            · have all := congrArg List.length (frame (if_neg (not_lt.mpr nonneg')))
              have small := hsize_lt str
              rw [wholeHeader, whole, List.length_append, List.length_append, payloadSize] at all
              omega
          · intro kept _
            have small : str.length < 2 ^ 32 := by
              by_contra long
              rcases kept.length (not_lt.mp long) with refused | refused
              · exact reports refused
              · exact complete.not_refused refused
            have all : hsize str = str.length := Nat.mod_eq_of_lt small
            rw [wholeHeader, whole, all, List.take_length]
        · refine ⟨fun frame => ?_, fun kept => absurd (kept.header cutHeader) complete.not_refused⟩
          have all := congrArg List.length (frame (if_neg (not_lt.mpr nonneg')))
          have within := hsize_le str
          rw [whole, List.length_append, List.length_append, headerSize, payloadSize] at all
          omega
        · exact absurd refused reports
      · refine ⟨fun frame => ?_, fun kept => absurd (kept.payload cut) reports⟩
        have all := congrArg List.length (frame (if_neg (not_lt.mpr nonneg')))
        have within := hsize_le str
        have most : header.accepted.length ≤ 4 := by
          rcases headerKinds with ⟨-, -, whole⟩ | ⟨-, -, short⟩ | ⟨refused, -⟩
          · rw [whole, headerSize]
          · exact short.le
          · exact absurd refused reports
        rw [List.length_append, List.length_append, headerSize] at all
        omega
      · refine ⟨fun _ => ⟨fun _ => refused, fun cut => absurd refused cut.not_refused,
          fun _ => .inr refused⟩, fun _ => ?_⟩
        intro success
        have failed : (-1 : Int) = 0 := (if_pos negative).symm.trans success
        cases failed

/-- The theorem at an empty object whose length is written in two pieces. -/
theorem emptyObject_complete
    : FrameComplete [123, 125] { ret := 0, accepted := [0, 0, 0, 2, 123, 125] }
      ∧ FrameKept [123, 125] [.accepted 1, .accepted 3] [.accepted 2] := by
  have returns : jsonWriteCall [123, 125] [.accepted 1, .accepted 3] [.accepted 2]
      = some { ret := 0, accepted := [0, 0, 0, 2, 123, 125] } := by decide
  have complete : FrameComplete [123, 125] { ret := 0, accepted := [0, 0, 0, 2, 123, 125] } :=
    fun _ => by decide
  exact ⟨complete, (jsonWriteCall_complete_iff returns).mp complete⟩

/-- An interruption behind the first byte of the text is taken for success. -/
theorem jsonWriteCall_cut
    : ¬ ∀ (str : List UInt8) (first second : List WriteResult) (sent : Sent),
        jsonWriteCall str first second = some sent → FrameComplete str sent := by
  intro all
  have returns : jsonWriteCall [123, 125] [.accepted 4] [.accepted 1, .failed .eintr]
      = some { ret := 0, accepted := [0, 0, 0, 2, 123] } := by decide
  have complete := all _ _ _ _ returns rfl
  exact absurd complete (by decide)

end Iperf
