/-
# What a limited sink takes

A sink takes bytes from the front until it is full. How many it takes of some bytes, and
whether it turns any away, is settled before the first of them is offered. So it makes no
difference in how many pieces they are offered, or where the cuts are: inside a character,
at the very place where the room ends, or twice in one place. Whoever writes pieces up to
the first refusal does what he would do by writing all of it at once.
-/

import Tasking.Sink

namespace Tasking

theorem Utf8.encode_append (first second : String) :
    encode (first ++ second) = encode first ++ encode second := by
  rw [encode, String.toList_append, List.flatMap_append]
  rfl

namespace Sink

/-- How many of the bytes the sink takes in the end. -/
def share (sink : Sink) (bytes : Bytes) : Nat :=
  match sink.room with
  | none => bytes.length
  | some limit => min limit bytes.length

/-- What is reported of the sink once it is full. -/
def cause (sink : Sink) : String :=
  match sink.refusal with
  | .fails cause => cause
  | .acceptsNothing => stalled

/-- What is reported when the bytes are written, if the sink does not take them all. -/
def refusal? (sink : Sink) (bytes : Bytes) : Option String :=
  if sink.share bytes < bytes.length then some sink.cause else none

theorem share_of_unlimited {sink : Sink} (noLimit : sink.room = none) (bytes : Bytes) :
    sink.share bytes = bytes.length := by
  rw [share, noLimit]

theorem share_of_limit {sink : Sink} {limit : Nat} (limited : sink.room = some limit)
    (bytes : Bytes) : sink.share bytes = min limit bytes.length := by
  rw [share, limited]

theorem share_le (sink : Sink) (bytes : Bytes) : sink.share bytes ≤ bytes.length := by
  cases limited : sink.room with
  | none => exact Nat.le_of_eq (share_of_unlimited limited bytes)
  | some limit =>
      rw [share_of_limit limited]
      exact Nat.min_le_right limit bytes.length

@[simp]
theorem take_zero (sink : Sink) (bytes : Bytes) : sink.take 0 bytes = sink := by
  cases sink
  simp [take]

/-- A sink that is full turns everything away. -/
theorem writeAll_of_no_room {sink : Sink} (full : sink.room = some 0) {bytes : Bytes}
    (something : bytes ≠ []) : sink.writeAll bytes = (sink, some sink.cause) := by
  cases bytes with
  | nil => exact absurd rfl something
  | cons byte rest =>
      rw [writeAll, cause]
      cases refuses : sink.refusal with
      | fails cause => simp [offer, full, refuses]
      | acceptsNothing => simp [offer, full, refuses]

theorem share_of_fits {sink : Sink} {limit : Nat} (limited : sink.room = some limit)
    {bytes : Bytes} (fits : bytes.length ≤ limit) : sink.share bytes = bytes.length := by
  rw [share_of_limit limited]
  exact Nat.min_eq_right fits

theorem share_of_exceeds {sink : Sink} {limit : Nat} (limited : sink.room = some limit)
    {bytes : Bytes} (exceeds : limit < bytes.length) : sink.share bytes = limit := by
  rw [share_of_limit limited]
  exact Nat.min_eq_left (Nat.le_of_lt exceeds)

theorem writeAll_of_fits {sink : Sink} {limit : Nat} (limited : sink.room = some limit)
    {bytes : Bytes} (fits : bytes.length ≤ limit) :
    sink.writeAll bytes = (sink.take bytes.length bytes, none) := by
  cases bytes with
  | nil => rw [writeAll, List.length_nil, take_zero]
  | cons byte rest =>
      cases limit with
      | zero => exact absurd fits (Nat.not_succ_le_zero rest.length)
      | succ fewer =>
          have accepted : sink.offer (byte :: rest) = .ok (rest.length + 1) := by
            rw [offer, limited]
            exact congrArg Except.ok (Nat.min_eq_right fits)
          rw [writeAll, accepted]
          show (sink.take (rest.length + 1) (byte :: rest)).writeAll (rest.drop rest.length) = _
          rw [List.drop_length, writeAll, List.length_cons]

/-- A sink that runs full takes what there was room for, and turns away the rest. -/
theorem writeAll_of_exceeds {sink : Sink} {limit : Nat} (limited : sink.room = some limit)
    {bytes : Bytes} (exceeds : limit < bytes.length) :
    sink.writeAll bytes = (sink.take limit bytes, some sink.cause) := by
  cases limit with
  | zero =>
      rw [take_zero]
      apply writeAll_of_no_room limited
      exact List.ne_nil_of_length_pos exceeds
  | succ fewer =>
      cases bytes with
      | nil => exact absurd exceeds (Nat.not_lt_zero (fewer + 1))
      | cons byte rest =>
          have accepted : sink.offer (byte :: rest) = .ok (fewer + 1) := by
            rw [offer, limited]
            exact congrArg Except.ok (Nat.min_eq_left (Nat.le_of_lt exceeds))
          have full : (sink.take (fewer + 1) (byte :: rest)).room = some 0 := by
            rw [take, limited, Option.map_some, Nat.sub_self]
          have left : rest.drop fewer ≠ [] := by
            apply List.ne_nil_of_length_pos
            rw [List.length_drop]
            exact Nat.sub_pos_of_lt (Nat.lt_of_succ_lt_succ exceeds)
          rw [writeAll, accepted]
          exact writeAll_of_no_room full left

/-- What writing comes to: the sink takes its share, and refuses the rest if there is one. -/
theorem writeAll_eq (sink : Sink) (bytes : Bytes) :
    sink.writeAll bytes = (sink.take (sink.share bytes) bytes, sink.refusal? bytes) := by
  cases limited : sink.room with
  | none =>
      rw [writeAll_of_unlimited limited, refusal?, share_of_unlimited limited,
        if_neg (Nat.lt_irrefl _), take, List.take_length, limited]
      rfl
  | some limit =>
      rw [refusal?]
      rcases Nat.lt_or_ge limit bytes.length with exceeds | fits
      · rw [writeAll_of_exceeds limited exceeds, share_of_exceeds limited exceeds, if_pos exceeds]
      · rw [writeAll_of_fits limited fits, share_of_fits limited fits,
          if_neg (Nat.lt_irrefl _)]

/-- The room may end inside a character. -/
example : ({ room := some 1 } : Sink).writeAll (Utf8.encode "é") =
    ({ taken := [0xC3], room := some 0 }, some stalled) := by
  rw [writeAll_eq]
  decide

theorem writeAll_of_taken {sink : Sink} {bytes : Bytes} (taken : sink.share bytes = bytes.length) :
    sink.writeAll bytes = (sink.take bytes.length bytes, none) := by
  rw [writeAll_eq, refusal?, taken, if_neg (Nat.lt_irrefl _)]

theorem writeAll_of_refused {sink : Sink} {bytes : Bytes}
    (refused : sink.share bytes < bytes.length) :
    sink.writeAll bytes = (sink.take (sink.share bytes) bytes, some sink.cause) := by
  rw [writeAll_eq, refusal?, if_pos refused]

/-- What is taken after all of `first` is taken as if it were all offered at once. -/
theorem take_take (sink : Sink) (first second : Bytes) (count : Nat) :
    (sink.take first.length first).take count second =
      sink.take (first.length + count) (first ++ second) := by
  have room : (sink.room.map (fun room => room - first.length)).map (fun room => room - count) =
      sink.room.map (fun room => room - (first.length + count)) := by
    rw [Option.map_map]
    apply Option.map_congr
    intro room _
    exact Nat.sub_sub room first.length count
  rw [take, take, take, room, List.take_length, List.take_length_add_append, List.append_assoc]

theorem share_append_of_refused {sink : Sink} {first : Bytes}
    (refused : sink.share first < first.length) (second : Bytes) :
    sink.share (first ++ second) = sink.share first := by
  cases limited : sink.room with
  | none => exact absurd (share_of_unlimited limited first) (Nat.ne_of_lt refused)
  | some limit =>
      rw [share_of_limit limited] at refused
      rw [share_of_limit limited, share_of_limit limited, List.length_append]
      omega

theorem share_append_of_taken {sink : Sink} {first : Bytes}
    (taken : sink.share first = first.length) (second : Bytes) :
    sink.share (first ++ second) =
      first.length + (sink.take first.length first).share second := by
  cases limited : sink.room with
  | none =>
      have noLimit : (sink.take first.length first).room = none := by
        rw [take, limited, Option.map_none]
      rw [share_of_unlimited limited, share_of_unlimited noLimit, List.length_append]
  | some limit =>
      have left : (sink.take first.length first).room = some (limit - first.length) := by
        rw [take, limited, Option.map_some]
      rw [share_of_limit limited] at taken
      rw [share_of_limit limited, share_of_limit left, List.length_append]
      omega

/-- Writing in two pieces is writing at once: whoever goes on up to the first refusal loses
nothing by the cut. -/
theorem writeAll_append (sink : Sink) (first second : Bytes) :
    sink.writeAll (first ++ second) =
      match sink.writeAll first with
      | (written, none) => written.writeAll second
      | (stopped, some cause) => (stopped, some cause) := by
  rcases Nat.lt_or_eq_of_le (sink.share_le first) with refused | taken
  · have stillRefused : sink.share (first ++ second) < (first ++ second).length := by
      rw [share_append_of_refused refused, List.length_append]
      exact Nat.lt_of_lt_of_le refused (Nat.le_add_right _ _)
    rw [writeAll_of_refused refused, writeAll_of_refused stillRefused,
      share_append_of_refused refused, take, take,
      List.take_append_of_le_length (Nat.le_of_lt refused)]
  · have sameCause : (sink.take first.length first).cause = sink.cause := rfl
    have goesOn : sink.refusal? (first ++ second) =
        (sink.take first.length first).refusal? second := by
      rw [refusal?, refusal?, share_append_of_taken taken, List.length_append, sameCause]
      simp only [Nat.add_lt_add_iff_left]
    rw [writeAll_of_taken taken]
    show _ = (sink.take first.length first).writeAll second
    rw [writeAll_eq, writeAll_eq, take_take, share_append_of_taken taken, goesOn]

/-- Writing texts in order is writing their bytes at once. -/
theorem writeTexts_eq (sink : Sink) (texts : List String) :
    sink.writeTexts texts = sink.writeAll (texts.flatMap Utf8.encode) := by
  induction texts generalizing sink with
  | nil => rw [writeTexts, List.flatMap_nil, writeAll]
  | cons text rest ih =>
      rw [writeTexts, List.flatMap_cons, writeAll_append, writeText]
      cases sink.writeAll (Utf8.encode text) with
      | mk written refused =>
          cases refused with
          | none => exact ih written
          | some cause => rfl

end Sink

end Tasking
