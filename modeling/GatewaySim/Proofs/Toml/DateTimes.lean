import GatewaySim.Toml.Reader
import Mathlib

/-! # Dates and times are held as they are written

A date or a time has one written form, which is read back to it part by part. So what a TOML text
says in this form is what the configuration holds (`readValue_dateTime`).
-/

namespace GatewaySim.Toml

/-- A reader takes a value off the front of a text and leaves the rest of it. -/
def Takes {α : Type} (read : Reader α) (text : List Char) (value : α) (rest : List Char) : Prop :=
  ∃ shorter, read text = some (value, ⟨rest, shorter⟩)

variable {n : Nat} {rest : List Char}

/-! ## Digits and marks -/

theorem takes_digit (lt : n < 10) : Takes readDigit (Nat.digitChar n :: rest) n rest := by
  refine ⟨Nat.lt_succ_self _, ?_⟩
  have value : (Nat.digitChar n).toNat - 48 = n := by
    rw [Nat.toNat_digitChar_of_lt_ten lt]
    omega
  rw [readDigit, Nat.isDigit_digitChar, decide_eq_true lt, if_pos rfl, value]
  rfl

theorem length_twoDigits : (twoDigits n).length = 2 := rfl

theorem takes_twoDigits (lt : n < 100) : Takes readTwoDigits (twoDigits n ++ rest) n rest := by
  obtain ⟨_, tens⟩ := @takes_digit (n / 10 % 10) (Nat.digitChar (n % 10) :: rest) (by omega)
  obtain ⟨_, ones⟩ := @takes_digit (n % 10) rest (by omega)
  have value : 10 * (n / 10 % 10) + n % 10 = n := by omega
  refine ⟨by simp [length_twoDigits], ?_⟩
  simp [readTwoDigits, twoDigits, tens, ones, value, Rest.within, Rest.widen]

theorem readMark_self (mark : Char) : readMark mark (mark :: rest) = some (.tail mark rest) := by
  rw [readMark, if_pos rfl]

theorem readMark_of_ne {c mark : Char} (other : c ≠ mark) : readMark mark (c :: rest) = none :=
  if_neg other

theorem takes_twoBehind (mark : Char) (lt : n < 100) :
    Takes (readTwoBehind mark) (mark :: (twoDigits n ++ rest)) n rest := by
  obtain ⟨_, number⟩ := @takes_twoDigits n rest lt
  refine ⟨by simp +arith [length_twoDigits], ?_⟩
  simp [readTwoBehind, readMark_self, Rest.tail, number, Rest.within, Rest.widen]

/-! ## Parts -/

theorem daysIn_le (year month : Nat) : daysIn year month ≤ 31 := by
  unfold daysIn
  split_ifs <;> omega

theorem takes_date (date : Date) : Takes readDate (date.text ++ rest) date rest := by
  obtain ⟨year, month, day, year_lt, month_range, day_range⟩ := date
  have := daysIn_le year month
  obtain ⟨_, readDay⟩ := @takes_twoBehind day rest '-' (by omega)
  obtain ⟨_, readMonth⟩ := @takes_twoBehind month ('-' :: (twoDigits day ++ rest)) '-' (by omega)
  obtain ⟨_, readYear⟩ := @takes_twoDigits (year % 100)
    ('-' :: (twoDigits month ++ '-' :: (twoDigits day ++ rest))) (by omega)
  obtain ⟨_, readCentury⟩ := @takes_twoDigits (year / 100)
    (twoDigits (year % 100) ++ '-' :: (twoDigits month ++ '-' :: (twoDigits day ++ rest)))
    (by omega)
  have value : 100 * (year / 100) + year % 100 = year := Nat.div_add_mod year 100
  rw [Date.text]
  simp only [List.append_assoc, List.cons_append]
  refine ⟨by simp +arith, ?_⟩
  simp [readDate, readCentury, readYear, readMonth, readDay, value, year_lt, month_range, day_range,
    Rest.within, Rest.widen]

/-- A text begins with none of some marks, nor with a digit. -/
def EndsBefore (marks : List Char) (rest : List Char) : Prop :=
  ∀ c ∈ rest.head?, c.isDigit = false ∧ c ∉ marks

theorem EndsBefore.mono {fewer marks : List Char} (subset : fewer ⊆ marks)
    (ends : EndsBefore marks rest) : EndsBefore fewer rest :=
  fun c first => ⟨(ends c first).1, fun member => (ends c first).2 (subset member)⟩

theorem EndsBefore.split {digits : List Char} (all : ∀ c ∈ digits, c.isDigit)
    (ends : EndsBefore [] rest) :
    (digits ++ rest).takeWhile Char.isDigit = digits ∧
      (digits ++ rest).dropWhile Char.isDigit = rest := by
  rw [List.takeWhile_append_of_pos all, List.dropWhile_append_of_pos all]
  cases rest with
  | nil => simp
  | cons c rest => simp [(ends c rfl).1]

/-! ## Fractions -/

theorem fractionDigits_eq (digits : List Char) :
    fractionDigits digits =
      if (digits.take 9).rdropWhile (· = '0') = [] then ['0']
      else (digits.take 9).rdropWhile (· = '0') := by
  rw [fractionDigits]
  split
  next none => exact (if_pos none).symm
  next kept some => exact (if_neg some).symm

theorem fractionDigits_fractionDigits (digits : List Char) :
    fractionDigits (fractionDigits digits) = fractionDigits digits := by
  rw [fractionDigits_eq digits]
  split
  next => rfl
  next some =>
    have front := List.rdropWhile_prefix (· = '0') (digits.take 9)
    have short := front.length_le
    rw [List.length_take] at short
    rw [fractionDigits_eq, List.take_of_length_le (by omega), List.rdropWhile_idempotent,
      if_neg some]

theorem isDigit_of_mem_fractionDigits (fraction : Fraction) :
    ∀ c ∈ fractionDigits fraction.digits, c.isDigit := by
  have all := List.all_eq_true.mp fraction.all_isDigit
  intro c member
  rw [fractionDigits_eq] at member
  split at member
  next =>
    cases List.mem_singleton.mp member
    rfl
  next =>
    have front := List.rdropWhile_prefix (· = '0') (fraction.digits.take 9)
    exact all c (List.mem_of_mem_take (front.subset member))

theorem fractionDigits_ne_nil (digits : List Char) : fractionDigits digits ≠ [] := by
  rw [fractionDigits_eq]
  split
  next => exact List.cons_ne_nil _ _
  next some => exact some

theorem exists_takes_fraction (fraction : Fraction) (ends : EndsBefore [] rest) :
    ∃ same, Takes readFraction ('.' :: (fractionDigits fraction.digits ++ rest)) same rest ∧
      same.digits = fractionDigits fraction.digits := by
  have all := isDigit_of_mem_fractionDigits fraction
  cases written : fractionDigits fraction.digits with
  | nil => exact absurd written (fractionDigits_ne_nil _)
  | cons c more =>
    rw [written, List.forall_mem_cons] at all
    obtain ⟨taken, left⟩ := ends.split all.2
    refine ⟨⟨c :: more, List.cons_ne_nil _ _, ?_⟩, ⟨?_, ?_⟩, rfl⟩
    · exact List.all_eq_true.mpr (List.forall_mem_cons.mpr all)
    · simp +arith
    · simp [readFraction, all.1, taken, left, Rest.push]

theorem readFraction_of_endsBefore (ends : EndsBefore ['.'] rest) : readFraction rest = none := by
  unfold readFraction
  split
  next => exact absurd (List.mem_singleton_self _) (ends _ rfl).2
  next => rfl

/-! ## Seconds, times and offsets -/

theorem readMark_of_endsBefore {mark : Char} {marks : List Char} (ends : EndsBefore marks rest)
    (member : mark ∈ marks) : readMark mark rest = none := by
  cases rest with
  | nil => rfl
  | cons c rest =>
    apply readMark_of_ne
    rintro rfl
    exact (ends c rfl).2 member

theorem exists_takes_second (second : Second) (ends : EndsBefore ['.'] rest) :
    ∃ same, Takes readSecond (second.text ++ rest) same rest ∧ same.text = second.text := by
  obtain ⟨whole, fraction, whole_le⟩ := second
  cases fraction with
  | none =>
    obtain ⟨_, readWhole⟩ := @takes_twoBehind whole rest ':' (by omega)
    refine ⟨⟨whole, none, whole_le⟩, ?_, rfl⟩
    simp only [Second.text, List.append_assoc, List.cons_append, List.nil_append]
    refine ⟨by simp +arith, ?_⟩
    simp [readSecond, readWhole, whole_le, readFraction_of_endsBefore ends]
  | some fraction =>
    obtain ⟨same, ⟨_, readDigits⟩, digits⟩ :=
      exists_takes_fraction fraction (ends.mono (List.nil_subset _))
    obtain ⟨_, readWhole⟩ :=
      @takes_twoBehind whole ('.' :: (fractionDigits fraction.digits ++ rest)) ':' (by omega)
    refine ⟨⟨whole, some same, whole_le⟩, ?_, ?_⟩
    · simp only [Second.text, List.append_assoc, List.cons_append]
      refine ⟨by simp +arith, ?_⟩
      simp [readSecond, readWhole, whole_le, readDigits, Rest.within, Rest.widen]
    · simp only [Second.text, digits, fractionDigits_fractionDigits]

theorem readSecond_of_endsBefore {marks : List Char} (ends : EndsBefore marks rest)
    (member : ':' ∈ marks) : readSecond rest = none := by
  simp [readSecond, readTwoBehind, readMark_of_endsBefore ends member]

theorem exists_takes_time (time : Time) (ends : EndsBefore ['.', ':'] rest) :
    ∃ same, Takes readTime (time.text ++ rest) same rest ∧ same.text = time.text := by
  obtain ⟨hour, minute, second, hour_lt, minute_lt⟩ := time
  cases second with
  | none =>
    obtain ⟨_, readMinute⟩ := @takes_twoBehind minute rest ':' (by omega)
    obtain ⟨_, readHour⟩ := @takes_twoDigits hour (':' :: (twoDigits minute ++ rest)) (by omega)
    refine ⟨⟨hour, minute, none, hour_lt, minute_lt⟩, ?_, rfl⟩
    simp only [Time.text, List.append_assoc, List.cons_append, List.nil_append]
    refine ⟨by simp +arith, ?_⟩
    simp [readTime, readHour, readMinute, hour_lt, minute_lt, Rest.within, Rest.widen,
      readSecond_of_endsBefore ends]
  | some second =>
    obtain ⟨same, ⟨_, readRest⟩, text⟩ := exists_takes_second second (ends.mono (by simp))
    obtain ⟨_, readMinute⟩ := @takes_twoBehind minute (second.text ++ rest) ':' (by omega)
    obtain ⟨_, readHour⟩ :=
      @takes_twoDigits hour (':' :: (twoDigits minute ++ (second.text ++ rest))) (by omega)
    refine ⟨⟨hour, minute, some same, hour_lt, minute_lt⟩, ?_, ?_⟩
    · simp only [Time.text, List.append_assoc, List.cons_append]
      refine ⟨by simp +arith, ?_⟩
      simp [readTime, readHour, readMinute, hour_lt, minute_lt, readRest, Rest.within, Rest.widen]
    · simp only [Time.text, text]

theorem takes_shift {mark : Char} (behind : Bool) {hours minutes : Nat}
    (valid : hours < 24 ∧ minutes < 60) :
    Takes (readShift mark behind) (mark :: (twoDigits hours ++ ':' :: (twoDigits minutes ++ rest)))
      (.shifted behind hours minutes valid) rest := by
  obtain ⟨_, readMinutes⟩ := @takes_twoBehind minutes rest ':' (by omega)
  obtain ⟨_, readHours⟩ :=
    @takes_twoBehind hours (':' :: (twoDigits minutes ++ rest)) mark (by omega)
  refine ⟨by simp +arith, ?_⟩
  simp [readShift, readHours, readMinutes, valid, Rest.within, Rest.widen]

theorem readOffset_plus (text : List Char) :
    readOffset ('+' :: text) = readShift '+' false ('+' :: text) :=
  Option.or_none

theorem readOffset_minus (text : List Char) :
    readOffset ('-' :: text) = readShift '-' true ('-' :: text) :=
  rfl

theorem exists_takes_offset (offset : Offset) :
    ∃ same, Takes readOffset (offset.text ++ rest) same rest ∧ same.text = offset.text := by
  cases offset with
  | universal => exact ⟨.universal, ⟨Nat.lt_succ_self _, rfl⟩, rfl⟩
  | shifted behind hours minutes valid =>
    by_cases west : behind ∧ (hours, minutes) ≠ (0, 0)
    · obtain ⟨shorter, found⟩ := @takes_shift rest '-' true hours minutes valid
      refine ⟨.shifted true hours minutes valid, ?_, ?_⟩
      · simp only [Offset.text, if_pos west, List.append_assoc, List.cons_append]
        exact ⟨shorter, (readOffset_minus _).trans found⟩
      · simp only [Offset.text, west, true_and]
    · obtain ⟨shorter, found⟩ := @takes_shift rest '+' false hours minutes valid
      refine ⟨.shifted false hours minutes valid, ?_, ?_⟩
      · simp only [Offset.text, if_neg west, List.append_assoc, List.cons_append]
        exact ⟨shorter, (readOffset_plus _).trans found⟩
      · simp only [Offset.text, if_neg west, Bool.false_eq_true, false_and, if_false]

theorem readOffset_of_endsBefore (ends : EndsBefore ['Z', 'z', '+', '-'] rest) :
    readOffset rest = none := by
  simp [readOffset, readEither, readShift, readTwoBehind, readMark_of_endsBefore ends]

/-! ## Days with times -/

theorem endsBefore_append_offset (offset : Option Offset)
    (ends : EndsBefore ['.', ':'] rest) :
    EndsBefore ['.', ':'] ((offset.map Offset.text).getD [] ++ rest) := by
  cases offset with
  | none => exact ends
  | some offset =>
    rintro c first
    cases offset with
    | universal =>
      cases first
      decide
    | shifted behind hours minutes valid =>
      cases first
      split <;> decide

theorem exists_takes_timeOfDay (time : Time) (offset : Option Offset)
    (ends : EndsBefore ['.', ':', 'Z', 'z', '+', '-'] rest) :
    ∃ sameTime sameOffset,
      Takes readTimeOfDay ('T' :: (time.text ++ ((offset.map Offset.text).getD [] ++ rest)))
        (sameTime, sameOffset) rest ∧
      sameTime.text = time.text ∧ sameOffset.map Offset.text = offset.map Offset.text := by
  obtain ⟨sameTime, ⟨_, readClock⟩, sameText⟩ :=
    exists_takes_time time (endsBefore_append_offset offset (ends.mono (by simp)))
  cases offset with
  | none =>
    have without := readOffset_of_endsBefore (ends.mono (by simp))
    simp only [Option.map_none, Option.getD_none, List.nil_append] at readClock ⊢
    refine ⟨sameTime, none, ⟨by simp +arith, ?_⟩, sameText, rfl⟩
    simp [readTimeOfDay, readEither, readMark_self, Rest.tail, readClock, without, Rest.within,
      Rest.widen]
  | some offset =>
    obtain ⟨sameOffset, ⟨_, readShifted⟩, sameShift⟩ := @exists_takes_offset rest offset
    simp only [Option.map_some, Option.getD_some] at readClock ⊢
    refine ⟨sameTime, some sameOffset, ⟨by simp +arith, ?_⟩, sameText, congrArg some sameShift⟩
    simp [readTimeOfDay, readEither, readMark_self, Rest.tail, readClock, readShifted, Rest.within,
      Rest.widen]

theorem readTimeOfDay_of_endsBefore (ends : EndsBefore ['T', 't', ' '] rest) :
    readTimeOfDay rest = none := by
  simp [readTimeOfDay, readEither, readMark_of_endsBefore ends]

/-- What begins with a time does not begin with a day. -/
theorem readDate_time_text (time : Time) : readDate (time.text ++ rest) = none := by
  have apart : ∀ onward, readDate (twoDigits time.hour ++ ':' :: onward) = none := by
    intro onward
    have hour_lt := time.hour_lt
    obtain ⟨_, found⟩ := @takes_twoDigits time.hour (':' :: onward) (by omega)
    have colon : readTwoDigits (':' :: onward) = none := rfl
    simp [readDate, found, colon]
  rw [Time.text, List.append_assoc, List.append_assoc, List.cons_append]
  exact apart _

/-- What may not follow a date or a time, lest it be read as more of it. -/
def continuing : List Char := ['.', ':', 'Z', 'z', '+', '-', 'T', 't', ' ']

theorem exists_takes_dateTime (written : DateTime) (ends : EndsBefore continuing rest) :
    ∃ same, Takes readDateTime (written.text.toList ++ rest) same rest ∧
      same.text = written.text := by
  cases written with
  | day date =>
    obtain ⟨shorter, found⟩ := @takes_date rest date
    have alone := readTimeOfDay_of_endsBefore (ends.mono (by simp [continuing]))
    refine ⟨.day date, ?_, rfl⟩
    simp only [DateTime.text, String.toList_ofList]
    exact ⟨shorter, by simp only [readDateTime, found, alone]⟩
  | clock time =>
    obtain ⟨same, ⟨shorter, found⟩, text⟩ :=
      exists_takes_time time (ends.mono (by simp [continuing]))
    refine ⟨.clock same, ?_, by simp only [DateTime.text, text]⟩
    simp only [DateTime.text, String.toList_ofList]
    exact ⟨shorter, by simp only [readDateTime, readDate_time_text, found, Option.map_some]⟩
  | moment date time offset =>
    obtain ⟨sameTime, sameOffset, ⟨_, behind⟩, sameText, sameShift⟩ :=
      exists_takes_timeOfDay time offset (ends.mono (by simp [continuing]))
    obtain ⟨_, front⟩ := @takes_date
      ('T' :: (time.text ++ ((offset.map Offset.text).getD [] ++ rest))) date
    refine ⟨.moment date sameTime sameOffset, ?_, ?_⟩
    · simp only [DateTime.text, String.toList_ofList, List.append_assoc, List.cons_append]
      refine ⟨by simp +arith, ?_⟩
      simp only [readDateTime, front, behind, Rest.within, Rest.widen]
    · simp only [DateTime.text, sameText, sameShift]

/-! ## Values -/

theorem exists_digit_text (written : DateTime) :
    ∃ c more, written.text.toList = c :: more ∧ c.isDigit := by
  have front : ∀ n, (Nat.digitChar (n / 10 % 10)).isDigit := by
    intro n
    rw [Nat.isDigit_digitChar, decide_eq_true (by omega)]
  cases written with
  | day date => exact ⟨_, _, by rw [DateTime.text, String.toList_ofList]; rfl, front _⟩
  | clock time => exact ⟨_, _, by rw [DateTime.text, String.toList_ofList]; rfl, front _⟩
  | moment date _ _ => exact ⟨_, _, by rw [DateTime.text, String.toList_ofList]; rfl, front _⟩

theorem ne_of_isDigit {c mark : Char} (digit : c.isDigit) (other : mark.isDigit = false) :
    c ≠ mark := by
  rintro rfl
  exact Bool.false_ne_true (other.symm.trans digit)

theorem readQuoted_of_isDigit {c : Char} (digit : c.isDigit) : readQuoted (c :: rest) = none := by
  have basic : c ≠ '"' := ne_of_isDigit digit rfl
  have literal : c ≠ '\'' := ne_of_isDigit digit rfl
  simp [readQuoted, readLine, basic, literal]

/-- A configuration holds a date or a time as the text that it is written with. -/
theorem readValue_dateTime (origin : Option Config.Origin) (depth : Nat) (written : DateTime)
    (ends : EndsBefore continuing rest) :
    Takes (readValue origin depth) (written.text.toList ++ rest)
      (.scalar origin (.text written.text)) rest := by
  obtain ⟨same, ⟨shorter, found⟩, text⟩ := exists_takes_dateTime written ends
  refine ⟨shorter, ?_⟩
  obtain ⟨c, more, begins, digit⟩ := exists_digit_text written
  have array : readMark '[' (written.text.toList ++ rest) = none := by
    rw [begins]
    exact readMark_of_ne (ne_of_isDigit digit rfl)
  have table : readMark '\x7b' (written.text.toList ++ rest) = none := by
    rw [begins]
    exact readMark_of_ne (ne_of_isDigit digit rfl)
  have quoted : readQuoted (written.text.toList ++ rest) = none := by
    rw [begins]
    exact readQuoted_of_isDigit digit
  rw [readValue.eq_def]
  simp only [array, table, quoted, readUnquoted, found, text]

/-- A blank may stand for the `T`, and a small letter for the `Z`. -/
example : (readDateTime "1979-05-27 07:32:00.50z".toList).map (fun read => read.1.text) =
    some "1979-05-27T07:32:00.5Z" := by
  decide

end GatewaySim.Toml
